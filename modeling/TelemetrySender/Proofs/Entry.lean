import TelemetrySender.Proofs.Course

/-!
Taking in.  Whatever is sent, what that makes of a kind is an entry: the records that were queued,
how many were counted as valid, and how many as dropped.
-/

set_option autoImplicit false
set_option relaxedAutoImplicit false

namespace TelemetrySender

variable {σ : Type}

/-- Records enter a queue, while `valid` are counted as valid and `dropped` as dropped. -/
structure Entry (k : Kind) (records : List String) (valid dropped : Nat) (s s' : Sender σ) :
    Prop where
  setup : s'.setup = s.setup
  link : s'.link = s.link
  deeds : s'.deeds = s.deeds ++ records.map (.queued k)
  others : ∀ j, j ≠ k → s'.buffer j = s.buffer j
  queued : s'.queued k = s.queued k ++ records
  disabled : (s'.buffer k).disabled = (s.buffer k).disabled
  valid : (s'.buffer k).tally.valid = (s.buffer k).tally.valid + valid
  dropped : (s'.buffer k).tally.dropped = (s.buffer k).tally.dropped + dropped
  reportErrors : (s'.buffer k).tally.reportErrors = (s.buffer k).tally.reportErrors
  statuses : (s'.buffer k).tally.statuses = (s.buffer k).tally.statuses
  told : (s.buffer k).tally.Told → (s'.buffer k).tally.Told

namespace Entry

variable {k : Kind} {s : Sender σ}

theorem refuse (s : Sender σ) (k : Kind) : Entry k [] 0 0 s (s.refuse k) where
  setup := rfl
  link := rfl
  deeds := by simp [Sender.refuse]
  others := fun _ other => Sender.buffer_onBuffer_of_ne s _ other
  queued := by simp [Sender.refuse, Sender.queued]
  disabled := by rw [Sender.refuse, Sender.buffer_onBuffer_self]; rfl
  valid := by rw [Sender.refuse, Sender.buffer_onBuffer_self]; rfl
  dropped := by rw [Sender.refuse, Sender.buffer_onBuffer_self]; rfl
  reportErrors := by rw [Sender.refuse, Sender.buffer_onBuffer_self]; rfl
  statuses := by rw [Sender.refuse, Sender.buffer_onBuffer_self]; rfl
  told := by rw [Sender.refuse, Sender.buffer_onBuffer_self]; exact Tally.Told.addInvalid

theorem drop (s : Sender σ) (k : Kind) : Entry k [] 0 1 s (s.onBuffer k (·.drop 1)) where
  setup := rfl
  link := rfl
  deeds := by simp
  others := fun _ other => Sender.buffer_onBuffer_of_ne s _ other
  queued := by simp [Sender.queued]
  disabled := by rw [Sender.buffer_onBuffer_self]; rfl
  valid := by rw [Sender.buffer_onBuffer_self]; rfl
  dropped := by rw [Sender.buffer_onBuffer_self]; rfl
  reportErrors := by rw [Sender.buffer_onBuffer_self]; rfl
  statuses := by rw [Sender.buffer_onBuffer_self]; rfl
  told := by rw [Sender.buffer_onBuffer_self]; exact fun told => told.addDropped 1

theorem accept_of_lt (room : (s.buffer k).queue.size < (s.buffer k).capacity) (record : String) :
    (s.accept k record).1 = true ∧ Entry k [record] 1 0 s (s.accept k record).2 := by
  let counted := (s.buffer k).count Tally.addValid
  have offered := Buffer.offer_of_lt (b := counted) record room
  have shape : s.accept k record =
      (true, (s.setBuffer k (counted.offer record).2).record (.queued k record)) := by
    rw [Sender.accept, Sender.offer, Sender.buffer_onBuffer_self, Sender.setBuffer_onBuffer, offered]
    rfl
  rw [shape, offered]
  exact ⟨rfl, {
    setup := rfl
    link := rfl
    deeds := Sender.deeds_record rfl _
    others := fun _ other => Sender.buffer_setBuffer_of_ne s _ other
    queued := by
      rw [Sender.queued, Sender.buffer_record, Sender.buffer_setBuffer_self]
      exact (s.buffer k).queue.toList_push record
    disabled := by rw [Sender.buffer_record, Sender.buffer_setBuffer_self]; rfl
    valid := by rw [Sender.buffer_record, Sender.buffer_setBuffer_self]; rfl
    dropped := by rw [Sender.buffer_record, Sender.buffer_setBuffer_self]; rfl
    reportErrors := by rw [Sender.buffer_record, Sender.buffer_setBuffer_self]; rfl
    statuses := by rw [Sender.buffer_record, Sender.buffer_setBuffer_self]; rfl
    told := by rw [Sender.buffer_record, Sender.buffer_setBuffer_self]; exact Tally.Told.addValid }⟩

theorem accept_of_le (full : (s.buffer k).capacity ≤ (s.buffer k).queue.size) (record : String) :
    (s.accept k record).1 = false ∧ Entry k [] 1 1 s (s.accept k record).2 := by
  let counted := (s.buffer k).count Tally.addValid
  have offered := Buffer.offer_of_le (b := counted) record full
  have shape : s.accept k record = (false, (s.setBuffer k (counted.drop 1)).say (.full k)) := by
    rw [Sender.accept, Sender.offer, Sender.buffer_onBuffer_self, Sender.setBuffer_onBuffer, offered]
    rfl
  have said := Course.say k (s.setBuffer k (counted.drop 1)) (.full k)
  rw [shape]
  exact ⟨rfl, {
    setup := said.setup
    link := said.link
    deeds := by simp
    others := fun j other => by rw [Sender.buffer_say, Sender.buffer_setBuffer_of_ne s _ other]
    queued := by simp [Sender.queued, counted]
    disabled := by rw [Sender.buffer_say, Sender.buffer_setBuffer_self]; rfl
    valid := by rw [Sender.buffer_say, Sender.buffer_setBuffer_self]; rfl
    dropped := by rw [Sender.buffer_say, Sender.buffer_setBuffer_self]; rfl
    reportErrors := by rw [Sender.buffer_say, Sender.buffer_setBuffer_self]; rfl
    statuses := by rw [Sender.buffer_say, Sender.buffer_setBuffer_self]; rfl
    told := by
      rw [Sender.buffer_say, Sender.buffer_setBuffer_self]
      exact fun told => told.addValid.addDropped 1 }⟩

/-- Accepting a record counts one as valid and either queues or drops it. -/
theorem accept (s : Sender σ) (k : Kind) (record : String) :
    ∃ records dropped, records.length + dropped = 1 ∧
      Entry k records 1 dropped s (s.accept k record).2 := by
  rcases Nat.lt_or_ge (s.buffer k).queue.size (s.buffer k).capacity with room | full
  · exact ⟨[record], 0, rfl, (accept_of_lt room record).2⟩
  · exact ⟨[], 1, rfl, (accept_of_le full record).2⟩

end Entry

/-- The kind under which a call sends an entity, and what the entity is encoded as. -/
def Call.submission? (defaultSource : String) : Call → Option (Kind × Except Invalid String)
  | .metric m => some (.points, m.encode defaultSource)
  | .formatted point => some (.points, Sender.formattedRecord point)
  | .distribution d => some (.histograms, d.encode defaultSource)
  | .span x => some (.spans, x.encode defaultSource)
  | _ => none

namespace Sender

variable (s : Sender σ)

private theorem valid_accept (k : Kind) (record : String) :
    ((s.accept k record).2.buffer k).tally.valid = (s.buffer k).tally.valid + 1 := by
  obtain ⟨_, _, -, entry⟩ := Entry.accept s k record
  exact entry.valid

private theorem buffer_accept_of_ne {j k : Kind} (other : j ≠ k) (record : String) :
    (s.accept k record).2.buffer j = s.buffer j := by
  obtain ⟨_, _, -, entry⟩ := Entry.accept s k record
  exact entry.others j other

theorem submission_ok {call : Call} {k : Kind} {record : String}
    (wellFormed : call.submission? s.defaultSource = some (k, .ok record)) :
    (s.step call).1 = .ok ∧
      ((s.step call).2.buffer k).tally.valid = (s.buffer k).tally.valid + 1 := by
  have submitted {j : Kind} {encoded : Except Invalid String} (ok : encoded = .ok record) :
      (Reply.ofSend (s.submit j encoded).1 = .ok) ∧
        ((s.submit j encoded).2.buffer j).tally.valid = (s.buffer j).tally.valid + 1 := by
    subst ok
    exact ⟨rfl, s.valid_accept j record⟩
  cases call <;> simp only [Call.submission?, Option.some.injEq, Prod.mk.injEq, reduceCtorEq]
    at wellFormed
  case metric m =>
    obtain ⟨rfl, ok⟩ := wellFormed
    exact submitted ok
  case formatted point =>
    obtain ⟨rfl, ok⟩ := wellFormed
    exact submitted ok
  case distribution d =>
    obtain ⟨rfl, ok⟩ := wellFormed
    exact submitted ok
  case span x =>
    obtain ⟨rfl, ok⟩ := wellFormed
    have apart : Kind.spans ≠ .spanLogs := by decide
    simp only [step, sendSpan, ok]
    split_ifs
    · exact ⟨rfl, s.valid_accept .spans record⟩
    · refine ⟨rfl, ?_⟩
      rw [buffer_accept_of_ne _ apart]
      exact s.valid_accept .spans record
    · refine ⟨rfl, ?_⟩
      rw [buffer_onBuffer_of_ne _ _ apart]
      exact s.valid_accept .spans record

theorem logs_ok {x : Span} {record : String} (wellFormed : x.encode s.defaultSource = .ok record)
    (logs : x.logs.isEmpty = false)
    (room : (s.buffer .spans).queue.size < (s.buffer .spans).capacity) :
    (s.step (.span x)).1 = .ok ∧ ((s.step (.span x)).2.buffer .spanLogs).tally.valid =
      (s.buffer .spanLogs).tally.valid + 1 := by
  have queued := (Entry.accept_of_lt room record).1
  simp only [step, sendSpan, wellFormed, logs, queued, Bool.false_eq_true, if_false, if_true]
  refine ⟨rfl, ?_⟩
  rw [valid_accept, buffer_accept_of_ne _ (by decide)]

end Sender

end TelemetrySender
