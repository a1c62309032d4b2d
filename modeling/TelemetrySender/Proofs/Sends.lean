import TelemetrySender.Proofs.Entry
import TelemetrySender.Transport.Scripted

/-!
Sending, all or nothing.  A send whose entity has a fault leaves one more invalid entity counted and
nothing else.  Any other is answered with success and counted as valid, and its record joins the queue;
only a full queue has it dropped instead.  Neither a full queue nor a kind that is off is ever an error.
-/

set_option autoImplicit false
set_option relaxedAutoImplicit false

namespace TelemetrySender

variable {σ : Type}

def Tally.plus (t : Tally) (valid invalid dropped : Nat) : Tally :=
  { t with
    valid := t.valid + valid
    invalid := t.invalid + invalid
    dropped := t.dropped + dropped
    recorded := { t.recorded with
      valid := t.recorded.valid + valid
      invalid := t.recorded.invalid + invalid
      dropped := t.recorded.dropped + dropped } }

namespace Buffer

def Full (b : Buffer) : Prop := b.records.length = b.capacity

instance (b : Buffer) : Decidable b.Full :=
  inferInstanceAs (Decidable (b.records.length = b.capacity))

def counting (b : Buffer) (valid invalid dropped : Nat) : Buffer :=
  { b with tally := b.tally.plus valid invalid dropped }

/-- A record is counted as valid and becomes the last of its queue, unless the queue is full: then, and
only then, it is counted as dropped too. -/
structure Admits (b : Buffer) (record : String) (b' : Buffer) : Prop where
  capacity : b'.capacity = b.capacity
  disabled : b'.disabled = b.disabled
  records : b'.records = if b.Full then b.records else b.records ++ [record]
  tally : b'.tally = b.tally.plus 1 0 (if b.Full then 1 else 0)

theorem lt_capacity_iff (b : Buffer) : b.queue.size < b.capacity ↔ ¬ b.Full := by
  have bounded := b.bounded
  rw [Full, ← b.size_eq_length]
  omega

theorem admits_offer (b : Buffer) (record : String) :
    Admits b record ((b.count Tally.addValid).offer record).2 := by
  by_cases full : b.Full
  · have none : b.capacity ≤ b.queue.size :=
      Nat.not_lt.mp fun room => (b.lt_capacity_iff.mp room) full
    rw [offer_of_le (b := b.count Tally.addValid) record none]
    exact ⟨rfl, rfl, (if_pos full).symm, by rw [if_pos full]; rfl⟩
  · have room := b.lt_capacity_iff.mpr full
    rw [offer_of_lt (b := b.count Tally.addValid) record room]
    refine ⟨rfl, rfl, ?_, by rw [if_neg full]; rfl⟩
    rw [if_neg full]
    exact b.queue.toList_push record

end Buffer

/-- Nothing changes but the buffers of some kinds, the journal, and what the log window remembers. -/
structure Confined (kinds : List Kind) (s s' : Sender σ) : Prop where
  setup : s'.setup = s.setup
  link : s'.link = s.link
  now : s'.now = s.now
  closing : s'.closing = s.closing
  others : ∀ j, j ∉ kinds → s'.buffer j = s.buffer j

namespace Confined

variable {kinds more : List Kind} {s t u : Sender σ}

theorem trans (first : Confined kinds s t) (second : Confined more t u) :
    Confined (kinds ++ more) s u where
  setup := second.setup.trans first.setup
  link := second.link.trans first.link
  now := second.now.trans first.now
  closing := second.closing.trans first.closing
  others j absent := by
    rw [List.mem_append, not_or] at absent
    exact (second.others j absent.2).trans (first.others j absent.1)

theorem widen (confined : Confined kinds s t) (more : List Kind) : Confined (kinds ++ more) s t where
  setup := confined.setup
  link := confined.link
  now := confined.now
  closing := confined.closing
  others _ absent := confined.others _ fun member => absent (List.mem_append_left more member)

theorem refl (kinds : List Kind) (s : Sender σ) : Confined kinds s s :=
  ⟨rfl, rfl, rfl, rfl, fun _ _ => rfl⟩

theorem setBuffer (s : Sender σ) (k : Kind) (b : Buffer) : Confined [k] s (s.setBuffer k b) where
  setup := rfl
  link := rfl
  now := rfl
  closing := rfl
  others _ absent := s.buffer_setBuffer_of_ne b fun same => absent (List.mem_singleton.mpr same)

theorem say (s : Sender σ) (n : Notice) : Confined [] s (s.say n) := by
  obtain ⟨window, quiet | logged⟩ := s.say_cases n
  · rw [quiet]
    exact ⟨rfl, rfl, rfl, rfl, fun _ _ => rfl⟩
  · rw [logged]
    exact ⟨rfl, rfl, rfl, rfl, fun _ _ => rfl⟩

theorem record (s : Sender σ) (e : Event) : Confined [] s (s.record e) :=
  ⟨rfl, rfl, rfl, rfl, fun _ _ => rfl⟩

end Confined

namespace Sender

variable (s : Sender σ) (k : Kind)

theorem accept_fst (record : String) :
    (s.accept k record).1 = true ↔ ¬ (s.buffer k).Full := by
  rw [← Buffer.lt_capacity_iff]
  constructor
  · intro queued
    by_contra full
    rw [(Entry.accept_of_le (Nat.not_lt.mp full) record).1] at queued
    cases queued
  · intro room
    exact (Entry.accept_of_lt room record).1

theorem accept_cases (record : String) :
    (s.accept k record).2.buffer k = (((s.buffer k).count Tally.addValid).offer record).2 ∧
      Confined [k] s (s.accept k record).2 := by
  let counted := (s.buffer k).count Tally.addValid
  let taken := s.setBuffer k (counted.offer record).2
  have confined : Confined [k] s taken := .setBuffer s k _
  have shape : (s.accept k record).2 =
      if (counted.offer record).1 then taken.record (.queued k record) else taken.say (.full k) := by
    rw [accept, offer, buffer_onBuffer_self, setBuffer_onBuffer]
    split_ifs with queued
    · rfl
    · rfl
  rw [shape]
  split_ifs
  · exact ⟨s.buffer_setBuffer_self k _, confined.trans (.record taken _)⟩
  · exact ⟨(taken.buffer_say _ k).trans (s.buffer_setBuffer_self k _), confined.trans (.say taken _)⟩

theorem admits_accept (record : String) :
    (s.buffer k).Admits record ((s.accept k record).2.buffer k) := by
  rw [(s.accept_cases k record).1]
  exact (s.buffer k).admits_offer record

end Sender

def Call.logs : Call → List SpanLog
  | .span x => x.logs
  | _ => []

/-- What a span with logs makes of the buffer of span logs: one more record to admit if the span was
queued, and otherwise one that is dropped. -/
structure Logged (s : Sender σ) (x : Span) (record : String) (b' : Buffer) : Prop where
  queued : ¬ (s.buffer .spans).Full →
    (s.buffer .spanLogs).Admits
      (SpanLogRecord.encode ⟨x.traceId, x.spanId, x.logs, some record⟩) b'
  dropped : (s.buffer .spans).Full → b' = (s.buffer .spanLogs).counting 0 0 1

/-- What a send of a kind makes of a sender, as the entity was encoded or found at fault. -/
structure Atomic (s : Sender σ) (call : Call) (k : Kind) (encoded : Except Invalid String) :
    Prop where
  refused : ∀ fault, encoded = .error fault →
    s.step call = (.invalid fault, s.setBuffer k ((s.buffer k).counting 0 1 0))
  accepted : ∀ record, encoded = .ok record →
    (s.step call).1 = .ok ∧ (s.buffer k).Admits record ((s.step call).2.buffer k)
  confined : Confined [k, .spanLogs] s (s.step call).2
  silent : call.logs = [] → (s.step call).2.buffer .spanLogs = s.buffer .spanLogs
  logged : ∀ x record, call = .span x → x.logs ≠ [] → encoded = .ok record →
    Logged s x record ((s.step call).2.buffer .spanLogs)

section Atomic

variable (s : Sender σ)

private theorem submit_atomic {call : Call} {k : Kind} {encoded : Except Invalid String}
    (other : k ≠ .spanLogs) (plain : ∀ x, call ≠ .span x)
    (step : s.step call = (.ofSend (s.submit k encoded).1, (s.submit k encoded).2)) :
    Atomic s call k encoded := by
  have confined : Confined [k] s (s.step call).2 := by
    rw [step]
    cases encoded with
    | error fault => exact .setBuffer s k _
    | ok record => exact (s.accept_cases k record).2
  constructor
  · rintro fault rfl
    exact step
  · rintro record rfl
    rw [step]
    exact ⟨rfl, s.admits_accept k record⟩
  · exact confined.widen [.spanLogs]
  · intro _
    exact confined.others .spanLogs fun member => other (List.mem_singleton.mp member).symm
  · intro x record same
    exact absurd same (plain x)

private theorem step_span {x : Span} {record : String}
    (encoded : x.encode s.defaultSource = .ok record) :
    s.step (.span x) = (.ok,
      if x.logs = [] then (s.accept .spans record).2
      else if (s.buffer .spans).Full then
        (s.accept .spans record).2.onBuffer .spanLogs (·.counting 0 0 1)
      else ((s.accept .spans record).2.accept .spanLogs
        (SpanLogRecord.encode ⟨x.traceId, x.spanId, x.logs, some record⟩)).2) := by
  have queued := s.accept_fst .spans record
  simp only [Sender.step, Sender.sendSpan, encoded, List.isEmpty_iff]
  split_ifs with none first full
  · rfl
  · exact absurd full (queued.mp first)
  · rfl
  · rfl
  · exact absurd (queued.mpr ‹_›) first

theorem atomic_of_refused {x : Span} {fault : Invalid}
    (encoded : x.encode s.defaultSource = .error fault) :
    Atomic s (.span x) .spans (.error fault) := by
  have step : s.step (.span x) = (.invalid fault, s.refuse .spans) := by
    simp only [Sender.step, Sender.sendSpan, encoded, Reply.ofSend]
  have confined : Confined [.spans] s (s.step (.span x)).2 := by
    rw [step]
    exact .setBuffer s .spans _
  refine ⟨?_, by simp, confined.widen [.spanLogs], ?_, by simp⟩
  · rintro _ ⟨⟩
    exact step
  · exact fun _ => confined.others .spanLogs (by decide)

private theorem atomic_behind {x : Span} {record : String} {u : Sender σ}
    (reached : s.step (.span x) = (.ok, u))
    (second : Confined [.spanLogs] (s.accept .spans record).2 u)
    (silent : x.logs = [] → u.buffer .spanLogs = s.buffer .spanLogs)
    (logged : x.logs ≠ [] → Logged s x record (u.buffer .spanLogs)) :
    Atomic s (.span x) .spans (.ok record) := by
  have first := (s.accept_cases .spans record).2
  have spans : u.buffer .spans = (s.accept .spans record).2.buffer .spans :=
    second.others .spans (by decide)
  constructor
  · rintro fault ⟨⟩
  · rintro _ ⟨⟩
    rw [reached, spans]
    exact ⟨rfl, s.admits_accept .spans record⟩
  · rw [reached]
    exact first.trans second
  · rw [reached]
    exact silent
  · rintro _ _ ⟨⟩ some ⟨⟩
    rw [reached]
    exact logged some

theorem atomic_of_accepted {x : Span} {record : String}
    (encoded : x.encode s.defaultSource = .ok record) :
    Atomic s (.span x) .spans (.ok record) := by
  let t := (s.accept .spans record).2
  have step := step_span s encoded
  have logs : t.buffer .spanLogs = s.buffer .spanLogs :=
    (s.accept_cases .spans record).2.others .spanLogs (by decide)
  by_cases none : x.logs = []
  · rw [if_pos none] at step
    exact atomic_behind s step (.refl _ t) (fun _ => logs) fun some => absurd none some
  rw [if_neg none] at step
  by_cases full : (s.buffer .spans).Full
  · rw [if_pos full] at step
    have dropped : (t.onBuffer .spanLogs (·.counting 0 0 1)).buffer .spanLogs =
        (s.buffer .spanLogs).counting 0 0 1 := by
      rw [Sender.buffer_onBuffer_self, logs]
    refine atomic_behind s step (.setBuffer t .spanLogs _) (fun empty => absurd empty none) ?_
    exact fun _ => ⟨fun room => absurd full room, fun _ => dropped⟩
  · rw [if_neg full] at step
    have admitted := t.admits_accept .spanLogs
      (SpanLogRecord.encode ⟨x.traceId, x.spanId, x.logs, some record⟩)
    rw [logs] at admitted
    refine atomic_behind s step (t.accept_cases .spanLogs _).2 (fun empty => absurd empty none) ?_
    exact fun _ => ⟨fun _ => admitted, fun filled => absurd filled full⟩

end Atomic

/-- Every send is all or nothing, in every state. -/
theorem send_atomic (s : Sender σ) {call : Call} {k : Kind} {encoded : Except Invalid String}
    (sent : call.submission? s.defaultSource = some (k, encoded)) : Atomic s call k encoded := by
  cases call <;> simp only [Call.submission?, Option.some.injEq, Prod.mk.injEq, reduceCtorEq] at sent
  case metric m =>
    obtain ⟨rfl, rfl⟩ := sent
    exact submit_atomic s (by decide) (by simp) rfl
  case formatted point =>
    obtain ⟨rfl, rfl⟩ := sent
    exact submit_atomic s (by decide) (by simp) rfl
  case distribution d =>
    obtain ⟨rfl, rfl⟩ := sent
    exact submit_atomic s (by decide) (by simp) rfl
  case span x =>
    obtain ⟨rfl, rfl⟩ := sent
    cases encoded : x.encode s.defaultSource with
    | error fault => exact atomic_of_refused s encoded
    | ok record => exact atomic_of_accepted s encoded

def Span.logging : Span := ⟨"call", 0, 1, none, ⟨1⟩, ⟨2⟩, [], [], [], [⟨0, .empty⟩]⟩

def Sender.crammed : Sender Transport.Script :=
  (Sender.new "client" "host" ⟨1, 1, 99⟩ (.scripted "scripted") (.new [])).run
    [.span { Span.logging with logs := [] }]

/-- A well-formed span that finds its queue full, though there is room for its logs. -/
theorem crammed_atomic : ∃ record,
    (Call.span Span.logging).submission? Sender.crammed.defaultSource = some (.spans, .ok record) ∧
      (Sender.crammed.buffer .spans).Full ∧ ¬ (Sender.crammed.buffer .spanLogs).Full ∧
      Atomic Sender.crammed (.span Span.logging) .spans (.ok record) := by
  have sent : (Call.span Span.logging).submission? Sender.crammed.defaultSource =
      some (.spans, .ok _) := rfl
  exact ⟨_, sent, by decide +kernel, by decide +kernel, send_atomic Sender.crammed sent⟩

end TelemetrySender
