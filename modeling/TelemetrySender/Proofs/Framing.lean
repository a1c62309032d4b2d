import TelemetrySender.Proofs.Conservation
import TelemetrySender.Proofs.Records

/-!
Framing.  Every record in a queue or in a delivery was made by a call for its kind, so it ends with a
line feed.  Deliveries put whole records one behind the other, so no two records share a line and
none travels under the format of another kind.
-/

set_option autoImplicit false
set_option relaxedAutoImplicit false

namespace TelemetrySender

open Text

variable {σ : Type}

section Taking

/-- A call queues records that it made, and does nothing else. -/
structure Takes (source : String) (call : Call) (s t : Sender σ) : Prop where
  setup : t.setup = s.setup
  link : t.link = s.link
  deeds : ∃ events, t.deeds = s.deeds ++ events ∧
    ∀ e ∈ events, ∃ k record, e = .queued k record ∧ call.Makes source k record

namespace Takes

variable {source : String} {call : Call} {k : Kind} {s t u : Sender σ}

theorem idle (setup : t.setup = s.setup) (link : t.link = s.link) (deeds : t.deeds = s.deeds) :
    Takes source call s t :=
  ⟨setup, link, [], by rw [deeds, List.append_nil], by simp⟩

theorem trans (first : Takes source call s t) (second : Takes source call t u) :
    Takes source call s u := by
  obtain ⟨early, deeds, madeEarly⟩ := first.deeds
  obtain ⟨late, later, madeLate⟩ := second.deeds
  refine ⟨second.setup.trans first.setup, second.link.trans first.link, early ++ late, ?_, ?_⟩
  · rw [later, deeds, List.append_assoc]
  · intro e member
    rcases List.mem_append.mp member with inEarly | inLate
    · exact madeEarly e inEarly
    · exact madeLate e inLate

theorem ofEntry {records : List String} {valid dropped : Nat}
    (entry : Entry k records valid dropped s t)
    (made : ∀ record ∈ records, call.Makes source k record) : Takes source call s t := by
  refine ⟨entry.setup, entry.link, records.map (.queued k), entry.deeds, ?_⟩
  intro e member
  obtain ⟨record, inRecords, rfl⟩ := List.mem_map.mp member
  exact ⟨k, record, rfl, made record inRecords⟩

theorem accept {record : String} (made : call.Makes source k record) (s : Sender σ) :
    Takes source call s (s.accept k record).2 := by
  rcases Nat.lt_or_ge (s.buffer k).queue.size (s.buffer k).capacity with room | full
  · exact ofEntry (Entry.accept_of_lt room record).2 (by simpa using made)
  · exact ofEntry (Entry.accept_of_le full record).2 (by simp)

theorem submit {encoded : Except Invalid String}
    (made : ∀ record, encoded = .ok record → call.Makes source k record) (s : Sender σ) :
    Takes source call s (s.submit k encoded).2 := by
  cases encoded with
  | error fault => exact ofEntry (Entry.refuse s k) (by simp)
  | ok record => exact accept (made record rfl) s

theorem sendSpan (s : Sender σ) (x : Span) :
    Takes s.defaultSource (.span x) s (s.sendSpan x).2 := by
  unfold Sender.sendSpan
  cases encoded : x.encode s.defaultSource with
  | error fault => exact ofEntry (Entry.refuse s .spans) (by simp)
  | ok record =>
    have span : Takes s.defaultSource (.span x) s (s.accept .spans record).2 :=
      accept (.span encoded) s
    simp only
    split_ifs with none queued
    · exact span
    · exact span.trans (accept (.logs encoded (by simpa using none)) _)
    · exact span.trans (ofEntry (Entry.drop _ .spanLogs) (by simp))

theorem reports (takes : Takes source call s t) : t.reports = s.reports := by
  obtain ⟨events, deeds, queued⟩ := takes.deeds
  have none : events.filterMap Event.delivery? = [] := by
    rw [List.filterMap_eq_nil_iff]
    intro e member
    obtain ⟨j, record, rfl, -⟩ := queued e member
    rfl
  rw [Sender.reports_append deeds, none, List.append_nil]

theorem reportsOf (takes : Takes source call s t) (k : Kind) : t.reportsOf k = s.reportsOf k := by
  rw [Sender.reportsOf, takes.reports, Sender.reportsOf]

theorem accepted (takes : Takes source call s t) (k : Kind) :
    ∃ made, t.accepted k = s.accepted k ++ made ∧ ∀ record ∈ made, call.Makes source k record := by
  obtain ⟨events, deeds, queued⟩ := takes.deeds
  refine ⟨_, Sender.accepted_append deeds k, fun record member => ?_⟩
  obtain ⟨e, inEvents, inside⟩ := List.mem_flatMap.mp member
  obtain ⟨j, made, rfl, makes⟩ := queued e inEvents
  rw [Event.acceptedOf] at inside
  split_ifs at inside with same
  · rw [List.mem_singleton.mp inside, ← same]
    exact makes
  · cases inside

end Takes

def Call.mayDeliver : Call → Bool
  | .flush => true
  | .scheduledFlush => true
  | .close => true
  | _ => false

theorem Sender.step_takes (s : Sender σ) {call : Call} (idle : call.mayDeliver = false) :
    Takes s.defaultSource call s (s.step call).2 := by
  cases call with
  | metric m => exact .submit (fun _ => .metric) s
  | formatted point => exact .submit (fun _ => .formatted) s
  | distribution d => exact .submit (fun _ => .distribution) s
  | span x => exact .sendSpan s x
  | flush => cases idle
  | scheduledFlush => cases idle
  | close => cases idle
  | clock now => exact .idle rfl rfl rfl

theorem Sender.step_cases (s : Sender σ) (call : Call) :
    Takes s.defaultSource call s (s.step call).2 ∨ (s.step call).2 = s.flush.2 ∨
      (s.step call).2 = s.close := by
  cases call with
  | flush => exact .inr (.inl rfl)
  | scheduledFlush =>
    simp only [step, scheduledFlush]
    split_ifs
    · exact .inl (.idle rfl rfl rfl)
    · exact .inr (.inl rfl)
  | close => exact .inr (.inr rfl)
  | metric | formatted | distribution | span | clock => exact .inl (s.step_takes rfl)

end Taking

/-- What a call is to a kind: it queues records that it made, or delivers no more than one batch. -/
structure Handles (call : Call) (k : Kind) (s t : Sender σ) : Prop where
  accepted : ∃ made, t.accepted k = s.accepted k ++ made ∧
    ∀ record ∈ made, call.Makes s.defaultSource k record
  delivered : ∃ tried, t.reportsOf k = s.reportsOf k ++ tried ∧
    (tried.flatMap Delivery.records).length ≤ s.limits.batchSize

namespace Handles

variable {call : Call} {k : Kind} {s t u : Sender σ}

theorem ofTakes (takes : Takes s.defaultSource call s t) : Handles call k s t :=
  ⟨takes.accepted k, [], by rw [takes.reportsOf, List.append_nil], Nat.zero_le _⟩

theorem ofVisit (before : Aside k s t) (after : Aside k (t.visit k).2 u) : Handles call k s u := by
  have batch : ((t.nextHanded k).flatMap Delivery.records).length ≤ s.limits.batchSize := by
    have limits : t.limits = s.limits := congrArg Setup.limits before.setup
    have size : (t.nextBatch k).chunks.flatten.length ≤ t.limits.batchSize :=
      Batch.length_chunks_le _ _ _
    rw [t.flatten_nextBatch, List.length_append, limits] at size
    omega
  refine ⟨⟨[], ?_, by simp⟩, t.nextHanded k, ?_, batch⟩
  · rw [after.accepted, t.accepted_visit, before.accepted, List.append_nil]
  · rw [after.reportsOf, t.reportsOf_visit, before.reportsOf]

end Handles

theorem Sender.step_handles (s : Sender σ) (call : Call) (k : Kind) :
    Handles call k s (s.step call).2 := by
  rcases s.step_cases call with takes | cycle | last
  · exact .ofTakes takes
  · obtain ⟨t, before, after⟩ := s.flush_visits k
    rw [cycle]
    exact .ofVisit before after
  · obtain ⟨t, before, after⟩ := s.close_visits k
    rw [last]
    exact .ofVisit before after

theorem Sender.makes_of_mem_accepted_run {s : Sender σ} {calls : List Call} {k : Kind}
    {record : String} (member : record ∈ (s.run calls).accepted k) :
    record ∈ s.accepted k ∨ ∃ call ∈ calls, call.Makes s.defaultSource k record := by
  induction calls generalizing s with
  | nil => exact .inl member
  | cons call rest ih =>
    have source : (s.step call).2.defaultSource = s.defaultSource :=
      congrArg Setup.defaultSource (s.setup_run [call])
    rcases ih member with early | ⟨later, inRest, made⟩
    · obtain ⟨made, accepted, all⟩ := (s.step_handles call k).accepted
      rw [accepted, List.mem_append] at early
      rcases early with old | new
      · exact .inl old
      · exact .inr ⟨call, List.mem_cons_self, all record new⟩
    · rw [source] at made
      exact .inr ⟨later, List.mem_cons_of_mem call inRest, made⟩

section Link

/-- The transport was called for what the deeds tell, and for nothing else. -/
def Traced (origin : σ) (s : Sender σ) : Prop := s.link = s.deeds.foldl s.transport.follow origin

namespace Traced

variable {origin : σ} {s t : Sender σ}

theorem more {events : List Event} (traced : Traced origin s) (setup : t.setup = s.setup)
    (deeds : t.deeds = s.deeds ++ events) (link : t.link = events.foldl s.transport.follow s.link) :
    Traced origin t := by
  have transport : t.transport = s.transport := congrArg Setup.transport setup
  rw [Traced] at traced
  rw [Traced, link, deeds, transport, List.foldl_append, traced]

theorem takes {source : String} {call : Call} (traced : Traced origin s)
    (takes : Takes source call s t) : Traced origin t := by
  obtain ⟨events, deeds, queued⟩ := takes.deeds
  have still : events.foldl s.transport.follow s.link = s.link := by
    refine List.foldlRecOn events _ (motive := (· = s.link)) rfl fun link same e member => ?_
    obtain ⟨k, record, rfl, -⟩ := queued e member
    exact same
  exact traced.more takes.setup deeds (by rw [still, takes.link])

theorem visit (traced : Traced origin s) (k : Kind) : Traced origin (s.visit k).2 := by
  have course := Course.visit s k
  exact traced.more course.setup course.deeds course.link

theorem flush (traced : Traced origin s) : Traced origin s.flush.2 :=
  s.flush_keeps (fun _ k traced => traced.visit k) traced

theorem close (traced : Traced origin s) : Traced origin s.close := by
  have closing : Traced origin { s with closing := true } := traced
  have last : Traced origin s.lastFlush := closing.flush
  have closed := s.lastFlush_closes .points
  obtain ⟨outcome, deeds⟩ := closed.deeds
  exact last.more closed.aside.setup deeds closed.link

theorem step (traced : Traced origin s) (call : Call) : Traced origin (s.step call).2 := by
  rcases s.step_cases call with takes | cycle | last
  · exact traced.takes takes
  · rw [cycle]
    exact traced.flush
  · rw [last]
    exact traced.close

theorem run (traced : Traced origin s) (calls : List Call) : Traced origin (s.run calls) := by
  induction calls generalizing s with
  | nil => exact traced
  | cons call rest ih => exact ih (traced.step call)

end Traced

end Link

section Deliveries

variable {k : Kind} {n : Nat} {s t : Sender σ}

/-- Deliveries of a kind are made up of records that were accepted, and have no more bytes than they
may. -/
structure Carried (s : Sender σ) (k : Kind) (orphans : Nat) : Prop where
  books : Books s k orphans
  deliverable : ∀ d ∈ s.reportsOf k, Batch.Deliverable s.limits.messageSize d.records
  accepted : ∀ d ∈ s.reportsOf k, d.records ⊆ s.accepted k

namespace Carried

theorem queued_subset (carried : Carried s k n) : s.queued k ⊆ s.accepted k := by
  intro record member
  refine carried.books.conserved.symm.subset ?_
  simp [member]

private theorem tried (carried : Carried s k n) {d : Delivery} (member : d ∈ s.nextHanded k) :
    Batch.Deliverable s.limits.messageSize d.records ∧ d.records ⊆ s.accepted k := by
  have chunk : d.records ∈ (s.nextBatch k).chunks := by
    refine List.take_subset (s.nextHanded k).length _ ?_
    rw [← s.records_nextHanded]
    exact List.mem_map_of_mem member
  refine ⟨Batch.deliverable_of_mem_chunks chunk, fun record inside => carried.queued_subset ?_⟩
  refine (Batch.perm_cut s.limits.batchSize s.limits.messageSize (s.queued k)).subset ?_
  exact List.mem_append_left _ (List.mem_append_left _ (List.mem_flatten_of_mem chunk inside))

theorem turn {m : Nat} (carried : Carried s k n) (turn : Turn k m s t) : Carried t k (n + m) := by
  have books := carried.books.turn turn
  cases turn with
  | aside aside =>
    have limits : t.limits = s.limits := congrArg Setup.limits aside.setup
    refine ⟨books, ?_, ?_⟩
    · rw [aside.reportsOf, limits]
      exact carried.deliverable
    · rw [aside.reportsOf, aside.accepted]
      exact carried.accepted
  | entry entry balanced =>
    have limits : t.limits = s.limits := congrArg Setup.limits entry.setup
    refine ⟨books, ?_, fun d member => ?_⟩
    · rw [entry.reportsOf, limits]
      exact carried.deliverable
    · rw [entry.reportsOf] at member
      rw [entry.accepted]
      exact List.subset_append_of_subset_left _ (carried.accepted d member)
  | visit =>
    have limits := (Course.visit s k).limits
    refine ⟨books, fun d member => ?_, fun d member => ?_⟩ <;>
      rw [s.reportsOf_visit, List.mem_append] at member
    · rw [limits]
      exact member.elim (carried.deliverable d) fun new => (carried.tried new).1
    · rw [s.accepted_visit]
      exact member.elim (carried.accepted d) fun new => (carried.tried new).2

theorem new (clientId defaultSource : String) (limits : Limits) (transport : Transport σ) (link : σ)
    (k : Kind) : Carried (Sender.new clientId defaultSource limits transport link) k 0 :=
  ⟨.new .., by simp [Sender.reportsOf, Sender.reports, Sender.deeds, Sender.new],
    by simp [Sender.reportsOf, Sender.reports, Sender.deeds, Sender.new]⟩

theorem run (carried : Carried s k n) (calls : List Call) :
    ∃ m, Carried (s.run calls) k m :=
  ⟨_, (s.run_turns k calls).preserves (p := fun n s => Carried s k n)
    (fun carried turn => carried.turn turn) carried⟩

end Carried

end Deliveries

theorem lines_join {records : List String}
    (ended : ∀ record ∈ records, record.toList.getLast? = some '\n') :
    lines (String.join records).toList = records.flatMap fun record => lines record.toList := by
  induction records with
  | nil => rfl
  | cons record rest ih =>
    rw [List.forall_mem_cons] at ended
    rw [String.join_cons, String.toList_append, lines_append_of_ended ended.1, ih ended.2,
      List.flatMap_cons]

theorem getLast?_join {records : List String} (filled : records ≠ [])
    (ended : ∀ record ∈ records, record.toList.getLast? = some '\n') :
    (String.join records).toList.getLast? = some '\n' := by
  obtain ⟨front, last, rfl⟩ := (List.eq_nil_or_concat' records).resolve_left filled
  have final := ended last (List.mem_append_right front List.mem_cons_self)
  rw [String.join_append, String.toList_append, List.getLast?_append]
  simp [String.join_cons, final]

def MadeBy (source : String) (calls : List Call) (k : Kind) (record : String) : Prop :=
  ∃ call ∈ calls, call.Makes source k record ∧ Framed call.lineCount? record

/-- A delivery has whole records of a kind, one behind the other, and its payload has their lines. -/
structure WholeRecords (source : String) (calls : List Call) (limit : Nat) (k : Kind)
    (d : Delivery) : Prop where
  filled : d.records ≠ []
  made : ∀ record ∈ d.records, MadeBy source calls k record
  joined : d.payload = String.join d.records
  lines : lines d.payload.toList = d.records.flatMap fun record => lines record.toList
  nonempty : d.payload ≠ ""
  ended : d.payload.toList.getLast? = some '\n'
  bytes_le : d.payload.utf8ByteSize ≤ limit

theorem WholeRecords.of {source : String} {calls : List Call} {limit : Nat} {k : Kind}
    {d : Delivery} (deliverable : Batch.Deliverable limit d.records)
    (made : ∀ record ∈ d.records, MadeBy source calls k record) :
    WholeRecords source calls limit k d := by
  have ended : ∀ record ∈ d.records, record.toList.getLast? = some '\n' := by
    intro record member
    obtain ⟨call, -, -, framed⟩ := made record member
    exact framed.ended
  have final : d.payload.toList.getLast? = some '\n' := getLast?_join deliverable.nonempty ended
  exact ⟨deliverable.nonempty, made, rfl, lines_join ended, Framed.nonempty_of_ended final, final,
    deliverable.bytes_le⟩

/-- What the queue and the deliveries of a kind are made up of in a state that calls led to. -/
structure WellFramed (origin : σ) (calls : List Call) (s : Sender σ) (k : Kind) : Prop where
  queued : ∀ record ∈ s.queued k, MadeBy s.defaultSource calls k record
  delivered : ∀ d ∈ s.reports, d.kind.format = k.format →
    WholeRecords s.defaultSource calls s.limits.messageSize k d
  traced : Traced origin s
  cycle : ∀ call, ∃ tried, (s.step call).2.reportsOf k = s.reportsOf k ++ tried ∧
    (tried.flatMap Delivery.records).length ≤ s.limits.batchSize

/-- In every run, all kinds are framed well. -/
theorem run_wellFramed (clientId defaultSource : String) (limits : Limits) (transport : Transport σ)
    (link : σ) (calls : List Call) (k : Kind) :
    WellFramed link calls ((Sender.new clientId defaultSource limits transport link).run calls) k := by
  let start := Sender.new clientId defaultSource limits transport link
  obtain ⟨orphans, carried⟩ := (Carried.new clientId defaultSource limits transport link k).run calls
  have source : (start.run calls).defaultSource = defaultSource :=
    congrArg Setup.defaultSource (start.setup_run calls)
  have made : ∀ record ∈ (start.run calls).accepted k,
      MadeBy (start.run calls).defaultSource calls k record := by
    intro record member
    rw [source]
    rcases Sender.makes_of_mem_accepted_run member with old | ⟨call, inCalls, makes⟩
    · cases old
    · exact ⟨call, inCalls, makes, makes.framed⟩
  refine ⟨?_, ?_, ?_, ?_⟩
  · intro record member
    exact made record (carried.queued_subset member)
  · intro d member same
    have own : d ∈ (start.run calls).reportsOf k :=
      List.mem_filter.mpr ⟨member, by simpa using Kind.format_injective same⟩
    refine .of (carried.deliverable d own) fun record inside => ?_
    exact made record (carried.accepted d own inside)
  · exact Traced.run (s := start) rfl calls
  · intro call
    exact ((start.run calls).step_handles call k).delivered

end TelemetrySender
