import Mathlib.Data.List.Perm.Basic
import TelemetrySender.Proofs.Loss

/-!
The books of a run.  Every record that was ever accepted under a kind has arrived, is queued, or was
given up for a reason, and what is counted agrees with that.
-/

set_option autoImplicit false
set_option relaxedAutoImplicit false

namespace TelemetrySender

variable {σ : Type}

namespace Delivery

theorem perm_recordsOf (tried : List Delivery) :
    (tried.flatMap records).Perm
      (recordsOf succeeded tried ++ recordsOf returns tried ++ recordsOf ends tried) := by
  rw [List.perm_iff_count]
  intro record
  induction tried with
  | nil => rfl
  | cons d rest ih =>
    simp only [List.count_append] at ih ⊢
    rcases d.fate with ⟨here, back, last⟩ | ⟨here, back, last⟩ | ⟨here, back, last⟩ <;>
      simp only [recordsOf, List.filter_cons, here, back, last, if_true, Bool.false_eq_true,
        if_false, List.flatMap_cons, List.count_append] at ih ⊢ <;>
      omega

end Delivery

theorem Sender.perm_queued (s : Sender σ) (k : Kind) :
    (s.queued k).Perm (Delivery.recordsOf Delivery.succeeded (s.nextHanded k) ++
      ((s.nextBatch k).rest ++ Delivery.recordsOf Delivery.returns (s.nextHanded k)) ++
      ((s.nextBatch k).oversize ++ Delivery.recordsOf Delivery.ends (s.nextHanded k) ++
        (s.nextUnsent k).flatten)) := by
  have dealt : ((s.nextBatch k).chunks.flatten ++ (s.nextBatch k).oversize ++
      (s.nextBatch k).rest).Perm (s.queued k) := Batch.perm_cut _ _ _
  rw [s.flatten_nextBatch] at dealt
  rw [List.perm_iff_count]
  intro record
  have cut := dealt.count_eq record
  have tried := (Delivery.perm_recordsOf (s.nextHanded k)).count_eq record
  simp only [List.count_append] at cut tried ⊢
  omega

theorem Sender.accepted_visit (s : Sender σ) (k : Kind) :
    (s.visit k).2.accepted k = s.accepted k := by
  rw [accepted_append (Course.visit s k).deeds, s.acceptedOf_batchDeeds, List.append_nil]

/-- The invariant of a kind in a run, with the number of span logs that were dropped because their
span found its queue full. -/
structure Books (s : Sender σ) (k : Kind) (orphans : Nat) : Prop where
  latched : Latched s k
  explained : Explained k s.limits.messageSize [] (s.deedsOf k)
  conserved : (s.accepted k).Perm (s.arrived k ++ s.queued k ++ s.lost k)
  counted : (s.buffer k).tally.valid + orphans =
    (s.arrived k).length + (s.buffer k).tally.dropped + (s.queued k).length

namespace Books

variable {k : Kind} {orphans : Nat} {s t : Sender σ}

theorem aside (books : Books s k orphans) (aside : Aside k s t) : Books t k orphans := by
  have limits : t.limits = s.limits := congrArg Setup.limits aside.setup
  refine ⟨books.latched.turn (.aside aside), ?_, ?_, ?_⟩
  · rw [limits, aside.deedsOf]
    exact books.explained
  · rw [aside.accepted, aside.arrived, aside.queued, aside.lost]
    exact books.conserved
  · rw [aside.buffer, aside.arrived, aside.queued]
    exact books.counted

theorem entry {records : List String} {valid dropped more : Nat} (books : Books s k orphans)
    (entry : Entry k records valid dropped s t)
    (balanced : valid + more = records.length + dropped) : Books t k (orphans + more) := by
  have limits : t.limits = s.limits := congrArg Setup.limits entry.setup
  have arrived : t.arrived k = s.arrived k := by
    rw [Sender.arrived_append entry.deeds, List.flatMap_map]
    simp [Event.arrivedOf]
  have lost : t.lost k = s.lost k := by
    rw [Sender.lost_append entry.deeds, List.flatMap_map]
    simp [Event.lostOf]
  refine ⟨books.latched.turn (.entry entry balanced), ?_, ?_, ?_⟩
  · rw [limits, entry.deedsOf]
    refine books.explained.append (Explained.ofSilent fun e member cause given => ?_)
    obtain ⟨record, -, rfl⟩ := List.mem_map.mp member
    exact Event.noConfusion
  · rw [entry.accepted, arrived, entry.queued, lost, List.perm_iff_count]
    intro record
    have before := books.conserved.count_eq record
    simp only [List.count_append] at before ⊢
    omega
  · have before := books.counted
    rw [entry.valid, entry.dropped, arrived, entry.queued, List.length_append]
    omega

theorem visit (books : Books s k orphans) : Books (s.visit k).2 k orphans := by
  have course := Course.visit s k
  have dealt := s.perm_queued k
  have arrived := Sender.arrived_append course.deeds k
  have lost := Sender.lost_append course.deeds k
  have queued := s.queued_batch k course
  rw [s.arrivedOf_batchDeeds] at arrived
  rw [s.lostOf_batchDeeds] at lost
  refine ⟨books.latched.visit, ?_, ?_, ?_⟩
  · rw [course.limits, s.deedsOf_visit]
    exact books.explained.append (explained_batchDeeds s k books.latched)
  · rw [s.accepted_visit, arrived, queued, lost, List.perm_iff_count]
    intro record
    have before := books.conserved.count_eq record
    have batch := dealt.count_eq record
    simp only [List.count_append] at before batch ⊢
    omega
  · have before := books.counted
    have batch := dealt.length_eq
    rw [course.valid, course.dropped, s.lostOf_batchDeeds, arrived, queued]
    simp only [List.length_append] at batch ⊢
    omega

theorem turn {more : Nat} (books : Books s k orphans) (turn : Turn k more s t) :
    Books t k (orphans + more) := by
  cases turn with
  | aside aside => exact books.aside aside
  | entry entry balanced => exact books.entry entry balanced
  | visit => exact books.visit

theorem new (clientId defaultSource : String) (limits : Limits) (transport : Transport σ) (link : σ)
    (k : Kind) : Books (Sender.new clientId defaultSource limits transport link) k 0 := by
  refine ⟨.new .., trivial, ?_, ?_⟩ <;> cases k <;> simp [Sender.accepted, Sender.arrived,
    Sender.queued, Sender.lost, Sender.deeds, Sender.new, Sender.buffer, PerKind.const,
    PerKind.get, Buffer.new, Tally.zero, Buffer.records, Queue.empty, Queue.toList]

theorem run (books : Books s k orphans) (calls : List Call) :
    Books (s.run calls) k (orphans + if k = .spanLogs then s.orphansOf calls else 0) :=
  (s.run_turns k calls).preserves (p := fun n s => Books s k n) (fun books turn => books.turn turn)
    books

end Books

/-- What a kind can be held to after any run: whatever was accepted has arrived, is queued, or was
given up for a reason, all as often. -/
structure Accounted (s : Sender σ) (k : Kind) (orphans : Nat) : Prop where
  conserved : (s.accepted k).Perm (s.arrived k ++ s.queued k ++ s.lost k)
  explained : ∀ before cause records after,
    s.deedsOf k = before ++ .lost k cause records :: after →
      Grounds k s.limits.messageSize before records cause
  counted : (s.buffer k).tally.valid + orphans =
    (s.arrived k).length + (s.buffer k).tally.dropped + (s.buffer k).queue.size

/-- In every run, every kind is accounted for; span logs that went with a span that found its queue
full are counted as dropped but not as valid. -/
theorem run_accounted (clientId defaultSource : String) (limits : Limits) (transport : Transport σ)
    (link : σ) (calls : List Call) (k : Kind) :
    Accounted ((Sender.new clientId defaultSource limits transport link).run calls) k
      (if k = .spanLogs then
        (Sender.new clientId defaultSource limits transport link).orphansOf calls else 0) := by
  have books := (Books.new clientId defaultSource limits transport link k).run calls
  rw [Nat.zero_add] at books
  refine ⟨books.conserved, fun before cause records after shape => ?_, ?_⟩
  · simpa using books.explained.grounds shape
  · rw [Buffer.size_eq_length]
    exact books.counted

end TelemetrySender
