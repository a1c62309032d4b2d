import TelemetrySender.Proofs.Closing
import TelemetrySender.Proofs.Latch

/-!
Draining.  Over a transport that accepts everything no record goes back, so every cycle takes a whole
batch off each queue for good, whatever records are too long.  What is taken is delivered once and in
order but for what may not be.
-/

set_option autoImplicit false
set_option relaxedAutoImplicit false

namespace TelemetrySender

variable {σ : Type}

/-- A record may be delivered: its kind is on, and it is not too long. -/
def Sender.keeps (s : Sender σ) (k : Kind) (record : String) : Bool :=
  !(s.buffer k).disabled && Batch.fits s.limits.messageSize record

/-- Some cycles take records off the queue of a kind, a whole batch each as long as there is one. 
What may be delivered is, once and in order; all else is given up and counted, once. -/
structure Drains (k : Kind) (cycles : Nat) (s t : Sender σ) (taken : List String)
    (later : List Delivery) : Prop where
  setup : t.setup = s.setup
  disabled : (t.buffer k).disabled = (s.buffer k).disabled
  queued : s.queued k = taken ++ t.queued k
  enough : min (cycles * s.limits.batchSize) (s.queued k).length ≤ taken.length
  reports : t.reportsOf k = s.reportsOf k ++ later
  succeeded : ∀ d ∈ later, d.succeeded = true
  delivered : later.flatMap Delivery.records = taken.filter (s.keeps k)
  lost : ∃ given, t.lost k = s.lost k ++ given ∧
    given.Perm (taken.filter fun record => !s.keeps k record)
  dropped : (t.buffer k).tally.dropped =
    (s.buffer k).tally.dropped + (taken.filter fun record => !s.keeps k record).length

namespace Drains

variable {k : Kind} {m n : Nat} {s t u : Sender σ} {taken more : List String}
  {early late : List Delivery}

theorem refl (k : Kind) (s : Sender σ) : Drains k 0 s s [] [] where
  setup := rfl
  disabled := rfl
  queued := rfl
  enough := by simp
  reports := (List.append_nil _).symm
  succeeded := by simp
  delivered := rfl
  lost := ⟨[], (List.append_nil _).symm, .nil⟩
  dropped := rfl

theorem trans (first : Drains k m s t taken early) (second : Drains k n t u more late) :
    Drains k (m + n) s u (taken ++ more) (early ++ late) := by
  have limits : t.limits = s.limits := congrArg Setup.limits first.setup
  -- No kind goes off on the way, so both parts have the same records to deliver.
  have keeps : t.keeps k = s.keeps k := by
    funext record
    rw [Sender.keeps, Sender.keeps, first.disabled, limits]
  obtain ⟨givenFirst, lostFirst, permFirst⟩ := first.lost
  obtain ⟨givenSecond, lostSecond, permSecond⟩ := second.lost
  have delivered := second.delivered
  have dropped := second.dropped
  rw [keeps] at delivered dropped permSecond
  constructor
  · exact second.setup.trans first.setup
  · exact second.disabled.trans first.disabled
  · rw [first.queued, second.queued, List.append_assoc]
  · have enough := first.enough
    have further := second.enough
    have whole := congrArg List.length first.queued
    rw [limits] at further
    rw [List.length_append] at whole ⊢
    rw [Nat.add_mul]
    omega
  · rw [second.reports, first.reports, List.append_assoc]
  · intro d member
    rcases List.mem_append.mp member with inEarly | inLate
    · exact first.succeeded d inEarly
    · exact second.succeeded d inLate
  · rw [List.flatMap_append, first.delivered, delivered, List.filter_append]
  · refine ⟨givenFirst ++ givenSecond, by rw [lostSecond, lostFirst, List.append_assoc], ?_⟩
    rw [List.filter_append]
    exact permFirst.append permSecond
  · rw [dropped, first.dropped, List.filter_append, List.length_append, Nat.add_assoc]

theorem aside (aside : Aside k s t) : Drains k 0 s t [] [] where
  setup := aside.setup
  disabled := by rw [aside.buffer]
  queued := aside.queued.symm
  enough := by simp
  reports := by rw [aside.reportsOf, List.append_nil]
  succeeded := by simp
  delivered := rfl
  lost := ⟨[], by rw [aside.lost, List.append_nil], .nil⟩
  dropped := by rw [aside.buffer]; rfl

end Drains

namespace Sender

variable (s : Sender σ) (k : Kind)

private theorem batch_drains (accepting : s.transport.Accepting s.link) :
    (s.nextHanded k).flatMap Delivery.records =
        ((s.queued k).take (s.batchReach k)).filter (s.keeps k) ∧
      ((s.nextBatch k).oversize ++ (s.nextUnsent k).flatten).Perm
        (((s.queued k).take (s.batchReach k)).filter fun record => !s.keeps k record) := by
  let taken := (s.queued k).take (s.batchReach k)
  have oversize : (s.nextBatch k).oversize =
      taken.filter fun record => !Batch.fits s.limits.messageSize record := Batch.oversize_cut _ _ _
  have chunks : (s.nextBatch k).chunks.flatten =
      taken.filter (Batch.fits s.limits.messageSize) := Batch.flatten_chunks_cut _ _ _
  cases off : (s.buffer k).disabled with
  | false =>
    have keeps : s.keeps k = Batch.fits s.limits.messageSize := by
      funext record
      rw [keeps, off, Bool.not_false, Bool.true_and]
    have goes : ∀ d ∈ s.nextHanded k, d.ends = false := by
      intro d member
      have succeeded := accepting.succeeded ((s.handed_prefix k _).subset member)
      exact (Delivery.fate_of_succeeded succeeded).2
    have unsent := s.nextUnsent_eq_nil k off goes
    have whole := s.flatten_nextBatch k
    rw [unsent, List.flatten_nil, List.append_nil] at whole
    rw [keeps, unsent, List.flatten_nil, List.append_nil, ← whole, chunks, oversize]
    exact ⟨rfl, .refl _⟩
  | true =>
    have keeps : s.keeps k = fun _ => false := by
      funext record
      rw [keeps, off, Bool.not_true, Bool.false_and]
    have none := s.nextHanded_of_off k off
    have unsent : s.nextUnsent k = (s.nextBatch k).chunks := by
      rw [nextUnsent, none]
      rfl
    have dealt := Batch.perm_taken s.limits.batchSize s.limits.messageSize (s.queued k)
    simp only [keeps, none, unsent, List.flatMap_nil, List.filter_false, Bool.not_false,
      List.filter_true, true_and]
    exact List.perm_append_comm.trans dealt

theorem visit_drains (accepting : s.transport.Accepting s.link) :
    Drains k 1 s (s.visit k).2 ((s.queued k).take (s.batchReach k)) (s.nextHanded k) := by
  have course := Course.visit s k
  have succeeded : ∀ d ∈ s.nextHanded k, d.succeeded = true := by
    intro d member
    exact accepting.succeeded ((s.handed_prefix k _).subset member)
  have fine : ∀ d ∈ s.nextHanded k, d.returns = false ∧ d.ends = false := by
    intro d member
    exact Delivery.fate_of_succeeded (succeeded d member)
  have back : Delivery.recordsOf Delivery.returns (s.nextHanded k) = [] :=
    Delivery.recordsOf_eq_nil fun d member => (fine d member).1
  have ended : Delivery.recordsOf Delivery.ends (s.nextHanded k) = [] :=
    Delivery.recordsOf_eq_nil fun d member => (fine d member).2
  have stays : (s.nextHanded k).any Delivery.switchesOff = false := by
    rw [List.any_eq_false]
    intro d member off
    have goes := (fine d member).2
    rw [Delivery.ends, off, Bool.or_true] at goes
    cases goes
  obtain ⟨delivered, perm⟩ := s.batch_drains k accepting
  have lost : (s.batchDeeds k).flatMap (Event.lostOf k) =
      (s.nextBatch k).oversize ++ (s.nextUnsent k).flatten := by
    rw [s.lostOf_batchDeeds, ended, List.append_nil]
  constructor
  · exact course.setup
  · rw [course.disabled, s.switchesOff_batchDeeds, stays, Bool.or_false]
  · rw [s.queued_batch k course, back, List.append_nil, s.rest_nextBatch, List.take_append_drop]
  · have reached := Batch.min_le_reach s.limits.messageSize s.limits.batchSize (s.queued k)
    rw [List.length_take, Nat.one_mul]
    exact Nat.le_min.mpr ⟨reached, Nat.min_le_right _ _⟩
  · exact s.reportsOf_visit k
  · exact succeeded
  · exact delivered
  · exact ⟨_, lost_append course.deeds k, by rw [lost]; exact perm⟩
  · rw [course.dropped, lost, perm.length_eq]

theorem flush_drains (accepting : s.transport.Accepting s.link) :
    ∃ taken later, Drains k 1 s s.flush.2 taken later := by
  obtain ⟨t, still, before, after⟩ := s.flush_visits_keeping k
    (p := fun s => s.transport.Accepting s.link) accepting_visit accepting
  have drained := ((Drains.aside before).trans (t.visit_drains k still)).trans (.aside after)
  exact ⟨_, _, drained⟩

end Sender

def Call.flushes : Call → Bool
  | .flush => true
  | _ => false

/-- What some cycles over a transport that accepts everything come to. -/
structure Drained (s : Sender σ) (cycles : Nat) (t : Sender σ) : Prop where
  drains : ∀ k, ∃ taken later, Drains k cycles s t taken later
  bound : ∀ k, (t.queued k).length ≤ (s.queued k).length - cycles * s.limits.batchSize
  empty : ∀ k, ((s.queued k).length + s.limits.batchSize - 1) / s.limits.batchSize ≤ cycles →
    t.queued k = [] ∧ ∃ later, Drains k cycles s t (s.queued k) later

private theorem step_drains {s : Sender σ} (accepting : s.transport.Accepting s.link) {call : Call}
    (only : call = .flush ∨ ∃ now, call = .clock now) :
    (s.step call).2.transport.Accepting (s.step call).2.link ∧
      ∀ k, ∃ taken later, Drains k (if call.flushes then 1 else 0) s (s.step call).2 taken later := by
  rcases only with rfl | ⟨now, rfl⟩
  · have still := s.flush_keeps (p := fun s => s.transport.Accepting s.link)
      Sender.accepting_visit accepting
    exact ⟨still, fun k => s.flush_drains k accepting⟩
  · have idle (k : Kind) : Aside k s { s with now := now } :=
      ⟨rfl, rfl, [], by simp [Sender.deeds], by simp⟩
    exact ⟨accepting, fun k => ⟨[], [], .aside (idle k)⟩⟩

private theorem run_drains {s : Sender σ} (accepting : s.transport.Accepting s.link)
    {calls : List Call} (only : ∀ call ∈ calls, call = .flush ∨ ∃ now, call = .clock now) (k : Kind) :
    ∃ taken later, Drains k (calls.countP Call.flushes) s (s.run calls) taken later := by
  induction calls generalizing s with
  | nil => exact ⟨[], [], .refl k s⟩
  | cons call rest ih =>
    rw [List.forall_mem_cons] at only
    obtain ⟨still, drains⟩ := step_drains accepting only.1
    obtain ⟨taken, later, first⟩ := drains k
    obtain ⟨more, late, behind⟩ := ih still only.2
    have drained := first.trans behind
    rw [Nat.add_comm, ← List.countP_cons] at drained
    exact ⟨_, _, drained⟩

/-- Flushing drains a sender, whatever the clock shows in between. -/
theorem run_drained {s : Sender σ} (pos : 0 < s.limits.batchSize)
    (accepting : s.transport.Accepting s.link) {calls : List Call}
    (only : ∀ call ∈ calls, call = .flush ∨ ∃ now, call = .clock now) :
    Drained s (calls.countP Call.flushes) (s.run calls) := by
  have drains := run_drains accepting only
  have bound (k : Kind) : ((s.run calls).queued k).length ≤
      (s.queued k).length - calls.countP Call.flushes * s.limits.batchSize := by
    obtain ⟨taken, later, drained⟩ := drains k
    have enough := drained.enough
    have whole := congrArg List.length drained.queued
    rw [List.length_append] at whole
    omega
  refine ⟨drains, bound, fun k cycles => ?_⟩
  have none : (s.run calls).queued k = [] := by
    have left := bound k
    rw [Nat.div_le_iff_le_mul_add_pred pos, Nat.mul_comm] at cycles
    rw [← List.length_eq_zero_iff]
    omega
  obtain ⟨taken, later, drained⟩ := drains k
  have whole : s.queued k = taken := by
    rw [drained.queued, none, List.append_nil]
  rw [← whole] at drained
  exact ⟨none, later, drained⟩

theorem withTwoPoints_drained :
    let calls : List Call := [.flush, .clock 1, .flush]
    0 < Sender.withTwoPoints.limits.batchSize ∧
      Sender.withTwoPoints.transport.Accepting Sender.withTwoPoints.link ∧
      (∀ call ∈ calls, call = .flush ∨ ∃ now, call = .clock now) ∧
      Drained Sender.withTwoPoints 2 (Sender.withTwoPoints.run calls) := by
  have pos : 0 < Sender.withTwoPoints.limits.batchSize := by decide +kernel
  have accepting : Sender.withTwoPoints.transport.Accepting Sender.withTwoPoints.link :=
    Transport.accepting_of_exhausted (by decide +kernel) _
  have only : ∀ call ∈ [Call.flush, .clock 1, .flush], call = .flush ∨ ∃ now, call = .clock now := by
    simp
  exact ⟨pos, accepting, only, run_drained pos accepting only⟩

end TelemetrySender
