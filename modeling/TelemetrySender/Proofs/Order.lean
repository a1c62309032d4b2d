import TelemetrySender.Proofs.Latch
import TelemetrySender.Transport.Scripted

/-!
The order of delivery.  As long as nothing of a kind goes back into its queue, what was handed over
of it, followed by what is queued, stands in the order in which it was accepted, and nothing stands
there twice.  If moreover all of it arrived, then only records that are too long are missing.
-/

set_option autoImplicit false
set_option relaxedAutoImplicit false

namespace TelemetrySender

variable {σ : Type}

def Sender.shipped (s : Sender σ) (k : Kind) : List String :=
  (s.reportsOf k).flatMap Delivery.records

/-- The invariant: `gone` is what left the queue so far, and what was handed over of it kept its
order. -/
structure InOrder (s : Sender σ) (k : Kind) (gone : List String) : Prop where
  accepted : s.accepted k = gone ++ s.queued k
  shipped : (s.shipped k).Sublist (gone.filter (Batch.fits s.limits.messageSize))
  complete : (∀ d ∈ s.reportsOf k, d.succeeded = true) →
    s.shipped k = gone.filter (Batch.fits s.limits.messageSize)

namespace InOrder

variable {k : Kind} {gone : List String} {s t : Sender σ}

theorem aside (inOrder : InOrder s k gone) (aside : Aside k s t) : InOrder t k gone := by
  have limits : t.limits = s.limits := congrArg Setup.limits aside.setup
  have shipped : t.shipped k = s.shipped k := by
    rw [Sender.shipped, aside.reportsOf, Sender.shipped]
  constructor
  · rw [aside.accepted, aside.queued]
    exact inOrder.accepted
  · rw [shipped, limits]
    exact inOrder.shipped
  · intro all
    rw [aside.reportsOf] at all
    rw [shipped, limits]
    exact inOrder.complete all

theorem entry {records : List String} {valid dropped : Nat} (inOrder : InOrder s k gone)
    (entry : Entry k records valid dropped s t) : InOrder t k gone := by
  have limits : t.limits = s.limits := congrArg Setup.limits entry.setup
  have shipped : t.shipped k = s.shipped k := by
    rw [Sender.shipped, entry.reportsOf, Sender.shipped]
  constructor
  · rw [entry.accepted, entry.queued, inOrder.accepted, List.append_assoc]
  · rw [shipped, limits]
    exact inOrder.shipped
  · intro all
    rw [entry.reportsOf] at all
    rw [shipped, limits]
    exact inOrder.complete all

private theorem nextUnsent_of_succeeded (latched : Latched s k)
    (before : ∀ d ∈ s.reportsOf k, d.succeeded = true)
    (now : ∀ d ∈ s.nextHanded k, d.succeeded = true) : s.nextUnsent k = [] := by
  have on : (s.buffer k).disabled = false := by
    rw [latched.disabled, List.any_eq_false]
    intro d member off
    have ends : d.ends = true := by rw [Delivery.ends, off, Bool.or_true]
    have goes := (Delivery.fate_of_succeeded (before d member)).2
    exact absurd ends (by simp [goes])
  exact s.nextUnsent_eq_nil k on fun d member => (Delivery.fate_of_succeeded (now d member)).2

theorem visit (inOrder : InOrder s k gone) (latched : Latched s k)
    (kept : ∀ d ∈ s.nextHanded k, d.returns = false) :
    InOrder (s.visit k).2 k (gone ++ (s.queued k).take (s.batchReach k)) := by
  have course := Course.visit s k
  have accepted : (s.visit k).2.accepted k = s.accepted k := by
    rw [Sender.accepted_append course.deeds, s.acceptedOf_batchDeeds, List.append_nil]
  have back : Delivery.recordsOf Delivery.returns (s.nextHanded k) = [] := by
    rw [Delivery.recordsOf, List.filter_eq_nil_iff.mpr, List.flatMap_nil]
    intro d member
    simp [kept d member]
  have queued : (s.visit k).2.queued k = (s.queued k).drop (s.batchReach k) := by
    rw [s.queued_batch k course, back, List.append_nil, s.rest_nextBatch]
  have shipped : (s.visit k).2.shipped k =
      s.shipped k ++ (s.nextHanded k).flatMap Delivery.records := by
    rw [Sender.shipped, s.reportsOf_visit, List.flatMap_append, Sender.shipped]
  have batch : (s.nextHanded k).flatMap Delivery.records ++ (s.nextUnsent k).flatten =
      ((s.queued k).take (s.batchReach k)).filter (Batch.fits s.limits.messageSize) := by
    rw [← s.flatten_nextBatch]
    exact Batch.flatten_chunks_cut _ _ _
  constructor
  · rw [accepted, inOrder.accepted, queued, List.append_assoc, List.take_append_drop]
  · rw [shipped, course.limits, List.filter_append, ← batch]
    exact inOrder.shipped.append (List.sublist_append_left _ _)
  · intro all
    rw [s.reportsOf_visit] at all
    have before : ∀ d ∈ s.reportsOf k, d.succeeded = true := by
      intro d member
      exact all d (List.mem_append_left _ member)
    have now : ∀ d ∈ s.nextHanded k, d.succeeded = true := by
      intro d member
      exact all d (List.mem_append_right _ member)
    have unsent := nextUnsent_of_succeeded latched before now
    rw [unsent, List.flatten_nil, List.append_nil] at batch
    rw [shipped, course.limits, List.filter_append, ← batch, inOrder.complete before]

theorem new (clientId defaultSource : String) (limits : Limits) (transport : Transport σ) (link : σ)
    (k : Kind) : InOrder (Sender.new clientId defaultSource limits transport link) k [] := by
  have none : (Sender.new clientId defaultSource limits transport link).queued k = [] := by
    cases k <;> rfl
  constructor
  · rw [none]
    rfl
  · exact List.Sublist.refl []
  · intro _
    rfl

end InOrder

private def KeepsOrder (k : Kind) (s : Sender σ) : Prop :=
  -- The latch comes along since a kind that was switched off is not handed over any more.
  Latched s k ∧ ((∀ d ∈ s.reportsOf k, d.returns = false) → ∃ gone, InOrder s k gone)

private theorem keepsOrder_turn {k : Kind} {n : Nat} {s t : Sender σ} (keeps : KeepsOrder k s)
    (turn : Turn k n s t) : KeepsOrder k t := by
  obtain ⟨latched, inOrder⟩ := keeps
  refine ⟨latched.turn turn, ?_⟩
  intro kept
  cases turn with
  | aside aside =>
    rw [aside.reportsOf] at kept
    obtain ⟨gone, inOrder⟩ := inOrder kept
    exact ⟨gone, inOrder.aside aside⟩
  | entry entry =>
    rw [entry.reportsOf] at kept
    obtain ⟨gone, inOrder⟩ := inOrder kept
    exact ⟨gone, inOrder.entry entry⟩
  | visit =>
    rw [s.reportsOf_visit] at kept
    have before : ∀ d ∈ s.reportsOf k, d.returns = false := by
      intro d member
      exact kept d (List.mem_append_left _ member)
    have now : ∀ d ∈ s.nextHanded k, d.returns = false := by
      intro d member
      exact kept d (List.mem_append_right _ member)
    obtain ⟨gone, inOrder⟩ := inOrder before
    exact ⟨_, inOrder.visit latched now⟩

/-- What a kind looks like whose records are delivered in order: what was handed over and what is
queued are records as they were accepted, in that order and each at most as often. -/
structure Ordered (s : Sender σ) (k : Kind) : Prop where
  subsequence : (s.shipped k ++ s.queued k).Sublist (s.accepted k)
  missing : (∀ d ∈ s.reportsOf k, d.succeeded = true) →
    ∃ gone, s.accepted k = gone ++ s.queued k ∧
      s.shipped k = gone.filter fun record => record.utf8ByteSize ≤ s.limits.messageSize

/-- In every run, a kind of which nothing was sent back is delivered in order. -/
theorem run_ordered (clientId defaultSource : String) (limits : Limits) (transport : Transport σ)
    (link : σ) (calls : List Call) (k : Kind)
    (kept : ∀ d ∈ ((Sender.new clientId defaultSource limits transport link).run calls).reportsOf k,
      d.returns = false) :
    Ordered ((Sender.new clientId defaultSource limits transport link).run calls) k := by
  let start := Sender.new clientId defaultSource limits transport link
  have first : KeepsOrder k start :=
    ⟨Latched.new clientId defaultSource limits transport link k,
      fun _ => ⟨[], InOrder.new clientId defaultSource limits transport link k⟩⟩
  have last : KeepsOrder k (start.run calls) :=
    (start.run_turns k calls).preserves (p := fun _ s => KeepsOrder k s) (m := 0)
      (fun keeps turn => keepsOrder_turn keeps turn) first
  obtain ⟨gone, inOrder⟩ := last.2 kept
  constructor
  · rw [inOrder.accepted]
    exact (inOrder.shipped.trans List.filter_sublist).append (List.Sublist.refl _)
  · intro all
    exact ⟨gone, inOrder.accepted, inOrder.complete all⟩

/-- A sender with short batches and short messages, whose second delivery fails. -/
def Sender.cutShort : Sender Transport.Script :=
  (Sender.new "client" "host" ⟨10, 3, 4⟩ (.scripted "scripted")
    (.new [.ok 202, .error ⟨"BrokenPipe", "broken pipe"⟩])).run
    [.formatted "a", .formatted "bcd", .formatted "too long", .formatted "j", .formatted "k",
      .flush, .formatted "l", .scheduledFlush, .formatted "m"]

theorem cutShort_ordered :
    (∀ d ∈ Sender.cutShort.reportsOf .points, d.returns = false) ∧
      Sender.cutShort.shipped .points = ["a\n", "bcd\n", "k\n", "l\n"] ∧
      Sender.cutShort.queued .points = ["m\n"] ∧
      Sender.cutShort.accepted .points =
        ["a\n", "bcd\n", "too long\n", "j\n", "k\n", "l\n", "m\n"] ∧
      Ordered Sender.cutShort .points := by
  have kept : ∀ d ∈ Sender.cutShort.reportsOf .points, d.returns = false := by decide +kernel
  refine ⟨kept, by decide +kernel, by decide +kernel, by decide +kernel, ?_⟩
  exact run_ordered _ _ _ _ _ _ .points kept

end TelemetrySender
