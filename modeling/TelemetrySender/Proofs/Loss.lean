import TelemetrySender.Proofs.Latch

/-!
Losses.  Records of a kind are given up for one of four reasons, and what happened to the kind before
shows which.
-/

set_option autoImplicit false
set_option relaxedAutoImplicit false

namespace TelemetrySender

variable {σ : Type}

def Sender.deedsOf (s : Sender σ) (k : Kind) : List Event :=
  s.deeds.filter fun e => e.kind? = some k

/-- The reasons to give up records of a kind, after what happened to the kind before.  There is none
for want of room. -/
inductive Grounds (k : Kind) (limit : Nat) : List Event → Chunk → Loss → Prop
  | oversize {history : List Event} {record : String} :
      limit < record.utf8ByteSize → Grounds k limit history [record] .oversize
  | discarded {history : List Event} {d : Delivery} {records : Chunk} :
      .reported d ∈ history → d.switchesOff = true → Grounds k limit history records .discarded
  | disabled {before : List Event} {d : Delivery} :
      d.switchesOff = true → Grounds k limit (before ++ [.reported d]) d.records .disabled
  | broken {before : List Event} {d : Delivery} {lost : List Chunk} {records : Chunk} :
      d.failed = true → (lost ++ [records]).head? = some d.records →
      Grounds k limit (before ++ .reported d :: lost.map (.lost k .broken)) records .broken

/-- Every loss among some events has grounds in the history and the events before it. -/
def Explained (k : Kind) (limit : Nat) : (history events : List Event) → Prop
  | _, [] => True
  | history, e :: rest =>
    (∀ cause records, e = .lost k cause records → Grounds k limit history records cause) ∧
      Explained k limit (history ++ [e]) rest

namespace Explained

variable {k : Kind} {limit : Nat} {history events later : List Event}

theorem append (first : Explained k limit history events)
    (second : Explained k limit (history ++ events) later) :
    Explained k limit history (events ++ later) := by
  induction events generalizing history with
  | nil => simpa using second
  | cons e rest ih => exact ⟨first.1, ih first.2 (by simpa using second)⟩

theorem grounds (explained : Explained k limit history events) {before after : List Event}
    {cause : Loss} {records : Chunk} (shape : events = before ++ .lost k cause records :: after) :
    Grounds k limit (history ++ before) records cause := by
  induction before generalizing history events with
  | nil =>
    subst shape
    simpa using explained.1 cause records rfl
  | cons e before ih =>
    subst shape
    simpa using ih explained.2 rfl

theorem ofSilent (silent : ∀ e ∈ events, ∀ cause records, e ≠ .lost k cause records) :
    Explained k limit history events := by
  induction events generalizing history with
  | nil => trivial
  | cons e rest ih =>
    refine ⟨fun cause records same => ?_, ih fun e member => silent e (.tail _ member)⟩
    exact absurd same (silent e (.head _) cause records)

theorem lost {cause : Loss} {records : Chunk} (grounds : Grounds k limit history records cause)
    (rest : Explained k limit (history ++ [.lost k cause records]) events) :
    Explained k limit history (.lost k cause records :: events) := by
  refine ⟨fun _ _ same => ?_, rest⟩
  obtain ⟨-, rfl, rfl⟩ := Event.lost.inj same
  exact grounds

theorem oversize {records : List String} (long : ∀ r ∈ records, limit < r.utf8ByteSize) :
    Explained k limit history (records.map fun r => .lost k .oversize [r]) := by
  induction records generalizing history with
  | nil => trivial
  | cons r rest ih =>
    exact lost (.oversize (long r (.head _))) (ih fun r member => long r (.tail _ member))

theorem discarded {d : Delivery} (off : d.switchesOff = true) (chunks : List Chunk)
    (before : .reported d ∈ history) :
    Explained k limit history (chunks.map (.lost k .discarded)) := by
  induction chunks generalizing history with
  | nil => trivial
  | cons chunk rest ih => exact lost (.discarded before off) (ih (List.mem_append_left _ before))

theorem broken {d : Delivery} (failed : d.failed = true) (chunks : List Chunk) {given : List Chunk}
    (first : given.head? = some d.records) :
    Explained k limit (history ++ .reported d :: given.map (.lost k .broken))
      (chunks.map (.lost k .broken)) := by
  induction chunks generalizing given with
  | nil => trivial
  | cons chunk rest ih =>
    have head : (given ++ [chunk]).head? = some d.records := by
      rw [List.head?_append, first]
      rfl
    have next := ih head
    rw [List.map_append, List.map_singleton] at next
    refine lost (.broken failed head) ?_
    rw [List.append_assoc]
    exact next

theorem deeds {d : Delivery} (own : d.kind = k) : Explained k limit history d.deeds := by
  unfold Delivery.deeds
  refine ⟨fun _ _ same => Event.noConfusion same, ?_⟩
  rw [own]
  split_ifs with failed off
  · have first : Grounds k limit (history ++ .reported d :: [].map (.lost k .broken)) d.records
        .broken := .broken failed rfl
    exact lost first trivial
  · exact lost (.disabled off) trivial
  · trivial

theorem deliveries {tried : List Delivery} (own : ∀ d ∈ tried, d.kind = k) :
    Explained k limit history (tried.flatMap Delivery.deeds) := by
  induction tried generalizing history with
  | nil => trivial
  | cons d rest ih =>
    exact (deeds (own d (.head _))).append (ih fun d member => own d (.tail _ member))

end Explained

section

variable {k : Kind} {s t : Sender σ}

theorem Aside.deedsOf (aside : Aside k s t) : t.deedsOf k = s.deedsOf k := by
  obtain ⟨events, deeds, others⟩ := aside.deeds
  have none : events.filter (fun e => e.kind? = some k) = [] := by
    rw [List.filter_eq_nil_iff]
    exact fun e member own => others e member (by simpa using own)
  rw [Sender.deedsOf, deeds, List.filter_append, none, List.append_nil]
  rfl

private theorem deedsOf_append {events : List Event} (deeds : t.deeds = s.deeds ++ events)
    (about : ∀ e ∈ events, e.kind? = some k) : t.deedsOf k = s.deedsOf k ++ events := by
  have all : events.filter (fun e => e.kind? = some k) = events := by
    rw [List.filter_eq_self]
    exact fun e member => by simpa using about e member
  rw [Sender.deedsOf, deeds, List.filter_append, all]
  rfl

theorem Entry.deedsOf {records : List String} {valid dropped : Nat}
    (entry : Entry k records valid dropped s t) :
    t.deedsOf k = s.deedsOf k ++ records.map (.queued k) := by
  refine deedsOf_append entry.deeds fun e member => ?_
  obtain ⟨record, -, rfl⟩ := List.mem_map.mp member
  rfl

theorem Sender.deedsOf_visit (s : Sender σ) (k : Kind) :
    (s.visit k).2.deedsOf k = s.deedsOf k ++ s.batchDeeds k :=
  deedsOf_append (Course.visit s k).deeds (Course.visit s k).about

theorem Sender.mem_deedsOf_of_mem_reportsOf {d : Delivery} (member : d ∈ s.reportsOf k) :
    .reported d ∈ s.deedsOf k := by
  obtain ⟨tried, own⟩ := List.mem_filter.mp member
  obtain ⟨e, deed, delivery⟩ := List.mem_filterMap.mp tried
  refine List.mem_filter.mpr ⟨?_, by simpa [Event.kind?] using own⟩
  cases e <;> simp_all [Event.delivery?]

end

section

variable (s : Sender σ) (k : Kind)

private theorem explained_unsent_of_failed (history : List Event)
    (failed : (s.nextHanded k).any Delivery.failed = true) :
    Explained k s.limits.messageSize (history ++ (s.nextHanded k).flatMap Delivery.deeds)
      ((s.nextUnsent k).map (.lost k .broken)) := by
  obtain ⟨d, tried, failed⟩ := List.any_eq_true.mp failed
  have own := s.kind_of_mem_handed k _ tried
  obtain ⟨before, behind, shape⟩ := List.append_of_mem tried
  have last : behind = [] :=
    Delivery.eq_nil_of_handedOver shape (by rw [Delivery.ends, failed, Bool.true_or])
  have deeds : d.deeds = .reported d :: [d.records].map (.lost k .broken) := by
    rw [Delivery.deeds, if_pos failed, own]
    rfl
  rw [shape, last, List.flatMap_append, List.flatMap_singleton, deeds, ← List.append_assoc]
  exact Explained.broken failed _ rfl

private theorem explained_unsent_of_well (latched : Latched s k) (history : List Event)
    (well : (s.nextHanded k).any Delivery.failed = false) :
    Explained k s.limits.messageSize
      (s.deedsOf k ++ history ++ (s.nextHanded k).flatMap Delivery.deeds)
      ((s.nextUnsent k).map (.lost k .discarded)) := by
  -- If no delivery of the batch ended it, the kind was off before; else it went off with that one.
  by_cases goes : ∀ d ∈ s.nextHanded k, d.ends = false
  · cases on : (s.buffer k).disabled with
    | false =>
      rw [Sender.nextUnsent, s.length_nextHanded k on goes, List.drop_length]
      trivial
    | true =>
      rw [latched.disabled] at on
      obtain ⟨d, reported, off⟩ := List.any_eq_true.mp on
      have before := Sender.mem_deedsOf_of_mem_reportsOf reported
      exact Explained.discarded off _
        (List.mem_append_left _ (List.mem_append_left _ before))
  · simp only [not_forall, Bool.not_eq_false] at goes
    obtain ⟨d, tried, ends⟩ := goes
    have unfailed : d.failed = false := by simpa using List.any_eq_false.mp well d tried
    have off : d.switchesOff = true := by
      rwa [Delivery.ends, unfailed, Bool.false_or] at ends
    have reported : .reported d ∈ (s.nextHanded k).flatMap Delivery.deeds :=
      List.mem_flatMap.mpr ⟨d, tried, .head _⟩
    exact Explained.discarded off _ (List.mem_append_right _ reported)

theorem explained_batchDeeds (latched : Latched s k) :
    Explained k s.limits.messageSize (s.deedsOf k) (s.batchDeeds k) := by
  have long : ∀ r ∈ (s.nextBatch k).oversize, s.limits.messageSize < r.utf8ByteSize :=
    fun _ member => Batch.lt_of_mem_oversize member
  have own : ∀ d ∈ s.nextHanded k, d.kind = k := fun _ member => s.kind_of_mem_handed k _ member
  rw [s.batchDeeds_eq, Sender.nextLoss]
  refine ((Explained.oversize long).append (Explained.deliveries own)).append ?_
  rw [← List.append_assoc]
  cases failed : (s.nextHanded k).any Delivery.failed with
  | true => exact explained_unsent_of_failed s k _ failed
  | false => exact explained_unsent_of_well s k latched _ failed

end

end TelemetrySender
