import Mathlib.Data.List.Basic
import Mathlib.Tactic.Common
import TelemetrySender.Batch

/-!
What a cut does to a queue: it deals every record out once, as part of a chunk, as too long, or as
left in the queue, and it takes the whole queue exactly if few enough records of it fit.  No chunk
is empty or has more bytes than it may, and all chunks together hold no more records than a batch may.
It takes no fewer than that off the queue, as long as there are as many.
-/

set_option autoImplicit false
set_option relaxedAutoImplicit false

namespace TelemetrySender.Batch

theorem perm_taken (size limit : Nat) (queue : List String) :
    ((cut size limit queue).chunks.flatten ++ (cut size limit queue).oversize).Perm
      (queue.take (reach limit size queue 0)) := by
  rw [flatten_chunks_cut]
  simpa only [cut, List.splitAt_eq] using
    List.filter_append_perm (fits limit) (queue.take (reach limit size queue 0))

/-- No record is dealt out twice and none is overlooked. -/
theorem perm_cut (size limit : Nat) (queue : List String) :
    ((cut size limit queue).chunks.flatten ++ (cut size limit queue).oversize ++
      (cut size limit queue).rest).Perm queue := by
  have whole := (perm_taken size limit queue).append_right (queue.drop (reach limit size queue 0))
  rwa [List.take_append_drop, ← rest_cut] at whole

theorem length_cut (size limit : Nat) (queue : List String) :
    (cut size limit queue).chunks.flatten.length + (cut size limit queue).oversize.length +
      (cut size limit queue).rest.length = queue.length := by
  simpa only [List.length_append] using (perm_cut size limit queue).length_eq

theorem lt_of_mem_oversize {size limit : Nat} {queue : List String} {record : String}
    (member : record ∈ (cut size limit queue).oversize) : limit < record.utf8ByteSize := by
  have unfit := (List.mem_filter.mp member).2
  simpa [fits] using unfit

private theorem length_le_reach_iff (limit count : Nat) (queue : List String) (passed : Nat) :
    passed + queue.length ≤ reach limit (count + 1) queue passed ↔
      (queue.dropLast.filter (fits limit)).length < count + 1 := by
  induction queue generalizing count passed with
  | nil => simp [reach]
  | cons record queue ih =>
    cases queue with
    | nil =>
      have ends (n : Nat) : reach limit n [] (passed + 1) = passed + 1 := by cases n <;> rfl
      by_cases fit : fits limit record <;> simp [reach, fit, ends]
    | cons next rest =>
      rw [List.dropLast_cons_cons, List.filter_cons, reach]
      by_cases fit : fits limit record
      · rw [if_pos fit, if_pos fit]
        cases count with
        | zero =>
          simp only [reach, List.length_cons]
          omega
        | succ count =>
          have step := ih count (passed + 1)
          simp only [List.length_cons] at step ⊢
          omega
      · have step := ih count (passed + 1)
        rw [if_neg fit, if_neg fit]
        simp only [List.length_cons] at step ⊢
        omega

/-- A cut takes the whole queue if and only if fewer records than its size fit among those before
the last. -/
theorem rest_cut_eq_nil_iff {size : Nat} (pos : 0 < size) (limit : Nat) (queue : List String) :
    (cut size limit queue).rest = [] ↔
      (queue.dropLast.filter (fits limit)).length < size := by
  obtain ⟨count, rfl⟩ := Nat.exists_eq_add_one_of_ne_zero (Nat.ne_of_gt pos)
  have reached := length_le_reach_iff limit count queue 0
  rw [Nat.zero_add] at reached
  rw [rest_cut, List.drop_eq_nil_iff, reached]

structure Deliverable (limit : Nat) (chunk : Chunk) : Prop where
  nonempty : chunk ≠ []
  bytes_le : (String.join chunk).utf8ByteSize ≤ limit

namespace Packing

/-- The invariant of packing. -/
structure Sound (limit : Nat) (p : Packing) : Prop where
  bytes : p.bytes = (String.join p.current.reverse).utf8ByteSize
  bytes_le : p.bytes ≤ limit
  closed : ∀ chunk ∈ p.closed, Deliverable limit chunk

variable {limit : Nat} {p : Packing}

theorem sound_empty (limit : Nat) : Sound limit empty := by
  refine ⟨?_, Nat.zero_le limit, ?_⟩
  · simp [empty]
  · simp [empty]

private theorem Sound.deliverable_current (sound : p.Sound limit) (filled : p.current ≠ []) :
    Deliverable limit p.current.reverse := by
  have bytes := sound.bytes
  have bound := sound.bytes_le
  exact ⟨by simpa using filled, by omega⟩

theorem Sound.filled_of_overflows (sound : p.Sound limit) {record : String}
    (fit : record.utf8ByteSize ≤ limit) (overflows : limit < p.bytes + record.utf8ByteSize) :
    p.current ≠ [] := by
  intro none
  have bytes := sound.bytes
  rw [none] at bytes
  simp only [List.reverse_nil, String.join_nil, String.utf8ByteSize_empty] at bytes
  omega

theorem Sound.add (sound : p.Sound limit) {record : String} (fit : record.utf8ByteSize ≤ limit) :
    (p.add limit record).Sound limit := by
  unfold Packing.add
  split
  · rename_i overflows
    refine ⟨by simp, fit, ?_⟩
    intro chunk member
    rcases List.mem_cons.mp member with rfl | old
    · exact sound.deliverable_current (sound.filled_of_overflows fit overflows)
    · exact sound.closed chunk old
  · rename_i within
    refine ⟨?_, Nat.not_lt.mp within, sound.closed⟩
    simp [String.join_append, sound.bytes]

theorem Sound.foldl_add {records : List String} (sound : p.Sound limit)
    (fit : ∀ record ∈ records, record.utf8ByteSize ≤ limit) :
    (records.foldl (Packing.add limit) p).Sound limit := by
  induction records generalizing p with
  | nil => exact sound
  | cons record rest ih =>
    rw [List.forall_mem_cons] at fit
    exact ih (sound.add fit.1) fit.2

theorem Sound.chunks (sound : p.Sound limit) : ∀ chunk ∈ p.chunks, Deliverable limit chunk := by
  intro chunk member
  unfold Packing.chunks at member
  split at member
  · exact sound.closed chunk (List.mem_reverse.mp member)
  · rename_i record rest current
    rw [List.mem_reverse, List.mem_cons] at member
    rcases member with rfl | old
    · exact sound.deliverable_current (by rw [current]; exact List.cons_ne_nil record rest)
    · exact sound.closed chunk old

end Packing

theorem le_of_mem_filter_fits {limit : Nat} {records : List String} :
    ∀ record ∈ records.filter (fits limit), record.utf8ByteSize ≤ limit :=
  fun _ member => of_decide_eq_true (List.mem_filter.mp member).2

theorem deliverable_of_mem_chunks {size limit : Nat} {queue : List String} {chunk : Chunk}
    (member : chunk ∈ (cut size limit queue).chunks) : Deliverable limit chunk :=
  ((Packing.sound_empty limit).foldl_add le_of_mem_filter_fits).chunks chunk member

private theorem reach_succ (limit count : Nat) (queue : List String) (passed : Nat) :
    reach limit count queue (passed + 1) = reach limit count queue passed + 1 := by
  induction queue generalizing count passed with
  | nil => cases count <;> rfl
  | cons record queue ih =>
    cases count with
    | zero => rfl
    | succ count =>
      rw [reach, reach]
      split
      · exact ih count (passed + 1)
      · exact ih (count + 1) (passed + 1)

private theorem length_taken_le (limit count : Nat) (queue : List String) :
    ((queue.take (reach limit count queue 0)).filter (fits limit)).length ≤ count := by
  induction queue generalizing count with
  | nil => simp
  | cons record queue ih =>
    cases count with
    | zero => simp [reach]
    | succ count =>
      rw [reach]
      by_cases fit : fits limit record
      · have rest := ih count
        rw [if_pos fit, reach_succ, List.take_succ_cons, List.filter_cons_of_pos fit,
          List.length_cons]
        omega
      · have rest := ih (count + 1)
        rw [if_neg fit, reach_succ, List.take_succ_cons, List.filter_cons_of_neg fit]
        exact rest

theorem length_chunks_le (size limit : Nat) (queue : List String) :
    (cut size limit queue).chunks.flatten.length ≤ size := by
  rw [flatten_chunks_cut]
  exact length_taken_le limit size queue

theorem min_le_reach (limit count : Nat) (queue : List String) :
    min count queue.length ≤ reach limit count queue 0 := by
  induction queue generalizing count with
  | nil => simp
  | cons record queue ih =>
    cases count with
    | zero => simp
    | succ count =>
      rw [reach, List.length_cons]
      split
      · have rest := ih count
        rw [reach_succ]
        omega
      · have rest := ih (count + 1)
        rw [reach_succ]
        omega

theorem lt_reach_iff (limit count : Nat) (queue : List String) (n : Nat) :
    n < reach limit count queue 0 ↔
      n < queue.length ∧ ((queue.take n).filter (fits limit)).length < count := by
  induction queue generalizing count n with
  | nil => cases count <;> simp [reach]
  | cons record queue ih =>
    cases count with
    | zero => simp [reach]
    | succ count =>
      rw [reach]
      cases n with
      | zero =>
        rw [reach_succ, reach_succ]
        split <;> simp
      | succ n =>
        by_cases fit : fits limit record
        · have rest := ih count n
          rw [if_pos fit, reach_succ, List.take_succ_cons, List.filter_cons_of_pos fit,
            List.length_cons, List.length_cons]
          omega
        · have rest := ih (count + 1) n
          rw [if_neg fit, reach_succ, List.take_succ_cons, List.filter_cons_of_neg fit,
            List.length_cons]
          omega

theorem reach_le_length (limit count : Nat) (queue : List String) :
    reach limit count queue 0 ≤ queue.length := by
  by_contra beyond
  have inside := (lt_reach_iff limit count queue queue.length).mp (by omega)
  omega

theorem oversize_cut (size limit : Nat) (queue : List String) :
    (cut size limit queue).oversize =
      (queue.take (reach limit size queue 0)).filter fun record => !fits limit record := by
  simp [cut]

end TelemetrySender.Batch
