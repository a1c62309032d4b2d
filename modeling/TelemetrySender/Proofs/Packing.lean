import Mathlib.Data.List.Chain
import Mathlib.Order.Bounds.Basic
import TelemetrySender.Buffer
import TelemetrySender.Proofs.Batch

/-!
How tightly a batch is packed.  A chunk is closed only when the next record would overflow it, so no
chunk has room for the first record of the one behind it.  If the same records are divided into groups
that are no longer than a chunk may be, no group has two such first records: there are no fewer groups
than chunks.
-/

set_option autoImplicit false
set_option relaxedAutoImplicit false

namespace TelemetrySender.Batch

def Overflows (limit : Nat) (chunk next : Chunk) : Prop :=
  ∀ record ∈ next.head?, limit < (String.join chunk).utf8ByteSize + record.utf8ByteSize

namespace Packing

/-- No chunk was closed too early.  Only where nothing was packed is there no open chunk. -/
structure Tight (limit : Nat) (p : Packing) : Prop where
  first : p.current = [] → p.closed = []
  chain : (p.current.reverse :: p.closed).IsChain fun next chunk => Overflows limit chunk next

variable {limit : Nat} {p : Packing}

theorem tight_empty (limit : Nat) : Tight limit empty :=
  ⟨fun _ => rfl, List.isChain_singleton _⟩

theorem Tight.add (tight : p.Tight limit) (sound : p.Sound limit) (record : String) :
    (p.add limit record).Tight limit := by
  unfold Packing.add
  split
  · rename_i overflows
    refine ⟨fun none => absurd none (List.cons_ne_nil _ _), ?_⟩
    have own : Overflows limit p.current.reverse [record] := by
      intro next head
      obtain rfl := Option.some.inj head
      rwa [← sound.bytes]
    exact List.isChain_cons_cons.mpr ⟨own, tight.chain⟩
  · refine ⟨fun none => absurd none (List.cons_ne_nil _ _), ?_⟩
    cases current : p.current with
    | nil =>
      rw [tight.first current]
      exact List.isChain_singleton _
    | cons last rest =>
      -- A record behind others leaves the first record of its chunk in place.
      have chain := tight.chain
      rw [current, List.isChain_cons] at chain
      refine List.isChain_cons.mpr ⟨fun chunk behind next head => ?_, chain.2⟩
      refine chain.1 chunk behind next ?_
      rwa [List.reverse_cons, List.head?_append_of_ne_nil _ (by simp)] at head

theorem Tight.foldl_add {records : List String} (tight : p.Tight limit) (sound : p.Sound limit)
    (fit : ∀ record ∈ records, record.utf8ByteSize ≤ limit) :
    (records.foldl (Packing.add limit) p).Tight limit := by
  induction records generalizing p with
  | nil => exact tight
  | cons record rest ih =>
    rw [List.forall_mem_cons] at fit
    exact ih (tight.add sound record) (sound.add fit.1) fit.2

theorem Tight.isChain_chunks (tight : p.Tight limit) : p.chunks.IsChain (Overflows limit) := by
  unfold Packing.chunks
  split
  · rename_i none
    rw [tight.first none]
    exact List.isChain_nil
  · exact List.isChain_reverse.mpr tight.chain

end Packing

theorem isChain_chunks (size limit : Nat) (queue : List String) :
    (cut size limit queue).chunks.IsChain (Overflows limit) :=
  have sound := Packing.sound_empty limit
  ((Packing.tight_empty limit).foldl_add sound le_of_mem_filter_fits).isChain_chunks

/-- Groups read some records, in order, and none of them has more bytes than it may. -/
structure Divides (limit : Nat) (records : List String) (groups : List Chunk) : Prop where
  reads : groups.flatten = records
  bytes_le : ∀ group ∈ groups, (String.join group).utf8ByteSize ≤ limit

private theorem head?_of_flatten_eq_cons {chunks : List Chunk} {record : String} {rest : List String}
    (filled : ∀ chunk ∈ chunks, chunk ≠ []) (shape : chunks.flatten = record :: rest) :
    ∃ chunk ∈ chunks.head?, record ∈ chunk.head? := by
  cases chunks with
  | nil => cases shape
  | cons chunk chunks =>
    obtain ⟨first, others, rfl⟩ := List.exists_cons_of_ne_nil (filled chunk List.mem_cons_self)
    obtain ⟨rfl, -⟩ := List.cons.inj shape
    exact ⟨_, rfl, rfl⟩

/-- Groups never get ahead of tightly packed chunks: one that begins no later than a chunk does not reach
into the next. -/
theorem length_le_of_divides {limit : Nat} (left : List String) {chunks groups : List Chunk}
    (tight : chunks.IsChain (Overflows limit)) (filled : ∀ chunk ∈ chunks, chunk ≠ [])
    (divides : Divides limit (left ++ chunks.flatten) groups) : chunks.length ≤ groups.length := by
  -- The groups still to come divide what is left of a chunk already counted, and all chunks behind it.
  induction groups generalizing left chunks with
  | nil =>
    cases chunks with
    | nil => exact Nat.le_refl 0
    | cons chunk rest =>
      have none := divides.reads
      simp [filled chunk List.mem_cons_self] at none
  | cons group groups ih =>
    cases chunks with
    | nil => exact Nat.zero_le _
    | cons chunk rest =>
      rw [List.forall_mem_cons] at filled
      have small := List.forall_mem_cons.mp divides.bytes_le
      have tail := List.isChain_cons.mp tight
      have onward (left : List String) (reads : groups.flatten = left ++ rest.flatten) :
          (chunk :: rest).length ≤ (group :: groups).length :=
        Nat.succ_le_succ (ih left tail.2 filled.2 ⟨reads, small.2⟩)
      have reads : group ++ groups.flatten = (left ++ chunk) ++ rest.flatten := by
        simpa only [List.flatten_cons, List.append_assoc] using divides.reads
      rcases List.append_eq_append_iff.mp reads with ⟨left, -, within⟩ | ⟨beyond, shape, behind⟩
      · exact onward left within
      · cases beyond with
        | nil => exact onward [] behind.symm
        | cons record more =>
          obtain ⟨next, first, head⟩ := head?_of_flatten_eq_cons filled.2 behind
          have overflows := tail.1 next first record head
          have within := small.1
          simp only [shape, String.join_append, String.join_cons, String.utf8ByteSize_append]
            at within
          omega

end TelemetrySender.Batch

namespace TelemetrySender

/-- A batch is cut into the fewest chunks that its records can be divided into. -/
theorem Buffer.takeBatch_fewest (b : Buffer) (size limit : Nat) :
    IsLeast {count | ∃ groups, groups.length = count ∧
        Batch.Divides limit (b.takeBatch size limit).1.chunks.flatten groups}
      (b.takeBatch size limit).1.chunks.length := by
  have deliverable : ∀ chunk ∈ (b.takeBatch size limit).1.chunks, Batch.Deliverable limit chunk :=
    fun chunk member => Batch.deliverable_of_mem_chunks member
  constructor
  · exact ⟨_, rfl, rfl, fun chunk member => (deliverable chunk member).bytes_le⟩
  · rintro _ ⟨groups, rfl, divides⟩
    exact Batch.length_le_of_divides [] (Batch.isChain_chunks size limit b.records)
      (fun chunk member => (deliverable chunk member).nonempty) divides

end TelemetrySender
