/-!
Cutting a batch off a queue.  A batch is a limited number of records from the head of the queue,
in order, packed into chunks that are handed over one at a time.  Records longer than a chunk may
be are left out of the batch and do not count towards its limit.
-/

set_option autoImplicit false
set_option relaxedAutoImplicit false

namespace TelemetrySender

abbrev Chunk := List String

namespace Batch

def fits (limit : Nat) (record : String) : Bool :=
  record.utf8ByteSize ≤ limit

/-- The length of the shortest head of a queue that holds `count` records that fit, or of the
whole queue if it holds fewer; `passed` records lie before it. -/
def reach (limit : Nat) : Nat → List String → Nat → Nat
  | 0, _, passed => passed
  | _ + 1, [], passed => passed
  | count + 1, record :: queue, passed =>
    if fits limit record then reach limit count queue (passed + 1)
    else reach limit (count + 1) queue (passed + 1)

/-- Records on their way into chunks: the closed chunks and the open one, each latest first, and
the bytes in the open one. -/
structure Packing where
  closed : List Chunk
  current : Chunk
  bytes : Nat

namespace Packing

def empty : Packing := ⟨[], [], 0⟩

def add (limit : Nat) (p : Packing) (record : String) : Packing :=
  if limit < p.bytes + record.utf8ByteSize then
    ⟨p.current.reverse :: p.closed, [record], record.utf8ByteSize⟩
  else ⟨p.closed, record :: p.current, p.bytes + record.utf8ByteSize⟩

def chunks (p : Packing) : List Chunk :=
  match p.current with
  | [] => p.closed.reverse
  | _ :: _ => (p.current.reverse :: p.closed).reverse

theorem flatten_chunks_add (limit : Nat) (p : Packing) (record : String) :
    (p.add limit record).chunks.flatten = p.chunks.flatten ++ [record] := by
  obtain ⟨closed, current, bytes⟩ := p
  unfold add
  split
  · cases current <;> simp [chunks]
  · cases current <;> simp [chunks]

theorem flatten_chunks_foldl_add (limit : Nat) (p : Packing) (records : List String) :
    (records.foldl (add limit) p).chunks.flatten = p.chunks.flatten ++ records := by
  induction records generalizing p with
  | nil => simp
  | cons r rest ih => rw [List.foldl_cons, ih, flatten_chunks_add, List.append_assoc]; rfl

end Packing

def pack (limit : Nat) (records : List String) : List Chunk :=
  (records.foldl (Packing.add limit) Packing.empty).chunks

theorem flatten_pack (limit : Nat) (records : List String) :
    (pack limit records).flatten = records := by
  rw [pack, Packing.flatten_chunks_foldl_add]
  rfl

structure Cut where
  chunks : List Chunk
  oversize : List String
  rest : List String

/-- Cuts a batch of at most `size` records, in chunks of at most `limit` bytes. -/
def cut (size limit : Nat) (queue : List String) : Cut :=
  let head := queue.splitAt (reach limit size queue 0)
  { chunks := pack limit (head.1.filter (fits limit))
    oversize := head.1.filter fun record => !fits limit record
    rest := head.2 }

theorem flatten_chunks_cut (size limit : Nat) (queue : List String) :
    (cut size limit queue).chunks.flatten =
      (queue.take (reach limit size queue 0)).filter (fits limit) := by
  simp [cut, flatten_pack]

theorem rest_cut (size limit : Nat) (queue : List String) :
    (cut size limit queue).rest = queue.drop (reach limit size queue 0) := by
  simp [cut]

end Batch

end TelemetrySender
