import Mathlib.Data.List.Basic
import Mathlib.Tactic.Common
import TelemetrySender.Proofs.Packing

/-!
A batch taken off a queue record by record, by a loop that keeps its counts in words of 64 bits.  It
compares with a sum that stops at the greatest word, and adds with one that wraps; as long as all queued
records together have fewer bytes than a word can count, neither is ever put to the test.  Each pass takes
one record, the loop ends behind the shortest head that is enough for a batch, and it leaves what a cut
does.
-/

set_option autoImplicit false
set_option relaxedAutoImplicit false

namespace TelemetrySender

namespace Batch

def bytesOf (records : List String) : Nat := (String.join records).utf8ByteSize

@[simp] theorem bytesOf_nil : bytesOf [] = 0 := rfl

@[simp] theorem bytesOf_cons (record : String) (rest : List String) :
    bytesOf (record :: rest) = record.utf8ByteSize + bytesOf rest := by
  simp [bytesOf]

@[simp] theorem bytesOf_append (first second : List String) :
    bytesOf (first ++ second) = bytesOf first + bytesOf second := by
  simp [bytesOf, String.join_append]

theorem bytesOf_le_of_sublist {some all : List String} (sub : some.Sublist all) :
    bytesOf some ≤ bytesOf all := by
  induction sub with
  | slnil => exact Nat.le_refl _
  | cons record _ ih =>
    rw [bytesOf_cons]
    exact Nat.le_add_left_of_le ih
  | cons_cons record _ ih =>
    rw [bytesOf_cons, bytesOf_cons]
    exact Nat.add_le_add_left ih _

def saturatingAdd (a b : UInt64) : UInt64 := if a + b < a then ~~~0 else a + b

/-- A batch on its way off a queue, with the number of records that were put into chunks and the
bytes in the open chunk. -/
structure Taking where
  queue : List String
  count : UInt64
  closed : List Chunk
  current : Chunk
  bytes : UInt64
  oversize : List String

namespace Taking

def start (queue : List String) : Taking := ⟨queue, 0, [], [], 0, []⟩

def makeRoom (limit : UInt64) (t : Taking) (more : UInt64) : Taking :=
  if limit < saturatingAdd t.bytes more then
    { t with
      closed := if t.current = [] then t.closed else t.closed ++ [t.current]
      current := []
      bytes := 0 }
  else t

def put (t : Taking) (record : String) : Taking :=
  { t with
    current := t.current ++ [record]
    bytes := t.bytes + record.utf8ByteSize.toUInt64
    count := t.count + 1 }

@[simp] theorem queue_makeRoom (limit : UInt64) (t : Taking) (more : UInt64) :
    (t.makeRoom limit more).queue = t.queue := by
  unfold makeRoom
  split <;> rfl

@[simp] theorem oversize_makeRoom (limit : UInt64) (t : Taking) (more : UInt64) :
    (t.makeRoom limit more).oversize = t.oversize := by
  unfold makeRoom
  split <;> rfl

@[simp] theorem count_makeRoom (limit : UInt64) (t : Taking) (more : UInt64) :
    (t.makeRoom limit more).count = t.count := by
  unfold makeRoom
  split <;> rfl

theorem bytes_makeRoom_le (limit : UInt64) (t : Taking) (more : UInt64) :
    (t.makeRoom limit more).bytes.toNat ≤ t.bytes.toNat := by
  unfold makeRoom
  split
  · exact Nat.zero_le _
  · exact Nat.le_refl _

/-- One pass: takes the next record unless the batch is complete or the queue empty. -/
def next? (size limit : UInt64) (t : Taking) : Option Taking :=
  if t.count < size then
    match t.queue with
    | [] => none
    | record :: queue =>
      let t := { t with queue := queue }
      if limit < record.utf8ByteSize.toUInt64 then
        some { t with oversize := t.oversize ++ [record] }
      else some ((t.makeRoom limit record.utf8ByteSize.toUInt64).put record)
  else none

def cut (t : Taking) : Cut where
  chunks := if t.current = [] then t.closed else t.closed ++ [t.current]
  oversize := t.oversize
  rest := t.queue

end Taking

def quota (size : UInt64) (queue : List String) : UInt64 := (min size.toNat queue.length).toUInt64

inductive Passes (size limit : UInt64) (queue : List String) : Nat → Taking → Prop
  | start : Passes size limit queue 0 (.start queue)
  | next {n : Nat} {t t' : Taking} : Passes size limit queue n t →
      t.next? (quota size queue) limit = some t' → Passes size limit queue (n + 1) t'

def packing (limit : Nat) (queue : List String) (n : Nat) : Packing :=
  ((queue.take n).filter (fits limit)).foldl (Packing.add limit) .empty

/-- The loop has the same chunks, closed and open, as a packing. -/
structure Packs (t : Taking) (p : Packing) : Prop where
  closed : t.closed = p.closed.reverse
  current : t.current = p.current.reverse
  bytes : t.bytes.toNat = p.bytes

/-- The loop after a number of passes has taken as many records, and has packed those that fit. -/
structure Mirrors (limit : UInt64) (queue : List String) (n : Nat) (t : Taking) : Prop where
  rest : t.queue = queue.drop n
  oversize : t.oversize = (queue.take n).filter fun record => !fits limit.toNat record
  count : t.count.toNat = ((queue.take n).filter (fits limit.toNat)).length
  packs : Packs t (packing limit.toNat queue n)

theorem mirrors_start (limit : UInt64) (queue : List String) :
    Mirrors limit queue 0 (.start queue) :=
  ⟨rfl, rfl, rfl, rfl, rfl, rfl⟩

theorem toNat_saturatingAdd (a b : UInt64) :
    (saturatingAdd a b).toNat = min (a.toNat + b.toNat) (UInt64.size - 1) := by
  have left := a.toNat_lt_size
  have right := b.toNat_lt_size
  have wrapped : (a + b).toNat = (a.toNat + b.toNat) % UInt64.size := UInt64.toNat_add a b
  have smaller : a + b < a ↔ (a + b).toNat < a.toNat := UInt64.lt_iff_toNat_lt
  have greatest : (~~~0 : UInt64).toNat = UInt64.size - 1 := by decide
  rw [wrapped] at smaller
  unfold saturatingAdd
  split
  · rename_i wraps
    rw [greatest]
    have wraps := smaller.mp wraps
    simp only [UInt64.size] at *
    omega
  · rename_i exact
    have exact := mt smaller.mpr exact
    rw [wrapped]
    simp only [UInt64.size] at *
    omega

theorem toNat_toUInt64 {n : Nat} (small : n < UInt64.size) : n.toUInt64.toNat = n :=
  UInt64.toNat_ofNat_of_lt' small

theorem toNat_add_of_lt {a b : UInt64} (small : a.toNat + b.toNat < UInt64.size) :
    (a + b).toNat = a.toNat + b.toNat := by
  have wrapped : (a + b).toNat = (a.toNat + b.toNat) % UInt64.size := UInt64.toNat_add a b
  rwa [Nat.mod_eq_of_lt small] at wrapped

theorem toNat_add_one_of_lt {a b : UInt64} (below : a < b) : (a + 1).toNat = a.toNat + 1 := by
  have less := UInt64.lt_iff_toNat_lt.mp below
  have bound := b.toNat_lt_size
  have one : (1 : UInt64).toNat = 1 := rfl
  rw [toNat_add_of_lt (by omega), one]

theorem toNat_quota (size : UInt64) (queue : List String) :
    (quota size queue).toNat = min size.toNat queue.length :=
  toNat_toUInt64 (Nat.lt_of_le_of_lt (Nat.min_le_left _ _) size.toNat_lt_size)

theorem sound_packing (limit : Nat) (queue : List String) (n : Nat) :
    (packing limit queue n).Sound limit :=
  (Packing.sound_empty limit).foldl_add le_of_mem_filter_fits

theorem flatten_packing (limit : Nat) (queue : List String) (n : Nat) :
    (packing limit queue n).chunks.flatten = (queue.take n).filter (fits limit) := by
  rw [packing, Packing.flatten_chunks_foldl_add]
  rfl

theorem Packing.sublist_chunks (p : Packing) : p.current.reverse.Sublist p.chunks.flatten := by
  unfold Packing.chunks
  split
  · rename_i none
    rw [none]
    exact List.nil_sublist _
  · simp

theorem Packs.put {limit : UInt64} {t : Taking} {p : Packing} {record : String} (packs : Packs t p)
    (sound : p.Sound limit.toNat) (fit : record.utf8ByteSize ≤ limit.toNat)
    (measured : p.bytes + record.utf8ByteSize < UInt64.size) :
    Packs ((t.makeRoom limit record.utf8ByteSize.toUInt64).put record) (p.add limit.toNat record) := by
  have more : record.utf8ByteSize.toUInt64.toNat = record.utf8ByteSize :=
    toNat_toUInt64 (Nat.lt_of_le_of_lt (Nat.le_add_left _ _) measured)
  have sum : (saturatingAdd t.bytes record.utf8ByteSize.toUInt64).toNat =
      p.bytes + record.utf8ByteSize := by
    rw [toNat_saturatingAdd, more, packs.bytes]
    omega
  have overflows : limit < saturatingAdd t.bytes record.utf8ByteSize.toUInt64 ↔
      limit.toNat < p.bytes + record.utf8ByteSize := by
    rw [UInt64.lt_iff_toNat_lt, sum]
  by_cases closes : limit.toNat < p.bytes + record.utf8ByteSize
  · have filling : t.current ≠ [] := by
      rw [packs.current]
      simpa using sound.filled_of_overflows fit closes
    rw [Packing.add, if_pos closes, Taking.makeRoom, if_pos (overflows.mpr closes), if_neg filling]
    constructor
    · simp [Taking.put, packs.closed, packs.current]
    · simp [Taking.put]
    · simp [Taking.put, more]
  · rw [Packing.add, if_neg closes, Taking.makeRoom, if_neg (mt overflows.mp closes)]
    constructor
    · exact packs.closed
    · simp [Taking.put, packs.current]
    · have small : t.bytes.toNat + record.utf8ByteSize.toUInt64.toNat < UInt64.size := by
        rw [more, packs.bytes]
        exact measured
      have exact := toNat_add_of_lt small
      rw [more, packs.bytes] at exact
      exact exact

section Next

variable {limit : UInt64} {queue rest : List String} {n : Nat} {record : String}

theorem take_succ_of_drop (shape : queue.drop n = record :: rest) :
    queue.take (n + 1) = queue.take n ++ [record] := by
  rw [List.take_add, shape]
  rfl

theorem drop_succ_of_drop (shape : queue.drop n = record :: rest) : queue.drop (n + 1) = rest := by
  rw [← List.drop_drop, shape]
  rfl

theorem packing_succ (limit : Nat) (shape : queue.drop n = record :: rest) :
    packing limit queue (n + 1) =
      if fits limit record then (packing limit queue n).add limit record
      else packing limit queue n := by
  rw [packing, take_succ_of_drop shape, List.filter_append, List.foldl_append]
  cases fit : fits limit record <;> simp [packing, fit]

theorem bytes_add_le (limit : Nat) (shape : queue.drop n = record :: rest) :
    (packing limit queue n).bytes + record.utf8ByteSize ≤ bytesOf queue := by
  have inside : (packing limit queue n).current.reverse.Sublist (queue.take n) := by
    have chunks := (packing limit queue n).sublist_chunks
    rw [flatten_packing] at chunks
    exact chunks.trans List.filter_sublist
  have both : ((packing limit queue n).current.reverse ++ [record]).Sublist queue := by
    have head := inside.append_right [record]
    rw [← take_succ_of_drop shape] at head
    exact head.trans (List.take_sublist _ _)
  have bytes := bytesOf_le_of_sublist both
  rw [bytesOf_append, bytesOf_cons, bytesOf_nil, Nat.add_zero] at bytes
  rw [(sound_packing limit queue n).bytes]
  exact bytes

theorem Mirrors.next {t : Taking} {size : UInt64} (measured : bytesOf queue < UInt64.size)
    (mirrors : Mirrors limit queue n t) (shape : queue.drop n = record :: rest) (room : t.count < size) :
    ∃ t', t.next? size limit = some t' ∧ Mirrors limit queue (n + 1) t' := by
  have next : t.queue = record :: rest := mirrors.rest.trans shape
  have bytes := bytes_add_le limit.toNat shape
  have more : record.utf8ByteSize.toUInt64.toNat = record.utf8ByteSize :=
    toNat_toUInt64 (by omega)
  have tooLong : limit < record.utf8ByteSize.toUInt64 ↔ fits limit.toNat record = false := by
    rw [UInt64.lt_iff_toNat_lt, more, fits, decide_eq_false_iff_not, Nat.not_le]
  rw [Taking.next?, if_pos room, next]
  cases fit : fits limit.toNat record with
  | false =>
    refine ⟨_, if_pos (tooLong.mpr fit), ?_⟩
    constructor
    · exact (drop_succ_of_drop shape).symm
    · simp [take_succ_of_drop shape, mirrors.oversize, fit]
    · simp [take_succ_of_drop shape, mirrors.count, fit]
    · rw [packing_succ _ shape, if_neg (by simp [fit])]
      exact ⟨mirrors.packs.closed, mirrors.packs.current, mirrors.packs.bytes⟩
  | true =>
    refine ⟨_, if_neg (by simp [tooLong, fit]), ?_⟩
    have kept : Packs { t with queue := rest } (packing limit.toNat queue n) :=
      ⟨mirrors.packs.closed, mirrors.packs.current, mirrors.packs.bytes⟩
    have counted := toNat_add_one_of_lt room
    constructor
    · simp [Taking.put, drop_succ_of_drop shape]
    · simp [Taking.put, take_succ_of_drop shape, mirrors.oversize, fit]
    · simp [Taking.put, take_succ_of_drop shape, mirrors.count, counted, fit]
    · rw [packing_succ _ shape, if_pos fit]
      exact kept.put (sound_packing _ _ _) (of_decide_eq_true fit) (by omega)

end Next

section Passes

variable {size limit : UInt64} {queue : List String} {n : Nat} {t : Taking}

theorem lt_reach_iff_quota (size : UInt64) (limit : Nat) (queue : List String) (n : Nat) :
    n < reach limit size.toNat queue 0 ↔
      n < queue.length ∧ ((queue.take n).filter (fits limit)).length < (quota size queue).toNat := by
  have fitting := List.length_filter_le (fits limit) (queue.take n)
  rw [List.length_take] at fitting
  rw [lt_reach_iff, toNat_quota]
  omega

private theorem Mirrors.room_iff (mirrors : Mirrors limit queue n t) :
    t.count < quota size queue ↔
      ((queue.take n).filter (fits limit.toNat)).length < (quota size queue).toNat := by
  rw [UInt64.lt_iff_toNat_lt, mirrors.count]

private theorem Mirrors.next_of_lt (measured : bytesOf queue < UInt64.size)
    (mirrors : Mirrors limit queue n t) (within : n < reach limit.toNat size.toNat queue 0) :
    ∃ t', t.next? (quota size queue) limit = some t' ∧ Mirrors limit queue (n + 1) t' := by
  obtain ⟨more, room⟩ := (lt_reach_iff_quota size limit.toNat queue n).mp within
  exact mirrors.next measured (List.drop_eq_getElem_cons more) (mirrors.room_iff.mpr room)

private theorem Mirrors.next_of_le (mirrors : Mirrors limit queue n t)
    (behind : reach limit.toNat size.toNat queue 0 ≤ n) :
    t.next? (quota size queue) limit = none := by
  have beyond := Nat.not_lt.mpr behind
  rw [lt_reach_iff_quota, ← mirrors.room_iff] at beyond
  rw [Taking.next?]
  split
  · rename_i room
    have ended : queue.length ≤ n := by
      by_contra more
      exact beyond ⟨Nat.not_le.mp more, room⟩
    rw [mirrors.rest, List.drop_eq_nil_of_le ended]
  · rfl

theorem Passes.mirrors (measured : bytesOf queue < UInt64.size) (passes : Passes size limit queue n t) :
    Mirrors limit queue n t ∧ n ≤ reach limit.toNat size.toNat queue 0 := by
  induction passes with
  | start => exact ⟨mirrors_start limit queue, Nat.zero_le _⟩
  | @next n t t' _ goes ih =>
    rcases Nat.lt_or_ge n (reach limit.toNat size.toNat queue 0) with within | behind
    · obtain ⟨next, same, mirrors⟩ := ih.1.next_of_lt measured within
      obtain rfl := Option.some.inj (same.symm.trans goes)
      exact ⟨mirrors, within⟩
    · rw [ih.1.next_of_le behind] at goes
      cases goes

theorem exists_passes (measured : bytesOf queue < UInt64.size)
    (within : n ≤ reach limit.toNat size.toNat queue 0) : ∃ t, Passes size limit queue n t := by
  induction n with
  | zero => exact ⟨_, .start⟩
  | succ n ih =>
    obtain ⟨t, passes⟩ := ih (Nat.le_of_succ_le within)
    obtain ⟨t', goes, -⟩ := (passes.mirrors measured).1.next_of_lt measured within
    exact ⟨t', passes.next goes⟩

private theorem Packs.chunks_cut {p : Packing} (packs : Packs t p) : t.cut.chunks = p.chunks := by
  obtain ⟨closed, current, bytes⟩ := p
  cases current <;> simp [Taking.cut, Packing.chunks, packs.closed, packs.current]

theorem Mirrors.cut_eq (mirrors : Mirrors limit queue (reach limit.toNat size.toNat queue 0) t) :
    t.cut = cut size.toNat limit.toNat queue := by
  have parts : t.cut = ⟨t.cut.chunks, t.oversize, t.queue⟩ := rfl
  rw [parts, mirrors.packs.chunks_cut, mirrors.oversize, mirrors.rest, cut, List.splitAt_eq]
  rfl

end Passes

/-- A head of a queue that holds as many records that fit as there are to be in a batch, or else all of
the queue. -/
structure Suffices (size limit : Nat) (queue head : List String) : Prop where
  leads : head <+: queue
  holds : (head.filter (fits limit)).length = min size queue.length ∨ head = queue

structure Shortest (size limit : Nat) (queue head : List String) : Prop where
  ample : Suffices size limit queue head
  least : ∀ other, Suffices size limit queue other → head <+: other

theorem shortest_take_reach (size limit : Nat) (queue : List String) :
    Shortest size limit queue (queue.take (reach limit size queue 0)) := by
  have within := reach_le_length limit size queue
  constructor
  · refine ⟨List.take_prefix _ _, ?_⟩
    have enough := mt (lt_reach_iff limit size queue _).mpr (Nat.lt_irrefl (reach limit size queue 0))
    have few := length_chunks_le size limit queue
    have fitting := List.length_filter_le (fits limit) (queue.take (reach limit size queue 0))
    rw [flatten_chunks_cut] at few
    rw [List.length_take] at fitting
    rcases Nat.lt_or_ge (reach limit size queue 0) queue.length with before | whole
    · left
      omega
    · right
      exact List.take_of_length_le whole
  · intro other ample
    refine List.prefix_of_prefix_length_le (List.take_prefix _ _) ample.leads ?_
    have same : queue.take other.length = other := (List.prefix_iff_eq_take.mp ample.leads).symm
    by_contra shorter
    rw [List.length_take, Nat.min_eq_left within, Nat.not_le, lt_reach_iff, same] at shorter
    rcases ample.holds with enough | whole
    · have fitting := List.length_filter_le (fits limit) other
      omega
    · rw [whole] at shorter
      exact Nat.lt_irrefl _ shorter.1

/-- The loop over a queue takes its head, one record with each pass, and comes to an end with a cut. -/
structure Looped (size limit : UInt64) (queue head : List String) (cut : Cut) : Prop where
  ends : ∃ last, Passes size limit queue head.length last ∧
    last.next? (quota size queue) limit = none ∧ last.cut = cut
  bounded : ∀ n t, Passes size limit queue n t → n ≤ head.length
  bytes : ∀ n t, Passes size limit queue n t → t.bytes.toNat = bytesOf t.current
  unwrapped : ∀ n t record rest, Passes size limit queue n t → t.queue = record :: rest →
    (t.makeRoom limit record.utf8ByteSize.toUInt64).bytes.toNat + record.utf8ByteSize < UInt64.size

theorem looped_cut {size limit : UInt64} {queue : List String}
    (measured : bytesOf queue < UInt64.size) :
    Looped size limit queue (queue.take (reach limit.toNat size.toNat queue 0))
      (cut size.toNat limit.toNat queue) := by
  have length : (queue.take (reach limit.toNat size.toNat queue 0)).length =
      reach limit.toNat size.toNat queue 0 := by
    rw [List.length_take, Nat.min_eq_left (reach_le_length _ _ _)]
  constructor
  · rw [length]
    obtain ⟨last, passes⟩ : ∃ last,
        Passes size limit queue (reach limit.toNat size.toNat queue 0) last :=
      exists_passes measured (Nat.le_refl _)
    have mirrors := (passes.mirrors measured).1
    exact ⟨last, passes, mirrors.next_of_le (Nat.le_refl _), mirrors.cut_eq⟩
  · intro n t passes
    rw [length]
    exact (passes.mirrors measured).2
  · intro n t passes
    have packs := (passes.mirrors measured).1.packs
    rw [packs.bytes, packs.current]
    exact (sound_packing _ _ _).bytes
  · intro n t record rest passes next
    have mirrors := (passes.mirrors measured).1
    have held := bytes_add_le limit.toNat (mirrors.rest.symm.trans next)
    have less := Taking.bytes_makeRoom_le limit t record.utf8ByteSize.toUInt64
    rw [mirrors.packs.bytes] at less
    omega

/-- A batch off a buffer is exact, by the head that it takes off the queue. -/
structure Exact (size limit : UInt64) (b : Buffer) (head : List String) : Prop where
  shortest : Shortest size.toNat limit.toNat b.records head
  looped : Looped size limit b.records head (b.takeBatch size.toNat limit.toNat).1
  leaves : b.records = head ++ (b.takeBatch size.toNat limit.toNat).2.records
  dropped : (b.takeBatch size.toNat limit.toNat).2.tally.dropped =
    b.tally.dropped + (head.filter fun record => limit.toNat < record.utf8ByteSize).length
  reads : (b.takeBatch size.toNat limit.toNat).1.chunks.flatten =
    head.filter fun record => record.utf8ByteSize ≤ limit.toNat
  deliverable : ∀ chunk ∈ (b.takeBatch size.toNat limit.toNat).1.chunks,
    Deliverable limit.toNat chunk
  tight : (b.takeBatch size.toNat limit.toNat).1.chunks.IsChain (Overflows limit.toNat)

end Batch

/-- Any batch is exact, as long as all queued records together have fewer bytes than a word can
count. -/
theorem Buffer.takeBatch_exact (b : Buffer) (size limit : UInt64)
    (measured : Batch.bytesOf b.records < UInt64.size) : ∃ head, Batch.Exact size limit b head := by
  refine ⟨b.records.take (Batch.reach limit.toNat size.toNat b.records 0), ?_⟩
  constructor
  · exact Batch.shortest_take_reach _ _ _
  · exact Batch.looped_cut measured
  · rw [b.records_takeBatch, Batch.rest_cut, List.take_append_drop]
  · have tooLong : (fun record : String => decide (limit.toNat < record.utf8ByteSize)) =
        fun record => !Batch.fits limit.toNat record := by
      funext record
      rw [Batch.fits, ← decide_not, decide_eq_decide, Nat.not_le]
    rw [tooLong, ← Batch.oversize_cut]
    rfl
  · exact Batch.flatten_chunks_cut _ _ _
  · intro chunk member
    exact Batch.deliverable_of_mem_chunks member
  · exact Batch.isChain_chunks _ _ _

def Buffer.ofFive : Buffer where
  capacity := 8
  queue := .ofList ["aa", "bbbbb", "", "cc", "d"]
  bounded := by decide
  disabled := false
  tally := .zero

theorem Buffer.ofFive_exact :
    Batch.bytesOf Buffer.ofFive.records < UInt64.size ∧ ∃ head, Batch.Exact 3 3 Buffer.ofFive head := by
  have measured : Batch.bytesOf Buffer.ofFive.records < UInt64.size := by decide +kernel
  exact ⟨measured, Buffer.ofFive.takeBatch_exact 3 3 measured⟩

end TelemetrySender
