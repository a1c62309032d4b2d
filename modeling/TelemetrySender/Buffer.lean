import TelemetrySender.Batch
import TelemetrySender.Kind
import TelemetrySender.Queue
import TelemetrySender.Tally

/-!
The buffer of one kind: a bounded queue of records, what was counted about them, and whether the
kind is switched off.  A record that finds no room is counted as dropped.
-/

set_option autoImplicit false
set_option relaxedAutoImplicit false

namespace TelemetrySender

/-- The queue and the counts of one kind.  The queue never outgrows its capacity, and a kind that
was switched off stays so. -/
structure Buffer where
  capacity : Nat
  queue : Queue String
  bounded : queue.size ≤ capacity
  disabled : Bool
  tally : Tally

namespace Buffer

def new (capacity : Nat) : Buffer :=
  ⟨capacity, Queue.empty, Nat.zero_le _, false, Tally.zero⟩

def records (b : Buffer) : List String := b.queue.toList

def room (b : Buffer) : Nat := b.capacity - b.queue.size

def count (b : Buffer) (f : Tally → Tally) : Buffer := { b with tally := f b.tally }

def drop (b : Buffer) (count : Nat) : Buffer := b.count (·.addDropped count)

def offer (b : Buffer) (record : String) : Bool × Buffer :=
  if free : b.queue.size < b.capacity then
    (true, { b with queue := b.queue.push record, bounded := free })
  else (false, b.drop 1)

/-- Puts records back behind all others one by one, up to the first that finds no room; that one and
all behind it are lost. -/
def requeue (b : Buffer) : Chunk → Chunk × Buffer
  | [] => ([], b)
  | record :: rest =>
    if free : b.queue.size < b.capacity then
      requeue { b with queue := b.queue.push record, bounded := free } rest
    else (record :: rest, b.drop (record :: rest).length)

def disable (b : Buffer) (kind : Kind) : Bool × Buffer :=
  if kind.canDisable then (true, { b with disabled := true }) else (false, b)

private theorem size_rest_cut (b : Buffer) (size limit : Nat) :
    (Queue.ofList (Batch.cut size limit b.queue.toList).rest).size ≤ b.capacity := by
  have bounded := b.bounded
  rw [Queue.size_eq_length] at bounded
  rw [Queue.size_ofList, Batch.rest_cut, List.length_drop]
  omega

/-- Takes a batch off the queue; records longer than `limit` are counted as dropped. -/
def takeBatch (b : Buffer) (size limit : Nat) : Batch.Cut × Buffer :=
  let cut := Batch.cut size limit b.queue.toList
  (cut, { b with
    queue := Queue.ofList cut.rest
    bounded := size_rest_cut b size limit }.drop cut.oversize.length)

def pop (b : Buffer) : Option String × Buffer :=
  match popped : b.queue.pop? with
  | some (record, queue) =>
    (some record, { b with
      queue := queue
      bounded := Nat.le_trans (Queue.size_le_of_pop? popped) b.bounded })
  | none => (none, b)

def gauge (b : Buffer) : Buffer := b.count (·.gauge b.queue.size b.capacity)

theorem size_eq_length (b : Buffer) : b.queue.size = b.records.length :=
  b.queue.size_eq_length

theorem length_records_le (b : Buffer) : b.records.length ≤ b.capacity :=
  b.size_eq_length ▸ b.bounded

@[simp] theorem records_count (b : Buffer) (f : Tally → Tally) :
    (b.count f).records = b.records := rfl

@[simp] theorem records_drop (b : Buffer) (count : Nat) : (b.drop count).records = b.records := rfl

theorem offer_of_lt {b : Buffer} (record : String) (free : b.queue.size < b.capacity) :
    b.offer record = (true, { b with queue := b.queue.push record, bounded := free }) := by
  rw [offer, dif_pos free]

theorem offer_of_le {b : Buffer} (record : String) (full : b.capacity ≤ b.queue.size) :
    b.offer record = (false, b.drop 1) := by
  rw [offer, dif_neg (Nat.not_lt.2 full)]

theorem room_push {b : Buffer} (record : String) (free : b.queue.size < b.capacity) :
    b.room = room { b with queue := b.queue.push record, bounded := free } + 1 := by
  change b.capacity - b.queue.size = b.capacity - (b.queue.size + 1) + 1
  omega

private theorem size_append_take_room (b : Buffer) (records : Chunk) :
    (b.queue.append (records.take b.room)).size ≤ b.capacity := by
  have bounded := b.bounded
  rw [Queue.size_append, List.length_take, room]
  omega

theorem requeue_eq (b : Buffer) (records : Chunk) :
    b.requeue records = (records.drop b.room, { b with
      queue := b.queue.append (records.take b.room)
      bounded := size_append_take_room b records }.drop (records.drop b.room).length) := by
  induction records generalizing b with
  | nil =>
    simp only [List.take_nil, List.drop_nil]
    rfl
  | cons record rest ih =>
    rw [requeue]
    split
    · rename_i free
      simp only [ih, room_push record free, List.drop_succ_cons, List.take_succ_cons]
      rfl
    · rename_i full
      have none : b.room = 0 := Nat.sub_eq_zero_of_le (Nat.le_of_not_lt full)
      simp only [none, List.drop_zero, List.take_zero]
      rfl

theorem lost_requeue (b : Buffer) (records : Chunk) :
    (b.requeue records).1 = records.drop b.room := by
  rw [requeue_eq]

theorem records_requeue (b : Buffer) (records : Chunk) :
    (b.requeue records).2.records = b.records ++ records.take b.room := by
  rw [requeue_eq]
  exact b.queue.toList_append (records.take b.room)

theorem capacity_requeue (b : Buffer) (records : Chunk) :
    (b.requeue records).2.capacity = b.capacity := by
  rw [requeue_eq]
  rfl

theorem disabled_requeue (b : Buffer) (records : Chunk) :
    (b.requeue records).2.disabled = b.disabled := by
  rw [requeue_eq]
  rfl

theorem tally_requeue (b : Buffer) (records : Chunk) :
    (b.requeue records).2.tally = b.tally.addDropped (records.drop b.room).length := by
  rw [requeue_eq]
  rfl

theorem records_takeBatch (b : Buffer) (size limit : Nat) :
    (b.takeBatch size limit).2.records = (Batch.cut size limit b.records).rest :=
  Queue.toList_ofList _

end Buffer

end TelemetrySender
