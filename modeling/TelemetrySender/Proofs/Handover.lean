import TelemetrySender.Proofs.Course

/-!
A batch as a course of deeds.  Its chunks are handed over one by one until a delivery fails or
switches the kind off; the chunks behind that are given up.  Since the batch made the room, every
rejected chunk finds its way back into the queue, so the deeds of a batch tell all of its course.
-/

set_option autoImplicit false
set_option relaxedAutoImplicit false

namespace TelemetrySender

variable {σ : Type}

/-- The deliveries that come of handing over all chunks of a batch one after the other. -/
def Transport.attempts (t : Transport σ) (k : Kind) (closing : Bool) :
    List Chunk → σ → List Delivery
  | [], _ => []
  | chunk :: rest, link =>
    let answer := t.report k (String.join chunk) link
    ⟨k, chunk, closing, answer.1⟩ :: attempts t k closing rest answer.2

namespace Delivery

def ends (d : Delivery) : Bool := d.failed || d.switchesOff

/-- Of all deliveries that could be tried, those that are. -/
def handedOver (off : Bool) (attempts : List Delivery) : List Delivery :=
  if off then [] else attempts.take (attempts.findIdx ends + 1)

theorem handedOver_cons (d : Delivery) (rest : List Delivery) :
    handedOver false (d :: rest) = d :: if d.ends then [] else handedOver false rest := by
  cases last : d.ends <;> simp [handedOver, List.findIdx_cons, last]

theorem fate (d : Delivery) :
    (d.succeeded = true ∧ d.returns = false ∧ d.ends = false) ∨
      (d.succeeded = false ∧ d.returns = true ∧ d.ends = false) ∨
      (d.succeeded = false ∧ d.returns = false ∧ d.ends = true) := by
  cases answer : d.outcome with
  | error fault =>
    simp [succeeded, returns, ends, failed, fault?, status?, answer]
  | ok status =>
    have arrived := succeeded_iff answer
    have back := returns_iff answer
    have off := switchesOff_iff answer
    have well : d.failed = false := by simp [failed, fault?, answer]
    rw [ends, well, Bool.false_or]
    simp only [← Bool.not_eq_true, arrived, back, off]
    cases Verdict.ofStatus d.kind status <;> simp

theorem fate_of_succeeded {d : Delivery} (succeeded : d.succeeded = true) :
    d.returns = false ∧ d.ends = false := by
  rcases d.fate with ⟨-, stays, goes⟩ | ⟨no, -, -⟩ | ⟨no, -, -⟩
  · exact ⟨stays, goes⟩
  · exact absurd succeeded (by simp [no])
  · exact absurd succeeded (by simp [no])

theorem follow_deeds (t : Transport σ) (d : Delivery) (link : σ) :
    d.deeds.foldl t.follow link = t.follow link (.reported d) := by
  unfold deeds
  split_ifs <;> rfl

theorem switchesOff_deeds (d : Delivery) : d.deeds.any Event.switchesOff = d.switchesOff := by
  unfold deeds
  split_ifs <;> simp [Event.switchesOff]

end Delivery

namespace Sender

def nextBatch (s : Sender σ) (k : Kind) : Batch.Cut :=
  Batch.cut s.limits.batchSize s.limits.messageSize (s.queued k)

def batchReach (s : Sender σ) (k : Kind) : Nat :=
  Batch.reach s.limits.messageSize s.limits.batchSize (s.queued k) 0

theorem rest_nextBatch (s : Sender σ) (k : Kind) :
    (s.nextBatch k).rest = (s.queued k).drop (s.batchReach k) :=
  Batch.rest_cut _ _ _

def handed (s : Sender σ) (k : Kind) (chunks : List Chunk) : List Delivery :=
  Delivery.handedOver (s.buffer k).disabled (s.transport.attempts k s.closing chunks s.link)

def chunkDeeds (s : Sender σ) (k : Kind) (chunks : List Chunk) : List Event :=
  let handed := s.handed k chunks
  handed.flatMap Delivery.deeds ++ (chunks.drop handed.length).map
    (.lost k (if handed.any Delivery.failed then .broken else .discarded))

/-- The deeds that the next batch of a kind leads to. -/
def batchDeeds (s : Sender σ) (k : Kind) : List Event :=
  (s.nextBatch k).oversize.map (fun record => .lost k .oversize [record]) ++
    s.chunkDeeds k (s.nextBatch k).chunks

end Sender

namespace Course

variable {k : Kind} {taken : Nat} {events : List Event} {s t : Sender σ}

private theorem foldl_broken (fault : Fault) (chunks : List Chunk) (s : Sender σ) :
    Course k 0 (chunks.map (.lost k .broken)) s
        (chunks.foldl (Sender.deliverChunk k) (some fault, s)).2 ∧
      (chunks.foldl (Sender.deliverChunk k) (some fault, s)).1 = some fault := by
  induction chunks generalizing s with
  | nil => exact ⟨refl k s, rfl⟩
  | cons chunk rest ih =>
    obtain ⟨course, same⟩ := ih (s.lose k .broken chunk)
    exact ⟨(lose k .broken chunk s).trans course, same⟩

private theorem foldl_discarded (chunks : List Chunk) (s : Sender σ)
    (off : (s.buffer k).disabled = true) :
    Course k 0 (chunks.map (.lost k .discarded)) s
        (chunks.foldl (Sender.deliverChunk k) (none, s)).2 ∧
      (chunks.foldl (Sender.deliverChunk k) (none, s)).1 = none := by
  induction chunks generalizing s with
  | nil => exact ⟨refl k s, rfl⟩
  | cons chunk rest ih =>
    have step := (say k s (.discarding k)).trans (lose k .discarded chunk _)
    have stays : (((s.say (.discarding k)).lose k .discarded chunk).buffer k).disabled = true := by
      rw [step.disabled, off, Bool.true_or]
    obtain ⟨course, same⟩ := ih _ stays
    rw [List.foldl_cons]
    simp only [Sender.deliverChunk, off, if_true]
    exact ⟨step.trans course, same⟩

private theorem handed_of_off (off : (s.buffer k).disabled = true) (chunks : List Chunk) :
    s.handed k chunks = [] := by
  rw [Sender.handed, Delivery.handedOver, if_pos off]

private theorem attempts_cons (s : Sender σ) (k : Kind) (chunk : Chunk) (rest : List Chunk) :
    s.transport.attempts k s.closing (chunk :: rest) s.link =
      s.attempt k chunk :: s.transport.attempts k s.closing rest
        (s.transport.report k (String.join chunk) s.link).2 := rfl

private theorem handed_cons_of_ends {chunk : Chunk} (on : (s.buffer k).disabled = false)
    (last : (s.attempt k chunk).ends = true) (rest : List Chunk) :
    s.handed k (chunk :: rest) = [s.attempt k chunk] := by
  rw [Sender.handed, on, attempts_cons, Delivery.handedOver_cons, if_pos last]

private theorem handed_cons {chunk : Chunk} (on : (s.buffer k).disabled = false)
    (course : Course k 0 (s.attempt k chunk).deeds s t) (goes : (s.attempt k chunk).ends = false)
    (rest : List Chunk) : s.handed k (chunk :: rest) = s.attempt k chunk :: t.handed k rest := by
  have stays : (t.buffer k).disabled = false := by
    rw [course.disabled, on, Delivery.switchesOff_deeds, Bool.false_or]
    simp only [Delivery.ends, Bool.or_eq_false_iff] at goes
    exact goes.2
  have link : t.link = (s.transport.report k (String.join chunk) s.link).2 := by
    rw [course.link, Delivery.follow_deeds]
    rfl
  rw [Sender.handed, Sender.handed, on, stays, course.transport, course.closing, link,
    attempts_cons, Delivery.handedOver_cons, if_neg (by simpa using goes)]

private theorem length_returnedOf_deeds_le (d : Delivery) :
    (d.deeds.flatMap (Event.returnedOf k)).length ≤ d.records.length := by
  unfold Delivery.deeds
  split_ifs <;> simp only [List.flatMap_cons, List.flatMap_nil, Event.returnedOf,
    List.append_nil] <;> split_ifs <;> simp

private theorem foldl_ended {chunk : Chunk} (course : Course k 0 (s.attempt k chunk).deeds s t)
    (last : (s.attempt k chunk).ends = true) (rest : List Chunk) :
    Course k 0 ((s.attempt k chunk).deeds ++ rest.map
        (.lost k (if (s.attempt k chunk).failed then .broken else .discarded))) s
        (rest.foldl (Sender.deliverChunk k) ((s.attempt k chunk).fault?, t)).2 ∧
      (rest.foldl (Sender.deliverChunk k) ((s.attempt k chunk).fault?, t)).1 =
        (s.attempt k chunk).fault? := by
  cases fault : (s.attempt k chunk).fault? with
  | some f =>
    have failed : (s.attempt k chunk).failed = true := by simp [Delivery.failed, fault]
    obtain ⟨later, same⟩ := foldl_broken (k := k) f rest t
    rw [if_pos failed]
    exact ⟨course.trans later, same⟩
  | none =>
    have well : (s.attempt k chunk).failed = false := by simp [Delivery.failed, fault]
    have switches : (s.attempt k chunk).switchesOff = true := by
      rwa [Delivery.ends, well, Bool.false_or] at last
    have off : (t.buffer k).disabled = true := by
      rw [course.disabled, Delivery.switchesOff_deeds, switches, Bool.or_true]
    obtain ⟨later, same⟩ := foldl_discarded rest t off
    rw [well, if_neg Bool.false_ne_true]
    exact ⟨course.trans later, same⟩

private theorem room_behind {chunk : Chunk} {rest : List Chunk}
    (course : Course k 0 (s.attempt k chunk).deeds s t)
    (room : (s.queued k).length + (chunk.length + rest.flatten.length) ≤ (s.buffer k).capacity) :
    (t.queued k).length + rest.flatten.length ≤ (t.buffer k).capacity := by
  have back := length_returnedOf_deeds_le (k := k) (s.attempt k chunk)
  change _ ≤ chunk.length at back
  rw [course.queued, course.capacity, List.drop_zero, List.length_append]
  omega

/-- Some chunks of a kind, with room to take them all back. -/
theorem chunks (chunks : List Chunk) (s : Sender σ)
    (room : (s.queued k).length + chunks.flatten.length ≤ (s.buffer k).capacity) :
    Course k 0 (s.chunkDeeds k chunks) s
        (chunks.foldl (Sender.deliverChunk k) (none, s)).2 ∧
      (chunks.foldl (Sender.deliverChunk k) (none, s)).1 =
        (s.handed k chunks).findSome? Delivery.fault? := by
  -- What carries the induction is the room: a chunk that goes back takes no more than it had left.
  induction chunks generalizing s with
  | nil =>
    have none : s.handed k [] = [] := by
      cases on : (s.buffer k).disabled <;> simp [Sender.handed, Delivery.handedOver, on,
        Transport.attempts]
    simp only [Sender.chunkDeeds, none]
    exact ⟨refl k s, rfl⟩
  | cons chunk rest ih =>
    rw [List.flatten_cons, List.length_append] at room
    cases on : (s.buffer k).disabled with
    | true =>
      have none := handed_of_off on (chunk :: rest)
      simp only [Sender.chunkDeeds, none]
      exact foldl_discarded (chunk :: rest) s on
    | false =>
      have fits : chunk.length ≤ (s.buffer k).room := by
        rw [Buffer.room, Buffer.size_eq_length]
        change (s.buffer k).records.length + _ ≤ _ at room
        omega
      obtain ⟨course, fault⟩ := hand (s := s) fits
      have step : Sender.deliverChunk k (none, s) chunk =
          ((s.attempt k chunk).fault?, (s.hand k chunk).2) := by
        rw [← fault]
        simp [Sender.deliverChunk, on]
      rw [List.foldl_cons, step]
      cases last : (s.attempt k chunk).ends with
      | true =>
        have alone := handed_cons_of_ends on last rest
        obtain ⟨all, same⟩ := foldl_ended course last rest
        simp only [Sender.chunkDeeds, alone, List.flatMap_singleton, List.length_singleton,
          List.drop_succ_cons, List.drop_zero, List.any_cons, List.any_nil, Bool.or_false]
        exact ⟨all, by simp [same]⟩
      | false =>
        have well : (s.attempt k chunk).failed = false := by
          simp only [Delivery.ends, Bool.or_eq_false_iff] at last
          exact last.1
        have none : (s.attempt k chunk).fault? = none := by simpa [Delivery.failed] using well
        obtain ⟨later, same⟩ := ih _ (room_behind course room)
        simp only [Sender.chunkDeeds, handed_cons on course last rest, List.flatMap_cons,
          List.length_cons, List.drop_succ_cons, List.any_cons, well, Bool.false_or,
          List.append_assoc, none]
        exact ⟨course.trans later, by simp [same, none]⟩

private theorem foldl_oversize (k : Kind) (records : List String) (s : Sender σ) :
    ∃ window journal,
      records.foldl (fun s r =>
          (s.record (.lost k .oversize [r])).say (.oversize s.limits.messageSize r)) s =
        { s with window := window, journal := journal } ∧
      (journal.filter Event.isDeed).reverse =
        s.deeds ++ records.map (fun r => .lost k .oversize [r]) := by
  induction records generalizing s with
  | nil => exact ⟨s.window, s.journal, rfl, by simp [Sender.deeds]⟩
  | cons r rest ih =>
    obtain ⟨window, journal, shape, deeds⟩ :=
      ih ((s.record (.lost k .oversize [r])).say (.oversize s.limits.messageSize r))
    refine ⟨window, journal, ?_, ?_⟩
    · rw [List.foldl_cons, shape]
      obtain ⟨w, quiet | logged⟩ :=
        (s.record (.lost k .oversize [r])).say_cases (.oversize s.limits.messageSize r)
      · rw [quiet]
        rfl
      · rw [logged]
        rfl
    · rw [deeds, Sender.deeds_say, Sender.deeds_record rfl]
      simp

private theorem foldl_count_oversize (k : Kind) (records : List String) (t : Tally) :
    (records.map fun r => Event.lost k .oversize [r]).foldl Event.count t =
      t.addDropped records.length := by
  induction records generalizing t with
  | nil => rfl
  | cons r rest ih =>
    rw [List.map_cons, List.foldl_cons, ih]
    change (t.addDropped 1).addDropped rest.length = _
    rw [Tally.addDropped_addDropped, List.length_cons, Nat.add_comm]

private theorem foldl_follow_oversize (transport : Transport σ) (k : Kind) (records : List String)
    (link : σ) :
    (records.map fun r => Event.lost k .oversize [r]).foldl transport.follow link = link := by
  induction records with
  | nil => rfl
  | cons r rest ih => exact ih

theorem takeBatch (s : Sender σ) (k : Kind) :
    Course k (s.batchReach k) ((s.nextBatch k).oversize.map fun r => .lost k .oversize [r]) s
      (s.takeBatch k).2 := by
  let taken := (s.buffer k).takeBatch s.limits.batchSize s.limits.messageSize
  obtain ⟨window, journal, shape, deeds⟩ := foldl_oversize k (s.nextBatch k).oversize
    (s.setBuffer k taken.2)
  have result : (s.takeBatch k).2 =
      { s.setBuffer k taken.2 with window := window, journal := journal } := shape
  have other (j : Kind) : (s.takeBatch k).2.buffer j = (s.setBuffer k taken.2).buffer j := by
    rw [result]
    rfl
  exact {
    setup := by rw [result]; rfl
    closing := by rw [result]; rfl
    about := by simp [Event.kind?]
    deeds := by rw [result]; exact deeds
    link := by rw [foldl_follow_oversize, result]; rfl
    others := by
      intro j ne
      rw [other, Sender.buffer_setBuffer_of_ne _ _ ne]
    capacity := by rw [other, Sender.buffer_setBuffer_self]; rfl
    queued := by
      rw [Sender.queued, other, Sender.buffer_setBuffer_self]
      simp only [taken, Buffer.records_takeBatch, Batch.rest_cut]
      simp [Event.returnedOf, Sender.queued, Sender.batchReach]
    disabled := by
      rw [other, Sender.buffer_setBuffer_self]
      simp [taken, Buffer.takeBatch, Buffer.drop, Buffer.count, Event.switchesOff]
    counts := by
      rw [other, Sender.buffer_setBuffer_self, foldl_count_oversize]
      rfl }

private theorem handed_congr (transport : t.transport = s.transport) (closing : t.closing = s.closing)
    (link : t.link = s.link) (disabled : (t.buffer k).disabled = (s.buffer k).disabled)
    (chunks : List Chunk) : t.handed k chunks = s.handed k chunks := by
  rw [Sender.handed, Sender.handed, transport, closing, link, disabled]

/-- A batch is delivered: whatever the transport answers, all that goes back finds room, since the
batch made it. -/
theorem deliver (s : Sender σ) (k : Kind) :
    Course k (s.batchReach k) (s.batchDeeds k) s (s.deliver k).2 ∧
      (s.deliver k).1 = (s.handed k (s.nextBatch k).chunks).findSome? Delivery.fault? := by
  have taking := takeBatch s k
  have same : (s.takeBatch k).2.handed k (s.nextBatch k).chunks =
      s.handed k (s.nextBatch k).chunks := by
    refine handed_congr taking.transport taking.closing ?_ ?_ _
    · rw [taking.link, foldl_follow_oversize]
    · rw [taking.disabled]
      simp [Event.switchesOff]
  have room : ((s.takeBatch k).2.queued k).length + (s.nextBatch k).chunks.flatten.length ≤
      ((s.takeBatch k).2.buffer k).capacity := by
    have dealt := Batch.length_cut s.limits.batchSize s.limits.messageSize (s.queued k)
    have bounded := (s.buffer k).length_records_le
    have left : (s.takeBatch k).2.queued k = (s.nextBatch k).rest := by
      rw [taking.queued, Sender.rest_nextBatch]
      simp [Event.returnedOf]
    change (s.queued k).length ≤ _ at bounded
    rw [taking.capacity, left, Sender.nextBatch]
    omega
  obtain ⟨course, fault⟩ := chunks (s.nextBatch k).chunks (s.takeBatch k).2 room
  rw [same] at fault
  rw [Sender.chunkDeeds, same] at course
  exact ⟨taking.trans course, fault⟩

theorem visit (s : Sender σ) (k : Kind) :
    Course k (s.batchReach k) (s.batchDeeds k) s (s.visit k).2 := by
  have quiet := gauge k s
  have queued : (s.onBuffer k Buffer.gauge).queued k = s.queued k := by simpa using quiet.queued
  have batch : (s.onBuffer k Buffer.gauge).nextBatch k = s.nextBatch k := by
    rw [Sender.nextBatch, Sender.nextBatch, queued, quiet.limits]
  have off : ((s.onBuffer k Buffer.gauge).buffer k).disabled = (s.buffer k).disabled := by
    simpa only [List.any_nil, Bool.or_false] using quiet.disabled
  have handed : (s.onBuffer k Buffer.gauge).handed k (s.nextBatch k).chunks =
      s.handed k (s.nextBatch k).chunks :=
    handed_congr quiet.transport quiet.closing quiet.link off _
  have same : (s.onBuffer k Buffer.gauge).batchDeeds k = s.batchDeeds k := by
    rw [Sender.batchDeeds, Sender.batchDeeds, Sender.chunkDeeds, Sender.chunkDeeds, batch, handed]
  have reach : (s.onBuffer k Buffer.gauge).batchReach k = s.batchReach k := by
    rw [Sender.batchReach, Sender.batchReach, queued, quiet.limits]
  have course := (deliver (s.onBuffer k Buffer.gauge) k).1
  rw [same, reach] at course
  have gauged := (quiet.before course).trans (gauge k ((s.onBuffer k Buffer.gauge).deliver k).2)
  rw [List.append_nil] at gauged
  exact gauged

end Course

end TelemetrySender
