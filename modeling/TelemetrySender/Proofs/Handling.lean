import TelemetrySender.Proofs.Packing
import TelemetrySender.Proofs.Voices

/-!
One buffer in use.  Whatever is done with it, in whatever order, its queue is a bounded line: records go
in at its end as far as there is room and come out at its head, so that all that came out and all that is
queued are all that went in, in order.  What finds no room, and what comes out because it is too long, is
counted as dropped.  Records that find no room are spoken of once for each act, under one key.
-/

set_option autoImplicit false
set_option relaxedAutoImplicit false

namespace TelemetrySender

variable {σ : Type}

inductive Handling where
  | offer (record : String)
  | requeue (records : Chunk)
  | batch (size limit : Nat)
  | pop
  | disable
  | clock (now : Nat)

/-- What moves in a line: what goes in at its end, what comes out at its head, and what found no room or
came out because it is too long. -/
structure Transfer where
  put : List String
  out : List String
  refused : List String
  oversize : List String

namespace Handling

def transfer (capacity : Nat) (line : List String) : Handling → Transfer
  | offer record =>
    if line.length < capacity then ⟨[record], [], [], []⟩ else ⟨[], [], [record], []⟩
  | requeue records =>
    let fitting := min records.length (capacity - line.length)
    ⟨records.take fitting, [], records.drop fitting, []⟩
  | batch size limit =>
    let head := line.take (Batch.reach limit size line 0)
    ⟨[], head, [], head.filter fun record => !Batch.fits limit record⟩
  | pop => ⟨[], line.take 1, [], []⟩
  | disable => ⟨[], [], [], []⟩
  | clock _ => ⟨[], [], [], []⟩

end Handling

namespace Sender

def handle (s : Sender σ) (k : Kind) : Handling → Sender σ
  | .offer record => (s.offer k record).2
  | .requeue records => s.requeue k records
  | .batch size limit =>
    ({ s with limits := { s.limits with batchSize := size, messageSize := limit } }.takeBatch k).2
  | .pop => s.setBuffer k (s.buffer k).pop.2
  | .disable => s.setBuffer k ((s.buffer k).disable k).2
  | .clock now => { s with now := now }

def handleAll (s : Sender σ) (k : Kind) (acts : List Handling) : Sender σ :=
  acts.foldl (fun s act => s.handle k act) s

def transfer (s : Sender σ) (k : Kind) (act : Handling) : Transfer :=
  act.transfer (s.buffer k).capacity (s.buffer k).records

def transfers (s : Sender σ) (k : Kind) : List Handling → List Transfer
  | [] => []
  | act :: rest => s.transfer k act :: transfers (s.handle k act) k rest

end Sender

theorem Buffer.transfer_requeue (b : Buffer) (records : Chunk) :
    Handling.transfer b.capacity b.records (.requeue records) =
      ⟨records.take b.room, [], (b.requeue records).1, []⟩ := by
  have fitting : min records.length (b.capacity - b.records.length) = min b.room records.length := by
    rw [room, b.size_eq_length, Nat.min_comm]
  have lost : records.drop (min b.room records.length) = records.drop b.room := by
    rcases Nat.le_total b.room records.length with short | all
    · rw [Nat.min_eq_left short]
    · rw [Nat.min_eq_right all, List.drop_length, List.drop_eq_nil_of_le all]
  simp only [Handling.transfer, fitting, ← List.take_eq_take_min, lost, b.lost_requeue]

theorem Buffer.pop_eq_head? (b : Buffer) : b.pop.1 = (b.records.take 1).head? := by
  unfold pop
  split
  · rename_i record queue popped
    obtain ⟨rest, shape, -⟩ := (b.queue.pop?_eq_some_iff record queue).mp popped
    simp [records, shape]
  · rename_i none
    simp [records, (b.queue.pop?_eq_none_iff).mp none]

/-- A buffer moves as a line does. -/
structure Moves (b : Buffer) (t : Transfer) (b' : Buffer) : Prop where
  capacity : b'.capacity = b.capacity
  line : b.records ++ t.put = t.out ++ b'.records
  dropped : b'.tally.dropped = b.tally.dropped + t.refused.length + t.oversize.length

namespace Moves

theorem offer (b : Buffer) (record : String) :
    Moves b (Handling.transfer b.capacity b.records (.offer record)) (b.offer record).2 := by
  rcases Nat.lt_or_ge b.queue.size b.capacity with free | full
  · rw [Handling.transfer, if_pos (b.size_eq_length ▸ free), b.offer_of_lt record free]
    exact ⟨rfl, (b.queue.toList_push record).symm, rfl⟩
  · rw [Handling.transfer, if_neg (b.size_eq_length ▸ Nat.not_lt.mpr full), b.offer_of_le record full]
    exact ⟨rfl, List.append_nil _, rfl⟩

theorem requeue (b : Buffer) (records : Chunk) :
    Moves b (Handling.transfer b.capacity b.records (.requeue records)) (b.requeue records).2 := by
  rw [b.transfer_requeue]
  refine ⟨b.capacity_requeue records, (b.records_requeue records).symm, ?_⟩
  rw [b.tally_requeue, b.lost_requeue]
  rfl

theorem batch (b : Buffer) (size limit : Nat) :
    Moves b (Handling.transfer b.capacity b.records (.batch size limit)) (b.takeBatch size limit).2 := by
  simp only [Handling.transfer, ← Batch.oversize_cut]
  refine ⟨rfl, ?_, rfl⟩
  rw [b.records_takeBatch, Batch.rest_cut, List.append_nil, List.take_append_drop]

theorem pop (b : Buffer) : Moves b (Handling.transfer b.capacity b.records .pop) b.pop.2 := by
  unfold Buffer.pop
  split
  · rename_i record queue popped
    obtain ⟨rest, shape, rfl⟩ := (b.queue.pop?_eq_some_iff record queue).mp popped
    refine ⟨rfl, ?_, rfl⟩
    simp [Handling.transfer, Buffer.records, shape]
  · rename_i none
    have empty : b.records = [] := (b.queue.pop?_eq_none_iff).mp none
    refine ⟨rfl, ?_, rfl⟩
    simp [Handling.transfer, empty]

theorem disable (b : Buffer) (k : Kind) :
    Moves b (Handling.transfer b.capacity b.records .disable) (b.disable k).2 := by
  unfold Buffer.disable
  split
  · exact ⟨rfl, List.append_nil _, rfl⟩
  · exact ⟨rfl, List.append_nil _, rfl⟩

end Moves

namespace Sender

variable (s : Sender σ) (k : Kind)

theorem buffer_takeBatch :
    (s.takeBatch k).2.buffer k =
      ((s.buffer k).takeBatch s.limits.batchSize s.limits.messageSize).2 := by
  have spoken (records : List String) (s : Sender σ) : (records.foldl (fun s r =>
      (s.record (.lost k .oversize [r])).say (.oversize s.limits.messageSize r)) s).buffer k =
        s.buffer k := by
    induction records generalizing s with
    | nil => rfl
    | cons r rest ih => rw [List.foldl_cons, ih, buffer_say, buffer_record]
  simp only [takeBatch]
  rw [spoken, buffer_setBuffer_self]

theorem buffer_offer (record : String) :
    (s.offer k record).2.buffer k = ((s.buffer k).offer record).2 := by
  simp only [offer]
  split
  · rw [buffer_record, buffer_setBuffer_self]
  · rw [buffer_say, buffer_setBuffer_self]

theorem buffer_requeue (records : Chunk) :
    (s.requeue k records).buffer k = ((s.buffer k).requeue records).2 := by
  simp only [requeue]
  split
  · rw [buffer_setBuffer_self]
  · rw [buffer_say, buffer_record, buffer_setBuffer_self]

theorem moves (act : Handling) : Moves (s.buffer k) (s.transfer k act) ((s.handle k act).buffer k) := by
  cases act with
  | offer record =>
    rw [handle, buffer_offer]
    exact .offer _ record
  | requeue records =>
    rw [handle, buffer_requeue]
    exact .requeue _ records
  | batch size limit =>
    rw [handle, buffer_takeBatch]
    exact .batch _ size limit
  | pop =>
    rw [handle, buffer_setBuffer_self]
    exact .pop _
  | disable =>
    rw [handle, buffer_setBuffer_self]
    exact .disable _ k
  | clock now => exact ⟨rfl, List.append_nil _, rfl⟩

theorem order_handleAll (acts : List Handling) :
    (s.transfers k acts).flatMap Transfer.out ++ ((s.handleAll k acts).buffer k).records =
      (s.buffer k).records ++ (s.transfers k acts).flatMap Transfer.put := by
  induction acts generalizing s with
  | nil => exact (List.append_nil _).symm
  | cons act rest ih =>
    have first := (s.moves k act).line
    have later := ih (s.handle k act)
    rw [transfers, List.flatMap_cons, List.flatMap_cons]
    calc (s.transfer k act).out ++ ((s.handle k act).transfers k rest).flatMap Transfer.out ++
          ((s.handleAll k (act :: rest)).buffer k).records
        = (s.transfer k act).out ++ (((s.handle k act).buffer k).records ++
            ((s.handle k act).transfers k rest).flatMap Transfer.put) := by
          rw [List.append_assoc, ← later]
          rfl
      _ = (s.buffer k).records ++ ((s.transfer k act).put ++
            ((s.handle k act).transfers k rest).flatMap Transfer.put) := by
          rw [← List.append_assoc, ← first, List.append_assoc]

theorem capacity_handleAll (acts : List Handling) :
    ((s.handleAll k acts).buffer k).capacity = (s.buffer k).capacity := by
  induction acts generalizing s with
  | nil => rfl
  | cons act rest ih => exact (ih (s.handle k act)).trans (s.moves k act).capacity

theorem dropped_handleAll (acts : List Handling) :
    ((s.handleAll k acts).buffer k).tally.dropped = (s.buffer k).tally.dropped +
      ((s.transfers k acts).flatMap fun t => t.refused ++ t.oversize).length := by
  induction acts generalizing s with
  | nil => rfl
  | cons act rest ih =>
    have first := (s.moves k act).dropped
    have later := ih (s.handle k act)
    rw [transfers, List.flatMap_cons, List.length_append, List.length_append]
    change ((s.handle k act).handleAll k rest |>.buffer k).tally.dropped = _
    omega

end Sender

/-- Records that found no room are spoken of once, if there are any, and under the same key whatever was
to be queued. -/
def SpokenOnce (s s' : Sender σ) (k : Kind) (refused : List String) : Prop :=
  ∃ events notices, Voices s s' events notices ∧
    notices.length = (if refused = [] then 0 else 1) ∧ ∀ n ∈ notices, n.key = Notice.fullText k

theorem SpokenOnce.logged {s s' : Sender σ} {k : Kind} {refused : List String}
    (spoken : SpokenOnce s s' k refused) : ∃ lines, s'.lines = s.lines ++ lines ∧ lines.length ≤ 1 := by
  obtain ⟨events, notices, voices, once, -⟩ := spoken
  refine ⟨_, voices.lines, ?_⟩
  have passed := (LogWindow.passed_sublist s.window
    (notices.map (Notice.saying s.now))).length_le
  rw [List.length_map] at passed ⊢
  split at once <;> omega

namespace Sender

variable (s : Sender σ) (k : Kind)

theorem offer_iff (record : String) :
    (s.offer k record).1 = true ↔ (s.buffer k).records.length < (s.buffer k).capacity := by
  rw [← (s.buffer k).size_eq_length]
  rcases Nat.lt_or_ge (s.buffer k).queue.size (s.buffer k).capacity with free | full
  · simp [offer, Buffer.offer_of_lt record free, free]
  · simp [offer, Buffer.offer_of_le record full, Nat.not_lt.mpr full]

theorem offer_spokenOnce (record : String) :
    SpokenOnce s (s.offer k record).2 k (s.transfer k (.offer record)).refused := by
  obtain ⟨events, voices, -⟩ := s.offer_voices k record
  refine ⟨events, s.crowded k, voices, ?_, ?_⟩
  · rw [crowded, (s.buffer k).size_eq_length, transfer, Handling.transfer]
    split <;> simp
  · intro n member
    unfold crowded at member
    split at member
    · cases member
    · rw [List.mem_singleton.mp member]
      rfl

theorem requeue_spokenOnce (records : Chunk) :
    SpokenOnce s (s.requeue k records) k (s.transfer k (.requeue records)).refused := by
  have back : Voices s (s.setBuffer k ((s.buffer k).requeue records).2) [] [] :=
    .quiet rfl rfl rfl rfl
  rw [transfer, Buffer.transfer_requeue]
  simp only [requeue]
  cases lost : ((s.buffer k).requeue records).1 with
  | nil => exact ⟨[], [], back, rfl, by simp⟩
  | cons record rest =>
    exact ⟨_, _, (back.trans (.record rfl _)).trans (.say _ _), rfl, by simp [Notice.key]⟩

end Sender

/-- One act of handling a buffer. -/
structure Handled (s : Sender σ) (k : Kind) (act : Handling) : Prop where
  moves : Moves (s.buffer k) (s.transfer k act) ((s.handle k act).buffer k)
  offered : ∀ record, act = .offer record →
    ((s.offer k record).1 = true ↔ (s.buffer k).records.length < (s.buffer k).capacity)
  dealt : ∀ size limit, act = .batch size limit →
    ((s.buffer k).takeBatch size limit).1.chunks.flatten =
        (s.transfer k act).out.filter (Batch.fits limit) ∧
      ((s.buffer k).takeBatch size limit).1.oversize = (s.transfer k act).oversize
  popped : act = .pop → (s.buffer k).pop.1 = (s.transfer k act).out.head?
  spoken : (∃ record, act = .offer record) ∨ (∃ records, act = .requeue records) →
    SpokenOnce s (s.handle k act) k (s.transfer k act).refused ∧
      ∃ lines, (s.handle k act).lines = s.lines ++ lines ∧ lines.length ≤ 1

theorem Sender.handled (s : Sender σ) (k : Kind) (act : Handling) : Handled s k act := by
  constructor
  · exact s.moves k act
  · rintro record rfl
    exact s.offer_iff k record
  · rintro size limit rfl
    exact ⟨Batch.flatten_chunks_cut _ _ _, Batch.oversize_cut _ _ _⟩
  · rintro rfl
    exact (s.buffer k).pop_eq_head?
  · intro queues
    have once : SpokenOnce s (s.handle k act) k (s.transfer k act).refused := by
      rcases queues with ⟨record, rfl⟩ | ⟨records, rfl⟩
      · exact s.offer_spokenOnce k record
      · exact s.requeue_spokenOnce k records
    exact ⟨once, once.logged⟩

/-- A buffer that is handled from the start on is a bounded line, first in, first out. -/
structure FirstInFirstOut (start : Sender σ) (k : Kind) (acts : List Handling) : Prop where
  order : (start.transfers k acts).flatMap Transfer.out ++ ((start.handleAll k acts).buffer k).records =
    (start.transfers k acts).flatMap Transfer.put
  bounded : ((start.handleAll k acts).buffer k).records.length ≤ start.limits.capacity
  dropped : ((start.handleAll k acts).buffer k).tally.dropped =
    ((start.transfers k acts).flatMap fun t => t.refused ++ t.oversize).length
  handled : ∀ before act after, acts = before ++ act :: after →
    Handled (start.handleAll k before) k act

/-- A buffer stays such a line whatever is done with it, in any order. -/
theorem handleAll_firstInFirstOut (clientId defaultSource : String) (limits : Limits)
    (transport : Transport σ) (link : σ) (k : Kind) (acts : List Handling) :
    FirstInFirstOut (Sender.new clientId defaultSource limits transport link) k acts := by
  let start := Sender.new clientId defaultSource limits transport link
  have new : start.buffer k = Buffer.new limits.capacity := PerKind.get_const _ k
  constructor
  · have order := start.order_handleAll k acts
    rwa [new] at order
  · have bounded := ((start.handleAll k acts).buffer k).length_records_le
    rwa [start.capacity_handleAll, new] at bounded
  · have dropped := start.dropped_handleAll k acts
    rw [new] at dropped
    simpa [Buffer.new, Tally.zero] using dropped
  · intro before act _ _
    exact (start.handleAll k before).handled k act

end TelemetrySender
