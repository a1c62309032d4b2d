import TelemetrySender.Proofs.Batch
import TelemetrySender.Proofs.Journal

/-!
Courses of deeds.  What the deliveries of one kind make of a sender is determined by their deeds
alone: which records are queued, whether the kind is off, what is counted and where the link
stands.  A batch, whatever the transport answers, is such a course, in which every rejected chunk
finds its way back into the queue.
-/

set_option autoImplicit false
set_option relaxedAutoImplicit false

namespace TelemetrySender

variable {σ : Type}

structure Setup (σ : Type) where
  clientId : String
  defaultSource : String
  limits : Limits
  transport : Transport σ

def Sender.setup (s : Sender σ) : Setup σ :=
  ⟨s.clientId, s.defaultSource, s.limits, s.transport⟩

def Transport.follow (t : Transport σ) (link : σ) : Event → σ
  | .reported d => (t.report d.kind d.payload link).2
  | .closed _ => (t.close link).2
  | _ => link

def Tally.counts (t : Tally) : Tally := t.gauge 0 0

namespace Event

def switchesOff : Event → Bool
  | reported d => d.switchesOff
  | _ => false

def count (t : Tally) : Event → Tally
  | reported d =>
    match d.outcome with
    | .ok status => t.addStatus status
    | .error _ => t.addReportError
  | lost _ _ records => t.addDropped records.length
  | _ => t

end Event

/-- A course of events about one kind leads from one state to another; before it, `taken` records
were taken off the queue. -/
structure Course (k : Kind) (taken : Nat) (events : List Event) (s s' : Sender σ) : Prop where
  setup : s'.setup = s.setup
  closing : s'.closing = s.closing
  about : ∀ e ∈ events, e.kind? = some k
  deeds : s'.deeds = s.deeds ++ events
  link : s'.link = events.foldl s.transport.follow s.link
  others : ∀ j, j ≠ k → s'.buffer j = s.buffer j
  capacity : (s'.buffer k).capacity = (s.buffer k).capacity
  queued : s'.queued k = (s.queued k).drop taken ++ events.flatMap (Event.returnedOf k)
  disabled : (s'.buffer k).disabled = ((s.buffer k).disabled || events.any Event.switchesOff)
  counts : (s'.buffer k).tally.counts = events.foldl Event.count (s.buffer k).tally.counts

namespace Course

variable {k : Kind} {taken : Nat} {events later : List Event} {s t u : Sender σ}

theorem transport (course : Course k taken events s t) : t.transport = s.transport :=
  congrArg Setup.transport course.setup

theorem limits (course : Course k taken events s t) : t.limits = s.limits :=
  congrArg Setup.limits course.setup

theorem refl (k : Kind) (s : Sender σ) : Course k 0 [] s s where
  setup := rfl
  closing := rfl
  about := by simp
  deeds := by simp
  link := rfl
  others := fun _ _ => rfl
  capacity := rfl
  queued := by simp
  disabled := by simp
  counts := rfl

theorem trans (first : Course k taken events s t) (second : Course k 0 later t u) :
    Course k taken (events ++ later) s u where
  setup := second.setup.trans first.setup
  closing := second.closing.trans first.closing
  about := by
    intro e member
    rcases List.mem_append.mp member with early | late
    · exact first.about e early
    · exact second.about e late
  deeds := by rw [second.deeds, first.deeds, List.append_assoc]
  link := by rw [second.link, first.link, first.transport, List.foldl_append]
  others := fun j other => (second.others j other).trans (first.others j other)
  capacity := second.capacity.trans first.capacity
  queued := by
    rw [second.queued, first.queued, List.drop_zero, List.flatMap_append, List.append_assoc]
  disabled := by rw [second.disabled, first.disabled, List.any_append, Bool.or_assoc]
  counts := by rw [second.counts, first.counts, List.foldl_append]

theorem before (first : Course k 0 [] s t) (second : Course k taken events t u) :
    Course k taken events s u where
  setup := second.setup.trans first.setup
  closing := second.closing.trans first.closing
  about := second.about
  deeds := by rw [second.deeds, first.deeds, List.append_nil]
  link := by rw [second.link, first.link, first.transport, List.foldl_nil]
  others := fun j other => (second.others j other).trans (first.others j other)
  capacity := second.capacity.trans first.capacity
  queued := by
    rw [second.queued, first.queued, List.drop_zero, List.flatMap_nil, List.append_nil]
  disabled := by rw [second.disabled, first.disabled, List.any_nil, Bool.or_false]
  counts := by rw [second.counts, first.counts, List.foldl_nil]

theorem say (k : Kind) (s : Sender σ) (n : Notice) : Course k 0 [] s (s.say n) := by
  obtain ⟨window, quiet | logged⟩ := s.say_cases n
  · rw [quiet]
    exact { refl k s with }
  · rw [logged]
    exact { refl k s with }

theorem gauge (k : Kind) (s : Sender σ) : Course k 0 [] s (s.onBuffer k Buffer.gauge) where
  setup := rfl
  closing := rfl
  about := by simp
  deeds := by simp
  link := rfl
  others := fun j other => Sender.buffer_onBuffer_of_ne s _ other
  capacity := by rw [Sender.buffer_onBuffer_self]; rfl
  queued := by simp [Sender.queued, Buffer.gauge]
  disabled := by rw [Sender.buffer_onBuffer_self]; simp [Buffer.gauge, Buffer.count]
  counts := by rw [Sender.buffer_onBuffer_self]; rfl

theorem single {e : Event} (s : Sender σ) (b : Buffer) (deed : e.isDeed = true)
    (about : e.kind? = some k) (capacity : b.capacity = (s.buffer k).capacity)
    (queued : b.records = s.queued k ++ e.returnedOf k)
    (disabled : b.disabled = ((s.buffer k).disabled || e.switchesOff))
    (counts : b.tally.counts = e.count (s.buffer k).tally.counts) :
    Course k 0 [e] s
      (({ s with link := s.transport.follow s.link e }.record e).setBuffer k b) where
  setup := rfl
  closing := rfl
  about := by simpa using about
  deeds := by
    rw [Sender.deeds_setBuffer, Sender.deeds_record deed]
    rfl
  link := rfl
  others := fun j other => Sender.buffer_setBuffer_of_ne _ b other
  capacity := by rw [Sender.buffer_setBuffer_self, capacity]
  queued := by
    rw [Sender.queued, Sender.buffer_setBuffer_self, queued, List.drop_zero, List.flatMap_singleton]
  disabled := by
    rw [Sender.buffer_setBuffer_self, disabled, List.any_cons, List.any_nil, Bool.or_false]
  counts := by
    rw [Sender.buffer_setBuffer_self, counts, List.foldl_cons, List.foldl_nil]

theorem lose (k : Kind) (cause : Loss) (records : Chunk) (s : Sender σ) :
    Course k 0 [.lost k cause records] s (s.lose k cause records) := by
  refine single s ((s.buffer k).drop records.length) rfl rfl rfl ?_ ?_ rfl
  · simp [Sender.queued, Event.returnedOf]
  · simp [Buffer.drop, Buffer.count, Event.switchesOff]

end Course

namespace Delivery

/-- What a delivery that was tried leads to: if it failed or switched its kind off, its records are
given up. -/
def deeds (d : Delivery) : List Event :=
  .reported d ::
    if d.failed then [.lost d.kind .broken d.records]
    else if d.switchesOff then [.lost d.kind .disabled d.records]
    else []

end Delivery

namespace Sender

def attempt (s : Sender σ) (k : Kind) (chunk : Chunk) : Delivery :=
  ⟨k, chunk, s.closing, (s.transport.report k (String.join chunk) s.link).1⟩

def tried (s : Sender σ) (d : Delivery) : Sender σ :=
  { s with link := s.transport.follow s.link (.reported d) }.record (.reported d)

private theorem buffer_tried (s : Sender σ) (d : Delivery) (k : Kind) :
    (s.tried d).buffer k = s.buffer k := rfl

theorem hand_eq (s : Sender σ) (k : Kind) (chunk : Chunk) :
    s.hand k chunk =
      match (s.attempt k chunk).outcome with
      | .ok status => (none, (s.tried (s.attempt k chunk)).settle k chunk status)
      | .error fault =>
        (some fault, ((s.tried (s.attempt k chunk)).lose k .broken chunk).onBuffer k
          (·.count Tally.addReportError)) := rfl

theorem requeue_of_le_room {s : Sender σ} {k : Kind} {chunk : Chunk}
    (room : chunk.length ≤ (s.buffer k).room) :
    s.requeue k chunk = s.setBuffer k ((s.buffer k).requeue chunk).2 := by
  have none : ((s.buffer k).requeue chunk).1 = [] := by
    rw [Buffer.lost_requeue, List.drop_of_length_le room]
  simp only [requeue, none]

theorem say_setBuffer (s : Sender σ) (k : Kind) (b : Buffer) (n : Notice) :
    (s.setBuffer k b).say n = (s.say n).setBuffer k b := by
  unfold say
  cases admitted : (s.window.letThrough s.now n.key).1 <;> simp [setBuffer, admitted, record]

theorem setBuffer_onBuffer (s : Sender σ) (k : Kind) (f : Buffer → Buffer) (b : Buffer) :
    (s.onBuffer k f).setBuffer k b = s.setBuffer k b := by
  simp [onBuffer, setBuffer]

end Sender

namespace Course

variable {k : Kind} {chunk : Chunk} {s : Sender σ} {d : Delivery} {status : Nat}

private theorem answered (answer : d.outcome = .ok status) (keeps : d.returns = false)
    (b : Buffer) (queue : b.records = s.queued d.kind)
    (capacity : b.capacity = (s.buffer d.kind).capacity)
    (disabled : b.disabled = ((s.buffer d.kind).disabled || d.switchesOff))
    (counts : b.tally = (s.buffer d.kind).tally.addStatus status) :
    Course d.kind 0 [.reported d] s ((s.tried d).setBuffer d.kind b) := by
  refine single s b rfl rfl capacity ?_ disabled ?_
  · simp [Event.returnedOf, keeps, queue]
  · rw [counts]
    simp only [Event.count, answer]
    rfl

private theorem returned (n : Notice) (answer : d.outcome = .ok status)
    (returns : d.returns = true) (room : d.records.length ≤ (s.buffer d.kind).room) :
    Course d.kind 0 [.reported d] s
      ((((s.tried d).onBuffer d.kind (·.count (·.addStatus status))).say n).requeue
        d.kind d.records) := by
  let counted := (s.buffer d.kind).count (·.addStatus status)
  have current : (((s.tried d).onBuffer d.kind (·.count (·.addStatus status))).say n).buffer d.kind =
      counted := by
    rw [Sender.buffer_say, Sender.buffer_onBuffer_self, Sender.buffer_tried]
  have stays : d.switchesOff = false := by
    simp only [Delivery.returns, Bool.and_eq_true, Bool.not_eq_true'] at returns
    exact returns.2
  have whole : d.records.take counted.room = d.records := List.take_of_length_le room
  have back : d.records.drop counted.room = [] := List.drop_of_length_le room
  rw [Sender.requeue_of_le_room (by rw [current]; exact room), current, ← Sender.say_setBuffer,
    Sender.setBuffer_onBuffer]
  refine (single s (counted.requeue d.records).2 rfl rfl ?_ ?_ ?_ ?_).trans (say _ _ n)
  · rw [Buffer.capacity_requeue]
    rfl
  · rw [Buffer.records_requeue, whole]
    simp [Event.returnedOf, returns, counted, Sender.queued]
  · simp [Buffer.disabled_requeue, Buffer.count, counted, Event.switchesOff, stays]
  · rw [Buffer.tally_requeue, back]
    simp only [Event.count, answer]
    rfl

private theorem settle (answer : d.outcome = .ok status)
    (room : d.records.length ≤ (s.buffer d.kind).room) :
    Course d.kind 0 d.deeds s ((s.tried d).settle d.kind d.records status) := by
  have well : d.failed = false := by simp [Delivery.failed, Delivery.fault?, answer]
  have off := Delivery.switchesOff_iff answer
  have back := Delivery.returns_iff answer
  simp only [Delivery.deeds, well, Sender.settle]
  cases verdict : Verdict.ofStatus d.kind status with
  | delivered =>
    have stays : d.switchesOff = false := by simp [← Bool.not_eq_true, off, verdict]
    have keeps : d.returns = false := by simp [← Bool.not_eq_true, back, verdict]
    simp only [stays]
    refine answered answer keeps ((s.buffer d.kind).count (·.addStatus status)) rfl rfl ?_ rfl
    simp [Buffer.count, stays]
  | disable =>
    have switches : d.switchesOff = true := off.mpr verdict
    have keeps : d.returns = false := by simp [← Bool.not_eq_true, back, verdict]
    have able : d.kind.canDisable = true := by
      simp only [Delivery.switchesOff, Bool.and_eq_true] at switches
      exact switches.2
    have shape : ((s.tried d).onBuffer d.kind (·.count (·.addStatus status))).onBuffer d.kind
        (fun b => (b.disable d.kind).2) =
        (s.tried d).setBuffer d.kind
          (((s.buffer d.kind).count (·.addStatus status)).disable d.kind).2 := by
      rw [Sender.onBuffer, Sender.buffer_onBuffer_self, Sender.setBuffer_onBuffer,
        Sender.buffer_tried]
    simp only [switches, shape]
    have first := answered (s := s) answer keeps
      (((s.buffer d.kind).count (·.addStatus status)).disable d.kind).2
    simp only [Buffer.disable, able, if_true] at first ⊢
    have answered := first rfl rfl (by simp [switches]) rfl
    exact (answered.trans (say _ _ _)).trans (lose _ _ _ _)
  | denied =>
    have returns : d.returns = true := back.mpr (.inl verdict)
    have stays : d.switchesOff = false := by simp [← Bool.not_eq_true, off, verdict]
    simp only [stays]
    exact returned _ answer returns room
  | rejected =>
    have returns : d.returns = true := back.mpr (.inr verdict)
    have stays : d.switchesOff = false := by simp [← Bool.not_eq_true, off, verdict]
    simp only [stays]
    exact returned _ answer returns room

private theorem broke {fault : Fault} (answer : d.outcome = .error fault) :
    Course d.kind 0 d.deeds s
      (((s.tried d).lose d.kind .broken d.records).onBuffer d.kind
        (·.count Tally.addReportError)) := by
  have failed : d.failed = true := by simp [Delivery.failed, Delivery.fault?, answer]
  have order : ((s.tried d).lose d.kind .broken d.records).onBuffer d.kind
      (·.count Tally.addReportError) =
      ((s.tried d).setBuffer d.kind ((s.buffer d.kind).count Tally.addReportError)).lose d.kind
        .broken d.records := by
    cases d.kind <;> rfl
  rw [order]
  simp only [Delivery.deeds, failed, if_true]
  refine (single s ((s.buffer d.kind).count Tally.addReportError) rfl rfl rfl ?_ ?_ ?_).trans
    (lose _ _ _ _)
  · simp [Event.returnedOf, Delivery.returns, Delivery.status?, answer, Sender.queued]
  · simp [Buffer.count, Event.switchesOff, Delivery.switchesOff, Delivery.refused,
      Delivery.status?, answer]
  · simp only [Event.count, answer]
    rfl

/-- A chunk is handed over: whatever comes of it is the course of the delivery, if there is room to
take the chunk back. -/
theorem hand (room : chunk.length ≤ (s.buffer k).room) :
    Course k 0 (s.attempt k chunk).deeds s (s.hand k chunk).2 ∧
      (s.hand k chunk).1 = (s.attempt k chunk).fault? := by
  rw [Sender.hand_eq]
  cases answer : (s.attempt k chunk).outcome with
  | ok status =>
    exact ⟨settle (d := s.attempt k chunk) answer room, by simp [Delivery.fault?, answer]⟩
  | error fault =>
    exact ⟨broke (d := s.attempt k chunk) answer, by simp [Delivery.fault?, answer]⟩

end Course

end TelemetrySender
