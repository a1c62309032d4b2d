import TelemetrySender.Proofs.Emissions
import TelemetrySender.Proofs.Turns

/-!
What a sender says.  Each call has it say one notice for every record that found its queue full and for
every deed that there is something to say about, in the order in which they happened.  All of them go
through the window, at the time that the clock shows; those that are let through are logged, and the
window is left as they leave it.
-/

set_option autoImplicit false
set_option relaxedAutoImplicit false

namespace TelemetrySender

variable {σ : Type}

def Notice.saying (time : Nat) (n : Notice) : Saying := ⟨time, n.key, n.line⟩

def Delivery.notices (d : Delivery) : List Notice :=
  match d.outcome with
  | .error _ => []
  | .ok status =>
    match Verdict.ofStatus d.kind status with
    | .delivered => []
    | .disable => [.disabling d.kind status]
    | .denied => [.denied d.kind status]
    | .rejected => [.rejected d.kind status]

namespace Event

/-- What is said of an event, where `limit` is how long a record may be. -/
def notices (limit : Nat) : Event → List Notice
  | lost _ .oversize records => records.map (.oversize limit)
  | lost k .discarded _ => [.discarding k]
  | lost k .overflow records => [.overflow k records.length]
  | reported d => d.notices
  | _ => []

def line? : Event → Option LogLine
  | logged line => some line
  | _ => none

end Event

def Sender.lines (s : Sender σ) : List LogLine := (s.journal.filterMap Event.line?).reverse

/-- Between two states some deeds are done and some notices are said. -/
structure Voices (s t : Sender σ) (events : List Event) (notices : List Notice) : Prop where
  limits : t.limits = s.limits
  now : t.now = s.now
  deeds : t.deeds = s.deeds ++ events
  window : t.window = s.window.afterAll (notices.map (Notice.saying s.now))
  lines : t.lines =
    s.lines ++ (s.window.passed (notices.map (Notice.saying s.now))).map Saying.line

namespace Voices

variable {s t u : Sender σ} {events later : List Event} {notices more : List Notice}

theorem quiet (limits : t.limits = s.limits) (now : t.now = s.now) (window : t.window = s.window)
    (journal : t.journal = s.journal) : Voices s t [] [] := by
  refine ⟨limits, now, ?_, window, ?_⟩
  · rw [Sender.deeds, journal, List.append_nil]
    rfl
  · rw [Sender.lines, journal]
    exact (List.append_nil _).symm

theorem trans (first : Voices s t events notices) (second : Voices t u later more) :
    Voices s u (events ++ later) (notices ++ more) := by
  have window := second.window
  have lines := second.lines
  rw [first.now, first.window] at window lines
  refine ⟨second.limits.trans first.limits, second.now.trans first.now, ?_, ?_, ?_⟩
  · rw [second.deeds, first.deeds, List.append_assoc]
  · rw [window, List.map_append, LogWindow.afterAll_append]
  · rw [lines, first.lines, List.map_append, LogWindow.passed_append, List.map_append,
      List.append_assoc]

theorem say (s : Sender σ) (n : Notice) : Voices s (s.say n) [] [n] := by
  have shape : s.say n = { s with
      window := (s.window.letThrough s.now n.key).2
      journal := if (s.window.letThrough s.now n.key).1 then .logged n.line :: s.journal
        else s.journal } := by
    simp only [Sender.say]
    cases (s.window.letThrough s.now n.key).1 <;> rfl
  refine ⟨by rw [shape], by rw [shape], by rw [s.deeds_say, List.append_nil], by rw [shape]; rfl, ?_⟩
  rw [Sender.lines, shape]
  cases through : (s.window.letThrough s.now n.key).1 <;>
    simp [Sender.lines, Event.line?, LogWindow.passed, Notice.saying, through]

theorem record {e : Event} (deed : e.isDeed = true) (s : Sender σ) :
    Voices s (s.record e) [e] [] := by
  refine ⟨rfl, rfl, Sender.deeds_record deed s, rfl, ?_⟩
  cases e with
  | logged => cases deed
  | queued | lost | reported | closed => exact (List.append_nil _).symm

theorem lose (s : Sender σ) (k : Kind) (cause : Loss) (records : Chunk) :
    Voices s (s.lose k cause records) [.lost k cause records] [] := by
  have counted : Voices s (s.onBuffer k (·.drop records.length)) [] [] := quiet rfl rfl rfl rfl
  exact counted.trans (record rfl _)

end Voices

/-- Between two states some deeds are done, and what is said is what there is to say of those. -/
def Tells (s t : Sender σ) : Prop :=
  ∃ events, Voices s t events (events.flatMap (Event.notices s.limits.messageSize))

namespace Tells

variable {s t u : Sender σ}

theorem refl (s : Sender σ) : Tells s s := ⟨[], .quiet rfl rfl rfl rfl⟩

theorem trans (first : Tells s t) (second : Tells t u) : Tells s u := by
  obtain ⟨events, voices⟩ := first
  obtain ⟨later, behind⟩ := second
  have both := voices.trans behind
  rw [voices.limits, ← List.flatMap_append] at both
  exact ⟨_, both⟩

theorem foldl {α β : Type} {f : α × Sender σ → β → α × Sender σ}
    (step : ∀ r b, Tells r.2 (f r b).2) (l : List β) (r : α × Sender σ) :
    Tells r.2 (l.foldl f r).2 := by
  induction l generalizing r with
  | nil => exact .refl r.2
  | cons b rest ih => exact (step r b).trans (ih (f r b))

end Tells

namespace Sender

variable (s : Sender σ) (k : Kind)

theorem requeue_tells (chunk : Chunk) : Tells s (s.requeue k chunk) := by
  have back : Voices s (s.setBuffer k ((s.buffer k).requeue chunk).2) [] [] :=
    .quiet rfl rfl rfl rfl
  simp only [requeue]
  cases ((s.buffer k).requeue chunk).1 with
  | nil => exact ⟨[], back⟩
  | cons record rest => exact ⟨_, (back.trans (.record rfl _)).trans (.say _ _)⟩

private theorem settle_voices {d : Delivery} {status : Nat} (answer : d.outcome = .ok status) :
    ∃ events, Voices s (s.settle d.kind d.records status) events
      (d.notices ++ events.flatMap (Event.notices s.limits.messageSize)) := by
  let counted := s.onBuffer d.kind (·.count (·.addStatus status))
  have first : Voices s counted [] [] := .quiet rfl rfl rfl rfl
  have sentBack (n : Notice) : ∃ events, Voices s ((counted.say n).requeue d.kind d.records) events
      ([n] ++ events.flatMap (Event.notices s.limits.messageSize)) := by
    have said := first.trans (.say counted n)
    obtain ⟨events, voices⟩ := (counted.say n).requeue_tells d.kind d.records
    rw [said.limits] at voices
    exact ⟨events, said.trans voices⟩
  simp only [settle, Delivery.notices, answer]
  cases Verdict.ofStatus d.kind status with
  | delivered => exact ⟨[], first⟩
  | disable =>
    have off : Voices counted (counted.onBuffer d.kind fun b => (b.disable d.kind).2) [] [] :=
      .quiet rfl rfl rfl rfl
    exact ⟨_, ((first.trans off).trans (.say _ _)).trans (.lose _ _ _ _)⟩
  | denied => exact sentBack (.denied d.kind status)
  | rejected => exact sentBack (.rejected d.kind status)

theorem hand_tells (chunk : Chunk) : Tells s (s.hand k chunk).2 := by
  let d := s.attempt k chunk
  have first : Voices s (s.tried d) [.reported d] [] := by
    have linked : Voices s { s with link := s.transport.follow s.link (.reported d) } [] [] :=
      .quiet rfl rfl rfl rfl
    exact linked.trans (.record rfl _)
  rw [s.hand_eq]
  cases answer : d.outcome with
  | ok status =>
    obtain ⟨events, voices⟩ := (s.tried d).settle_voices answer
    exact ⟨_, first.trans voices⟩
  | error fault =>
    have lost := first.trans (.lose (s.tried d) k .broken chunk)
    have counted : Voices ((s.tried d).lose k .broken chunk)
        (((s.tried d).lose k .broken chunk).onBuffer k (·.count Tally.addReportError)) [] [] :=
      .quiet rfl rfl rfl rfl
    have silent : [Event.reported d, .lost k .broken chunk].flatMap
        (Event.notices s.limits.messageSize) = [] := by
      simp [Event.notices, Delivery.notices, answer]
    refine ⟨[.reported d, .lost k .broken chunk], ?_⟩
    rw [silent]
    exact lost.trans counted

theorem deliverChunk_tells (progress : Option Fault × Sender σ) (chunk : Chunk) :
    Tells progress.2 (deliverChunk k progress chunk).2 := by
  obtain ⟨fault, s⟩ := progress
  cases fault with
  | some fault => exact ⟨_, .lose s k .broken chunk⟩
  | none =>
    simp only [deliverChunk]
    split
    · exact ⟨_, (Voices.say s _).trans (.lose _ k .discarded chunk)⟩
    · exact s.hand_tells k chunk

theorem takeBatch_tells : Tells s (s.takeBatch k).2 := by
  have notices (records : List String) (s : Sender σ) : Tells s (records.foldl (fun s r =>
      (s.record (.lost k .oversize [r])).say (.oversize s.limits.messageSize r)) s) := by
    induction records generalizing s with
    | nil => exact .refl s
    | cons r rest ih =>
      have first : Tells s ((s.record (.lost k .oversize [r])).say
          (.oversize s.limits.messageSize r)) := ⟨_, (Voices.record rfl s).trans (.say _ _)⟩
      exact first.trans (ih _)
  let taken := (s.buffer k).takeBatch s.limits.batchSize s.limits.messageSize
  have off : Tells s (s.setBuffer k taken.2) := ⟨[], .quiet rfl rfl rfl rfl⟩
  exact off.trans (notices taken.1.oversize _)

theorem deliver_tells : Tells s (s.deliver k).2 := by
  have chunks : Tells (s.takeBatch k).2 (s.deliver k).2 :=
    .foldl (deliverChunk_tells k) (s.takeBatch k).1 (none, (s.takeBatch k).2)
  exact (s.takeBatch_tells k).trans chunks

theorem visit_tells : Tells s (s.visit k).2 := by
  have gauge (s : Sender σ) : Tells s (s.onBuffer k Buffer.gauge) := ⟨[], .quiet rfl rfl rfl rfl⟩
  exact ((gauge s).trans (deliver_tells _ k)).trans (gauge _)

theorem flush_tells : Tells s s.flush.2 := by
  have step (progress : Option ReportFault × Sender σ) (k : Kind) :
      Tells progress.2 (visitNext progress k).2 := progress.2.visit_tells k
  exact .foldl step Kind.all (none, s)

theorem lastFlush_tells : Tells s s.lastFlush := by
  have told : Tells s { s with closing := true } := ⟨[], .quiet rfl rfl rfl rfl⟩
  exact told.trans (flush_tells _)

def crowded : List Notice :=
  if (s.buffer k).queue.size < (s.buffer k).capacity then [] else [.full k]

def refused : Except Invalid String → List Notice
  | .error _ => []
  | .ok _ => s.crowded k

theorem offer_voices (record : String) : ∃ events,
    Voices s (s.offer k record).2 events (s.crowded k) ∧ ∀ e ∈ events, e = .queued k record := by
  rcases Nat.lt_or_ge (s.buffer k).queue.size (s.buffer k).capacity with free | full
  · have queued : Voices s (s.setBuffer k ((s.buffer k).offer record).2) [] [] :=
      .quiet rfl rfl rfl rfl
    rw [crowded, if_pos free]
    rw [Buffer.offer_of_lt record free] at queued
    simp only [offer, Buffer.offer_of_lt record free]
    exact ⟨[.queued k record], queued.trans (.record rfl _), by simp⟩
  · have dropped : Voices s (s.setBuffer k ((s.buffer k).offer record).2) [] [] :=
      .quiet rfl rfl rfl rfl
    rw [crowded, if_neg (Nat.not_lt.mpr full)]
    rw [Buffer.offer_of_le record full] at dropped
    simp only [offer, Buffer.offer_of_le record full]
    exact ⟨[], dropped.trans (.say _ _), by simp⟩

private theorem accept_voices (record : String) : ∃ events,
    Voices s (s.accept k record).2 events (s.crowded k) ∧ ∀ e ∈ events, e = .queued k record := by
  have counted : Voices s (s.onBuffer k (·.count Tally.addValid)) [] [] := .quiet rfl rfl rfl rfl
  have same : (s.onBuffer k (·.count Tally.addValid)).crowded k = s.crowded k := by
    rw [crowded, crowded, s.buffer_onBuffer_self]
    rfl
  obtain ⟨events, voices, queued⟩ := offer_voices (s.onBuffer k (·.count Tally.addValid)) k record
  rw [same] at voices
  exact ⟨events, counted.trans voices, queued⟩

private def Mute (events : List Event) : Prop := ∀ e ∈ events, ∃ k record, e = .queued k record

private theorem submit_voices (encoded : Except Invalid String) : ∃ events,
    Voices s (s.submit k encoded).2 events (s.refused k encoded) ∧ Mute events := by
  cases encoded with
  | error fault => exact ⟨[], .quiet rfl rfl rfl rfl, by simp [Mute]⟩
  | ok record =>
    obtain ⟨events, voices, queued⟩ := s.accept_voices k record
    exact ⟨events, voices, fun e member => ⟨k, record, queued e member⟩⟩

def refusals : Call → List Notice
  | .metric m => s.refused .points (m.encode s.defaultSource)
  | .formatted p => s.refused .points (formattedRecord p)
  | .distribution d => s.refused .histograms (d.encode s.defaultSource)
  | .span x => s.refused .spans (x.encode s.defaultSource) ++
      match x.encode s.defaultSource with
      | .error _ => []
      | .ok _ =>
        if x.logs.isEmpty ∨ (s.buffer .spans).capacity ≤ (s.buffer .spans).queue.size then []
        else s.crowded .spanLogs
  | _ => []

private theorem sendSpan_voices (x : Span) : ∃ events,
    Voices s (s.sendSpan x).2 events (s.refusals (.span x)) ∧ Mute events := by
  unfold sendSpan
  simp only [refusals]
  cases x.encode s.defaultSource with
  | error fault => exact ⟨[], .quiet rfl rfl rfl rfl, by simp [Mute]⟩
  | ok record =>
    obtain ⟨events, first, queued⟩ := s.accept_voices .spans record
    have mute : Mute events := fun e member => ⟨.spans, record, queued e member⟩
    cases none : x.logs.isEmpty with
    | true =>
      simp only [true_or, if_true, List.append_nil]
      exact ⟨events, first, mute⟩
    | false =>
      rcases Nat.lt_or_ge (s.buffer .spans).queue.size (s.buffer .spans).capacity with free | full
      · obtain ⟨accepted, entry⟩ := Entry.accept_of_lt free record
        have same : (s.accept .spans record).2.crowded .spanLogs = s.crowded .spanLogs := by
          rw [crowded, crowded, entry.others .spanLogs (by decide)]
        obtain ⟨later, second, logs⟩ := accept_voices (s.accept .spans record).2 .spanLogs
          (SpanLogRecord.encode ⟨x.traceId, x.spanId, x.logs, some record⟩)
        rw [same] at second
        simp only [accepted, Bool.false_eq_true, if_false, if_true, false_or,
          if_neg (Nat.not_le.mpr free)]
        refine ⟨_, first.trans second, fun e member => ?_⟩
        rcases List.mem_append.mp member with early | late
        · exact mute e early
        · exact ⟨_, _, logs e late⟩
      · obtain ⟨refused, -⟩ := Entry.accept_of_le full record
        have dropped : Voices (s.accept .spans record).2
            ((s.accept .spans record).2.onBuffer .spanLogs (·.drop 1)) [] [] := .quiet rfl rfl rfl rfl
        simp only [refused, Bool.false_eq_true, if_false, false_or, if_pos full]
        exact ⟨_, first.trans dropped, by simpa using mute⟩

/-- The notices that a call says: of records that find their queue full, and of all that it does. -/
def notices (call : Call) : List Notice :=
  s.refusals call ++ ((s.step call).2.deeds.drop s.deeds.length).flatMap
    (Event.notices s.limits.messageSize)

theorem notices_clock (now : Nat) : s.notices (.clock now) = [] := by
  change [] ++ (s.deeds.drop s.deeds.length).flatMap _ = _
  rw [List.drop_length]
  rfl

def sayings (call : Call) : List Saying := (s.notices call).map (Notice.saying s.now)

private theorem lines_close : ∃ more, s.close.lines = s.lastFlush.lines ++ more := by
  have logged (t : Sender σ) (level : Level) (text : String) :
      (t.log level text).lines = t.lines ++ [⟨level, text⟩] := by
    simp [lines, log, record, Event.line?]
  have shut (t : Sender σ) (link : σ) (outcome : Except Fault Unit) :
      ({ t with link := link }.record (.closed outcome)).lines = t.lines := rfl
  unfold close lastFlush
  generalize { s with closing := true }.flush = flushed
  obtain ⟨fault, t⟩ := flushed
  cases fault with
  | none =>
    simp only
    cases (t.transport.close t.link).1 with
    | error fault => exact ⟨_, by rw [logged, shut]⟩
    | ok done => exact ⟨[], by rw [shut, List.append_nil]⟩
  | some fault =>
    simp only
    cases ((t.log .warn ("error flushing buffer: " ++ fault.message)).transport.close
      (t.log .warn ("error flushing buffer: " ++ fault.message)).link).1 with
    | error fault => exact ⟨_, by rw [logged, shut, logged, List.append_assoc]⟩
    | ok done => exact ⟨_, by rw [shut, logged]⟩

end Sender

/-- What a call says goes through the window, and what is let through is logged; only in closing
other lines may be logged behind. -/
structure Speaks (s : Sender σ) (call : Call) (t : Sender σ) : Prop where
  window : t.window = s.window.afterAll (s.sayings call)
  lines : ∃ more, t.lines = s.lines ++ (s.window.passed (s.sayings call)).map Saying.line ++ more ∧
    (call ≠ .close → more = [])

namespace Speaks

variable {s t : Sender σ} {call : Call} {events : List Event}

private theorem of_voices (step : (s.step call).2 = t)
    (voices : Voices s t events
      (s.refusals call ++ events.flatMap (Event.notices s.limits.messageSize))) :
    Speaks s call t := by
  have notices : s.notices call =
      s.refusals call ++ events.flatMap (Event.notices s.limits.messageSize) := by
    rw [Sender.notices, step, voices.deeds, List.drop_left]
  constructor
  · rw [Sender.sayings, notices]
    exact voices.window
  · refine ⟨[], ?_, fun _ => rfl⟩
    rw [Sender.sayings, notices, List.append_nil]
    exact voices.lines

private theorem of_mute (step : (s.step call).2 = t)
    (voices : ∃ events, Voices s t events (s.refusals call) ∧ Sender.Mute events) :
    Speaks s call t := by
  obtain ⟨events, voices, mute⟩ := voices
  have silent : events.flatMap (Event.notices s.limits.messageSize) = [] := by
    rw [List.flatMap_eq_nil_iff]
    intro e member
    obtain ⟨k, record, rfl⟩ := mute e member
    rfl
  have all : Voices s t events
      (s.refusals call ++ events.flatMap (Event.notices s.limits.messageSize)) := by
    rw [silent, List.append_nil]
    exact voices
  exact of_voices step all

private theorem of_tells (step : (s.step call).2 = t) (none : s.refusals call = [])
    (tells : Tells s t) : Speaks s call t := by
  obtain ⟨events, voices⟩ := tells
  have all : Voices s t events
      (s.refusals call ++ events.flatMap (Event.notices s.limits.messageSize)) := by
    rw [none]
    exact voices
  exact of_voices step all

private theorem close (s : Sender σ) : Speaks s .close s.close := by
  obtain ⟨events, voices⟩ := s.lastFlush_tells
  obtain ⟨outcome, closed⟩ := (s.lastFlush_closes .points).deeds
  obtain ⟨more, lines⟩ := s.lines_close
  have shut (t : Sender σ) : t.shut.window = t.window := rfl
  have window : s.close.window = s.lastFlush.window :=
    s.shut_close.window.trans (shut s.lastFlush)
  have notices : s.notices .close = events.flatMap (Event.notices s.limits.messageSize) := by
    have step : (s.step .close).2 = s.close := rfl
    have none : s.refusals .close = [] := rfl
    have silent : [Event.closed outcome].flatMap (Event.notices s.limits.messageSize) = [] := rfl
    rw [Sender.notices, step, closed, voices.deeds, List.append_assoc, List.drop_left,
      List.flatMap_append, silent, none, List.append_nil, List.nil_append]
  constructor
  · rw [window, Sender.sayings, notices]
    exact voices.window
  · refine ⟨more, ?_, fun other => absurd rfl other⟩
    rw [lines, voices.lines, Sender.sayings, notices]

theorem step (s : Sender σ) (call : Call) : Speaks s call (s.step call).2 := by
  cases call with
  | metric m => exact of_mute rfl (s.submit_voices .points _)
  | formatted p => exact of_mute rfl (s.submit_voices .points _)
  | distribution d => exact of_mute rfl (s.submit_voices .histograms _)
  | span x => exact of_mute rfl (s.sendSpan_voices x)
  | flush => exact of_tells rfl rfl s.flush_tells
  | scheduledFlush =>
    refine of_tells rfl rfl ?_
    change Tells s s.scheduledFlush.2
    unfold Sender.scheduledFlush
    split_ifs
    · exact .refl s
    · exact s.flush_tells
  | close => exact close s
  | clock now =>
    have nothing : s.sayings (.clock now) = [] := by
      rw [Sender.sayings, s.notices_clock]
      rfl
    constructor
    · rw [nothing]
      rfl
    · refine ⟨[], ?_, fun _ => rfl⟩
      rw [nothing]
      simp [Sender.lines, Sender.step, LogWindow.passed]

end Speaks

namespace Sender

def history (s : Sender σ) : List Call → List Saying
  | [] => []
  | call :: rest => s.sayings call ++ history (s.step call).2 rest

theorem window_run (s : Sender σ) (calls : List Call) :
    (s.run calls).window = s.window.afterAll (s.history calls) := by
  induction calls generalizing s with
  | nil => rfl
  | cons call rest ih =>
    rw [history, LogWindow.afterAll_append, ← (Speaks.step s call).window]
    exact ih (s.step call).2

end Sender

end TelemetrySender
