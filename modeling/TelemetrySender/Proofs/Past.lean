import TelemetrySender.Proofs.Journal

/-!
The past is never read.  Whatever a sender does, it does on top of its journal and without a look
into it.  So log lines have no effect: two senders that differ in them alone answer alike, and go on
to differ in them alone.
-/

set_option autoImplicit false
set_option relaxedAutoImplicit false

namespace TelemetrySender

variable {σ : Type}

namespace Sender

/-- A sender with more behind it. -/
def onto (s : Sender σ) (past : List Event) : Sender σ :=
  { s with journal := s.journal ++ past }

variable (past : List Event) (s : Sender σ) (k : Kind)

private theorem say_onto (n : Notice) : (s.onto past).say n = (s.say n).onto past := by
  have window : (s.onto past).window = s.window := rfl
  have now : (s.onto past).now = s.now := rfl
  simp only [say, window, now]
  cases (s.window.letThrough s.now n.key).1 <;> rfl

private theorem requeue_onto (chunk : Chunk) :
    (s.onto past).requeue k chunk = (s.requeue k chunk).onto past := by
  have buffer : (s.onto past).buffer k = s.buffer k := rfl
  simp only [requeue, buffer]
  cases ((s.buffer k).requeue chunk).1 with
  | nil => rfl
  | cons record rest =>
    exact say_onto past ((s.setBuffer k ((s.buffer k).requeue chunk).2).record
      (.lost k .overflow (record :: rest))) _

private theorem settle_onto (chunk : Chunk) (status : Nat) :
    (s.onto past).settle k chunk status = (s.settle k chunk status).onto past := by
  let counted := s.onBuffer k (·.count (·.addStatus status))
  unfold settle
  cases Verdict.ofStatus k status with
  | delivered => rfl
  | disable =>
    have said := say_onto past (counted.onBuffer k fun b => (b.disable k).2) (.disabling k status)
    exact congrArg (fun s => s.lose k .disabled chunk) said
  | denied =>
    have said := say_onto past counted (.denied k status)
    exact (congrArg (fun s => s.requeue k chunk) said).trans (requeue_onto past _ k chunk)
  | rejected =>
    have said := say_onto past counted (.rejected k status)
    exact (congrArg (fun s => s.requeue k chunk) said).trans (requeue_onto past _ k chunk)

private def answerOnto {α : Type} (past : List Event) (r : α × Sender σ) : α × Sender σ :=
  (r.1, r.2.onto past)

private theorem hand_onto (chunk : Chunk) :
    (s.onto past).hand k chunk = answerOnto past (s.hand k chunk) := by
  have report : (s.onto past).transport.report k (String.join chunk) (s.onto past).link =
      s.transport.report k (String.join chunk) s.link := rfl
  simp only [hand, report]
  rcases s.transport.report k (String.join chunk) s.link with ⟨fault | status, link⟩
  · rfl
  · let handed := { s with link := link }.record (.reported ⟨k, chunk, s.closing, .ok status⟩)
    exact congrArg (Prod.mk none) (settle_onto past handed k chunk status)

private theorem deliverChunk_onto (progress : Option Fault × Sender σ) (chunk : Chunk) :
    deliverChunk k (answerOnto past progress) chunk =
      answerOnto past (deliverChunk k progress chunk) := by
  obtain ⟨fault, s⟩ := progress
  cases fault with
  | some fault => rfl
  | none =>
    have disabled : ((s.onto past).buffer k).disabled = (s.buffer k).disabled := rfl
    simp only [deliverChunk, answerOnto, disabled]
    cases (s.buffer k).disabled with
    | true =>
      have said := say_onto past s (.discarding k)
      exact congrArg (fun s => (none, s.lose k .discarded chunk)) said
    | false => exact hand_onto past s k chunk

private theorem foldl_onto {α β : Type} {f : α × Sender σ → β → α × Sender σ}
    (step : ∀ r b, f (answerOnto past r) b = answerOnto past (f r b)) (l : List β)
    (r : α × Sender σ) : l.foldl f (answerOnto past r) = answerOnto past (l.foldl f r) := by
  induction l generalizing r with
  | nil => rfl
  | cons b rest ih => rw [List.foldl_cons, step, ih, List.foldl_cons]

private theorem takeBatch_onto :
    (s.onto past).takeBatch k = answerOnto past (s.takeBatch k) := by
  have notices (records : List String) (s : Sender σ) :
      records.foldl (fun s r => (s.record (.lost k .oversize [r])).say
        (.oversize s.limits.messageSize r)) (s.onto past) =
      (records.foldl (fun s r => (s.record (.lost k .oversize [r])).say
        (.oversize s.limits.messageSize r)) s).onto past := by
    induction records generalizing s with
    | nil => rfl
    | cons r rest ih =>
      have said := say_onto past (s.record (.lost k .oversize [r]))
        (.oversize s.limits.messageSize r)
      rw [List.foldl_cons, List.foldl_cons, ← ih, ← said]
      rfl
  let taken := (s.buffer k).takeBatch s.limits.batchSize s.limits.messageSize
  exact congrArg (Prod.mk taken.1.chunks) (notices taken.1.oversize (s.setBuffer k taken.2))

private theorem deliver_onto : (s.onto past).deliver k = answerOnto past (s.deliver k) := by
  simp only [deliver, takeBatch_onto]
  exact foldl_onto past (deliverChunk_onto past k) _ (none, (s.takeBatch k).2)

private theorem visit_onto : (s.onto past).visit k = answerOnto past (s.visit k) := by
  have delivered := deliver_onto past (s.onBuffer k Buffer.gauge) k
  exact congrArg (fun r => (r.1, r.2.onBuffer k Buffer.gauge)) delivered

private theorem visitNext_onto (progress : Option ReportFault × Sender σ) (k : Kind) :
    visitNext (answerOnto past progress) k = answerOnto past (visitNext progress k) := by
  have visited := visit_onto past progress.2 k
  exact congrArg (fun r : Option Fault × Sender σ =>
    (progress.1.or (r.1.map (ReportFault.mk k)), r.2)) visited

private theorem flush_onto : (s.onto past).flush = answerOnto past s.flush :=
  foldl_onto past (visitNext_onto past) Kind.all (none, s)

private theorem scheduledFlush_onto :
    (s.onto past).scheduledFlush = answerOnto past s.scheduledFlush := by
  have closing : (s.onto past).closing = s.closing := rfl
  unfold scheduledFlush
  rw [closing]
  cases s.closing with
  | true => rfl
  | false => exact flush_onto past s

private theorem close_onto : (s.onto past).close = s.close.onto past := by
  have flushed := flush_onto past { s with closing := true }
  have same : { s.onto past with closing := true }.flush =
      answerOnto past { s with closing := true }.flush := flushed
  unfold close
  rw [same]
  generalize { s with closing := true }.flush = flushed
  -- Neither the fault of the last cycle nor that of the transport leads to more than a log line.
  obtain ⟨fault, t⟩ := flushed
  have closed : (t.onto past).transport.close (t.onto past).link = t.transport.close t.link := rfl
  cases fault with
  | none =>
    simp only [answerOnto, closed]
    rcases t.transport.close t.link with ⟨fault | done, link⟩ <;> rfl
  | some fault =>
    have logged (text : String) : ((t.onto past).log .warn text).transport.close
        ((t.onto past).log .warn text).link = t.transport.close t.link := rfl
    have plain (text : String) : (t.log .warn text).transport.close (t.log .warn text).link =
        t.transport.close t.link := rfl
    simp only [answerOnto, logged, plain]
    rcases t.transport.close t.link with ⟨fault | done, link⟩ <;> rfl

private theorem offer_onto (record : String) :
    (s.onto past).offer k record = answerOnto past (s.offer k record) := by
  have buffer : (s.onto past).buffer k = s.buffer k := rfl
  simp only [offer, buffer]
  cases ((s.buffer k).offer record).1 with
  | true => rfl
  | false =>
    have said := say_onto past (s.setBuffer k ((s.buffer k).offer record).2) (.full k)
    exact congrArg (Prod.mk false) said

private theorem accept_onto (record : String) :
    (s.onto past).accept k record = answerOnto past (s.accept k record) :=
  offer_onto past (s.onBuffer k (·.count Tally.addValid)) k record

private theorem submit_onto (encoded : Except Invalid String) :
    (s.onto past).submit k encoded = answerOnto past (s.submit k encoded) := by
  cases encoded with
  | error fault => rfl
  | ok record =>
    exact congrArg (fun r => ((.ok (), r.2) : Except Invalid Unit × Sender σ))
      (accept_onto past s k record)

private theorem sendSpan_onto (x : Span) :
    (s.onto past).sendSpan x = answerOnto past (s.sendSpan x) := by
  have source : (s.onto past).defaultSource = s.defaultSource := rfl
  unfold sendSpan
  rw [source]
  cases x.encode s.defaultSource with
  | error fault => rfl
  | ok record =>
    have accepted := accept_onto past s .spans record
    simp only [accepted]
    cases x.logs.isEmpty with
    | true => rfl
    | false =>
      have queued : (answerOnto past (s.accept .spans record)).1 = (s.accept .spans record).1 := rfl
      rw [queued]
      cases (s.accept .spans record).1 with
      | true =>
        have logs := accept_onto past (s.accept .spans record).2 .spanLogs
          (SpanLogRecord.encode ⟨x.traceId, x.spanId, x.logs, some record⟩)
        exact congrArg (fun r => ((.ok (), r.2) : Except Invalid Unit × Sender σ)) logs
      | false => rfl

/-- Every call is answered and dealt with as without the past. -/
theorem step_onto (call : Call) :
    (s.onto past).step call = ((s.step call).1, (s.step call).2.onto past) := by
  cases call with
  | metric m => exact congrArg (fun r => (Reply.ofSend r.1, r.2)) (submit_onto past s .points _)
  | formatted p => exact congrArg (fun r => (Reply.ofSend r.1, r.2)) (submit_onto past s .points _)
  | distribution d =>
    exact congrArg (fun r => (Reply.ofSend r.1, r.2)) (submit_onto past s .histograms _)
  | span x => exact congrArg (fun r => (Reply.ofSend r.1, r.2)) (sendSpan_onto past s x)
  | flush => exact congrArg (fun r => (Reply.ofFlush r.1, r.2)) (flush_onto past s)
  | scheduledFlush =>
    exact congrArg (fun r => (Reply.ofFlush r.1, r.2)) (scheduledFlush_onto past s)
  | close => exact congrArg (Prod.mk Reply.ok) (close_onto past s)
  | clock now => rfl

theorem deeds_onto : (s.onto past).deeds = (past.filter Event.isDeed).reverse ++ s.deeds := by
  rw [deeds, onto, List.filter_append, List.reverse_append, deeds]

end Sender

/-- Two senders differ in their log lines at most. -/
structure SameButLog (s t : Sender σ) : Prop where
  rest : t = { s with journal := t.journal }
  deeds : t.deeds = s.deeds

namespace SameButLog

variable {s t u : Sender σ}

theorem refl (s : Sender σ) : SameButLog s s := ⟨rfl, rfl⟩

theorem trans (first : SameButLog s t) (second : SameButLog t u) : SameButLog s u := by
  constructor
  · rw [second.rest, first.rest]
  · rw [second.deeds, first.deeds]

theorem log (s : Sender σ) (level : Level) (text : String) : SameButLog s (s.log level text) :=
  ⟨rfl, s.deeds_log level text⟩

theorem buffers (same : SameButLog s t) : t.buffers = s.buffers := by
  rw [same.rest]

theorem link (same : SameButLog s t) : t.link = s.link := by
  rw [same.rest]

theorem window (same : SameButLog s t) : t.window = s.window := by
  rw [same.rest]

theorem closing (same : SameButLog s t) : t.closing = s.closing := by
  rw [same.rest]

theorem reports (same : SameButLog s t) : t.reports = s.reports := by
  rw [Sender.reports, same.deeds, Sender.reports]

theorem step (same : SameButLog s t) (call : Call) :
    (t.step call).1 = (s.step call).1 ∧ SameButLog (s.step call).2 (t.step call).2 := by
  let bare : Sender σ := { s with journal := [] }
  have left : s = bare.onto s.journal := rfl
  have right : t = bare.onto t.journal := same.rest
  have stepLeft : s.step call = _ := bare.step_onto s.journal call
  have stepRight : t.step call = _ := (congrArg (Sender.step · call) right).trans
    (bare.step_onto t.journal call)
  have past : (t.journal.filter Event.isDeed).reverse = (s.journal.filter Event.isDeed).reverse :=
    same.deeds
  rw [stepLeft, stepRight]
  refine ⟨rfl, rfl, ?_⟩
  rw [Sender.deeds_onto, Sender.deeds_onto, past]

end SameButLog

end TelemetrySender
