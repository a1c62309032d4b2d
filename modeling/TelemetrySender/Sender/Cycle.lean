import TelemetrySender.Sender.Basic
import TelemetrySender.Verdict

/-!
Delivery cycles.  A cycle visits every kind and hands over one batch of each, chunk by chunk.
Chunks that the backend rejects go back behind the queue; a broken link costs the rest of the
batch; a kind that the backend does not admit is switched off and discarded from then on.  A fault
with one kind does not keep the cycle from visiting the next.
-/

set_option autoImplicit false
set_option relaxedAutoImplicit false

namespace TelemetrySender

structure ReportFault where
  kind : Kind
  fault : Fault
  deriving DecidableEq

def ReportFault.message (f : ReportFault) : String :=
  "failed to report " ++ f.kind.title ++ " to Wavefront: " ++ f.fault.text

namespace Sender

variable {σ : Type}

def requeue (s : Sender σ) (k : Kind) (chunk : Chunk) : Sender σ :=
  let requeued := (s.buffer k).requeue chunk
  let s := s.setBuffer k requeued.2
  match requeued.1 with
  | [] => s
  | lost => (s.record (.lost k .overflow lost)).say (.overflow k lost.length)

/-- Deals with a chunk that was answered. -/
def settle (s : Sender σ) (k : Kind) (chunk : Chunk) (status : Nat) : Sender σ :=
  let s := s.onBuffer k (·.count (·.addStatus status))
  match Verdict.ofStatus k status with
  | .delivered => s
  | .disable =>
    ((s.onBuffer k fun b => (b.disable k).2).say (.disabling k status)).lose k .disabled chunk
  | .denied => (s.say (.denied k status)).requeue k chunk
  | .rejected => (s.say (.rejected k status)).requeue k chunk

/-- Hands one chunk to the transport; gives the fault if that fails. -/
def hand (s : Sender σ) (k : Kind) (chunk : Chunk) : Option Fault × Sender σ :=
  let answer := s.transport.report k (String.join chunk) s.link
  let s := { s with link := answer.2 }.record (.reported ⟨k, chunk, s.closing, answer.1⟩)
  match answer.1 with
  | .ok status => (none, s.settle k chunk status)
  | .error fault =>
    (some fault, (s.lose k .broken chunk).onBuffer k (·.count Tally.addReportError))

def deliverChunk (k : Kind) (progress : Option Fault × Sender σ) (chunk : Chunk) :
    Option Fault × Sender σ :=
  match progress.1 with
  | some fault => (some fault, progress.2.lose k .broken chunk)
  | none =>
    if (progress.2.buffer k).disabled then
      (none, (progress.2.say (.discarding k)).lose k .discarded chunk)
    else progress.2.hand k chunk

/-- Takes a batch of a kind off its queue; notices the records left out for their length. -/
def takeBatch (s : Sender σ) (k : Kind) : List Chunk × Sender σ :=
  let taken := (s.buffer k).takeBatch s.limits.batchSize s.limits.messageSize
  let s := s.setBuffer k taken.2
  (taken.1.chunks, taken.1.oversize.foldl
    (fun s r => (s.record (.lost k .oversize [r])).say (.oversize s.limits.messageSize r)) s)

def deliver (s : Sender σ) (k : Kind) : Option Fault × Sender σ :=
  let taken := s.takeBatch k
  taken.1.foldl (deliverChunk k) (none, taken.2)

/-- Visits one kind, gauging its queue before and after. -/
def visit (s : Sender σ) (k : Kind) : Option Fault × Sender σ :=
  let delivered := (s.onBuffer k Buffer.gauge).deliver k
  (delivered.1, delivered.2.onBuffer k Buffer.gauge)

def visitNext (progress : Option ReportFault × Sender σ) (k : Kind) :
    Option ReportFault × Sender σ :=
  let visited := progress.2.visit k
  (progress.1.or (visited.1.map (ReportFault.mk k)), visited.2)

/-- One cycle over all kinds; gives the first fault. -/
def flush (s : Sender σ) : Option ReportFault × Sender σ :=
  Kind.all.foldl visitNext (none, s)

def scheduledFlush (s : Sender σ) : Option ReportFault × Sender σ :=
  if s.closing then (none, s) else s.flush

/-- Tells the sender to close, delivers one last batch of each kind, and closes the transport. -/
def close (s : Sender σ) : Sender σ :=
  let flushed := { s with closing := true }.flush
  let s := match flushed.1 with
    | some fault => flushed.2.log .warn ("error flushing buffer: " ++ fault.message)
    | none => flushed.2
  let closed := s.transport.close s.link
  let s := { s with link := closed.2 }.record (.closed closed.1)
  match closed.1 with
  | .error fault =>
    s.log .warn ("error closing " ++ s.transport.name ++ " transport: " ++ fault.text)
  | .ok () => s

end Sender

end TelemetrySender
