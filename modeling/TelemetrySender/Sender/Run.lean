import TelemetrySender.Sender.Cycle
import TelemetrySender.Sender.Intake

/-!
Runs of a sender: sequences of calls, each answered by a reply.
-/

set_option autoImplicit false
set_option relaxedAutoImplicit false

namespace TelemetrySender

/-- The calls of a sender, and the setting of the clock that its log goes by. -/
inductive Call where
  | metric (metric : Metric)
  | formatted (point : String)
  | distribution (distribution : Distribution)
  | span (span : Span)
  | flush
  | scheduledFlush
  | close
  | clock (now : Nat)

inductive Reply where
  | ok
  | invalid (fault : Invalid)
  | failed (fault : ReportFault)

namespace Reply

def ofSend : Except Invalid Unit → Reply
  | .ok () => ok
  | .error e => invalid e

def ofFlush : Option ReportFault → Reply
  | none => ok
  | some f => failed f

end Reply

namespace Sender

variable {σ : Type}

def step (s : Sender σ) : Call → Reply × Sender σ
  | .metric m => let r := s.sendMetric m; (.ofSend r.1, r.2)
  | .formatted p => let r := s.sendFormatted p; (.ofSend r.1, r.2)
  | .distribution d => let r := s.sendDistribution d; (.ofSend r.1, r.2)
  | .span x => let r := s.sendSpan x; (.ofSend r.1, r.2)
  | .flush => let r := s.flush; (.ofFlush r.1, r.2)
  | .scheduledFlush => let r := s.scheduledFlush; (.ofFlush r.1, r.2)
  | .close => (.ok, s.close)
  | .clock now => (.ok, { s with now := now })

def run (s : Sender σ) (calls : List Call) : Sender σ :=
  calls.foldl (fun s c => (s.step c).2) s

theorem run_append (s : Sender σ) (calls more : List Call) :
    s.run (calls ++ more) = (s.run calls).run more := by
  simp [run]

end Sender

end TelemetrySender
