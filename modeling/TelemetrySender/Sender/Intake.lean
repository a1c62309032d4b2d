import TelemetrySender.Distribution
import TelemetrySender.Metric
import TelemetrySender.Sender.Basic
import TelemetrySender.Span.Basic

/-!
Taking entities in.  An entity is checked and encoded, then queued under its kind; one that finds
its queue full is counted as dropped, which is no fault of the caller's.
-/

set_option autoImplicit false
set_option relaxedAutoImplicit false

namespace TelemetrySender.Sender

variable {σ : Type}

def offer (s : Sender σ) (k : Kind) (record : String) : Bool × Sender σ :=
  let offered := (s.buffer k).offer record
  let s := s.setBuffer k offered.2
  if offered.1 then (true, s.record (.queued k record)) else (false, s.say (.full k))

def accept (s : Sender σ) (k : Kind) (record : String) : Bool × Sender σ :=
  (s.onBuffer k (·.count Tally.addValid)).offer k record

def refuse (s : Sender σ) (k : Kind) : Sender σ := s.onBuffer k (·.count Tally.addInvalid)

def submit (s : Sender σ) (k : Kind) (encoded : Except Invalid String) :
    Except Invalid Unit × Sender σ :=
  match encoded with
  | .error e => (.error e, s.refuse k)
  | .ok record => (.ok (), (s.accept k record).2)

def sendMetric (s : Sender σ) (m : Metric) : Except Invalid Unit × Sender σ :=
  s.submit .points (m.encode s.defaultSource)

/-- The record of a point that is formatted already: ended by a line feed, or refused if blank. -/
def formattedRecord (point : String) : Except Invalid String :=
  if isBlank point then .error .blankPoint
  else .ok (if point.toList.getLast? = some '\n' then point else point.push '\n')

def sendFormatted (s : Sender σ) (point : String) : Except Invalid Unit × Sender σ :=
  s.submit .points (formattedRecord point)

def sendDistribution (s : Sender σ) (d : Distribution) : Except Invalid Unit × Sender σ :=
  s.submit .histograms (d.encode s.defaultSource)

/-- Queues a span and then its logs if it has any; the logs of a span that found its queue full
are dropped with it. -/
def sendSpan (s : Sender σ) (span : Span) : Except Invalid Unit × Sender σ :=
  match span.encode s.defaultSource with
  | .error e => (.error e, s.refuse .spans)
  | .ok record =>
    let accepted := s.accept .spans record
    if span.logs.isEmpty then (.ok (), accepted.2)
    else if accepted.1 then
      (.ok (), (accepted.2.accept .spanLogs
        (SpanLogRecord.encode ⟨span.traceId, span.spanId, span.logs, some record⟩)).2)
    else (.ok (), accepted.2.onBuffer .spanLogs (·.drop 1))

end TelemetrySender.Sender
