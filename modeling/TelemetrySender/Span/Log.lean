import TelemetrySender.Attributes
import TelemetrySender.Json.Basic
import TelemetrySender.Uuid

/-!
Span logs.  The logs of one span travel as one line of JSON that names the span by its
identifiers and repeats the span's own record.
-/

set_option autoImplicit false
set_option relaxedAutoImplicit false

namespace TelemetrySender

structure SpanLog where
  timestamp : Int
  fields : Attributes

def SpanLog.json (l : SpanLog) : Json :=
  .object [("timestamp", .integer l.timestamp),
    ("fields", .object (l.fields.entries.map fun f => (f.1, .text f.2)))]

/-- The logs of one span, and the record of the span if it is known. -/
structure SpanLogRecord where
  traceId : Uuid
  spanId : Uuid
  logs : List SpanLog
  span : Option String

namespace SpanLogRecord

def json (r : SpanLogRecord) : Json :=
  .object [("traceId", .text (String.ofList r.traceId.text)),
    ("spanId", .text (String.ofList r.spanId.text)),
    ("logs", .array (r.logs.map SpanLog.json)),
    ("span", match r.span with | some s => .text s | none => .null)]

def encode (r : SpanLogRecord) : String :=
  String.ofList (r.json.render ++ ['\n'])

end SpanLogRecord

end TelemetrySender
