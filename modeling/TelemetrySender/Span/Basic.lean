import TelemetrySender.Line
import TelemetrySender.Span.Log

/-!
Tracing spans.  A span is one line: its name as free text, the source, its identifiers, the spans
it descends and follows from, the tags, and last its start and duration.  A span that has logs is
marked by one more tag behind its own.
-/

set_option autoImplicit false
set_option relaxedAutoImplicit false

namespace TelemetrySender

structure Span where
  name : String
  startMillis : Int
  durationMillis : Int
  source : Option String
  traceId : Uuid
  spanId : Uuid
  parents : List Uuid
  followsFrom : List Uuid
  tags : List (String × String)
  logs : List SpanLog

namespace Span

def logMarkerKey : String := "_spanLogs"

def context (s : Span) : Context := ⟨s.name, s.source, s.tags⟩

/-- The tags as written, the log marker behind the span's own. -/
def writtenTags (s : Span) : List (String × String) :=
  if s.logs.isEmpty then s.tags else s.tags ++ [(logMarkerKey, "true")]

def uuidField (label : String) (u : Uuid) : List Char :=
  ' ' :: label.toList ++ '=' :: u.text

def chars (s : Span) (source : String) : List Char :=
  Text.Quoted.encode s.name.toList ++ Line.sourceField source ++
    uuidField "traceId" s.traceId ++ uuidField "spanId" s.spanId ++
    s.parents.flatMap (uuidField "parent") ++ s.followsFrom.flatMap (uuidField "followsFrom") ++
    Line.tagFields s.writtenTags ++
    ' ' :: Decimal.integerText s.startMillis ++ ' ' :: Decimal.integerText s.durationMillis ++
    ['\n']

/-- The record of a span, or the first fault. -/
def encode (s : Span) (fallback : String) : Except Invalid String :=
  match Line.check .span s.context fallback (.ok ()) with
  | .error e => .error e
  | .ok () => .ok (String.ofList (s.chars (resolveSource s.source fallback)))

end Span

end TelemetrySender
