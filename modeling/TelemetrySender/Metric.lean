import TelemetrySender.Attributes
import TelemetrySender.Line

/-!
Metric points.  A point is one line: its name, its value, optionally a timestamp, the source and
the tags.
-/

set_option autoImplicit false
set_option relaxedAutoImplicit false

namespace TelemetrySender

structure Metric where
  name : String
  value : Decimal.Double
  timestamp : Option Int
  source : Option String
  tags : Attributes

namespace Metric

def context (m : Metric) : Context := ⟨m.name, m.source, m.tags.entries⟩

def chars (m : Metric) (source : String) : List Char :=
  Text.Name.quote m.name.toList ++ ' ' :: Line.valueText m.value ++
    Line.timestampField m.timestamp ++ Line.sourceField source ++ Line.tagFields m.tags.entries ++
    ['\n']

/-- The record of a point, or the first fault. -/
def encode (m : Metric) (fallback : String) : Except Invalid String :=
  match Line.check .metric m.context fallback (.ok ()) with
  | .error e => .error e
  | .ok () => .ok (String.ofList (m.chars (resolveSource m.source fallback)))

end Metric

end TelemetrySender
