import TelemetrySender.Attributes
import TelemetrySender.Line

/-!
Distributions.  A distribution is aggregated by the backend over the granularities asked for, and
its record has one line for each of them, in the order minute, hour, day whatever the order or the
repeats of the request; the lines are equal behind their markers.
-/

set_option autoImplicit false
set_option relaxedAutoImplicit false

namespace TelemetrySender

inductive Granularity where
  | minute
  | hour
  | day
  deriving DecidableEq

namespace Granularity

/-- Every granularity once, in the order in which lines are written. -/
def all : List Granularity := [minute, hour, day]

def marker : Granularity → String
  | minute => "!M"
  | hour => "!H"
  | day => "!D"

end Granularity

structure Centroid where
  value : Decimal.Double
  count : Nat

structure Distribution where
  name : String
  centroids : List Centroid
  granularities : List Granularity
  timestamp : Option Int
  source : Option String
  tags : Attributes

namespace Distribution

def context (d : Distribution) : Context := ⟨d.name, d.source, d.tags.entries⟩

def centroidField (c : Centroid) : List Char :=
  " #".toList ++ Nat.toDigits 10 c.count ++ ' ' :: Line.valueText c.value

def body (d : Distribution) (source : String) : List Char :=
  Line.timestampField d.timestamp ++ d.centroids.flatMap centroidField ++
    ' ' :: Text.Name.quote d.name.toList ++ Line.sourceField source ++
    Line.tagFields d.tags.entries ++ ['\n']

def requested (d : Distribution) : List Granularity :=
  Granularity.all.filter (· ∈ d.granularities)

def chars (d : Distribution) (source : String) : List Char :=
  d.requested.flatMap fun g => g.marker.toList ++ d.body source

def checkLists (d : Distribution) : Except Invalid Unit :=
  if d.centroids.isEmpty then .error (.emptyCentroids d.context)
  else if d.granularities.isEmpty then .error (.emptyGranularities d.context)
  else .ok ()

/-- The record of a distribution, or the first fault. -/
def encode (d : Distribution) (fallback : String) : Except Invalid String :=
  match Line.check .histogram d.context fallback d.checkLists with
  | .error e => .error e
  | .ok () => .ok (String.ofList (d.chars (resolveSource d.source fallback)))

end Distribution

end TelemetrySender
