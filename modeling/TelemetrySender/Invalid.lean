/-!
Why an entity is refused.  A fault in an entity carries the whole entity as it was handed in, so
that a refusal can be traced back to the call: its name, its source (not the one that would have
been used in its stead) and all its tags.
-/

set_option autoImplicit false
set_option relaxedAutoImplicit false

namespace TelemetrySender

inductive Subject where
  | metric
  | histogram
  | span
  deriving DecidableEq

def Subject.word : Subject → String
  | metric => "metric"
  | histogram => "histogram"
  | span => "span"

/-- What was handed in, for the text of a refusal. -/
structure Context where
  name : String
  source : Option String
  tags : List (String × String)
  deriving DecidableEq

def Context.text (c : Context) : String :=
  "name=" ++ c.name ++ ", source=" ++ c.source.getD "null" ++ ", tags=\x7b" ++
    String.intercalate ", " (c.tags.map fun t => t.1 ++ "=[" ++ t.2 ++ "]") ++ "\x7d"

inductive Invalid where
  | blankName (subject : Subject) (context : Context)
  | blankSource (subject : Subject) (context : Context)
  | blankTagKey (subject : Subject) (context : Context)
  | blankTagValue (subject : Subject) (key value : String) (context : Context)
  | emptyCentroids (context : Context)
  | emptyGranularities (context : Context)
  | blankPoint
  deriving DecidableEq

def Invalid.message : Invalid → String
  | blankName s c => s.word ++ " name cannot be blank: " ++ c.text
  | blankSource s c => s.word ++ " source cannot be blank: " ++ c.text
  | blankTagKey s c => s.word ++ " tag key cannot be blank: " ++ c.text
  | blankTagValue s key value c =>
    s.word ++ " tag value cannot be blank for " ++ key ++ "=[" ++ value ++ "]: " ++ c.text
  | emptyCentroids c => "histogram centroids cannot be empty: " ++ c.text
  | emptyGranularities c => "histogram granularities cannot be empty: " ++ c.text
  | blankPoint => "point must be non-blank and in Wavefront data format"

end TelemetrySender
