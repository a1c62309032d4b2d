import TelemetrySender.Decimal.Double
import TelemetrySender.Invalid
import TelemetrySender.Text.Name
import TelemetrySender.Text.Quoted

/-!
What lines of all entities share: the fields they are put together from, and the checks that run
before any line is written.  The checks go in the order name, source, whatever the entity itself
requires, then the tags in order, each by key before value.
-/

set_option autoImplicit false
set_option relaxedAutoImplicit false

namespace TelemetrySender

open Text

def isBlank (s : String) : Bool :=
  Blank.isBlank s.toList

/-- The source to write: the given one, or the fallback if none is given or it is blank. -/
def resolveSource (given : Option String) (fallback : String) : String :=
  match given with
  | some s => if isBlank s then fallback else s
  | none => fallback

namespace Line

def timestampField : Option Int → List Char
  | some t => ' ' :: Decimal.integerText t
  | none => []

def sourceField (source : String) : List Char :=
  " source=".toList ++ Name.quote source.toList

def tagField (t : String × String) : List Char :=
  ' ' :: (Name.quote t.1.toList ++ '=' :: Quoted.encode t.2.toList)

def tagFields (tags : List (String × String)) : List Char :=
  tags.flatMap tagField

def valueText (d : Decimal.Double) : List Char :=
  d.text .value

def checkTags (subject : Subject) (context : Context) :
    List (String × String) → Except Invalid Unit
  | [] => .ok ()
  | (key, value) :: rest =>
    if isBlank key then .error (.blankTagKey subject context)
    else if isBlank value then .error (.blankTagValue subject key value context)
    else checkTags subject context rest

/-- Checks name and source; `rest` is checked after them and the tags last. -/
def check (subject : Subject) (context : Context) (fallback : String)
    (rest : Except Invalid Unit) : Except Invalid Unit :=
  if isBlank context.name then .error (.blankName subject context)
  else if isBlank (resolveSource context.source fallback) then
    .error (.blankSource subject context)
  else
    match rest with
    | .error e => .error e
    | .ok () => checkTags subject context context.tags

theorem checkTags_eq_ok_iff (subject : Subject) (context : Context)
    (tags : List (String × String)) :
    checkTags subject context tags = .ok () ↔
      ∀ t ∈ tags, isBlank t.1 = false ∧ isBlank t.2 = false := by
  induction tags with
  | nil => simp [checkTags]
  | cons t rest ih =>
    obtain ⟨key, value⟩ := t
    unfold checkTags
    by_cases blankKey : isBlank key <;> by_cases blankValue : isBlank value <;>
      simp [blankKey, blankValue, ih]

theorem check_eq_ok_iff (subject : Subject) (context : Context) (fallback : String)
    (rest : Except Invalid Unit) :
    check subject context fallback rest = .ok () ↔
      isBlank context.name = false ∧
      isBlank (resolveSource context.source fallback) = false ∧ rest = .ok () ∧
      ∀ t ∈ context.tags, isBlank t.1 = false ∧ isBlank t.2 = false := by
  unfold check
  by_cases blankName : isBlank context.name <;>
    by_cases blankSource : isBlank (resolveSource context.source fallback) <;>
      cases rest <;> simp [blankName, blankSource, checkTags_eq_ok_iff]

end Line

end TelemetrySender
