import TelemetrySender.Kind
import TelemetrySender.Log.Basic
import TelemetrySender.Text.Blank

/-!
What a sender has to say about the fate of its records.  Notices repeat as long as their cause
lasts, so each has a key under which repeats are held back; for most the key is the text itself,
while notices that differ only in a count or in the record at fault share one key.
-/

set_option autoImplicit false
set_option relaxedAutoImplicit false

namespace TelemetrySender

/-- What a sender may have to say.  An overflow is of records that were rejected and did not fit
back into their queue; a kind is denied if it is not admitted but cannot be switched off. -/
inductive Notice where
  | full (kind : Kind)
  | overflow (kind : Kind) (count : Nat)
  | oversize (limit : Nat) (record : String)
  | discarding (kind : Kind)
  | disabling (kind : Kind) (status : Nat)
  | denied (kind : Kind) (status : Nat)
  | rejected (kind : Kind) (status : Nat)
  deriving DecidableEq

namespace Notice

def verify (kind : Kind) : String :=
  "Please verify that " ++ kind.title ++ " is enabled for your account! All " ++ kind.title ++
    " will be discarded until the service is restarted."

def fullText (kind : Kind) : String := "Buffer full, dropping " ++ kind.title

def failure (what : String) (kind : Kind) (status : Nat) : String :=
  what ++ " sending " ++ kind.title ++ " to Wavefront (HTTP " ++ status.repr ++ ")"

def level : Notice → Level
  | discarding _ => .error
  | disabling _ _ => .error
  | _ => .warn

def text : Notice → String
  | full k => fullText k
  | overflow k n => "Buffer full, dropping " ++ n.repr ++ " " ++ k.title
  | oversize limit record =>
    "Dropping data larger than " ++ limit.repr ++ " bytes: " ++
      String.ofList (Text.Blank.trimEnd record.toList)
  | discarding k => verify k
  | disabling k status => failure "Error" k status ++ ". " ++ verify k
  | denied k status => failure "Permission error" k status
  | rejected k status => failure "Error" k status

/-- Notices under one key count as repeats of each other. -/
def key : Notice → String
  | overflow k _ => fullText k
  | oversize _ _ => "Dropping data larger than message size"
  | n => n.text

def line (n : Notice) : LogLine := ⟨n.level, n.text⟩

end Notice

end TelemetrySender
