import TelemetrySender.Text.Blank

/-!
The source written for entities that are sent without one: what the environment calls the host,
verbatim, unless that is missing, no text, or blank; then what the system calls it.
-/

set_option autoImplicit false
set_option relaxedAutoImplicit false

namespace TelemetrySender

inductive DefaultSource where
  | environment (name : String)
  | system
  deriving DecidableEq

namespace DefaultSource

/-- Resolves the source from the bytes of the environment's host name. -/
def resolve : Option ByteArray → DefaultSource
  | none => system
  | some bytes =>
    match String.fromUTF8? bytes with
    | some name => if Text.Blank.isBlank name.toList then system else environment name
    | none => system

end DefaultSource

end TelemetrySender
