import TelemetrySender.Kind

/-!
Transports.  A transport hands over one payload at a time and answers with a status, or with a
fault if the payload could not be handed over at all.  Whatever a transport keeps between calls is
its link, a value that each call takes and gives back.
-/

set_option autoImplicit false
set_option relaxedAutoImplicit false

namespace TelemetrySender

structure Fault where
  label : String
  text : String
  deriving DecidableEq

/-- How a delivery ended. -/
abbrev Outcome := Except Fault Nat

structure Transport (σ : Type) where
  name : String
  report : Kind → String → σ → Outcome × σ
  close : σ → Except Fault Unit × σ

/-- The status of a delivery over a link that relays no answer of its own. -/
def Transport.accepted : Nat := 202

end TelemetrySender
