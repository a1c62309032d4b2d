import TelemetrySender.Kind

/-!
What the status of a delivery means for the chunk that was delivered.  Statuses outside 400 to 599
are success; a kind that is not admitted is switched off where that can be done; everything else
is tried again.
-/

set_option autoImplicit false
set_option relaxedAutoImplicit false

namespace TelemetrySender

/-- What becomes of a chunk: it has arrived, it is dropped and its kind switched off, or it is tried
again.  A kind that is denied is one that is not admitted but cannot be switched off. -/
inductive Verdict where
  | delivered
  | disable
  | denied
  | rejected
  deriving DecidableEq

def Verdict.ofStatus (kind : Kind) (status : Nat) : Verdict :=
  if 400 ≤ status ∧ status ≤ 599 then
    if status = 401 ∨ status = 403 then if kind.canDisable then disable else denied
    else rejected
  else delivered

end TelemetrySender
