/-!
Sets of characters, written as ranges of code points.
-/

set_option autoImplicit false
set_option relaxedAutoImplicit false

namespace TelemetrySender.Text

/-- Inclusive ranges of code points, in ascending order. -/
abbrev Ranges := List (Nat × Nat)

def Ranges.covers (ranges : Ranges) (c : Char) : Bool :=
  ranges.any fun r => r.1 ≤ c.toNat && c.toNat ≤ r.2

end TelemetrySender.Text
