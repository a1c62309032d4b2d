/-!
Integers in decimal, with a minus sign if they are negative.
-/

set_option autoImplicit false
set_option relaxedAutoImplicit false

namespace TelemetrySender.Decimal

def integerText (i : Int) : List Char :=
  if i < 0 then '-' :: Nat.toDigits 10 i.natAbs else Nat.toDigits 10 i.natAbs

end TelemetrySender.Decimal
