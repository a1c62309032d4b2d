import TelemetrySender.Decimal.Layout

/-!
Doubles and their written form.  A double is its 64 bits; it is written with the fewest digits
that read back the same, positionally from a ten-thousandth up to ten to the sixteenth and
otherwise with an exponent.
-/

set_option autoImplicit false
set_option relaxedAutoImplicit false

namespace TelemetrySender.Decimal

/-- A binary floating-point number of double width, by its bits. -/
structure Double where
  bits : UInt64
  deriving DecidableEq

namespace Double

def isNegative (d : Double) : Bool :=
  Nat.pow 2 63 ≤ d.bits.toNat

def exponentField (d : Double) : Nat :=
  d.bits.toNat / Nat.pow 2 52 % Nat.pow 2 11

def fractionField (d : Double) : Nat :=
  d.bits.toNat % Nat.pow 2 52

/-- What the bits stand for, sign aside.  A number is `significand · 2 ^ exponent`, where `narrow`
says that the next number below lies half as far away as the next one above. -/
inductive Magnitude where
  | zero
  | finite (significand : Nat) (exponent : Int) (narrow : Bool)
  | infinite
  | notANumber

def magnitude (d : Double) : Magnitude :=
  let e := d.exponentField
  let f := d.fractionField
  if e = 2047 then if f = 0 then .infinite else .notANumber
  else if e = 0 then if f = 0 then .zero else .finite f (-1074) false
  else .finite (Nat.pow 2 52 + f) ((e : Int) - 1075) (f = 0 && 1 < e)

/-- The reals that round to `significand · 2 ^ exponent`: half a unit of the last place to either
side, a quarter below a power of two; the ends belong to an even significand. -/
def interval (significand : Nat) (exponent : Int) (narrow : Bool) : Shortest.Interval where
  value := 4 * significand * Nat.pow 2 exponent.toNat
  below := (if narrow then 1 else 2) * Nat.pow 2 exponent.toNat
  above := 2 * Nat.pow 2 exponent.toNat
  unit := 4 * Nat.pow 2 (-exponent).toNat
  closed := significand % 2 = 0

end Double

def Double.text (layout : Layout) (d : Double) : List Char :=
  let sign := if d.isNegative then ['-'] else []
  match d.magnitude with
  | .notANumber => layout.notANumber.toList
  | .infinite => sign ++ layout.infinite.toList
  | .zero => sign ++ ['0', '.', '0']
  | .finite significand exponent narrow =>
    sign ++ layout.finite (Shortest.ofInterval (Double.interval significand exponent narrow))

end TelemetrySender.Decimal
