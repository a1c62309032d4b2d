import TelemetrySender.Decimal.Integer
import TelemetrySender.Decimal.Shortest

/-!
How the digits of a number are laid out: positionally, with a point, or with an exponent.
-/

set_option autoImplicit false
set_option relaxedAutoImplicit false

namespace TelemetrySender.Decimal

/-- The exponents of the leading digit that are written positionally, the mark in front of an
exponent, and the words for what is no number. -/
structure Layout where
  lowest : Int
  highest : Int
  exponentMark : Char
  notANumber : String
  infinite : String

/-- Values have at least one fractional digit from `1e-4` up to `1e16`; beyond, an exponent
without plus sign or padding, and no forced fraction. -/
def Layout.value : Layout := ⟨-4, 15, 'e', "NaN", "inf"⟩

def positional (digits : List Char) (places : Int) : List Char :=
  if places ≤ 0 then ['0', '.'] ++ List.replicate (-places).toNat '0' ++ digits
  else
    let whole := digits.take places.toNat ++
      List.replicate (places.toNat - digits.length) '0'
    let rest := digits.drop places.toNat
    whole ++ '.' :: (if rest.isEmpty then ['0'] else rest)

def scientific (mark : Char) (digits : List Char) (leading : Int) : List Char :=
  (match digits with
    | [] => []
    | [d] => [d]
    | d :: rest => d :: '.' :: rest) ++ mark :: integerText leading

def Layout.finite (layout : Layout) (s : Shortest.Scaled) : List Char :=
  let r := s.reduce 20
  let digits := Nat.toDigits 10 r.digits
  let leading : Int := r.exponent + digits.length - 1
  if layout.lowest ≤ leading && leading ≤ layout.highest then positional digits (leading + 1)
  else scientific layout.exponentMark digits leading

end TelemetrySender.Decimal
