/-!
The decimal with the fewest digits inside a rounding interval.  A positive number is given as a
fraction together with the half-distances to its two neighbours; the grids of one, two, … digits
are searched in order, and on each grid only the two points next to the number are tested, for if
any point of a grid lies in the interval then one of these two does.
-/

set_option autoImplicit false
set_option relaxedAutoImplicit false

namespace TelemetrySender.Decimal.Shortest

/-- The number `value / unit`, and the interval of numbers read back as it: from
`(value - below) / unit` to `(value + above) / unit`, ends included iff `closed`. -/
structure Interval where
  value : Nat
  below : Nat
  above : Nat
  unit : Nat
  closed : Bool

structure Scaled where
  digits : Nat
  exponent : Int
  deriving DecidableEq

def Scaled.reduce (s : Scaled) : Nat → Scaled
  | 0 => s
  | fuel + 1 => if s.digits % 10 = 0 then reduce ⟨s.digits / 10, s.exponent + 1⟩ fuel else s

def within (closed : Bool) (distance gap : Nat) : Bool :=
  if closed then distance ≤ gap else distance < gap

/-- The nearest grid point inside the interval, for the grid of the multiples of
`10 ^ exponent`; of two points equally near, the larger. -/
def onGrid? (i : Interval) (exponent : Int) : Option Scaled :=
  let scaled := i.value * Nat.pow 10 (-exponent).toNat
  let step := i.unit * Nat.pow 10 exponent.toNat
  let stretch := Nat.pow 10 (-exponent).toNat
  let down := scaled % step
  let up := step - down
  let floor := scaled / step
  let hitsDown := within i.closed down (i.below * stretch)
  let hitsUp := within i.closed up (i.above * stretch)
  if hitsUp && (!hitsDown || up ≤ down) then some ⟨floor + 1, exponent⟩
  else if hitsDown then some ⟨floor, exponent⟩
  else none

def firstPlace (unit scaled : Nat) : Nat → Nat → Nat
  | 0, place => place
  | fuel + 1, place =>
    if unit ≤ scaled then place else firstPlace unit (scaled * 10) fuel (place + 1)

/-- The number of digits of the integer part of `value / unit`, or for a proper fraction the
place of its first digit, counted down from zero. -/
def magnitude (i : Interval) : Int :=
  if i.unit ≤ i.value then (Nat.toDigits 10 (i.value / i.unit)).length
  else 1 - firstPlace i.unit (i.value * 10) (Nat.toDigits 10 i.unit).length 1

def floorOn (i : Interval) (exponent : Int) : Scaled :=
  ⟨i.value * Nat.pow 10 (-exponent).toNat / (i.unit * Nat.pow 10 exponent.toNat), exponent⟩

def search (i : Interval) (top : Int) : Nat → Nat → Scaled
  | 0, count => floorOn i (top - count)
  | fuel + 1, count =>
    match onGrid? i (top - count) with
    | some s => s
    | none => search i top fuel (count + 1)

/-- The shortest decimal of the interval.  Up to seventeen digits are tried, of which the last
always meet the interval of a double. -/
def ofInterval (i : Interval) : Scaled :=
  search i (magnitude i) 17 1

end TelemetrySender.Decimal.Shortest
