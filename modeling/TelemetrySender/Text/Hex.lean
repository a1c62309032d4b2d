/-!
Hexadecimal digits: written in lower case, read in either.
-/

set_option autoImplicit false
set_option relaxedAutoImplicit false

namespace TelemetrySender.Text.Hex

def digit (n : Nat) : Char :=
  if n < 10 then Char.ofNat (0x30 + n) else Char.ofNat (0x61 + (n - 10))

def value? (c : Char) : Option Nat :=
  if '0' ≤ c ∧ c ≤ '9' then some (c.toNat - 0x30)
  else if 'a' ≤ c ∧ c ≤ 'f' then some (c.toNat - 0x61 + 10)
  else if 'A' ≤ c ∧ c ≤ 'F' then some (c.toNat - 0x41 + 10)
  else none

def digits (value : Nat) : Nat → List Char
  | 0 => []
  | count + 1 => digits (value / 16) count ++ [digit (value % 16)]

/-- Reads digits of a base of at most sixteen behind those that make `acc`. -/
def number? (base : Nat) : List Char → Nat → Option Nat
  | [], acc => some acc
  | c :: s, acc =>
    match value? c with
    | some d => if d < base then number? base s (base * acc + d) else none
    | none => none

theorem length_digits (value count : Nat) : (digits value count).length = count := by
  induction count generalizing value with
  | zero => rfl
  | succ n ih => simp [digits, ih]

theorem value?_digit {n : Nat} (h : n < 16) : value? (digit n) = some n := by
  have all : ∀ m, m < 16 → value? (digit m) = some m := by decide
  exact all n h

end TelemetrySender.Text.Hex
