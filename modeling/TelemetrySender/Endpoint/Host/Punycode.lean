/-!
Reading labels in which characters beyond ASCII are coded by ASCII letters and digits: the plain
characters come first, then, behind the last hyphen, the others as differences of code point and
place, each a number of variable length in base 36.
-/

set_option autoImplicit false
set_option relaxedAutoImplicit false

namespace TelemetrySender.Endpoint.Host.Punycode

def digitValue? (c : Char) : Option Nat :=
  if 'a' ≤ c ∧ c ≤ 'z' then some (c.toNat - 0x61)
  else if 'A' ≤ c ∧ c ≤ 'Z' then some (c.toNat - 0x41)
  else if '0' ≤ c ∧ c ≤ '9' then some (c.toNat - 0x30 + 26)
  else none

def threshold (place bias : Nat) : Nat :=
  if place ≤ bias then 1 else if bias + 26 ≤ place then 26 else place - bias

def settle (delta count : Nat) : Nat :=
  if 455 < delta then settle (delta / 35) (count + 36) else count + 36 * delta / (delta + 38)
termination_by delta
decreasing_by exact Nat.div_lt_self (by omega) (by omega)

def adapt (delta points : Nat) (first : Bool) : Nat :=
  let scaled := if first then delta / 700 else delta / 2
  settle (scaled + scaled / points) 0

/-- Reads one number and adds it, digit by digit, to `total`; neither that nor the weight of a
digit may outgrow a word of 32 bits. -/
def number? (bias : Nat) : List Char → Nat → Nat → Nat → Option (Nat × List Char)
  | [], _, _, _ => none
  | c :: s, place, weight, total =>
    match digitValue? c with
    | none => none
    | some d =>
      let total := total + d * weight
      let t := threshold place bias
      if Nat.pow 2 32 ≤ total then none
      else if d < t then some (total, s)
      else if Nat.pow 2 32 ≤ weight * (36 - t) then none
      else number? bias s (place + 36) (weight * (36 - t)) total

def insertAll : Nat → List Char → Nat → Nat → Nat → List Char → Option (List Char)
  | 0, _, _, _, _, _ => none
  | fuel + 1, s, code, index, bias, out =>
    match s with
    | [] => some out
    | _ =>
      match number? bias s 36 1 index with
      | none => none
      | some (total, rest) =>
        let points := out.length + 1
        let code := code + total / points
        let place := total % points
        if h : code.isValidChar then
          insertAll fuel rest code (place + 1) (adapt (total - index) points (index = 0))
            (out.take place ++ Char.ofNatAux code h :: out.drop place)
        else none

/-- The text that a coded label stands for.  A hyphen in front of everything ends no plain part, and
is no digit either. -/
def decode? (s : List Char) : Option (List Char) :=
  let extended := (s.reverse.takeWhile (· ≠ '-')).reverse
  let plain := (s.take (s.length - extended.length)).dropLast
  if plain.isEmpty ∧ extended.length < s.length then none
  else insertAll (extended.length + 1) extended 128 0 72 plain

end TelemetrySender.Endpoint.Host.Punycode
