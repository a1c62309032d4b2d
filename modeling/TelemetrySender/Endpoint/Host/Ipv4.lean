import TelemetrySender.Text.Hex

/-!
Numeric host names.  A host whose last label is a number must be an address of four bytes, in one
to four parts, each decimal, octal behind a zero, or hexadecimal behind `0x`; the last part fills
the bytes that the others leave.
-/

set_option autoImplicit false
set_option relaxedAutoImplicit false

namespace TelemetrySender.Endpoint.Host.Ipv4

open Text

/-- A number by its base; a base without digits is zero. -/
def number? : List Char → Option Nat
  | [] => none
  | '0' :: 'x' :: s => Hex.number? 16 s 0
  | '0' :: 'X' :: s => Hex.number? 16 s 0
  | '0' :: c :: s => Hex.number? 8 (c :: s) 0
  | s => Hex.number? 10 s 0

def labels (name : List Char) : List (List Char) :=
  let parts := name.splitOn '.'
  if parts.getLast? = some [] then parts.dropLast else parts

def endsInNumber (name : List Char) : Bool :=
  match (labels name).getLast? with
  | some last => (!last.isEmpty && last.all Char.isDigit) || (number? last).isSome
  | none => false

def isAddress (name : List Char) : Bool :=
  let parts := labels name
  match parts.reverse.map number? with
  | [] => false
  | last :: others =>
    parts.length ≤ 4 &&
      (match last with
        | some n => n < Nat.pow 256 (4 - others.length)
        | none => false) &&
      others.all fun part =>
        match part with
        | some n => n < 256
        | none => false

end TelemetrySender.Endpoint.Host.Ipv4
