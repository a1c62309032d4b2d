import TelemetrySender.Endpoint.Host.Ipv4

/-!
Addresses between brackets: eight pieces of up to four hexadecimal digits, of which one run may be
left out between two colons, and the last two may be written as four decimal bytes.
-/

set_option autoImplicit false
set_option relaxedAutoImplicit false

namespace TelemetrySender.Endpoint.Host.Ipv6

def isHex (c : Char) : Bool := (Text.Hex.value? c).isSome

def isByte (s : List Char) : Bool :=
  match s with
  | [] => false
  | c :: rest =>
    s.all Char.isDigit && (rest.isEmpty || c ≠ '0') &&
      (match Text.Hex.number? 10 s 0 with
        | some n => n < 256
        | none => false)

def isDotted (s : List Char) : Bool :=
  let parts := s.splitOn '.'
  parts.length = 4 && parts.all isByte

theorem length_lt_of_drop_eq_cons {α : Type} {s rest : List α} {n : Nat} {a : α}
    (h : s.drop n = a :: rest) : rest.length < s.length := by
  have := congrArg List.length h
  simp only [List.length_drop, List.length_cons] at this
  omega

/-- Whether the text completes an address of which `count` pieces were read; `left` says that a
run of pieces was left out among them. -/
def completes (left : Bool) (count : Nat) (s : List Char) : Bool :=
  match s with
  | [] => left || count = 8
  | ':' :: rest => count < 8 && !left && completes true (count + 1) rest
  | s =>
    let digits := (s.take 4).takeWhile isHex
    count < 8 && !digits.isEmpty &&
      match h : s.drop digits.length with
      | [] => left || count = 7
      | '.' :: _ => count ≤ 6 && isDotted s && (left || count = 6)
      | ':' :: rest => !rest.isEmpty && completes left (count + 1) rest
      | _ => false
termination_by s.length
decreasing_by
  · simp
  · exact length_lt_of_drop_eq_cons h

def isAddress : List Char → Bool
  | ':' :: ':' :: rest => completes true 1 rest
  | ':' :: _ => false
  | s => 2 ≤ s.length && completes false 0 s

end TelemetrySender.Endpoint.Host.Ipv6
