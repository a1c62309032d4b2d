import TelemetrySender.Text.Hex

/-!
Identifiers of traces and spans: 128 bits, written as 32 lower-case hexadecimal digits in groups of
8, 4, 4, 4 and 12.
-/

set_option autoImplicit false
set_option relaxedAutoImplicit false

namespace TelemetrySender

structure Uuid where
  bits : BitVec 128
  deriving DecidableEq

namespace Uuid

open Text

def text (u : Uuid) : List Char :=
  let d := Hex.digits u.bits.toNat 32
  d.take 8 ++ '-' :: (d.drop 8).take 4 ++ '-' :: (d.drop 12).take 4 ++ '-' :: (d.drop 16).take 4 ++
    '-' :: d.drop 20

def ofText? (s : List Char) : Option Uuid :=
  match (s.splitOn '-').map List.length, Hex.number? 16 (s.filter (· ≠ '-')) 0 with
  | [8, 4, 4, 4, 12], some n => some ⟨BitVec.ofNat 128 n⟩
  | _, _ => none

end Uuid

end TelemetrySender
