import TelemetrySender.Endpoint.Host.Direction.Basic
import TelemetrySender.Endpoint.Host.Ipv4
import TelemetrySender.Endpoint.Host.Ipv6
import TelemetrySender.Endpoint.Host.Label

/-!
Hosts of web addresses.  A host is an address between brackets, a numeric address, or a name; a
name may be percent-encoded, may hold most letters and digits of any script, and is read in its
folded and composed form.
-/

set_option autoImplicit false
set_option relaxedAutoImplicit false

namespace TelemetrySender.Endpoint.Host

open Text

def isForbidden (c : Char) : Bool :=
  c.toNat ≤ 0x20 || c.toNat = 0x7F || "%#/:<>?@[\\]^|".toList.contains c

def percentDecode : List UInt8 → List UInt8
  | 0x25 :: a :: b :: rest =>
    match Text.Hex.value? (Char.ofNat a.toNat), Text.Hex.value? (Char.ofNat b.toNat) with
    | some x, some y => (16 * x + y).toUInt8 :: percentDecode rest
    | _, _ => 0x25 :: percentDecode (a :: b :: rest)
  | byte :: rest => byte :: percentDecode rest
  | [] => []

def labels? (name : List Char) : Option (List (List Char)) :=
  match (name.splitOn '.').mapM Label.read? with
  | some labels => if Direction.areUniform labels then some labels else none
  | none => none

/-- Whether a text, folded and composed, is a name; one with a number behind its last dot must be
an address of four bytes. -/
def isName (name : List Char) : Bool :=
  !name.isEmpty && !name.any isForbidden && (labels? name).isSome &&
    (!Ipv4.endsInNumber name || Ipv4.isAddress name)

/-- The name that a text stands for, or none if it stands for no name. -/
def name? (s : List Char) : Option (List Char) :=
  let bytes := percentDecode (String.ofList s).toUTF8.toList
  match String.fromUTF8? (ByteArray.mk bytes.toArray) with
  | none => none
  | some decoded => ((Folding.fold? decoded.toList).map Composition.compose).filter isName

def isHost (s : List Char) : Bool :=
  match s with
  | '[' :: rest => rest.getLast? = some ']' && Ipv6.isAddress rest.dropLast
  | _ => (name? s).isSome

end TelemetrySender.Endpoint.Host
