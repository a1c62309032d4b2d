import TelemetrySender.Endpoint.Host.Folding.Basic
import TelemetrySender.Endpoint.Host.Joining.Basic
import TelemetrySender.Endpoint.Host.Punycode
import TelemetrySender.Text.Composition.Basic

/-!
Labels, the parts of a host name between its dots.  A label beyond ASCII may also be given coded,
behind `xn--`; what it decodes to must be spelled as folding and composing leave it, so that no
label has two coded forms.
-/

set_option autoImplicit false
set_option relaxedAutoImplicit false

namespace TelemetrySender.Endpoint.Host.Label

open Text

def isAscii (s : List Char) : Bool := s.all fun c => c.toNat < 0x80

def beginsWithMark (label : List Char) : Bool := label.head?.any Mark.isMark

/-- Whether a label, not coded, may stand in a name; beyond ASCII it has a greatest length. -/
def isProper (label : List Char) : Bool :=
  !beginsWithMark label && Joining.arePlaced [] label && (isAscii label || label.length ≤ 1000)

def decode? (code : List Char) : Option (List Char) :=
  if isAscii code && code.getLast?.any (· ≠ '-') && code.length ≤ 2000 then
    match Punycode.decode? code with
    | some label =>
      if Folding.isFolded label && Composition.compose label == label then some label else none
    | none => none
  else none

/-- A label of a folded name as it is meant, if it may stand there. -/
def read? (label : List Char) : Option (List Char) :=
  let meant :=
    match label with
    | 'x' :: 'n' :: '-' :: '-' :: code => decode? code
    | _ => some label
  meant.filter isProper

end TelemetrySender.Endpoint.Host.Label
