import TelemetrySender.Endpoint.Host.Joining.Table
import TelemetrySender.Text.Composition.Classes
import TelemetrySender.Text.Mark

/-!
Joiners in host names.  A joiner or non-joiner is not seen by itself: it may stand only where it
changes how its neighbours are written, which is behind a virama, and, for a non-joiner, between
letters that would join each other.
-/

set_option autoImplicit false
set_option relaxedAutoImplicit false

namespace TelemetrySender.Endpoint.Host.Joining

open Text

def nonJoiner : Char := Char.ofNat 0x200C

def joiner : Char := Char.ofNat 0x200D

def isTransparent (c : Char) : Bool := Mark.isNonspacing c || transparentLetters.covers c

def joinsNext (c : Char) : Bool := both.covers c || next.covers c

def joinsPrevious (c : Char) : Bool := both.covers c || previous.covers c

/-- The characters nearest to a place, transparent ones aside, would join there; `before` has the
last character first. -/
def joins (before after : List Char) : Bool :=
  (before.dropWhile isTransparent).head?.any joinsNext &&
    (after.dropWhile isTransparent).head?.any joinsPrevious

def mayStand (before : List Char) (c : Char) (after : List Char) : Bool :=
  if c = joiner then before.head?.any Composition.isVirama
  else if c = nonJoiner then before.head?.any Composition.isVirama || joins before after
  else true

def arePlaced (before : List Char) : List Char → Bool
  | [] => true
  | c :: after => mayStand before c after && arePlaced (c :: before) after

end TelemetrySender.Endpoint.Host.Joining
