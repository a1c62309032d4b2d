import TelemetrySender.Endpoint.Host.Direction.Table
import TelemetrySender.Text.Mark

/-!
Direction of writing in host names.  In a name that holds letters of a script written from right to
left, every label must keep to one direction, so that it is shown in one piece and in one order.
-/

set_option autoImplicit false
set_option relaxedAutoImplicit false

namespace TelemetrySender.Endpoint.Host

open Text

/-- How a character runs: a mark follows the character that it is written with, and what is neutral
follows the text around it. -/
inductive Direction where
  | leftToRight
  | rightToLeft
  | europeanDigit
  | arabicDigit
  | mark
  | neutral
  deriving DecidableEq

namespace Direction

def ofChar (c : Char) : Direction :=
  if c.toNat < 0x80 then
    if c.isAlpha then leftToRight else if c.isDigit then europeanDigit else neutral
  else if rightToLeftLetters.covers c then rightToLeft
  else if arabicDigits.covers c then arabicDigit
  else if europeanDigits.covers c then europeanDigit
  else if neutrals.covers c then neutral
  else if Mark.isNonspacing c && !leftToRightMarks.covers c then mark
  else leftToRight

def turns (d : Direction) : Bool := d = rightToLeft || d = arabicDigit

def withoutFinalMarks (ds : List Direction) : List Direction :=
  (ds.reverse.dropWhile (· = mark)).reverse

/-- A label from left to right has nothing that runs the other way; one from right to left has no
letter that runs the other way and digits of one kind; each ends in a letter or digit that may
stand at its end. -/
def isUniform : List Direction → Bool
  | [] => true
  | leftToRight :: others =>
    let others := withoutFinalMarks others
    others.all (fun d => !turns d) &&
      others.getLast?.all fun d => d = leftToRight || d = europeanDigit
  | rightToLeft :: others =>
    let others := withoutFinalMarks others
    others.all (· ≠ leftToRight) &&
      others.getLast?.all (fun d => turns d || d = europeanDigit) &&
      !(others.contains europeanDigit && others.contains arabicDigit)
  | _ => false

def areUniform (labels : List (List Char)) : Bool :=
  let directions := labels.map (·.map ofChar)
  !directions.any (·.any turns) || directions.all isUniform

end Direction

end TelemetrySender.Endpoint.Host
