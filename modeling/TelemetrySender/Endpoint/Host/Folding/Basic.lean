import TelemetrySender.Endpoint.Host.Folding.Table

/-!
Folding of host names.  Names that differ in case, in the width or ornament of letters, or in
characters that are not seen, are one name; folding gives the spelling that stands for all of them.
-/

set_option autoImplicit false
set_option relaxedAutoImplicit false

namespace TelemetrySender.Endpoint.Host.Folding

/-- What a code point beyond ASCII stands for, if it is listed. -/
def listed? (n : Nat) : Option (List Nat) :=
  (shifted.find? fun (first, last, step, _) =>
      first ≤ n && n ≤ last && (n - first) % step == 0).map (fun (first, _, _, image) =>
    [image + (n - first)]) <|>
  (merged.find? fun (first, last, _) => first ≤ n && n ≤ last).map (fun (_, _, image) =>
    [image]) <|>
  (single.find? (·.1 == n)).map (fun r => [r.2]) <|>
  (several.find? (·.1 == n)).map (·.2)

/-- What a character becomes, or none if no name may hold it. -/
def foldChar? (c : Char) : Option (List Char) :=
  if c.toNat < 0x80 then some [c.toLower]
  else if refused.covers c then none
  else if ignored.covers c then some []
  else
    match listed? c.toNat with
    | some points => some (points.map Char.ofNat)
    | none => some [c]

def fold? : List Char → Option (List Char)
  | [] => some []
  | c :: s =>
    match foldChar? c, fold? s with
    | some t, some rest => some (t ++ rest)
    | _, _ => none

def isFolded (s : List Char) : Bool := s.all fun c => foldChar? c == some [c] && !uncoded.covers c

end TelemetrySender.Endpoint.Host.Folding
