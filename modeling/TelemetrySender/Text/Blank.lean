import TelemetrySender.Text.Ranges

/-!
White space and blank text.  A text is blank when nothing is left of it after trimming; white
space is the Unicode property `White_Space` and nothing else, so a zero-width space or a unit
separator is ordinary text.
-/

set_option autoImplicit false
set_option relaxedAutoImplicit false

namespace TelemetrySender.Text.Blank

/-- The code points of the property `White_Space`. -/
def whiteSpace : Ranges :=
  [(0x09, 0x0D), (0x20, 0x20), (0x85, 0x85), (0xA0, 0xA0), (0x1680, 0x1680), (0x2000, 0x200A),
    (0x2028, 0x2029), (0x202F, 0x202F), (0x205F, 0x205F), (0x3000, 0x3000)]

def isWhiteSpace (c : Char) : Bool := whiteSpace.covers c

def trimStart (s : List Char) : List Char :=
  s.dropWhile isWhiteSpace

def trimEnd (s : List Char) : List Char :=
  (s.reverse.dropWhile isWhiteSpace).reverse

def trim (s : List Char) : List Char :=
  trimEnd (trimStart s)

def isBlank (s : List Char) : Bool :=
  s.all isWhiteSpace

theorem mem_trimStart {c : Char} (ink : isWhiteSpace c = false) (s : List Char) :
    c ∈ trimStart s ↔ c ∈ s := by
  induction s with
  | nil => rfl
  | cons d s ih =>
    rw [trimStart, List.dropWhile_cons]
    split
    · rename_i white
      have other : c ≠ d := by
        intro same
        rw [same, white] at ink
        cases ink
      rw [List.mem_cons, ← ih, trimStart]
      simp [other]
    · rfl

theorem mem_trim {c : Char} (ink : isWhiteSpace c = false) (s : List Char) :
    c ∈ trim s ↔ c ∈ s := by
  rw [trim, trimEnd, List.mem_reverse]
  calc c ∈ trimStart (trimStart s).reverse
    _ ↔ c ∈ (trimStart s).reverse := mem_trimStart ink _
    _ ↔ c ∈ trimStart s := List.mem_reverse
    _ ↔ c ∈ s := mem_trimStart ink s

theorem isWhiteSpace_of_getLast?_trim {c : Char} {s : List Char}
    (last : (trim s).getLast? = some c) : isWhiteSpace c = false := by
  rw [trim, trimEnd, List.getLast?_reverse] at last
  have first := List.head?_dropWhile_not isWhiteSpace (trimStart s).reverse
  rw [last] at first
  exact first

end TelemetrySender.Text.Blank
