/-!
Names of metrics, sources and tag keys.  A name is written with the legal characters only: ASCII
letters and digits, `-`, `.` and `_`, and in first place also the tilde of internal metrics and the
two delta signs of delta counters.  Every other character is written as a dash, so a written name
never holds a quote, a space, an equals sign or a line feed.
-/

set_option autoImplicit false
set_option relaxedAutoImplicit false

namespace TelemetrySender.Text.Name

def isLegal (c : Char) : Bool :=
  c.isAlphanum || c == '-' || c == '.' || c == '_'

def isLegalFirst (c : Char) : Bool :=
  isLegal c || c == '~' || c == '\u0394' || c == '\u2206'

/-- Puts a dash in the place of every illegal character. -/
def clean : List Char → List Char
  | [] => []
  | c :: s => (if isLegalFirst c then c else '-') :: s.map fun d => if isLegal d then d else '-'

def quote (s : List Char) : List Char :=
  '"' :: (clean s ++ ['"'])

theorem length_clean (s : List Char) : (clean s).length = s.length := by
  cases s <;> simp [clean]

end TelemetrySender.Text.Name
