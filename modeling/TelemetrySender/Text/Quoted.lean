import TelemetrySender.Text.Blank

/-!
Free text between quotes, as tag values and span names are written.  Surrounding white space is
removed; a quote is written behind a backslash and a line feed as a backslash and the letter n; all
else, backslashes included, stands for itself.
-/

set_option autoImplicit false
set_option relaxedAutoImplicit false

namespace TelemetrySender.Text.Quoted

def escapeChar (c : Char) : List Char :=
  if c = '"' then ['\\', '"'] else if c = '\n' then ['\\', 'n'] else [c]

def escape (s : List Char) : List Char :=
  s.flatMap escapeChar

/-- The written form of a free text. -/
def encode (s : List Char) : List Char :=
  '"' :: (escape (Blank.trim s) ++ ['"'])

theorem escape_append (s t : List Char) : escape (s ++ t) = escape s ++ escape t :=
  List.flatMap_append

private theorem lineFeed_notMem_escapeChar (c : Char) : '\n' ∉ escapeChar c := by
  unfold escapeChar
  by_cases quote : c = '"'
  · simp [quote]
  · by_cases feed : c = '\n'
    · simp [feed]
    · simp [quote, feed, Ne.symm feed]

theorem lineFeed_notMem_escape (s : List Char) : '\n' ∉ escape s := by
  intro h
  obtain ⟨c, -, hc⟩ := List.mem_flatMap.1 h
  exact lineFeed_notMem_escapeChar c hc

end TelemetrySender.Text.Quoted
