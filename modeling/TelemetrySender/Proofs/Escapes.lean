import Mathlib.Data.List.Chain
import Mathlib.Tactic.Common
import TelemetrySender.Text.Quoted

/-!
What a reader of escapes makes of a quoted text.  Quotes and line feeds are escaped, but the backslash
stands for itself, so a text reads back exactly if it holds no backslash, and two texts are written
alike exactly if they agree once every line feed is spelled as a backslash and an n.
-/

set_option autoImplicit false
set_option relaxedAutoImplicit false

namespace TelemetrySender.Text.Quoted

def unescapeChar (c : Char) : Char := if c = 'n' then '\n' else c

/-- Reads a text behind its opening quote up to the first quote that is not escaped; gives the text
and what comes behind that quote. -/
def read? : List Char → Option (List Char × List Char)
  | [] => none
  | '"' :: rest => some ([], rest)
  | '\\' :: c :: rest => (read? rest).map (Prod.map (unescapeChar c :: ·) id)
  | c :: rest => (read? rest).map (Prod.map (c :: ·) id)

def decode? : List Char → Option (List Char)
  | '"' :: body =>
    match read? body with
    | some (s, []) => some s
    | _ => none
  | _ => none

/-- Spells every line feed as a backslash and an n. -/
def spell (s : List Char) : List Char :=
  s.flatMap fun c => if c = '\n' then ['\\', 'n'] else [c]

section Reading

theorem read?_backslash (c : Char) (s : List Char) :
    read? ('\\' :: c :: s) = (read? s).map (Prod.map (unescapeChar c :: ·) id) := by
  rw [read?]

theorem read?_plain {c : Char} (quote : c ≠ '"') (backslash : c ≠ '\\') (s : List Char) :
    read? (c :: s) = (read? s).map (Prod.map (c :: ·) id) := by
  rw [read?]
  · exact quote
  · intro d rest same
    exact absurd same backslash

private theorem map_eq_some {c : Char} {v rest : List Char} {r : Option (List Char × List Char)}
    (read : r.map (Prod.map (c :: ·) id) = some (v, rest)) :
    ∃ u, v = c :: u ∧ r = some (u, rest) := by
  obtain ⟨⟨u, t⟩, inner, same⟩ := Option.map_eq_some_iff.mp read
  obtain ⟨rfl, rfl⟩ := Prod.mk.inj same
  exact ⟨u, rfl, inner⟩

theorem escape_cons (c : Char) (s : List Char) : escape (c :: s) = escapeChar c ++ escape s := by
  rw [escape, List.flatMap_cons, escape]

theorem escape_plain {c : Char} (quote : c ≠ '"') (feed : c ≠ '\n') (s : List Char) :
    escape (c :: s) = c :: escape s := by
  rw [escape_cons, escapeChar, if_neg quote, if_neg feed]
  rfl

theorem escape_quote (s : List Char) : escape ('"' :: s) = '\\' :: '"' :: escape s := rfl

theorem escape_lineFeed (s : List Char) : escape ('\n' :: s) = '\\' :: 'n' :: escape s := rfl

theorem read?_escape {s : List Char} (plain : '\\' ∉ s) (rest : List Char) :
    read? (escape s ++ '"' :: rest) = some (s, rest) := by
  induction s with
  | nil => rw [escape, List.flatMap_nil, List.nil_append, read?]
  | cons c s ih =>
    rw [List.mem_cons, not_or] at plain
    have later := ih plain.2
    by_cases quote : c = '"'
    · subst quote
      rw [escape_quote, List.cons_append, List.cons_append, read?_backslash, later]
      rfl
    by_cases feed : c = '\n'
    · subst feed
      rw [escape_lineFeed, List.cons_append, List.cons_append, read?_backslash, later]
      rfl
    rw [escape_plain quote feed, List.cons_append, read?_plain quote (Ne.symm plain.1), later]
    rfl

theorem length_escape (s : List Char) :
    (escape s).length = s.length + s.count '"' + s.count '\n' := by
  induction s with
  | nil => rfl
  | cons c s ih =>
    by_cases quote : c = '"'
    · subst quote
      simp only [escape_quote, List.length_cons, List.count_cons, ih, beq_self_eq_true, if_true,
        Char.reduceBEq, Bool.false_eq_true, if_false]
      omega
    by_cases feed : c = '\n'
    · subst feed
      simp only [escape_lineFeed, List.length_cons, List.count_cons, ih, beq_self_eq_true, if_true,
        Char.reduceBEq, Bool.false_eq_true, if_false]
      omega
    simp only [escape_plain quote feed, List.length_cons, List.count_cons, ih, beq_iff_eq, quote,
      feed, if_false]
    omega

private theorem length_le_of_read? {t v rest : List Char} (noFeed : '\n' ∉ t)
    (read : read? t = some (v, rest)) :
    v.length + v.count '"' + v.count '\n' + v.count '\\' + rest.length + 1 ≤ t.length := by
  -- Every quote, line feed and backslash that is read was written with two characters.
  induction t using read?.induct generalizing v with
  | case1 => simp [read?] at read
  | case2 t =>
    rw [read?] at read
    cases read
    simp
  | case3 c t ih =>
    rw [read?_backslash] at read
    obtain ⟨u, rfl, inner⟩ := map_eq_some read
    simp only [List.mem_cons, not_or] at noFeed
    have bound := ih noFeed.2.2 inner
    have raw : c ≠ '\n' := Ne.symm noFeed.2.1
    have once : ([unescapeChar c].count '"' + [unescapeChar c].count '\n' +
        [unescapeChar c].count '\\') ≤ 1 := by
      unfold unescapeChar
      by_cases isN : c = 'n'
      · simp [isN]
      · rw [if_neg isN]
        by_cases quote : c = '"'
        · simp [quote]
        · simp only [List.count_singleton, beq_iff_eq, quote, raw, if_false]
          split <;> omega
    have split (x : Char) : (unescapeChar c :: u).count x = [unescapeChar c].count x + u.count x := by
      rw [← List.count_append, List.singleton_append]
    simp only [List.length_cons, split]
    omega
  | case4 c t quote backslash ih =>
    have notQuote : c ≠ '"' := fun same => quote same
    by_cases isBackslash : c = '\\'
    · -- A backslash at the end of the text is no escape.
      subst isBackslash
      cases t with
      | nil => simp [read?] at read
      | cons d t => exact absurd rfl (backslash d t rfl)
    · rw [read?_plain notQuote isBackslash] at read
      obtain ⟨u, rfl, inner⟩ := map_eq_some read
      rw [List.mem_cons, not_or] at noFeed
      have bound := ih noFeed.2 inner
      have raw : c ≠ '\n' := Ne.symm noFeed.1
      simp only [List.length_cons, List.count_cons, beq_iff_eq, notQuote, raw, isBackslash, if_false]
      omega

/-- A text reads back if and only if it holds no backslash. -/
theorem read?_escape_iff (s : List Char) :
    read? (escape s ++ ['"']) = some (s, []) ↔ '\\' ∉ s := by
  constructor
  · intro read
    have noFeed : '\n' ∉ escape s ++ ['"'] := by
      simpa using lineFeed_notMem_escape s
    have bound := length_le_of_read? noFeed read
    rw [List.length_append, length_escape, List.length_singleton, List.length_nil] at bound
    rw [← List.count_eq_zero]
    omega
  · intro plain
    exact read?_escape plain []

end Reading

section Spelling

private def unquote : List Char → List Char
  | '\\' :: '"' :: rest => '"' :: unquote rest
  | c :: rest => c :: unquote rest
  | [] => []

private theorem head?_escape (s : List Char) : (escape s).head? ≠ some '"' := by
  cases s with
  | nil => simp [escape]
  | cons c s =>
    by_cases quote : c = '"'
    · subst quote
      simp [escape_quote]
    by_cases feed : c = '\n'
    · subst feed
      simp [escape_lineFeed]
    simpa [escape_plain quote feed] using quote

private theorem unquote_plain {c : Char} {s : List Char} (next : s.head? ≠ some '"') :
    unquote (c :: s) = c :: unquote s := by
  rw [unquote]
  intro rest _ same
  rw [same] at next
  exact next rfl

private theorem unquote_escape (s : List Char) : unquote (escape s) = spell s := by
  induction s with
  | nil => rfl
  | cons c s ih =>
    have next := head?_escape s
    by_cases quote : c = '"'
    · subst quote
      rw [escape_quote, unquote, ih]
      rfl
    by_cases feed : c = '\n'
    · subst feed
      have letter : ('n' :: escape s).head? ≠ some '"' := by simp
      rw [escape_lineFeed, unquote_plain letter, unquote_plain next, ih]
      rfl
    rw [escape_plain quote feed, unquote_plain next, ih, spell, spell, List.flatMap_cons, if_neg feed]
    rfl

private theorem spell_plain {c : Char} (feed : c ≠ '\n') (s : List Char) :
    spell (c :: s) = c :: spell s := by
  rw [spell, List.flatMap_cons, if_neg feed, spell]
  rfl

private theorem escape_spell (s : List Char) : escape (spell s) = escape s := by
  induction s with
  | nil => rfl
  | cons c s ih =>
    by_cases feed : c = '\n'
    · subst feed
      have shape : spell ('\n' :: s) = '\\' :: 'n' :: spell s := rfl
      rw [shape, escape_plain (by decide) (by decide), escape_plain (by decide) (by decide), ih,
        escape_lineFeed]
    · rw [spell_plain feed, escape_cons, escape_cons, ih]

theorem escape_inj (s t : List Char) : escape s = escape t ↔ spell s = spell t := by
  constructor
  · intro same
    rw [← unquote_escape s, same, unquote_escape]
  · intro same
    rw [← escape_spell s, same, escape_spell]

end Spelling

section Ends

/-- A quote may stand behind a backslash only. -/
def Shielded (before c : Char) : Prop := c = '"' → before = '\\'

private theorem shielded_cons {c : Char} {t : List Char} (chain : t.IsChain Shielded)
    (next : t.head? ≠ some '"') : (c :: t).IsChain Shielded := by
  rw [List.isChain_cons]
  refine ⟨fun d member same => ?_, chain⟩
  rw [same] at member
  exact absurd (Option.mem_def.mp member) next

theorem isChain_escape (s : List Char) : (escape s).IsChain Shielded := by
  induction s with
  | nil => exact .nil
  | cons c s ih =>
    have next := head?_escape s
    by_cases quote : c = '"'
    · subst quote
      rw [escape_quote, List.isChain_cons_cons]
      exact ⟨fun _ => rfl, shielded_cons ih next⟩
    by_cases feed : c = '\n'
    · subst feed
      rw [escape_lineFeed]
      exact shielded_cons (shielded_cons ih next) (by simp)
    rw [escape_plain quote feed]
    exact shielded_cons ih next

theorem getLast?_escape {s : List Char} (last : s.getLast? ≠ some ' ') :
    (escape s).getLast? ≠ some ' ' := by
  rcases List.eq_nil_or_concat s with rfl | ⟨front, c, rfl⟩
  · simp [escape]
  · have other : c ≠ ' ' := by simpa using last
    rw [List.concat_eq_append, escape_append, escape_cons, escapeChar]
    by_cases quote : c = '"'
    · simp [quote, escape]
    by_cases feed : c = '\n'
    · simp [feed, escape]
    simpa [quote, feed, escape] using other

theorem isChain_excess {s t excess : List Char} (shape : escape t = escape s ++ '"' :: excess) :
    ('"' :: excess).IsChain Shielded := by
  have chain := isChain_escape t
  rw [shape] at chain
  exact (List.isChain_append.mp chain).2.1

theorem eq_lead_of_shielded {excess lead r q : List Char}
    (chain : ('"' :: excess).IsChain Shielded) (same : excess ++ '"' :: r = lead ++ '"' :: q)
    (clear : '"' ∉ lead) (ends : ∃ c, lead.getLast? = some c ∧ c ≠ '\\') :
    excess = lead ∧ r = q := by
  rcases List.append_eq_append_iff.mp same with ⟨more, rfl, behind⟩ | ⟨more, rfl, behind⟩
  · -- A quote in the lead cannot be.
    cases more with
    | nil => exact ⟨(List.append_nil _).symm, (List.cons.inj behind).2⟩
    | cons c more =>
      obtain ⟨rfl, -⟩ := List.cons.inj behind
      exact absurd (List.mem_append_right excess List.mem_cons_self) clear
  · cases more with
    | nil => exact ⟨List.append_nil _, (List.cons.inj behind).2.symm⟩
    | cons c more =>
      obtain ⟨rfl, -⟩ := List.cons.inj behind
      obtain ⟨last, isLast, plain⟩ := ends
      have front := (List.isChain_append.mp (List.isChain_cons.mp chain).2).2.2
      exact absurd (front last isLast '"' rfl rfl) plain

theorem eq_of_no_overhang {e e' r r' : List Char} (same : e ++ '"' :: r = e' ++ '"' :: r')
    (fits : ∀ excess, e' = e ++ '"' :: excess → r ≠ excess ++ '"' :: r')
    (fits' : ∀ excess, e = e' ++ '"' :: excess → r' ≠ excess ++ '"' :: r) : e = e' ∧ r = r' := by
  rcases List.append_eq_append_iff.mp same with ⟨excess, shape, behind⟩ | ⟨excess, shape, behind⟩
  · cases excess with
    | nil => exact ⟨by simpa using shape.symm, (List.cons.inj behind).2⟩
    | cons c excess =>
      obtain ⟨rfl, rest⟩ := List.cons.inj behind
      exact absurd rest (fits excess shape)
  · cases excess with
    | nil => exact ⟨by simpa using shape, (List.cons.inj behind).2.symm⟩
    | cons c excess =>
      obtain ⟨rfl, rest⟩ := List.cons.inj behind
      exact absurd rest (fits' excess shape)

end Ends

theorem encode_inj (s t : List Char) :
    encode s = encode t ↔ escape (Blank.trim s) = escape (Blank.trim t) := by
  simp [encode]

/-- A written text is read back, up to white space around it, if and only if it holds no backslash; and
two texts are written alike if and only if they differ in no more than white space around them and in
how their line feeds are spelled. -/
theorem encode_readable (s t : List Char) :
    (decode? (encode s) = some (Blank.trim s) ↔ '\\' ∉ s) ∧
      (encode s = encode t ↔ spell (Blank.trim s) = spell (Blank.trim t)) := by
  constructor
  · have trimmed : '\\' ∈ Blank.trim s ↔ '\\' ∈ s := Blank.mem_trim (by decide) s
    rw [← trimmed, ← read?_escape_iff, encode, decode?]
    split
    · rename_i u read
      simp [read]
    · rename_i other
      constructor
      · intro same
        cases same
      · intro same
        exact absurd same (other _)
  · rw [encode_inj, escape_inj]

/-- A backslash swallows the closing quote, or the backslash with which a quote was escaped, and what
it makes of the letter n cannot be told from a line feed. -/
theorem backslash_unreadable :
    decode? (encode ['a', '\\']) = none ∧ decode? (encode ['a', '\\', '"', 'b']) = none ∧
      encode ['a', '\\', 'n', 'b'] = encode ['a', '\n', 'b'] ∧
      Blank.trim ['a', '\\', 'n', 'b'] ≠ Blank.trim ['a', '\n', 'b'] := by
  decide

end TelemetrySender.Text.Quoted
