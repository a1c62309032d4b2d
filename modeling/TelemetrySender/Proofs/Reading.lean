import Mathlib.Data.List.TakeWhile
import TelemetrySender.Json.Basic
import TelemetrySender.Proofs.Fields

/-!
A reader of JSON texts, and what it makes of the texts that are written.  It knows blanks between tokens and
all escapes that there are, those that are never written included; of numbers it knows the integers.  Every
value reads back from its text, whatever comes behind, unless that goes on with the digits of an integer.
-/

set_option autoImplicit false
set_option relaxedAutoImplicit false

namespace TelemetrySender

namespace Text.Hex

theorem number?_digits {count v : Nat} (small : v < Nat.pow 16 count) (rest : List Char) (acc : Nat) :
    number? 16 (digits v count ++ rest) acc = number? 16 rest (Nat.pow 16 count * acc + v) := by
  induction count generalizing v rest with
  | zero =>
    change v < 1 at small
    obtain rfl : v = 0 := by omega
    change number? 16 rest acc = number? 16 rest (1 * acc + 0)
    rw [Nat.one_mul, Nat.add_zero]
  | succ count ih =>
    change v < Nat.pow 16 count * 16 at small
    have low : v % 16 < 16 := Nat.mod_lt _ (by decide)
    have places : 16 * (Nat.pow 16 count * acc + v / 16) + v % 16 =
        Nat.pow 16 (count + 1) * acc + v := by
      have power : Nat.pow 16 (count + 1) * acc = 16 * (Nat.pow 16 count * acc) := by
        change Nat.pow 16 count * 16 * acc = _
        rw [Nat.mul_comm (Nat.pow 16 count) 16, Nat.mul_assoc]
      omega
    rw [digits, List.append_assoc, ih (by omega), List.singleton_append, number?, value?_digit low]
    simp only [if_pos low, places]

end Text.Hex

namespace Json

open Text

section Reader

def isSpace (c : Char) : Bool := c == ' ' || c == '\t' || c == '\n' || c == '\r'

def skip (s : List Char) : List Char := s.dropWhile isSpace

def shortEscapes : List (Char × Char) :=
  [('"', '"'), ('\\', '\\'), ('/', '/'), ('b', '\x08'), ('f', '\x0c'), ('n', '\n'), ('r', '\r'),
    ('t', '\t')]

def unit? : List Char → Option (Nat × List Char)
  | a :: b :: c :: d :: rest => (Hex.number? 16 [a, b, c, d] 0).map (·, rest)
  | _ => none

def numbered? (s : List Char) : Option (Char × List Char) :=
  (unit? s).bind fun (high, rest) =>
    if high < 0xD800 ∨ 0xDFFF < high then some (Char.ofNat high, rest)
    else match rest with
      | '\\' :: 'u' :: rest =>
        (unit? rest).bind fun (low, rest) =>
          if high < 0xDC00 ∧ 0xDC00 ≤ low ∧ low ≤ 0xDFFF then
            some (Char.ofNat (0x10000 + (high - 0xD800) * 0x400 + (low - 0xDC00)), rest)
          else none
      | _ => none

def escaped? : List Char → Option (Char × List Char)
  | 'u' :: rest => numbered? rest
  | c :: rest => (Keyed.find? c shortEscapes).map (·, rest)
  | [] => none

/-- Reads a text behind its opening quote.  Whatever is read, a bound on the number of steps comes first;
every step reads a character at least. -/
def text? : Nat → List Char → Option (List Char × List Char)
  | 0, _ => none
  | n + 1, s =>
    match s with
    | [] => none
    | '"' :: rest => some ([], rest)
    | '\\' :: rest =>
      (escaped? rest).bind fun (c, rest) => (text? n rest).map (Prod.map (c :: ·) id)
    | c :: rest =>
      if c.toNat < 0x20 then none else (text? n rest).map (Prod.map (c :: ·) id)

def natural? (s : List Char) : Option (Nat × List Char) :=
  let digits := s.takeWhile Char.isDigit
  if digits.isEmpty then none else some (Nat.ofDigitChars 10 digits 0, s.drop digits.length)

def integer? : List Char → Option (Int × List Char)
  | '-' :: rest => (natural? rest).map (Prod.map (fun n : Nat => -(n : Int)) id)
  | s => (natural? s).map (Prod.map (fun n : Nat => (n : Int)) id)

variable {α : Type}

def items? (close : Char) (item? : List Char → Option (α × List Char)) :
    Nat → List Char → Option (List α × List Char)
  | 0, _ => none
  | n + 1, s =>
    (item? s).bind fun (a, rest) =>
      match skip rest with
      | [] => none
      | c :: rest =>
        if c = ',' then (items? close item? n rest).map (Prod.map (a :: ·) id)
        else if c = close then some ([a], rest)
        else none

def row? (close : Char) (item? : List Char → Option (α × List Char)) (n : Nat) (s : List Char) :
    Option (List α × List Char) :=
  match skip s with
  | [] => none
  | c :: rest => if c = close then some ([], rest) else items? close item? n (c :: rest)

def pair? (value? : List Char → Option (Json × List Char)) (n : Nat) (s : List Char) :
    Option ((String × Json) × List Char) :=
  match skip s with
  | '"' :: rest =>
    (text? n rest).bind fun (key, rest) =>
      match skip rest with
      | ':' :: rest => (value? rest).map (Prod.map (String.ofList key, ·) id)
      | _ => none
  | _ => none

def value? : Nat → List Char → Option (Json × List Char)
  | 0, _ => none
  | n + 1, s =>
    match skip s with
    | 'n' :: 'u' :: 'l' :: 'l' :: rest => some (null, rest)
    | '"' :: rest => (text? n rest).map (Prod.map (text <| String.ofList ·) id)
    | '[' :: rest => (row? ']' (value? n) n rest).map (Prod.map array id)
    | '\x7b' :: rest => (row? '\x7d' (pair? (value? n) n) n rest).map (Prod.map object id)
    | rest => (integer? rest).map (Prod.map integer id)

def parse? (s : List Char) : Option Json :=
  match value? s.length s with
  | some (j, rest) => if (skip rest).isEmpty then some j else none
  | none => none

end Reader

section Texts

theorem unit?_digits {v : Nat} (small : v < Nat.pow 16 4) (rest : List Char) :
    unit? (Hex.digits v 4 ++ rest) = some (v, rest) := by
  have read : Hex.number? 16 (Hex.digits v 4) 0 = some v := by
    have all := Hex.number?_digits small [] 0
    rwa [List.append_nil, Nat.mul_zero, Nat.zero_add] at all
  have four := Hex.length_digits v 4
  generalize Hex.digits v 4 = digits at read four
  match digits with
  | [a, b, c, d] => exact congrArg (Option.map (·, rest)) read
  | [] | [_] | [_, _] | [_, _, _] | _ :: _ :: _ :: _ :: _ :: _ => simp at four

theorem text?_plain {c : Char} (quote : c ≠ '"') (backslash : c ≠ '\\') (visible : ¬ c.toNat < 0x20)
    (n : Nat) (rest : List Char) :
    text? (n + 1) (c :: rest) = (text? n rest).map (Prod.map (c :: ·) id) := by
  rw [text?, if_neg visible]
  · exact quote
  · exact backslash

theorem text?_escapeChar (n : Nat) (c : Char) (rest : List Char) :
    text? (n + 1) (escapeChar c ++ rest) = (text? n rest).map (Prod.map (c :: ·) id) := by
  unfold escapeChar
  split_ifs with quote backslash backspace formFeed lineFeed carriage tab control
  iterate 7
    subst_vars
    rfl
  · have number := unit?_digits (v := c.toNat) (by change c.toNat < 65536; omega) rest
    have plane : c.toNat < 0xD800 ∨ 0xDFFF < c.toNat := by omega
    have read : escaped? ('u' :: (Hex.digits c.toNat 4 ++ rest)) = some (c, rest) := by
      rw [escaped?, numbered?, number, Option.bind_some]
      simp only [if_pos plane, Char.ofNat_toNat]
    simp only [List.cons_append, List.nil_append, text?, read, Option.bind_some]
  · exact text?_plain quote backslash control n rest

theorem text?_quote (s : List Char) {n : Nat} (enough : s.length < n) (rest : List Char) :
    text? n (s.flatMap escapeChar ++ '"' :: rest) = some (s, rest) := by
  induction s generalizing n with
  | nil =>
    obtain ⟨m, rfl⟩ := Nat.exists_eq_add_one.mpr enough
    rfl
  | cons c s ih =>
    rw [List.length_cons] at enough
    obtain ⟨m, rfl⟩ := Nat.exists_eq_add_one.mpr (Nat.zero_lt_of_lt enough)
    rw [List.flatMap_cons, List.append_assoc, text?_escapeChar, ih (by omega)]
    rfl

theorem length_lt_quote (s : String) : s.toList.length + 1 < (quote s).length := by
  have each (c : Char) : 1 ≤ (escapeChar c).length := by
    unfold escapeChar
    split_ifs <;> simp
  have all (t : List Char) : t.length ≤ (t.flatMap escapeChar).length := by
    induction t with
    | nil => exact Nat.le_refl 0
    | cons c t ih =>
      have first := each c
      rw [List.flatMap_cons, List.length_append, List.length_cons]
      omega
  have body := all s.toList
  simp only [quote, List.length_cons, List.length_append, List.length_nil]
  omega

end Texts

section Integers

theorem natural?_toDigits (m : Nat) {rest : List Char} (ends : Ends Char.isDigit rest) :
    natural? (Nat.toDigits 10 m ++ rest) = some (m, rest) := by
  have digits : ∀ c ∈ Nat.toDigits 10 m, c.isDigit = true :=
    fun c member => Nat.isDigit_of_mem_toDigits (by decide) (by decide) member
  have some : (Nat.toDigits 10 m).isEmpty = false := by
    rw [List.isEmpty_eq_false_iff]
    exact Nat.toDigits_ne_nil
  simp only [natural?, takeWhile_of_ends digits ends, some, List.drop_left,
    Nat.ofDigitChars_ten_toDigits, Bool.false_eq_true, if_false]

theorem integer?_natural {c : Char} (digit : c.isDigit = true) (rest : List Char) :
    integer? (c :: rest) = (natural? (c :: rest)).map (Prod.map (fun n : Nat => (n : Int)) id) := by
  unfold integer?
  split
  · rename_i same
    rw [(List.cons.inj same).1] at digit
    exact absurd digit (by decide)
  · rfl

theorem integer?_integerText (i : Int) {rest : List Char} (ends : Ends Char.isDigit rest) :
    integer? (Decimal.integerText i ++ rest) = some (i, rest) := by
  have read := natural?_toDigits i.natAbs ends
  unfold Decimal.integerText
  split_ifs with negative
  · have value : -(i.natAbs : Int) = i := by omega
    rw [List.cons_append, integer?, read, Option.map_some, Prod.map_apply, value, id]
  · have value : (i.natAbs : Int) = i := by omega
    cases digits : Nat.toDigits 10 i.natAbs with
    | nil => exact absurd digits Nat.toDigits_ne_nil
    | cons c more =>
      have member : c ∈ Nat.toDigits 10 i.natAbs := digits ▸ List.mem_cons_self
      have digit := Nat.isDigit_of_mem_toDigits (by decide) (by decide) member
      rw [digits, List.cons_append] at read
      rw [List.cons_append, integer?_natural digit, read, Option.map_some, Prod.map_apply, value, id]

end Integers

section Rows

variable {α : Type}

theorem skip_cons {c : Char} (visible : isSpace c = false) (rest : List Char) :
    skip (c :: rest) = c :: rest :=
  List.dropWhile_cons_of_neg (by simp [visible])

/-- What closes a row, and how an item of it is written and read. -/
structure Row (close : Char) (write : α → List Char) (item? : List Char → Option (α × List Char))
    (as : List α) : Prop where
  visible : isSpace close = false
  notComma : close ≠ ','
  opens : ∀ a ∈ as, ∃ c rest, write a = c :: rest ∧ isSpace c = false ∧ c ≠ close
  reads : ∀ a ∈ as, ∀ c rest, c = ',' ∨ c = close → item? (write a ++ c :: rest) = some (a, c :: rest)

namespace Row

variable {close : Char} {write : α → List Char} {item? : List Char → Option (α × List Char)}

theorem tail {a : α} {as : List α} (row : Row close write item? (a :: as)) :
    Row close write item? as where
  visible := row.visible
  notComma := row.notComma
  opens b member := row.opens b (List.mem_cons_of_mem a member)
  reads b member := row.reads b (List.mem_cons_of_mem a member)

/-- Items are read back as long as there is a comma behind them, and the last one with the closing mark. -/
theorem items?_written {a : α} {as : List α} (row : Row close write item? (a :: as)) {n : Nat}
    (enough : as.length < n) (rest : List Char) :
    items? close item? n ([','].intercalate ((a :: as).map write) ++ close :: rest) =
      some (a :: as, rest) := by
  induction as generalizing a n with
  | nil =>
    obtain ⟨m, rfl⟩ := Nat.exists_eq_add_one.mpr enough
    have read := row.reads a List.mem_cons_self close rest (.inr rfl)
    rw [List.map_singleton, List.intercalate_singleton, items?, read, Option.bind_some]
    simp only [skip_cons row.visible, if_neg row.notComma, if_true]
  | cons b as ih =>
    obtain ⟨m, rfl⟩ := Nat.exists_eq_add_one.mpr (Nat.zero_lt_of_lt enough)
    rw [List.length_cons] at enough
    have later := ih row.tail (n := m) (by omega)
    have read := row.reads a List.mem_cons_self ','
      ([','].intercalate ((b :: as).map write) ++ close :: rest) (.inl rfl)
    rw [List.map_cons, List.map_cons, List.intercalate_cons_cons, List.append_assoc, List.append_assoc,
      List.singleton_append, ← List.map_cons, items?, read, Option.bind_some]
    simp only [skip_cons (show isSpace ',' = false from rfl), if_true, later, Option.map_some,
      Prod.map_apply, id]

theorem row?_written {as : List α} (row : Row close write item? as) {n : Nat}
    (enough : as.length ≤ n) (rest : List Char) :
    row? close item? n ([','].intercalate (as.map write) ++ close :: rest) = some (as, rest) := by
  cases as with
  | nil =>
    change row? close item? n (close :: rest) = _
    simp only [row?, skip_cons row.visible, if_true]
  | cons a as =>
    obtain ⟨c, more, shape, visible, other⟩ := row.opens a List.mem_cons_self
    have read := row.items?_written enough rest
    have first : ∃ more, [','].intercalate ((a :: as).map write) ++ close :: rest = c :: more := by
      cases as with
      | nil => exact ⟨_, by rw [List.map_singleton, List.intercalate_singleton, shape]; rfl⟩
      | cons b as =>
        exact ⟨_, by rw [List.map_cons, List.map_cons, List.intercalate_cons_cons, shape]; rfl⟩
    obtain ⟨behind, whole⟩ := first
    rw [whole] at read ⊢
    simp only [row?, skip_cons visible, if_neg other, read]

end Row

theorem le_length_intercalate {ls : List (List Char)} (filled : ∀ l ∈ ls, l ≠ []) :
    ls.length ≤ ([','].intercalate ls).length ∧
      ∀ l ∈ ls, l.length ≤ ([','].intercalate ls).length := by
  induction ls with
  | nil => simp
  | cons l ls ih =>
    rw [List.forall_mem_cons] at filled
    have first := List.length_pos_iff.mpr filled.1
    cases ls with
    | nil =>
      rw [List.intercalate_singleton]
      exact ⟨first, by simp⟩
    | cons l' ls =>
      obtain ⟨count, each⟩ := ih filled.2
      rw [List.intercalate_cons_cons]
      simp only [List.length_append, List.length_cons, List.length_nil] at count ⊢
      refine ⟨by omega, fun m member => ?_⟩
      rcases List.mem_cons.mp member with rfl | later
      · omega
      · have bound := each m later
        omega

end Rows

section Values

def renderPair (m : String × Json) : List Char := quote m.1 ++ ':' :: render m.2

theorem renderItems_eq (items : List Json) :
    renderItems items = [','].intercalate (items.map render) := by
  induction items with
  | nil => rfl
  | cons j items ih =>
    cases items with
    | nil => rw [renderItems, List.map_singleton, List.intercalate_singleton]
    | cons k rest =>
      rw [renderItems, ih]
      simp only [List.map_cons, List.intercalate_cons_cons, List.append_assoc, List.singleton_append]

theorem renderMembers_eq (members : List (String × Json)) :
    renderMembers members = [','].intercalate (members.map renderPair) := by
  induction members with
  | nil => rfl
  | cons m members ih =>
    cases members with
    | nil => rw [renderMembers, List.map_singleton, List.intercalate_singleton, renderPair]
    | cons m' rest =>
      rw [renderMembers, ih]
      simp only [List.map_cons, List.intercalate_cons_cons, List.append_assoc, List.nil_append,
        List.cons_append, renderPair]

theorem ne_of_isNumeral {c d : Char} (numeral : Line.isNumeral c = true)
    (other : Line.isNumeral d = false) : c ≠ d := by
  rintro rfl
  rw [other] at numeral
  cases numeral

theorem isSpace_of_isNumeral {c : Char} (numeral : Line.isNumeral c = true) : isSpace c = false := by
  by_contra space
  simp only [isSpace, Bool.not_eq_false, Bool.or_eq_true, beq_iff_eq] at space
  rcases space with ((rfl | rfl) | rfl) | rfl <;> cases numeral

theorem render_opens (j : Json) :
    ∃ c rest, j.render = c :: rest ∧ isSpace c = false ∧ c ≠ ']' := by
  cases j with
  | null => exact ⟨'n', ['u', 'l', 'l'], by rw [render]; rfl, rfl, by decide⟩
  | integer i =>
    obtain ⟨c, rest, shape, numeral⟩ := Line.integerText_opens i
    exact ⟨c, rest, by rw [render, shape], isSpace_of_isNumeral numeral, ne_of_isNumeral numeral rfl⟩
  | text s => exact ⟨'"', _, by rw [render]; rfl, rfl, by decide⟩
  | array items => exact ⟨'[', _, by rw [render], rfl, by decide⟩
  | object members => exact ⟨'\x7b', _, by rw [render], rfl, by decide⟩

theorem render_ne_nil (j : Json) : j.render ≠ [] := by
  obtain ⟨c, rest, shape, -⟩ := j.render_opens
  rw [shape]
  exact List.cons_ne_nil c rest

theorem value?_quote (n : Nat) (s : List Char) :
    value? (n + 1) ('"' :: s) = (text? n s).map (Prod.map (text <| String.ofList ·) id) := rfl

theorem value?_bracket (n : Nat) (s : List Char) :
    value? (n + 1) ('[' :: s) = (row? ']' (value? n) n s).map (Prod.map array id) := rfl

theorem value?_brace (n : Nat) (s : List Char) :
    value? (n + 1) ('\x7b' :: s) =
      (row? '\x7d' (pair? (value? n) n) n s).map (Prod.map object id) := rfl

theorem value?_numeral {c : Char} (numeral : Line.isNumeral c = true) (n : Nat) (s : List Char) :
    value? (n + 1) (c :: s) = (integer? (c :: s)).map (Prod.map integer id) := by
  rw [value?, skip_cons (isSpace_of_isNumeral numeral)]
  split
  iterate 4
    rename_i same
    exact absurd (List.cons.inj same).1 (ne_of_isNumeral numeral rfl)
  rfl

theorem ends_close {c : Char} (close : c = ',' ∨ c = ']' ∨ c = '\x7d') (rest : List Char) :
    Ends Char.isDigit (c :: rest) := by
  rcases close with rfl | rfl | rfl <;> exact ends_cons rfl rest

theorem row_items {n : Nat} {items : List Json}
    (back : ∀ j ∈ items, ∀ rest, Ends Char.isDigit rest → value? n (j.render ++ rest) = some (j, rest)) :
    Row ']' render (value? n) items where
  visible := rfl
  notComma := by decide
  opens j _ := j.render_opens
  reads j member c rest close := back j member (c :: rest) (ends_close (by tauto) rest)

theorem row_members {n : Nat} {members : List (String × Json)}
    (keys : ∀ m ∈ members, (quote m.1).length ≤ n)
    (back : ∀ m ∈ members, ∀ rest, Ends Char.isDigit rest →
      value? n (m.2.render ++ rest) = some (m.2, rest)) :
    Row '\x7d' renderPair (pair? (value? n) n) members where
  visible := rfl
  notComma := by decide
  opens m _ := ⟨'"', _, rfl, rfl, by decide⟩
  reads m member c rest close := by
    have short := length_lt_quote m.1
    have key := keys m member
    have name := text?_quote m.1.toList (n := n) (by omega) (':' :: (m.2.render ++ c :: rest))
    have value := back m member (c :: rest) (ends_close (by tauto) rest)
    have shape : renderPair m ++ c :: rest =
        '"' :: (m.1.toList.flatMap escapeChar ++ '"' :: ':' :: (m.2.render ++ c :: rest)) := by
      simp [renderPair, quote]
    simp only [shape, pair?, skip_cons (show isSpace '"' = false from rfl), name, Option.bind_some,
      skip_cons (show isSpace ':' = false from rfl), value, Option.map_some, Prod.map_apply,
      String.ofList_toList, id]

theorem value?_render {n : Nat} {j : Json} (enough : j.render.length ≤ n) {rest : List Char}
    (ends : Ends Char.isDigit rest) : value? n (j.render ++ rest) = some (j, rest) := by
  -- By the number of steps: what an array or an object holds is shorter than its text.
  induction n generalizing j rest with
  | zero => exact absurd (List.length_eq_zero_iff.mp (Nat.le_zero.mp enough)) j.render_ne_nil
  | succ n ih =>
    cases j with
    | null =>
      rw [render]
      rfl
    | integer i =>
      have read := integer?_integerText i ends
      obtain ⟨c, more, shape, numeral⟩ := Line.integerText_opens i
      rw [shape, List.cons_append] at read
      rw [render, shape, List.cons_append, value?_numeral numeral, read]
      rfl
    | text s =>
      have short := length_lt_quote s
      rw [render] at enough ⊢
      have read := text?_quote s.toList (n := n) (by omega) rest
      rw [quote, List.cons_append, List.append_assoc, List.singleton_append, value?_quote, read,
        Option.map_some, Prod.map_apply, String.ofList_toList, id]
    | array items =>
      rw [render, renderItems_eq, List.length_cons, List.length_append, List.length_singleton] at enough
      have filled : ∀ l ∈ items.map render, l ≠ [] := by
        intro l member
        obtain ⟨j, -, rfl⟩ := List.mem_map.mp member
        exact j.render_ne_nil
      obtain ⟨count, each⟩ := le_length_intercalate filled
      rw [List.length_map] at count
      have row : Row ']' render (value? n) items := row_items fun j member rest ends => by
        have bound := each j.render (List.mem_map_of_mem member)
        exact ih (by omega) ends
      have read := row.row?_written (n := n) (by omega) rest
      rw [render, renderItems_eq, List.cons_append, List.append_assoc, List.singleton_append,
        value?_bracket, read, Option.map_some, Prod.map_apply, id]
    | object members =>
      rw [render, renderMembers_eq, List.length_cons, List.length_append,
        List.length_singleton] at enough
      have filled : ∀ l ∈ members.map renderPair, l ≠ [] := by
        intro l member
        obtain ⟨m, -, rfl⟩ := List.mem_map.mp member
        exact List.cons_ne_nil _ _
      obtain ⟨count, each⟩ := le_length_intercalate filled
      rw [List.length_map] at count
      have pair (m : String × Json) (member : m ∈ members) :
          (quote m.1).length ≤ n ∧ m.2.render.length ≤ n := by
        have bound := each (renderPair m) (List.mem_map_of_mem member)
        rw [renderPair, List.length_append, List.length_cons] at bound
        omega
      have row : Row '\x7d' renderPair (pair? (value? n) n) members :=
        row_members (fun m member => (pair m member).1) fun m member rest ends =>
          ih (pair m member).2 ends
      have read := row.row?_written (n := n) (by omega) rest
      rw [render, renderMembers_eq, List.cons_append, List.append_assoc, List.singleton_append,
        value?_brace, read, Option.map_some, Prod.map_apply, id]

/-- The text of a value holds that value, blanks behind it or not. -/
theorem parse?_render (j : Json) {blanks : List Char} (empty : ∀ c ∈ blanks, isSpace c = true) :
    parse? (j.render ++ blanks) = some j := by
  have ends : Ends Char.isDigit blanks := by
    intro c member
    have blank := empty c (List.mem_of_mem_head? member)
    simp only [isSpace, Bool.or_eq_true, beq_iff_eq] at blank
    rcases blank with ((rfl | rfl) | rfl) | rfl <;> rfl
  have read := value?_render (n := (j.render ++ blanks).length) (j := j) (by simp) ends
  have rest : skip blanks = [] := by
    rw [skip, List.dropWhile_eq_nil_iff]
    exact empty
  rw [parse?, read]
  simp only [rest, List.isEmpty_nil, if_true]

example : parse? "\n[ -12,\t\x7b \"k\" : \"\\u00e9\\ud83d\\ude00\\/\" \x7d,[] ] ".toList =
    some (.array [.integer (-12), .object [("k", .text "é😀/")], .array []]) := by
  rfl

end Values

end Json

end TelemetrySender
