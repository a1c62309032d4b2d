import Mathlib.Data.List.Basic
import Mathlib.Tactic.Common
import TelemetrySender.Decimal.Double
import TelemetrySender.Uuid

/-!
The characters of numbers and identifiers.  Integers, doubles and identifiers are written with letters,
digits, dashes and points only, so a blank or a line feed always ends them, and different integers and
identifiers are written differently.
-/

set_option autoImplicit false
set_option relaxedAutoImplicit false

namespace TelemetrySender

namespace Text

/-- The characters that numbers and identifiers are written with. -/
def isFigure (c : Char) : Bool := c.isAlphanum || c == '-' || c == '.'

theorem isFigure_of_isDigit {c : Char} (digit : c.isDigit = true) : isFigure c = true := by
  simp [isFigure, Char.isAlphanum, digit]

theorem isFigure_of_mem_toDigits {n : Nat} {c : Char} (member : c ∈ Nat.toDigits 10 n) :
    isFigure c = true :=
  isFigure_of_isDigit (Nat.isDigit_of_mem_toDigits (by decide) (by decide) member)

end Text

namespace Decimal

open Text

theorem toDigits_inj {m n : Nat} (same : Nat.toDigits 10 m = Nat.toDigits 10 n) : m = n := by
  calc m = Nat.ofDigitChars 10 (Nat.toDigits 10 m) 0 := Nat.ofDigitChars_ten_toDigits.symm
    _ = Nat.ofDigitChars 10 (Nat.toDigits 10 n) 0 := by rw [same]
    _ = n := Nat.ofDigitChars_ten_toDigits

theorem isFigure_of_mem_integerText {i : Int} {c : Char} (member : c ∈ integerText i) :
    isFigure c = true := by
  unfold integerText at member
  split at member
  · rcases List.mem_cons.mp member with rfl | digit
    · decide
    · exact isFigure_of_mem_toDigits digit
  · exact isFigure_of_mem_toDigits member

theorem integerText_natCast (n : Nat) : integerText n = Nat.toDigits 10 n := by
  rw [integerText, if_neg (by omega), Int.natAbs_natCast]

private theorem dash_ne_toDigits (m n : Nat) : '-' :: Nat.toDigits 10 m ≠ Nat.toDigits 10 n := by
  intro same
  have member : '-' ∈ Nat.toDigits 10 n := by
    rw [← same]
    exact List.mem_cons_self
  have digit := Nat.isDigit_of_mem_toDigits (by decide) (by decide) member
  exact absurd digit (by decide)

theorem integerText_inj {i j : Int} (same : integerText i = integerText j) : i = j := by
  unfold integerText at same
  by_cases negative : i < 0 <;> by_cases other : j < 0 <;>
    simp only [negative, other, if_true, if_false, List.cons.injEq, true_and] at same
  · have digits := toDigits_inj same
    omega
  · exact absurd same (dash_ne_toDigits _ _)
  · exact absurd same.symm (dash_ne_toDigits _ _)
  · have digits := toDigits_inj same
    omega

section Layout

variable {digits : List Char} {c : Char}

private theorem isFigure_of_mem_positional (figures : ∀ d ∈ digits, isFigure d = true) {places : Int}
    (member : c ∈ positional digits places) : isFigure c = true := by
  have zeros {count : Nat} (inside : c ∈ List.replicate count '0') : isFigure c = true := by
    rw [List.eq_of_mem_replicate inside]
    decide
  unfold positional at member
  split at member
  · simp only [List.mem_append, List.mem_cons, List.not_mem_nil, or_false] at member
    rcases member with ((rfl | rfl) | inside) | digit
    · decide
    · decide
    · exact zeros inside
    · exact figures c digit
  · simp only [List.mem_append, List.mem_cons] at member
    rcases member with (whole | inside) | rfl | fraction
    · exact figures c (List.mem_of_mem_take whole)
    · exact zeros inside
    · decide
    · split at fraction
      · rw [List.mem_singleton.mp fraction]
        decide
      · exact figures c (List.mem_of_mem_drop fraction)

private theorem isFigure_of_mem_scientific (figures : ∀ d ∈ digits, isFigure d = true) {mark : Char}
    (letter : isFigure mark = true) {leading : Int} (member : c ∈ scientific mark digits leading) :
    isFigure c = true := by
  rcases List.mem_append.mp member with inside | exponent
  · match digits with
    | [] => cases inside
    | [d] => exact figures c inside
    | d :: e :: rest =>
      rcases List.mem_cons.mp inside with rfl | behind
      · exact figures c List.mem_cons_self
      · rcases List.mem_cons.mp behind with rfl | later
        · decide
        · exact figures c (List.mem_cons_of_mem d later)
  · rcases List.mem_cons.mp exponent with rfl | inside
    · exact letter
    · exact isFigure_of_mem_integerText inside

private theorem isFigure_of_mem_finite {layout : Layout} (letter : isFigure layout.exponentMark = true)
    {s : Shortest.Scaled} (member : c ∈ layout.finite s) : isFigure c = true := by
  have figures : ∀ d ∈ Nat.toDigits 10 (s.reduce 20).digits, isFigure d = true :=
    fun _ inside => isFigure_of_mem_toDigits inside
  unfold Layout.finite at member
  simp only at member
  split at member
  · exact isFigure_of_mem_positional figures member
  · exact isFigure_of_mem_scientific figures letter member

end Layout

theorem Double.isFigure_of_mem_text {d : Double} {c : Char} (member : c ∈ d.text .value) :
    isFigure c = true := by
  have word {w : List Char} (all : w.all isFigure = true) (inside : c ∈ w) : isFigure c = true :=
    List.all_eq_true.mp all c inside
  have signed {rest : List Char} (inside : c ∈ (if d.isNegative then ['-'] else []) ++ rest)
      (figures : c ∈ rest → isFigure c = true) : isFigure c = true := by
    rcases List.mem_append.mp inside with sign | behind
    · split at sign
      · exact word (w := ['-']) (by decide) sign
      · cases sign
    · exact figures behind
  unfold Double.text at member
  cases size : d.magnitude with
  | notANumber =>
    simp only [size] at member
    exact word (by decide) member
  | infinite =>
    simp only [size] at member
    exact signed member (word (by decide))
  | zero =>
    simp only [size] at member
    exact signed member (word (by decide))
  | finite significand exponent narrow =>
    simp only [size] at member
    exact signed member (isFigure_of_mem_finite (by decide))

end Decimal

namespace Text.Hex

theorem isAlphanum_digit {n : Nat} (small : n < 16) : (digit n).isAlphanum = true := by
  have all : ∀ m, m < 16 → (digit m).isAlphanum = true := by decide
  exact all n small

theorem isAlphanum_of_mem_digits {value count : Nat} {c : Char} (member : c ∈ digits value count) :
    c.isAlphanum = true := by
  induction count generalizing value with
  | zero => cases member
  | succ count ih =>
    rcases List.mem_append.mp member with above | last
    · exact ih above
    · rw [List.mem_singleton.mp last]
      exact isAlphanum_digit (Nat.mod_lt _ (by decide))

theorem digits_inj {count v w : Nat} (small : v < Nat.pow 16 count) (small' : w < Nat.pow 16 count)
    (same : digits v count = digits w count) : v = w := by
  induction count generalizing v w with
  | zero =>
    change v < 1 at small
    change w < 1 at small'
    omega
  | succ count ih =>
    obtain ⟨above, last⟩ := List.append_inj' same rfl
    have low : v % 16 = w % 16 := by
      have read := congrArg value? (List.cons.inj last).1
      rw [value?_digit (Nat.mod_lt _ (by decide)), value?_digit (Nat.mod_lt _ (by decide))] at read
      exact Option.some.inj read
    have high : v / 16 = w / 16 := by
      change v < Nat.pow 16 count * 16 at small
      change w < Nat.pow 16 count * 16 at small'
      exact ih (by omega) (by omega) above
    omega

end Text.Hex

namespace Uuid

open Text

theorem filter_text (u : Uuid) :
    u.text.filter (· != '-') = Hex.digits u.bits.toNat 32 := by
  have keeps {s : List Char} (inside : s ⊆ Hex.digits u.bits.toNat 32) :
      s.filter (· != '-') = s := by
    rw [List.filter_eq_self]
    intro c member
    have letter := Hex.isAlphanum_of_mem_digits (inside member)
    simp only [bne_iff_ne]
    rintro rfl
    exact absurd letter (by decide)
  have piece (i n : Nat) : ((Hex.digits u.bits.toNat 32).drop i).take n ⊆
      Hex.digits u.bits.toNat 32 := fun _ member => List.mem_of_mem_drop (List.mem_of_mem_take member)
  have dash (s : List Char) : ('-' :: s).filter (· != '-') = s.filter (· != '-') := rfl
  simp only [text, List.filter_append, List.cons_append, List.append_assoc, dash]
  rw [keeps (List.take_subset _ _), keeps (piece 8 4), keeps (piece 12 4), keeps (piece 16 4),
    keeps (List.drop_subset _ _)]
  generalize Hex.digits u.bits.toNat 32 = d
  have join (i n : Nat) : (d.drop i).take n ++ d.drop (i + n) = d.drop i := by
    rw [← List.drop_drop, List.take_append_drop]
  rw [join 16 4, join 12 4, join 8 4, List.take_append_drop]

theorem text_inj {u v : Uuid} (same : u.text = v.text) : u = v := by
  have digits := congrArg (List.filter (· != '-')) same
  rw [filter_text, filter_text] at digits
  have bits := Hex.digits_inj u.bits.isLt v.bits.isLt digits
  obtain ⟨b⟩ := u
  obtain ⟨c⟩ := v
  exact congrArg Uuid.mk (BitVec.eq_of_toNat_eq bits)

theorem isFigure_of_mem_text {u : Uuid} {c : Char} (member : c ∈ u.text) : isFigure c = true := by
  by_cases dash : c = '-'
  · rw [dash]
    decide
  · have digit : c ∈ u.text.filter (· != '-') := by
      simpa [List.mem_filter, dash] using member
    rw [filter_text] at digit
    simp [isFigure, Hex.isAlphanum_of_mem_digits digit]

end Uuid

end TelemetrySender
