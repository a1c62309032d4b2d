import TelemetrySender.Proofs.Fields

/-!
Names as they are written.  Every legal character stays in its place and a dash stands in the place of
any other, so names that are legal throughout are written as they are, and what is written for any name
is itself legal throughout.
-/

set_option autoImplicit false
set_option relaxedAutoImplicit false

namespace TelemetrySender.Text.Name

def IsLetterOrDigit (c : Char) : Prop :=
  (0x41 ≤ c.toNat ∧ c.toNat ≤ 0x5A ∨ 0x61 ≤ c.toNat ∧ c.toNat ≤ 0x7A) ∨
    0x30 ≤ c.toNat ∧ c.toNat ≤ 0x39

def LegalAnywhere (c : Char) : Prop :=
  IsLetterOrDigit c ∨ c = '-' ∨ c = '.' ∨ c = '_'

/-- The characters that are legal in a place, places being counted from zero. -/
def LegalAt (place : Nat) (c : Char) : Prop :=
  LegalAnywhere c ∨ place = 0 ∧ (c = '~' ∨ c = '\u0394' ∨ c = '\u2206')

def Legal (s : List Char) : Prop := ∀ i, ∀ c ∈ s[i]?, LegalAt i c

instance (c : Char) : Decidable (IsLetterOrDigit c) :=
  inferInstanceAs (Decidable ((_ ∧ _ ∨ _ ∧ _) ∨ _ ∧ _))

instance (c : Char) : Decidable (LegalAnywhere c) :=
  inferInstanceAs (Decidable (IsLetterOrDigit c ∨ _ ∨ _ ∨ _))

instance (place : Nat) (c : Char) : Decidable (LegalAt place c) :=
  inferInstanceAs (Decidable (LegalAnywhere c ∨ _ ∧ (_ ∨ _ ∨ _)))

theorem isLegal_iff (c : Char) : isLegal c = true ↔ LegalAnywhere c := by
  have alphanumeric : c.isAlphanum = true ↔ IsLetterOrDigit c := by
    change (decide ('A'.val ≤ c.val ∧ c.val ≤ 'Z'.val) ||
      ('a'.val ≤ c.val && c.val ≤ 'z'.val) || ('0'.val ≤ c.val && c.val ≤ '9'.val)) = true ↔ _
    simp only [Bool.or_eq_true, Bool.and_eq_true, decide_eq_true_eq, UInt32.le_iff_toNat_le]
    exact Iff.rfl
  simp only [isLegal, Bool.or_eq_true, beq_iff_eq, alphanumeric, LegalAnywhere, or_assoc]

theorem isLegalFirst_iff (c : Char) : isLegalFirst c = true ↔ LegalAt 0 c := by
  simp only [isLegalFirst, Bool.or_eq_true, beq_iff_eq, isLegal_iff, LegalAt, true_and, or_assoc]

theorem legalAt_succ_iff (i : Nat) (c : Char) : LegalAt (i + 1) c ↔ LegalAnywhere c := by
  simp [LegalAt]

theorem legalAt_dash (i : Nat) : LegalAt i '-' := .inl (.inr (.inl rfl))

/-- What is written for a character in a place. -/
def cleanAt (place : Nat) (c : Char) : Char := if LegalAt place c then c else '-'

theorem legalAt_cleanAt (i : Nat) (c : Char) : LegalAt i (cleanAt i c) := by
  unfold cleanAt
  split
  · assumption
  · exact legalAt_dash i

theorem cleanAt_eq_self_iff (i : Nat) (c : Char) : cleanAt i c = c ↔ LegalAt i c := by
  constructor
  · intro same
    rw [← same]
    exact legalAt_cleanAt i c
  · intro legal
    exact if_pos legal

theorem cleanAt_zero (c : Char) : cleanAt 0 c = if isLegalFirst c then c else '-' := by
  simp only [cleanAt, isLegalFirst_iff]

theorem cleanAt_succ (i : Nat) (c : Char) : cleanAt (i + 1) c = if isLegal c then c else '-' := by
  simp only [cleanAt, legalAt_succ_iff, isLegal_iff]

theorem clean_eq_mapIdx (s : List Char) : clean s = s.mapIdx cleanAt := by
  cases s with
  | nil => rfl
  | cons c s =>
    rw [clean, List.mapIdx_cons, cleanAt_zero]
    congr 1
    apply List.ext_getElem?
    intro i
    rw [List.getElem?_map, List.getElem?_mapIdx]
    congr 1
    ext d
    rw [cleanAt_succ]

theorem getElem?_clean (s : List Char) (i : Nat) : (clean s)[i]? = s[i]?.map (cleanAt i) := by
  rw [clean_eq_mapIdx, List.getElem?_mapIdx]

theorem legal_clean (s : List Char) : Legal (clean s) := by
  intro i c member
  rw [getElem?_clean] at member
  obtain ⟨d, -, rfl⟩ := Option.map_eq_some_iff.mp member
  exact legalAt_cleanAt i d

theorem clean_eq_self_iff (s : List Char) : clean s = s ↔ Legal s := by
  constructor
  · intro same
    rw [← same]
    exact legal_clean s
  · intro legal
    apply List.ext_getElem?
    intro i
    rw [getElem?_clean]
    cases here : s[i]? with
    | none => rfl
    | some c => exact congrArg some ((cleanAt_eq_self_iff i c).mpr (legal i c here))

/-- What writing a name does to it. -/
structure Projects : Prop where
  length : ∀ s, (clean s).length = s.length
  place : ∀ s i c, s[i]? = some c → (clean s)[i]? = some (if LegalAt i c then c else '-')
  idempotent : ∀ s, clean (clean s) = clean s
  fixed : ∀ s, clean s = s ↔ Legal s
  image : ∀ t, (∃ s, clean s = t) ↔ Legal t
  quoted : ∀ s, quote s = '"' :: (clean s ++ ['"'])
  separators : ∀ s, ∀ c ∈ ['"', ' ', '=', '\n'], c ∉ clean s

/-- Writing a name projects texts onto those that are legal, place by place. -/
theorem clean_projects : Projects where
  length := length_clean
  place s i c here := by
    rw [getElem?_clean, here]
    rfl
  idempotent s := (clean_eq_self_iff (clean s)).mpr (legal_clean s)
  fixed := clean_eq_self_iff
  image t := by
    constructor
    · rintro ⟨s, rfl⟩
      exact legal_clean s
    · intro legal
      exact ⟨t, (clean_eq_self_iff t).mpr legal⟩
  quoted _ := rfl
  separators s c separator := by
    have illegal : (['"', ' ', '=', '\n'].all fun c => !isLegalFirst c) = true := by decide
    exact notMem_clean (by simpa using List.all_eq_true.mp illegal c separator) s

end TelemetrySender.Text.Name
