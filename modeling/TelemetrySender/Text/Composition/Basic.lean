import TelemetrySender.Text.Composition.Classes
import TelemetrySender.Text.Composition.Parts

/-!
The composed form of a text.  Texts that differ only in how letters and marks are put together have
one composed form: every character is taken apart, the marks behind each are put in order, and what
makes a composite is put together again.
-/

set_option autoImplicit false
set_option relaxedAutoImplicit false

namespace TelemetrySender.Text.Composition

/-- The parts of a syllable of Hangul.  Syllables count through all leading consonants, vowels and
trailing consonants, no trailing one first; a syllable with one has that without it as a part. -/
def syllableParts? (n : Nat) : Option (Nat × Nat) :=
  if n < 0xAC00 ∨ 0xD7A3 < n then none
  else
    let place := n - 0xAC00
    if place % 28 = 0 then some (0x1100 + place / 588, 0x1161 + place % 588 / 28)
    else some (n - place % 28, 0x11A7 + place % 28)

def syllable? (first second : Nat) : Option Nat :=
  if 0x1100 ≤ first ∧ first < 0x1113 ∧ 0x1161 ≤ second ∧ second < 0x1176 then
    some (0xAC00 + (21 * (first - 0x1100) + (second - 0x1161)) * 28)
  else if 0xAC00 ≤ first ∧ first ≤ 0xD7A3 ∧ (first - 0xAC00) % 28 = 0 ∧
      0x11A8 ≤ second ∧ second < 0x11C3 then
    some (first + (second - 0x11A7))
  else none

def parts? (c : Char) : Option (Char × List Char) :=
  let n := c.toNat
  if n < 0xC0 then none
  else
    match syllableParts? n with
    | some (first, second) => some (Char.ofNat first, [Char.ofNat second])
    | none =>
      match composites.find? (·.1 == n) <|> separated.find? (·.1 == n) with
      | some (_, first, second) => some (Char.ofNat first, [Char.ofNat second])
      | none => (aliases.find? (·.1 == n)).map fun r => (Char.ofNat r.2, [])

def decomposeOnto : Nat → Char → List Char → List Char
  | 0, c, tail => c :: tail
  | fuel + 1, c, tail =>
    match parts? c with
    | some (first, others) => decomposeOnto fuel first (others ++ tail)
    | none => c :: tail

def decompose (c : Char) : List Char := decomposeOnto 3 c []

def sortMarks (marks : List Char) : List Char :=
  marks.mergeSort fun a b => combiningClass a ≤ combiningClass b

/-- Sorts every run of marks; `run` holds those read since the last starter, last one first. -/
def orderMarks (run : List Char) : List Char → List Char
  | [] => sortMarks run.reverse
  | c :: s =>
    if isStarter c then sortMarks run.reverse ++ c :: orderMarks [] s else orderMarks (c :: run) s

def composite? (a b : Char) : Option Char :=
  if b.toNat < 0x300 then none
  else
    match syllable? a.toNat b.toNat with
    | some n => some (Char.ofNat n)
    | none =>
      (composites.find? fun r => r.2.1 == a.toNat && r.2.2 == b.toNat).map fun r => Char.ofNat r.1

/-- A character reaches the starter before it if all that was kept between them is of a lower
class; `kept` has the last one first. -/
def reaches (c : Char) (kept : List Char) : Bool :=
  match kept with
  | [] => true
  | b :: _ => combiningClass b < combiningClass c

/-- Puts composites together.  `kept` holds the marks behind `starter` that did not compose with
it, last one first. -/
def joinFrom (starter : Char) (kept : List Char) : List Char → List Char
  | [] => starter :: kept.reverse
  | c :: s =>
    match if reaches c kept then composite? starter c else none with
    | some composite => joinFrom composite kept s
    | none =>
      if isStarter c then starter :: kept.reverse ++ joinFrom c [] s
      else joinFrom starter (c :: kept) s

def join : List Char → List Char
  | [] => []
  | c :: s => if isStarter c then joinFrom c [] s else c :: join s

/-- The composed form. -/
def compose (s : List Char) : List Char :=
  join (orderMarks [] (s.flatMap decompose))

theorem decompose_of_plain {c : Char} (h : c.toNat < 0xC0) : decompose c = [c] := by
  simp [decompose, decomposeOnto, parts?, h]

theorem isStarter_of_plain {c : Char} (h : c.toNat < 0xC0) : isStarter c = true := by
  simp [isStarter, combiningClass, show c.toNat < 0x300 by omega]

theorem orderMarks_of_plain {s : List Char} (h : ∀ c ∈ s, c.toNat < 0xC0) :
    orderMarks [] s = s := by
  induction s with
  | nil => simp [orderMarks, sortMarks]
  | cons c s ih =>
    simp only [List.forall_mem_cons] at h
    simp [orderMarks, isStarter_of_plain h.1, sortMarks, ih h.2]

theorem joinFrom_of_plain {starter : Char} {s : List Char} (h : ∀ c ∈ s, c.toNat < 0xC0) :
    joinFrom starter [] s = starter :: s := by
  induction s generalizing starter with
  | nil => rfl
  | cons c s ih =>
    simp only [List.forall_mem_cons] at h
    simp [joinFrom, reaches, composite?, show c.toNat < 0x300 by omega, isStarter_of_plain h.1,
      ih h.2]

theorem compose_of_plain {s : List Char} (h : ∀ c ∈ s, c.toNat < 0xC0) : compose s = s := by
  have apart : s.flatMap decompose = s := by
    induction s with
    | nil => rfl
    | cons c s ih =>
      simp only [List.forall_mem_cons] at h
      simp [List.flatMap_cons, decompose_of_plain h.1, ih h.2]
  rw [compose, apart, orderMarks_of_plain h]
  cases s with
  | nil => rfl
  | cons c s =>
    simp only [List.forall_mem_cons] at h
    simp [join, isStarter_of_plain h.1, joinFrom_of_plain h.2]

end TelemetrySender.Text.Composition
