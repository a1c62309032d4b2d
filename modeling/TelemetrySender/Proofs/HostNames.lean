import Mathlib.Tactic.Common
import TelemetrySender.Endpoint.Host.Basic

/-!
What may stand in host names.  A host is read off bytes, folded and composed; no control and no blank is
lost on that way, and no name holds one.
-/

set_option autoImplicit false
set_option relaxedAutoImplicit false

namespace TelemetrySender.Endpoint.Host

open Text

section Bytes

def utf8 (s : List Char) : List UInt8 := s.flatMap String.utf8EncodeChar

private theorem toList_loop (bytes : ByteArray) (i : Nat) (done : List UInt8) :
    ByteArray.toList.loop bytes i done = done.reverse ++ bytes.data.toList.drop i := by
  fun_induction ByteArray.toList.loop bytes i done with
  | case1 i done inside ih =>
    have present : i < bytes.data.toList.length := by simpa using inside
    rw [ih, List.drop_eq_getElem_cons present]
    simp [ByteArray.get!, inside]
  | case2 i done beyond =>
    have short : bytes.data.toList.length ≤ i := by simpa using beyond
    rw [List.drop_eq_nil_of_le short, List.append_nil]

private theorem toList_eq_data (bytes : ByteArray) : bytes.toList = bytes.data.toList := by
  rw [ByteArray.toList, toList_loop, List.reverse_nil, List.nil_append, List.drop_zero]

theorem toList_toUTF8 (s : List Char) : (String.ofList s).toUTF8.toList = utf8 s := by
  rw [toList_eq_data, String.toUTF8_eq_toByteArray, String.toByteArray_ofList, List.utf8Encode,
    List.data_toByteArray, utf8]

theorem fromUTF8?_eq_some_iff (bytes : List UInt8) (t : String) :
    String.fromUTF8? (ByteArray.mk bytes.toArray) = some t ↔ bytes = utf8 t.toList := by
  have same : t.toByteArray = ByteArray.mk bytes.toArray ↔ bytes = utf8 t.toList := by
    rw [← String.utf8Encode_toList, List.utf8Encode, ByteArray.ext_iff, List.data_toByteArray, utf8,
      List.toArray_eq_toArray_eq, eq_comm]
  rw [← same, String.fromUTF8?]
  constructor
  · intro read
    split at read
    · cases read
      rfl
    · cases read
  · intro written
    have valid : (ByteArray.mk bytes.toArray).IsValidUTF8 := written ▸ t.isValidUTF8
    rw [dif_pos valid]
    congr 1
    rw [← String.toByteArray_inj, written]
    rfl

theorem utf8EncodeChar_of_ascii {c : Char} (ascii : c.toNat < 0x80) :
    String.utf8EncodeChar c = [UInt8.ofNat c.toNat] := by
  have small : c.val.toNat ≤ 0x7F := Nat.le_of_lt_succ ascii
  rw [String.utf8EncodeChar]
  exact if_pos small

private theorem toNat_of_mem_utf8EncodeChar {c : Char} (beyond : 0x80 ≤ c.toNat) {b : UInt8}
    (member : b ∈ String.utf8EncodeChar c) : 0x80 ≤ b.toNat := by
  have large : ¬ c.val.toNat ≤ 0x7F := Nat.not_le_of_lt beyond
  have range (n : Nat) (least : 0x80 ≤ n) (most : n < 0x100) : 0x80 ≤ (UInt8.ofNat n).toNat := by
    rw [UInt8.toNat_ofNat', Nat.mod_eq_of_lt most]
    exact least
  simp only [String.utf8EncodeChar, if_neg large] at member
  split_ifs at member
  · simp only [List.mem_cons, List.not_mem_nil, or_false] at member
    rcases member with rfl | rfl <;> exact range _ (by omega) (by omega)
  · simp only [List.mem_cons, List.not_mem_nil, or_false] at member
    rcases member with rfl | rfl | rfl <;> exact range _ (by omega) (by omega)
  · simp only [List.mem_cons, List.not_mem_nil, or_false] at member
    rcases member with rfl | rfl | rfl | rfl <;> exact range _ (by omega) (by omega)

theorem mem_utf8_iff {c : Char} (ascii : c.toNat < 0x80) (s : List Char) :
    UInt8.ofNat c.toNat ∈ utf8 s ↔ c ∈ s := by
  rw [utf8, List.mem_flatMap]
  constructor
  · rintro ⟨d, member, byte⟩
    by_cases plain : d.toNat < 0x80
    · rw [utf8EncodeChar_of_ascii plain, List.mem_singleton, ← UInt8.toNat_inj, UInt8.toNat_ofNat',
        UInt8.toNat_ofNat', Nat.mod_eq_of_lt (by omega), Nat.mod_eq_of_lt (by omega)] at byte
      rw [Char.toNat_inj.mp byte]
      exact member
    · have high := toNat_of_mem_utf8EncodeChar (Nat.le_of_not_lt plain) byte
      rw [UInt8.toNat_ofNat', Nat.mod_eq_of_lt (by omega)] at high
      omega
  · intro member
    refine ⟨c, member, ?_⟩
    rw [utf8EncodeChar_of_ascii ascii]
    exact List.mem_singleton_self _

end Bytes

section Percent

theorem mem_percentDecode {b : UInt8} (percent : b ≠ 0x25)
    (digit : Hex.value? (Char.ofNat b.toNat) = none) {bytes : List UInt8} (member : b ∈ bytes) :
    b ∈ percentDecode bytes := by
  induction bytes using percentDecode.induct with
  | case1 a d rest x y high low ih =>
    rw [percentDecode, high, low]
    have other {e : UInt8} {n : Nat} (value : Hex.value? (Char.ofNat e.toNat) = some n) : b ≠ e := by
      rintro rfl
      rw [digit] at value
      cases value
    simp only [List.mem_cons, percent, other high, other low, false_or] at member
    exact List.mem_cons_of_mem _ (ih member)
  | case2 a d rest uncoded ih =>
    have kept : percentDecode (0x25 :: a :: d :: rest) = 0x25 :: percentDecode (a :: d :: rest) := by
      rw [percentDecode]
      split
      · rename_i x y high low
        exact (uncoded x y high low).elim
      · rfl
    rw [kept]
    rcases List.mem_cons.mp member with same | later
    · exact absurd same percent
    · exact List.mem_cons_of_mem _ (ih later)
  | case3 e rest lone ih =>
    rw [percentDecode.eq_2 e rest lone]
    rcases List.mem_cons.mp member with rfl | later
    · exact List.mem_cons_self
    · exact List.mem_cons_of_mem _ (ih later)
  | case4 => cases member

theorem percentDecode_of_notMem {bytes : List UInt8} (none : 0x25 ∉ bytes) :
    percentDecode bytes = bytes := by
  induction bytes with
  | nil => rfl
  | cons b rest ih =>
    rw [List.mem_cons, not_or] at none
    have lone : ∀ (a d : UInt8) (more : List UInt8), b = 0x25 → rest = a :: d :: more → False :=
      fun _ _ _ same _ => none.1 same.symm
    rw [percentDecode.eq_2 b rest lone, ih none.2]

end Percent

section Folding

theorem toLower_mem_of_fold? {s t : List Char} (fold : Folding.fold? s = some t) {c : Char}
    (ascii : c.toNat < 0x80) (member : c ∈ s) : c.toLower ∈ t := by
  induction s generalizing t with
  | nil => cases member
  | cons d s ih =>
    rw [Folding.fold?] at fold
    split at fold
    · rename_i first rest head tail
      cases fold
      rcases List.mem_cons.mp member with rfl | later
      · rw [Folding.foldChar?, if_pos ascii] at head
        cases head
        exact List.mem_append_left rest (List.mem_singleton_self _)
      · exact List.mem_append_right first (ih tail later)
    · cases fold

theorem fold?_of_ascii {s : List Char} (plain : ∀ c ∈ s, c.toNat < 0x80 ∧ c.toLower = c) :
    Folding.fold? s = some s := by
  induction s with
  | nil => rfl
  | cons c s ih =>
    obtain ⟨⟨ascii, lower⟩, rest⟩ := List.forall_mem_cons.mp plain
    rw [Folding.fold?, Folding.foldChar?, if_pos ascii, lower, ih rest]
    rfl

end Folding

section Composition

open Composition

/-- The code point from which on there are characters that a mark composes with. -/
def firstComposing : Nat := 0x3C

private theorem firstComposing_le_parts :
    (composites.all fun r => firstComposing ≤ r.2.1) = true := by
  decide +kernel

private theorem composite?_of_lt {a b : Char} (early : a.toNat < firstComposing) :
    composite? a b = none := by
  have syllable : syllable? a.toNat b.toNat = none := by
    have bound : a.toNat < 0x3C := early
    rw [syllable?, if_neg (by omega), if_neg (by omega)]
  have absent : (composites.find? fun r => r.2.1 == a.toNat && r.2.2 == b.toNat) = none := by
    rw [List.find?_eq_none]
    intro r member
    have bound := of_decide_eq_true (List.all_eq_true.mp firstComposing_le_parts r member)
    have other : r.2.1 ≠ a.toNat := by omega
    simp [other]
  rw [composite?, syllable, absent]
  split <;> rfl

private theorem composite?_of_plain {a b : Char} (plain : b.toNat < 0x300) :
    composite? a b = none := if_pos plain

private theorem mem_sortMarks {c : Char} (marks : List Char) : c ∈ sortMarks marks ↔ c ∈ marks :=
  List.mem_mergeSort

private theorem mem_orderMarks {c : Char} (run s : List Char) :
    c ∈ orderMarks run s ↔ c ∈ run ∨ c ∈ s := by
  induction s generalizing run with
  | nil => simp [orderMarks, mem_sortMarks]
  | cons d s ih =>
    rw [orderMarks]
    split
    · simp [ih, mem_sortMarks]
    · simp only [ih, List.mem_cons]
      tauto

private theorem mem_joinFrom {c : Char} (early : c.toNat < firstComposing) {starter : Char}
    {kept s : List Char} (member : c = starter ∨ c ∈ kept ∨ c ∈ s) :
    c ∈ joinFrom starter kept s := by
  induction s generalizing starter kept with
  | nil => simpa [joinFrom] using member
  | cons d s ih =>
    rw [joinFrom]
    split
    · rename_i composite joined
      have met : composite? starter d = some composite := by
        split at joined
        · exact joined
        · cases joined
      apply ih
      rcases member with rfl | inKept | inRest
      · rw [composite?_of_lt early] at met
        cases met
      · exact .inr (.inl inKept)
      · rcases List.mem_cons.mp inRest with rfl | later
        · have plain : c.toNat < 0x300 := Nat.lt_trans early (by decide)
          rw [composite?_of_plain plain] at met
          cases met
        · exact .inr (.inr later)
    · split
      · simp only [List.cons_append, List.mem_cons, List.mem_append, List.mem_reverse] at member ⊢
        rcases member with first | inKept | inRest
        · exact .inl first
        · exact .inr (.inl inKept)
        · exact .inr (.inr (ih (inRest.imp_right .inr)))
      · apply ih
        simp only [List.mem_cons] at member ⊢
        tauto

/-- No character in front of those that compose is lost. -/
theorem mem_compose {c : Char} (early : c.toNat < firstComposing) {s : List Char} (member : c ∈ s) :
    c ∈ compose s := by
  have plain : c.toNat < 0xC0 := Nat.lt_trans early (by decide)
  have apart : c ∈ s.flatMap decompose := by
    refine List.mem_flatMap.mpr ⟨c, member, ?_⟩
    rw [decompose_of_plain plain]
    exact List.mem_singleton_self c
  have ordered : c ∈ orderMarks [] (s.flatMap decompose) :=
    (mem_orderMarks [] (s.flatMap decompose)).mpr (.inr apart)
  rw [compose]
  generalize orderMarks [] (s.flatMap decompose) = t at ordered
  induction t with
  | nil => cases ordered
  | cons d t ih =>
    rw [join]
    split
    · apply mem_joinFrom early
      exact (List.mem_cons.mp ordered).imp_right .inr
    · rcases List.mem_cons.mp ordered with first | later
      · exact List.mem_cons.mpr (.inl first)
      · exact List.mem_cons_of_mem d (ih later)

end Composition

section Names

private theorem low_plain {c : Char} (low : c.toNat ≤ 0x20) :
    Hex.value? c = none ∧ c.toLower = c := by
  have all : ∀ n, n < 0x21 →
      Hex.value? (Char.ofNat n) = none ∧ (Char.ofNat n).toLower = Char.ofNat n := by decide
  have this := all c.toNat (Nat.lt_succ_of_le low)
  rwa [Char.ofNat_toNat] at this

theorem lt_of_name? {s name : List Char} (read : name? s = some name) {c : Char} (member : c ∈ s) :
    0x20 < c.toNat := by
  by_contra notLow
  have low : c.toNat ≤ 0x20 := Nat.le_of_not_lt notLow
  have ascii : c.toNat < 0x80 := by omega
  have byte : (UInt8.ofNat c.toNat).toNat = c.toNat := by
    rw [UInt8.toNat_ofNat', Nat.mod_eq_of_lt (by omega)]
  have percent : UInt8.ofNat c.toNat ≠ 0x25 := by
    intro same
    have fixed : (0x25 : UInt8).toNat = 0x25 := rfl
    rw [same] at byte
    omega
  have digit : Hex.value? (Char.ofNat (UInt8.ofNat c.toNat).toNat) = none := by
    rw [byte, Char.ofNat_toNat]
    exact (low_plain low).1
  rw [name?, toList_toUTF8] at read
  split at read
  · cases read
  · rename_i decoded valid
    obtain ⟨made, isName⟩ := Option.filter_eq_some_iff.mp read
    obtain ⟨folded, fold, rfl⟩ := Option.map_eq_some_iff.mp made
    have kept := mem_percentDecode percent digit ((mem_utf8_iff ascii s).mpr member)
    rw [(fromUTF8?_eq_some_iff _ decoded).mp valid, mem_utf8_iff ascii] at kept
    have lower := toLower_mem_of_fold? fold ascii kept
    rw [(low_plain low).2] at lower
    have present := mem_compose (Nat.lt_of_le_of_lt low (by decide)) lower
    have forbidden : (Composition.compose folded).any isForbidden = true :=
      List.any_eq_true.mpr ⟨c, present, by simp [isForbidden, low]⟩
    simp [Host.isName, forbidden] at isName

/-- No host ends with a control or a blank. -/
theorem lt_of_isHost {s : List Char} (host : isHost s = true) {c : Char}
    (last : s.getLast? = some c) : 0x20 < c.toNat := by
  unfold isHost at host
  split at host
  · rename_i rest
    rw [Bool.and_eq_true, decide_eq_true_eq] at host
    have filled : rest ≠ [] := by
      rintro rfl
      cases host.1
    rw [List.getLast?_cons, host.1] at last
    cases last
    decide
  · obtain ⟨name, read⟩ := Option.isSome_iff_exists.mp host
    exact lt_of_name? read (List.mem_of_getLast? last)

theorem name?_of_plain {s : List Char} (plain : ∀ c ∈ s, c.toNat < 0x80 ∧ c ≠ '%' ∧ c.toLower = c) :
    name? s = if isName s then some s else none := by
  have percent : 0x25 ∉ utf8 s := by
    intro member
    have ascii : ('%' : Char).toNat < 0x80 := by decide
    have present := (mem_utf8_iff ascii s).mp member
    exact (plain '%' present).2.1 rfl
  have valid : String.fromUTF8? (ByteArray.mk (utf8 s).toArray) = some (String.ofList s) := by
    rw [fromUTF8?_eq_some_iff, String.toList_ofList]
  have fold := fold?_of_ascii fun c member => ⟨(plain c member).1, (plain c member).2.2⟩
  have composed : Composition.compose s = s :=
    Composition.compose_of_plain fun c member => Nat.lt_trans (plain c member).1 (by decide)
  rw [name?, toList_toUTF8, percentDecode_of_notMem percent, valid]
  simp only [String.toList_ofList, fold, Option.map_some, composed, Option.filter_some]

end Names

end TelemetrySender.Endpoint.Host
