import TelemetrySender.Distribution
import TelemetrySender.Metric
import TelemetrySender.Proofs.Escapes
import TelemetrySender.Proofs.Figures
import TelemetrySender.Span.Basic

/-!
Where the fields of a line end.  A name ends with the next quote and a number with the next character
that is no figure; a free text ends with the first quote that goes with what may follow it.  Fields
that may be repeated open with a mark of their own, so a row of them is told from what comes behind.
-/

set_option autoImplicit false
set_option relaxedAutoImplicit false

namespace TelemetrySender

namespace Text

def Ends (p : Char → Bool) (r : List Char) : Prop := ∀ c ∈ r.head?, p c = false

theorem ends_cons {p : Char → Bool} {c : Char} (other : p c = false) (r : List Char) :
    Ends p (c :: r) := by
  intro d member
  cases member
  exact other

theorem takeWhile_of_ends {p : Char → Bool} {a r : List Char} (inside : ∀ c ∈ a, p c = true)
    (ends : Ends p r) : (a ++ r).takeWhile p = a := by
  rw [List.takeWhile_append_of_pos inside]
  cases r with
  | nil => simp
  | cons c r => simp [ends c rfl]

theorem append_inj_of_ends {p : Char → Bool} {a b r s : List Char} (same : a ++ r = b ++ s)
    (insideA : ∀ c ∈ a, p c = true) (insideB : ∀ c ∈ b, p c = true) (endsA : Ends p r)
    (endsB : Ends p s) : a = b ∧ r = s := by
  have heads := congrArg (List.takeWhile p) same
  rw [takeWhile_of_ends insideA endsA, takeWhile_of_ends insideB endsB] at heads
  subst heads
  exact ⟨rfl, List.append_cancel_left same⟩

namespace Name

theorem isLegalFirst_of_mem_clean {s : List Char} {c : Char} (member : c ∈ clean s) :
    isLegalFirst c = true := by
  have legal {d : Char} (ok : isLegal d = true) : isLegalFirst d = true := by
    simp [isLegalFirst, ok]
  cases s with
  | nil => cases member
  | cons d s =>
    rcases List.mem_cons.mp member with rfl | later
    · split
      · assumption
      · decide
    · obtain ⟨e, -, rfl⟩ := List.mem_map.mp later
      split
      · exact legal ‹_›
      · decide

theorem notMem_clean {c : Char} (illegal : isLegalFirst c = false) (s : List Char) :
    c ∉ clean s := by
  intro member
  rw [isLegalFirst_of_mem_clean member] at illegal
  cases illegal

theorem quote_append_inj {s t r r' : List Char} (same : quote s ++ r = quote t ++ r') :
    quote s = quote t ∧ r = r' := by
  have inside (u : List Char) : ∀ c ∈ clean u, (c != '"') = true := by
    intro c member
    rw [bne_iff_ne]
    rintro rfl
    exact notMem_clean (by decide) u member
  simp only [quote, List.cons_append, List.append_assoc, List.nil_append, List.cons.injEq,
    true_and] at same
  obtain ⟨clean, rest⟩ := append_inj_of_ends same (inside s) (inside t) (ends_cons (by decide) r)
    (ends_cons (by decide) r')
  exact ⟨by rw [quote, quote, clean], (List.cons.inj rest).2⟩

theorem lineFeed_notMem_quote (s : List Char) : '\n' ∉ quote s := by
  simpa [quote] using notMem_clean (c := '\n') (by decide) s

end Name

namespace Quoted

/-- What may follow a free text among the tags of a line: another quoted text behind a blank, or no
quote at all. -/
def Closes (r : List Char) : Prop := '"' ∉ r ∨ ∃ more, r = ' ' :: '"' :: more

theorem encode_append (s r : List Char) :
    encode s ++ r = '"' :: (escape (Blank.trim s) ++ '"' :: r) := by
  simp [encode]

private theorem getLast?_trim (s : List Char) : (Blank.trim s).getLast? ≠ some ' ' := by
  intro last
  exact absurd (Blank.isWhiteSpace_of_getLast?_trim last) (by decide)

private theorem no_overhang {s t r r' excess : List Char} (closes : Closes r)
    (shape : escape (Blank.trim t) = escape (Blank.trim s) ++ '"' :: excess) :
    r ≠ excess ++ '"' :: r' := by
  intro same
  rcases closes with clear | ⟨more, rfl⟩
  · rw [same] at clear
    exact clear (List.mem_append_right excess List.mem_cons_self)
  -- Every quote of the excess is behind a backslash, and a text ends with no blank.
  · have blank : excess = [' '] ∧ r' = more :=
      eq_lead_of_shielded (isChain_excess shape) same.symm (by simp) ⟨' ', rfl, by decide⟩
    refine getLast?_escape (getLast?_trim t) ?_
    rw [shape, blank.1]
    simp

/-- A free text among the tags ends with the first quote that goes with what may follow. -/
theorem encode_append_inj {s t r r' : List Char} (closes : Closes r) (closes' : Closes r')
    (same : encode s ++ r = encode t ++ r') : encode s = encode t ∧ r = r' := by
  rw [encode_append, encode_append] at same
  obtain ⟨texts, rest⟩ := eq_of_no_overhang (List.cons.inj same).2
    (fun _ shape => no_overhang closes shape) (fun _ shape => no_overhang closes' shape)
  exact ⟨by rw [encode_inj, texts], rest⟩

theorem lineFeed_notMem_encode (s : List Char) : '\n' ∉ encode s := by
  simpa [encode] using lineFeed_notMem_escape (Blank.trim s)

end Quoted

end Text

open Text

namespace Line

def Unmarked (mark : Char → Bool) (r : List Char) : Prop := ∀ c ∈ r[1]?, mark c = false

/-- Fields of one sort, what they tell, the mark they open with behind a blank, and what must follow
for a field to show where it ends. -/
structure Delimited {α β : Type} (field : α → List Char) (tells : α → β) (mark : Char → Bool)
    (ok : List Char → Prop) : Prop where
  opens : ∀ a, ∃ c rest, field a = ' ' :: c :: rest ∧ mark c = true
  goesOn : ∀ a r, ok (field a ++ r)
  tell : ∀ {a b r s}, ok r → ok s → field a ++ r = field b ++ s → tells a = tells b ∧ r = s

namespace Delimited

variable {α β : Type} {field : α → List Char} {tells : α → β} {mark : Char → Bool}
  {ok : List Char → Prop}

theorem ok_flatMap (sort : Delimited field tells mark ok) {r : List Char} (okR : ok r)
    (fields : List α) : ok (fields.flatMap field ++ r) := by
  cases fields with
  | nil => exact okR
  | cons a rest =>
    rw [List.flatMap_cons, List.append_assoc]
    exact sort.goesOn a _

theorem unmarked_flatMap (sort : Delimited field tells mark ok) {other : Char → Bool}
    (apart : ∀ c, mark c = true → other c = false) {r : List Char} (unmarked : Unmarked other r)
    (fields : List α) : Unmarked other (fields.flatMap field ++ r) := by
  cases fields with
  | nil => exact unmarked
  | cons a rest =>
    obtain ⟨c, more, shape, marked⟩ := sort.opens a
    intro d member
    rw [List.flatMap_cons, shape] at member
    cases member
    exact apart c marked

private theorem field_append_ne (sort : Delimited field tells mark ok) {r : List Char}
    (unmarked : Unmarked mark r) (a : α) (s : List Char) : field a ++ s ≠ r := by
  rintro rfl
  obtain ⟨c, more, shape, marked⟩ := sort.opens a
  rw [shape] at unmarked
  rw [unmarked c rfl] at marked
  cases marked

/-- A row of fields of one sort is told from whatever does not open with their mark. -/
theorem flatMap_inj (sort : Delimited field tells mark ok) {r s : List Char} (okR : ok r)
    (okS : ok s) (endsR : Unmarked mark r) (endsS : Unmarked mark s) {as bs : List α}
    (same : as.flatMap field ++ r = bs.flatMap field ++ s) :
    as.map tells = bs.map tells ∧ r = s := by
  induction as generalizing bs with
  | nil =>
    cases bs with
    | nil => exact ⟨rfl, same⟩
    | cons b bs =>
      rw [List.flatMap_cons, List.append_assoc] at same
      exact absurd same.symm (sort.field_append_ne endsR b _)
  | cons a as ih =>
    rw [List.flatMap_cons, List.append_assoc] at same
    cases bs with
    | nil => exact absurd same (sort.field_append_ne endsS a _)
    | cons b bs =>
      rw [List.flatMap_cons, List.append_assoc] at same
      obtain ⟨first, rest⟩ := sort.tell (sort.ok_flatMap okR as) (sort.ok_flatMap okS bs) same
      obtain ⟨others, behind⟩ := ih rest
      exact ⟨by rw [List.map_cons, List.map_cons, first, others], behind⟩

end Delimited

def isNumeral (c : Char) : Bool := c == '-' || c.isDigit

theorem integerText_opens (i : Int) :
    ∃ c rest, Decimal.integerText i = c :: rest ∧ isNumeral c = true := by
  unfold Decimal.integerText
  split
  · exact ⟨'-', _, rfl, rfl⟩
  · cases digits : Nat.toDigits 10 i.natAbs with
    | nil => exact absurd digits Nat.toDigits_ne_nil
    | cons c rest =>
      have member : c ∈ Nat.toDigits 10 i.natAbs := digits ▸ List.mem_cons_self
      have digit := Nat.isDigit_of_mem_toDigits (by decide) (by decide) member
      exact ⟨c, rest, rfl, by simp [isNumeral, digit]⟩

theorem integerText_append_inj {i j : Int} {r s : List Char} (endsR : Ends isFigure r)
    (endsS : Ends isFigure s) (same : Decimal.integerText i ++ r = Decimal.integerText j ++ s) :
    i = j ∧ r = s := by
  obtain ⟨figures, rest⟩ := append_inj_of_ends same
    (fun _ => Decimal.isFigure_of_mem_integerText) (fun _ => Decimal.isFigure_of_mem_integerText)
    endsR endsS
  exact ⟨Decimal.integerText_inj figures, rest⟩

theorem valueText_append_inj {d e : Decimal.Double} {r s : List Char} (endsR : Ends isFigure r)
    (endsS : Ends isFigure s) (same : valueText d ++ r = valueText e ++ s) :
    valueText d = valueText e ∧ r = s :=
  append_inj_of_ends same (fun _ => Decimal.Double.isFigure_of_mem_text)
    (fun _ => Decimal.Double.isFigure_of_mem_text) endsR endsS

private theorem ends_blank (r : List Char) : Ends isFigure (' ' :: r) := ends_cons (by decide) r

def integerField (i : Int) : List Char := ' ' :: Decimal.integerText i

theorem timestampField_eq (t : Option Int) : timestampField t = t.toList.flatMap integerField := by
  cases t with
  | none => rfl
  | some t => exact (List.append_nil _).symm

theorem delimited_integers : Delimited integerField id isNumeral (Ends isFigure) where
  opens := by
    intro i
    obtain ⟨c, rest, shape, marked⟩ := integerText_opens i
    exact ⟨c, rest, by rw [integerField, shape], marked⟩
  goesOn := fun _ _ => ends_blank _
  tell := fun endsR endsS same => integerText_append_inj endsR endsS (List.cons.inj same).2

theorem delimited_centroids :
    Delimited Distribution.centroidField (fun c => (c.count, valueText c.value)) (· == '#')
      (Ends isFigure) where
  opens := fun _ => ⟨'#', _, rfl, rfl⟩
  goesOn := fun _ _ => ends_blank _
  tell := by
    intro c d r s endsR endsS same
    simp only [Distribution.centroidField, List.append_assoc, List.cons_append] at same
    have counts := List.append_cancel_left same
    rw [← Decimal.integerText_natCast, ← Decimal.integerText_natCast] at counts
    obtain ⟨count, rest⟩ := integerText_append_inj (ends_blank _) (ends_blank _) counts
    obtain ⟨value, behind⟩ := valueText_append_inj endsR endsS (List.cons.inj rest).2
    have sameCount : c.count = d.count := by omega
    exact ⟨by rw [sameCount, value], behind⟩

theorem delimited_identifiers (label : String) {c : Char} {more : List Char}
    (first : label.toList = c :: more) :
    Delimited (Span.uuidField label) id (· == c) (Ends isFigure) where
  opens := by
    intro u
    exact ⟨c, more ++ '=' :: u.text, by rw [Span.uuidField, first]; rfl, by simp⟩
  goesOn := by
    intro u r
    rw [Span.uuidField, List.cons_append, List.cons_append]
    exact ends_blank _
  tell := by
    intro u v r s endsR endsS same
    simp only [Span.uuidField, List.append_assoc, List.cons_append] at same
    have texts := (List.cons.inj (List.append_cancel_left (List.cons.inj same).2)).2
    obtain ⟨text, rest⟩ := append_inj_of_ends texts (fun _ => Uuid.isFigure_of_mem_text)
      (fun _ => Uuid.isFigure_of_mem_text) endsR endsS
    exact ⟨Uuid.text_inj text, rest⟩

def writtenTag (t : String × String) : List Char × List Char :=
  (Name.quote t.1.toList, Quoted.encode t.2.toList)

theorem delimited_tags : Delimited tagField writtenTag (· == '"') Quoted.Closes where
  opens := fun _ => ⟨'"', _, rfl, rfl⟩
  goesOn := fun _ _ => .inr ⟨_, rfl⟩
  tell := by
    intro t u r s closesR closesS same
    simp only [tagField, List.append_assoc, List.cons_append] at same
    obtain ⟨key, rest⟩ := Name.quote_append_inj (List.cons.inj same).2
    obtain ⟨value, behind⟩ := Quoted.encode_append_inj closesR closesS (List.cons.inj rest).2
    exact ⟨by rw [writtenTag, writtenTag, key, value], behind⟩

theorem sourceField_append (source : String) (r : List Char) :
    sourceField source ++ r = " source=".toList ++ (Name.quote source.toList ++ r) :=
  List.append_assoc _ _ _

theorem sourceField_append_inj {a b : String} {r s : List Char}
    (same : sourceField a ++ r = sourceField b ++ s) :
    Name.quote a.toList = Name.quote b.toList ∧ r = s := by
  have fields := (sourceField_append a r).symm.trans (same.trans (sourceField_append b s))
  have names : Name.quote a.toList ++ r = Name.quote b.toList ++ s :=
    List.append_cancel_left fields
  exact Name.quote_append_inj names

private theorem no_overhang_source {s t : List Char} {a b : String} {r r' excess : List Char}
    (shape : Quoted.escape (Blank.trim t) = Quoted.escape (Blank.trim s) ++ '"' :: excess) :
    sourceField a ++ r ≠ excess ++ '"' :: (sourceField b ++ r') := by
  intro same
  have source : sourceField a ++ r =
      " source=".toList ++ '"' :: (Name.clean a.toList ++ '"' :: r) := by
    rw [sourceField_append, Name.quote, List.cons_append, List.append_assoc]
    rfl
  have lead := Quoted.eq_lead_of_shielded (Quoted.isChain_excess shape) (same.symm.trans source)
    (by decide) ⟨'=', by decide, by decide⟩
  -- Behind the lead there would be a name on the one hand and a blank on the other.
  have clash : ' ' ∈ Name.clean a.toList := by
    have first := congrArg List.head? lead.2
    cases name : Name.clean a.toList with
    | nil =>
      rw [name] at first
      cases first
    | cons c rest =>
      rw [name] at first
      cases first
      exact List.mem_cons_self
  exact Name.notMem_clean (by decide) a.toList clash

theorem encode_append_inj_of_source {s t : List Char} {a b : String} {r r' : List Char}
    (same : Quoted.encode s ++ (sourceField a ++ r) = Quoted.encode t ++ (sourceField b ++ r')) :
    Quoted.encode s = Quoted.encode t ∧ sourceField a ++ r = sourceField b ++ r' := by
  rw [Quoted.encode_append, Quoted.encode_append] at same
  obtain ⟨texts, rest⟩ := Quoted.eq_of_no_overhang (List.cons.inj same).2
    (fun _ shape => no_overhang_source shape) (fun _ shape => no_overhang_source shape)
  exact ⟨by rw [Quoted.encode_inj, texts], rest⟩

section LineFeeds

theorem lineFeed_notMem_of_figures {s : List Char} (figures : ∀ c ∈ s, isFigure c = true) :
    '\n' ∉ s := by
  intro member
  exact absurd (figures _ member) (by decide)

theorem lineFeed_notMem_flatMap {α : Type} {field : α → List Char}
    (each : ∀ a, '\n' ∉ field a) (fields : List α) : '\n' ∉ fields.flatMap field := by
  intro member
  obtain ⟨a, -, inside⟩ := List.mem_flatMap.mp member
  exact each a inside

theorem lineFeed_notMem_integerField (i : Int) : '\n' ∉ integerField i := by
  have figures : '\n' ∉ Decimal.integerText i :=
    lineFeed_notMem_of_figures fun _ => Decimal.isFigure_of_mem_integerText
  simp [integerField, figures]

theorem lineFeed_notMem_timestampField (t : Option Int) : '\n' ∉ timestampField t := by
  rw [timestampField_eq]
  exact lineFeed_notMem_flatMap lineFeed_notMem_integerField _

theorem lineFeed_notMem_valueText (d : Decimal.Double) : '\n' ∉ valueText d :=
  lineFeed_notMem_of_figures fun _ => Decimal.Double.isFigure_of_mem_text

theorem lineFeed_notMem_centroidField (c : Centroid) : '\n' ∉ Distribution.centroidField c := by
  have count : '\n' ∉ Nat.toDigits 10 c.count :=
    lineFeed_notMem_of_figures fun _ => isFigure_of_mem_toDigits
  simp [Distribution.centroidField, count, lineFeed_notMem_valueText]

theorem lineFeed_notMem_sourceField (source : String) : '\n' ∉ sourceField source := by
  unfold sourceField
  rw [List.mem_append, not_or]
  exact ⟨by decide, Name.lineFeed_notMem_quote source.toList⟩

theorem lineFeed_notMem_uuidField {label : String} (plain : '\n' ∉ label.toList) (u : Uuid) :
    '\n' ∉ Span.uuidField label u := by
  have figures : '\n' ∉ u.text := lineFeed_notMem_of_figures fun _ => Uuid.isFigure_of_mem_text
  simp [Span.uuidField, plain, figures]

theorem lineFeed_notMem_tagFields (tags : List (String × String)) : '\n' ∉ tagFields tags := by
  refine lineFeed_notMem_flatMap (fun t => ?_) tags
  simp [tagField, Name.lineFeed_notMem_quote, Quoted.lineFeed_notMem_encode]

end LineFeeds

end Line

end TelemetrySender
