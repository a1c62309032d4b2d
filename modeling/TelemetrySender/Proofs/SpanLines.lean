import TelemetrySender.Proofs.Lines

/-!
What lines of spans tell.  A span begins with a free text, which ends where a source begins; its rows
of identifiers are told apart by their labels, and its times from the tags in front of them, since
no time holds a quote.
-/

set_option autoImplicit false
set_option relaxedAutoImplicit false

namespace TelemetrySender

open Text

namespace Span

/-- What the line of a span tells. -/
structure Content where
  name : List Char
  source : List Char
  traceId : Uuid
  spanId : Uuid
  parents : List Uuid
  followsFrom : List Uuid
  tags : List (List Char × List Char)
  startMillis : Int
  durationMillis : Int

def content (s : Span) (source : String) : Content where
  name := Quoted.encode s.name.toList
  source := Name.quote source.toList
  traceId := s.traceId
  spanId := s.spanId
  parents := s.parents
  followsFrom := s.followsFrom
  tags := (s.tags ++ if s.logs = [] then [] else [(logMarkerKey, "true")]).map Line.writtenTag
  startMillis := s.startMillis
  durationMillis := s.durationMillis

theorem writtenTags_eq (s : Span) :
    s.writtenTags = s.tags ++ if s.logs = [] then [] else [(logMarkerKey, "true")] := by
  unfold writtenTags
  cases s.logs <;> simp

def times (s : Span) : List Char :=
  Line.integerField s.startMillis ++ (Line.integerField s.durationMillis ++ ['\n'])

private theorem closes_times (s : Span) : Quoted.Closes s.times := by
  have quoteless (i : Int) : '"' ∉ Decimal.integerText i := by
    intro member
    exact absurd (Decimal.isFigure_of_mem_integerText member) (by decide)
  left
  simp [times, Line.integerField, quoteless]

private theorem unmarked_times {mark : Char → Bool}
    (apart : ∀ c, Line.isNumeral c = true → mark c = false) (s : Span) :
    Line.Unmarked mark s.times := by
  obtain ⟨c, rest, shape, numeral⟩ := Line.integerText_opens s.startMillis
  intro d member
  rw [times, Line.integerField, shape] at member
  cases member
  exact apart c numeral

private theorem unmarked_tags {mark : Char → Bool} (quote : mark '"' = false)
    (apart : ∀ c, Line.isNumeral c = true → mark c = false) (s : Span) :
    Line.Unmarked mark (Line.tagFields s.writtenTags ++ s.times) := by
  have quoted : ∀ c, (c == '"') = true → mark c = false := by
    intro c isQuote
    rwa [beq_iff_eq.mp isQuote]
  exact Line.delimited_tags.unmarked_flatMap quoted (unmarked_times apart s) _

private theorem numeral_ne_letter (letter : Char) (plain : Line.isNumeral letter = false) :
    ∀ c, Line.isNumeral c = true → (c == letter) = false := by
  intro c numeral
  rw [beq_eq_false_iff_ne]
  rintro rfl
  rw [numeral] at plain
  cases plain

private theorem times_inj {s s' : Span} (same : s.times = s'.times) :
    s.startMillis = s'.startMillis ∧ s.durationMillis = s'.durationMillis := by
  have ends (r : List Char) (i : Int) : Ends isFigure (Line.integerField i ++ r) :=
    ends_cons (by decide) _
  have ended : Ends isFigure ['\n'] := ends_cons (by decide) _
  obtain ⟨start, rest⟩ := Line.delimited_integers.tell (ends _ _) (ends _ _) same
  obtain ⟨duration, -⟩ := Line.delimited_integers.tell ended ended rest
  exact ⟨start, duration⟩

private def relations (s : Span) : List Char :=
  s.parents.flatMap (uuidField "parent") ++ (s.followsFrom.flatMap (uuidField "followsFrom") ++
    (Line.tagFields s.writtenTags ++ s.times))

private theorem parentFields :
    Line.Delimited (uuidField "parent") id (· == 'p') (Ends isFigure) :=
  Line.delimited_identifiers "parent" rfl

private theorem followerFields :
    Line.Delimited (uuidField "followsFrom") id (· == 'f') (Ends isFigure) :=
  Line.delimited_identifiers "followsFrom" rfl

private theorem ends_tags (s : Span) : Ends isFigure (Line.tagFields s.writtenTags ++ s.times) := by
  cases s.writtenTags with
  | nil => exact ends_cons (by decide) _
  | cons t tags => exact ends_cons (by decide) _

private theorem ends_followers (s : Span) :
    Ends isFigure (s.followsFrom.flatMap (uuidField "followsFrom") ++
      (Line.tagFields s.writtenTags ++ s.times)) :=
  followerFields.ok_flatMap (ends_tags s) _

private theorem relations_inj {s s' : Span} (same : s.relations = s'.relations) :
    s.parents = s'.parents ∧ s.followsFrom = s'.followsFrom ∧
      s.writtenTags.map Line.writtenTag = s'.writtenTags.map Line.writtenTag ∧
      s.startMillis = s'.startMillis ∧ s.durationMillis = s'.durationMillis := by
  -- No row is taken for the one before it, since each sort of field has a mark of its own.
  have notP := numeral_ne_letter 'p' (by decide)
  have notF := numeral_ne_letter 'f' (by decide)
  have notQuote := numeral_ne_letter '"' (by decide)
  have other : ∀ c, (c == 'f') = true → (c == 'p') = false := by
    intro c isF
    rw [beq_iff_eq.mp isF]
    decide
  have noParent (s : Span) := followerFields.unmarked_flatMap other
    (unmarked_tags (by decide) notP s) s.followsFrom
  have noFollower (s : Span) := unmarked_tags (by decide) notF s
  obtain ⟨parents, afterParents⟩ := parentFields.flatMap_inj (ends_followers s) (ends_followers s')
    (noParent s) (noParent s') same
  obtain ⟨followers, afterFollowers⟩ := followerFields.flatMap_inj (ends_tags s) (ends_tags s')
    (noFollower s) (noFollower s') afterParents
  obtain ⟨tags, afterTags⟩ := Line.delimited_tags.flatMap_inj (closes_times s) (closes_times s')
    (unmarked_times notQuote s) (unmarked_times notQuote s') afterFollowers
  rw [List.map_id, List.map_id] at parents followers
  exact ⟨parents, followers, tags, times_inj afterTags⟩

private theorem chars_eq (s : Span) (source : String) :
    s.chars source = Quoted.encode s.name.toList ++ (Line.sourceField source ++
      (uuidField "traceId" s.traceId ++ (uuidField "spanId" s.spanId ++ s.relations))) := by
  simp only [chars, relations, times, Line.integerField, List.append_assoc, List.cons_append]

theorem chars_inj (s s' : Span) (source source' : String) :
    s.chars source = s'.chars source' ↔ s.content source = s'.content source' := by
  constructor
  · intro same
    rw [chars_eq, chars_eq] at same
    have spanFields := Line.delimited_identifiers "spanId" (c := 's') rfl
    have ends (s : Span) : Ends isFigure s.relations := parentFields.ok_flatMap (ends_followers s) _
    obtain ⟨name, afterName⟩ := Line.encode_append_inj_of_source same
    obtain ⟨sources, afterSource⟩ := Line.sourceField_append_inj afterName
    obtain ⟨traceId, afterTrace⟩ := (Line.delimited_identifiers "traceId" (c := 't') rfl).tell
      (spanFields.goesOn _ _) (spanFields.goesOn _ _) afterSource
    obtain ⟨spanId, afterSpan⟩ := spanFields.tell (ends s) (ends s') afterTrace
    obtain ⟨parents, followers, tags, start, duration⟩ := relations_inj afterSpan
    rw [writtenTags_eq, writtenTags_eq] at tags
    simp only [content, Content.mk.injEq]
    exact ⟨name, sources, traceId, spanId, parents, followers, tags, start, duration⟩
  · intro same
    simp only [content, Content.mk.injEq] at same
    obtain ⟨name, sources, traceId, spanId, parents, followsFrom, tags, start, duration⟩ := same
    rw [← writtenTags_eq, ← writtenTags_eq] at tags
    rw [chars_eq, chars_eq, relations, relations, times, times, name, Line.sourceField_congr sources,
      traceId, spanId, parents, followsFrom, Line.tagFields_congr tags, start, duration]

theorem toList_of_encode {s : Span} {fallback line : String} (ok : s.encode fallback = .ok line) :
    line.toList = s.chars (resolveSource s.source fallback) :=
  (Line.of_written ok).2

end Span

/-- Accepted spans have the same line if and only if they tell the same. -/
theorem spans_unambiguous (s s' : Span) (fallback fallback' line line' : String)
    (ok : s.encode fallback = .ok line) (ok' : s'.encode fallback' = .ok line') :
    line = line' ↔ s.content (resolveSource s.source fallback) =
      s'.content (resolveSource s'.source fallback') := by
  rw [← Span.chars_inj, ← Span.toList_of_encode ok, ← Span.toList_of_encode ok', String.toList_inj]

/-- A span with a name that looks like the end of a name and a source. -/
def Span.mimic : Span :=
  ⟨"a\" source=\"h", -1, 5, none, ⟨1⟩, ⟨2⟩, [⟨3⟩], [⟨3⟩], [("k", "v\" 7 5")], []⟩

def Span.mimicked : Span :=
  ⟨"a", -1, 5, some "h", ⟨1⟩, ⟨2⟩, [⟨3⟩, ⟨3⟩], [], [("k", "v")], [⟨0, .empty⟩]⟩

theorem spans_told :
    ∃ line line' : String, Span.mimic.encode "h" = .ok line ∧
      Span.mimicked.encode "h" = .ok line' ∧ line ≠ line' := by
  have mimic : Span.mimic.encode "h" = .ok _ := rfl
  have mimicked : Span.mimicked.encode "h" = .ok _ := rfl
  refine ⟨_, _, mimic, mimicked, ?_⟩
  intro same
  have told := (spans_unambiguous _ _ _ _ _ _ mimic mimicked).mp same
  have names := congrArg Span.Content.name told
  revert names
  decide

end TelemetrySender
