import TelemetrySender.Proofs.Fields

/-!
What lines of points and distributions tell.  A line gives away all that was written into it: two
lines are the same only if every one of their fields is, also with tags that look like the rest of
a line.
-/

set_option autoImplicit false
set_option relaxedAutoImplicit false

namespace TelemetrySender

open Text

namespace Text

/-- The lines of a text, each with the line feed that ends it. -/
def lines : List Char → List (List Char)
  | [] => []
  | c :: s =>
    if c = '\n' then [c] :: lines s
    else
      match lines s with
      | [] => [[c]]
      | l :: rest => (c :: l) :: rest

theorem lines_append {a : List Char} (clear : '\n' ∉ a) (s : List Char) :
    lines (a ++ '\n' :: s) = (a ++ ['\n']) :: lines s := by
  induction a with
  | nil => simp [lines]
  | cons c a ih =>
    rw [List.mem_cons, not_or] at clear
    rw [List.cons_append, lines, if_neg (Ne.symm clear.1), ih clear.2]
    rfl

private theorem lines_cons_ne_nil (c : Char) (s : List Char) : lines (c :: s) ≠ [] := by
  rw [lines]
  split
  · simp
  · cases lines s <;> simp

theorem lines_append_of_ended {a : List Char} (ended : a.getLast? = some '\n') (s : List Char) :
    lines (a ++ s) = lines a ++ lines s := by
  induction a with
  | nil => rfl
  | cons c a ih =>
    rw [List.cons_append, lines, lines]
    cases a with
    | nil =>
      obtain rfl : c = '\n' := Option.some.inj ended
      simp [lines]
    | cons d a =>
      rw [List.getLast?_cons_cons] at ended
      rw [ih ended]
      split
      · rfl
      · obtain ⟨l, rest, shape⟩ := List.exists_cons_of_ne_nil (lines_cons_ne_nil d a)
        rw [shape]
        rfl

def IsLine (l : List Char) : Prop := ∃ t, '\n' ∉ t ∧ l = t ++ ['\n']

theorem lines_flatMap {α : Type} {f : α → List Char} (single : ∀ a, IsLine (f a)) (l : List α) :
    lines (l.flatMap f) = l.map f := by
  induction l with
  | nil => rfl
  | cons a l ih =>
    obtain ⟨t, clear, shape⟩ := single a
    rw [List.flatMap_cons, List.map_cons, shape, List.append_assoc, List.singleton_append,
      lines_append clear, ih]

end Text

namespace Line

theorem ends_sourceField (source : String) (r : List Char) :
    Ends isFigure (sourceField source ++ r) := by
  rw [sourceField_append]
  exact ends_cons (by decide) _

theorem unmarked_sourceField (source : String) (r : List Char) :
    Unmarked isNumeral (sourceField source ++ r) := by
  rw [sourceField_append]
  intro c member
  have first : c = 's' := (Option.some.inj member).symm
  rw [first]
  decide

theorem sourceField_congr {a b : String} (same : Name.quote a.toList = Name.quote b.toList) :
    sourceField a = sourceField b := by
  unfold sourceField
  rw [same]

theorem tagFields_congr {tags tags' : List (String × String)}
    (same : tags.map writtenTag = tags'.map writtenTag) : tagFields tags = tagFields tags' := by
  have reads (tags : List (String × String)) : tagFields tags =
      (tags.map writtenTag).flatMap fun t => ' ' :: (t.1 ++ '=' :: t.2) := by
    rw [List.flatMap_map]
    rfl
  rw [reads, reads, same]

private theorem closes_end : Quoted.Closes ['\n'] := .inl (by decide)

private theorem unmarked_end : Unmarked (· == '"') ['\n'] := by
  intro c member
  cases member

theorem tagFields_inj {tags tags' : List (String × String)}
    (same : tagFields tags ++ ['\n'] = tagFields tags' ++ ['\n']) :
    tags.map writtenTag = tags'.map writtenTag :=
  (delimited_tags.flatMap_inj closes_end closes_end unmarked_end unmarked_end same).1

theorem timestampField_append_inj {t u : Option Int} {r s : List Char} (endsR : Ends isFigure r)
    (endsS : Ends isFigure s) (unmarkedR : Unmarked isNumeral r) (unmarkedS : Unmarked isNumeral s)
    (same : timestampField t ++ r = timestampField u ++ s) : t = u ∧ r = s := by
  rw [timestampField_eq, timestampField_eq] at same
  obtain ⟨all, rest⟩ := delimited_integers.flatMap_inj endsR endsS unmarkedR unmarkedS same
  rw [List.map_id, List.map_id] at all
  refine ⟨?_, rest⟩
  cases t <;> cases u <;> simp_all

theorem ends_timestampField {r : List Char} (ends : Ends isFigure r) (t : Option Int) :
    Ends isFigure (timestampField t ++ r) := by
  rw [timestampField_eq]
  exact delimited_integers.ok_flatMap ends _

theorem of_written {check : Except Invalid Unit} {text : List Char} {line : String}
    (written : (match check with | .error e => .error e | .ok () => .ok (String.ofList text)) =
      Except.ok line) : check = .ok () ∧ line.toList = text := by
  cases check with
  | error e => cases written
  | ok => exact ⟨rfl, by rw [← Except.ok.inj written, String.toList_ofList]⟩

end Line

namespace Metric

/-- What the line of a point tells. -/
structure Content where
  name : List Char
  value : List Char
  timestamp : Option Int
  source : List Char
  tags : List (List Char × List Char)

def content (m : Metric) (source : String) : Content where
  name := Name.quote m.name.toList
  value := Line.valueText m.value
  timestamp := m.timestamp
  source := Name.quote source.toList
  tags := m.tags.entries.map Line.writtenTag

/-- Lines of points are the same if and only if they tell the same. -/
theorem chars_inj (m m' : Metric) (source source' : String) :
    m.chars source = m'.chars source' ↔ m.content source = m'.content source' := by
  constructor
  · intro same
    simp only [chars, List.append_assoc, List.cons_append] at same
    obtain ⟨name, afterName⟩ := Name.quote_append_inj same
    obtain ⟨value, afterValue⟩ := Line.valueText_append_inj
      (Line.ends_timestampField (Line.ends_sourceField source _) m.timestamp)
      (Line.ends_timestampField (Line.ends_sourceField source' _) m'.timestamp)
      (List.cons.inj afterName).2
    obtain ⟨timestamp, afterTimestamp⟩ := Line.timestampField_append_inj
      (Line.ends_sourceField source _) (Line.ends_sourceField source' _)
      (Line.unmarked_sourceField source _) (Line.unmarked_sourceField source' _) afterValue
    obtain ⟨sources, afterSource⟩ := Line.sourceField_append_inj afterTimestamp
    have tags := Line.tagFields_inj afterSource
    rw [content, content, name, value, timestamp, sources, tags]
  · intro same
    obtain ⟨name, value, timestamp, sources, tags⟩ := Content.mk.inj same
    rw [chars, chars, name, value, timestamp, Line.sourceField_congr sources,
      Line.tagFields_congr tags]

theorem toList_of_encode {m : Metric} {fallback line : String} (ok : m.encode fallback = .ok line) :
    line.toList = m.chars (resolveSource m.source fallback) :=
  (Line.of_written ok).2

end Metric

theorem Granularity.mem_all (g : Granularity) : g ∈ Granularity.all := by
  cases g <;> decide

namespace Distribution

/-- What every line of the record of a distribution tells. -/
structure Content where
  name : List Char
  centroids : List (Nat × List Char)
  timestamp : Option Int
  source : List Char
  tags : List (List Char × List Char)

def content (d : Distribution) (source : String) : Content where
  name := Name.quote d.name.toList
  centroids := d.centroids.map fun c => (c.count, Line.valueText c.value)
  timestamp := d.timestamp
  source := Name.quote source.toList
  tags := d.tags.entries.map Line.writtenTag

private theorem unmarked_name {mark : Char → Bool} (other : mark '"' = false) (s r : List Char) :
    Line.Unmarked mark (' ' :: (Name.quote s ++ r)) := by
  intro c member
  have first : c = '"' := (Option.some.inj member).symm
  rwa [first]

private theorem ends_name (s r : List Char) : Ends isFigure (' ' :: (Name.quote s ++ r)) :=
  ends_cons (by decide) _

theorem body_inj (d d' : Distribution) (source source' : String) :
    d.body source = d'.body source' ↔ d.content source = d'.content source' := by
  constructor
  · intro same
    simp only [body, List.append_assoc, List.cons_append] at same
    have sharp : ∀ c, (c == '#') = true → Line.isNumeral c = false := by
      intro c isSharp
      rw [beq_iff_eq.mp isSharp]
      decide
    obtain ⟨timestamp, afterTimestamp⟩ := Line.timestampField_append_inj
      (Line.delimited_centroids.ok_flatMap (ends_name _ _) _)
      (Line.delimited_centroids.ok_flatMap (ends_name _ _) _)
      (Line.delimited_centroids.unmarked_flatMap sharp (unmarked_name (by decide) _ _) _)
      (Line.delimited_centroids.unmarked_flatMap sharp (unmarked_name (by decide) _ _) _) same
    obtain ⟨centroids, afterCentroids⟩ := Line.delimited_centroids.flatMap_inj
      (ends_name _ _) (ends_name _ _) (unmarked_name (by decide) _ _)
      (unmarked_name (by decide) _ _) afterTimestamp
    obtain ⟨name, afterName⟩ := Name.quote_append_inj (List.cons.inj afterCentroids).2
    obtain ⟨sources, afterSource⟩ := Line.sourceField_append_inj afterName
    have tags := Line.tagFields_inj afterSource
    rw [content, content, name, centroids, timestamp, sources, tags]
  · intro same
    obtain ⟨name, centroids, timestamp, sources, tags⟩ := Content.mk.inj same
    have reads (d : Distribution) : d.centroids.flatMap centroidField =
        (d.centroids.map fun c => (c.count, Line.valueText c.value)).flatMap
          fun c => " #".toList ++ Nat.toDigits 10 c.1 ++ ' ' :: c.2 := by
      rw [List.flatMap_map]
      rfl
    rw [body, body, reads, reads, name, centroids, timestamp, Line.sourceField_congr sources,
      Line.tagFields_congr tags]

theorem requested_inj (d d' : Distribution) :
    d.requested = d'.requested ↔ ∀ g, g ∈ d.granularities ↔ g ∈ d'.granularities := by
  constructor
  · intro same g
    have inside := congrArg (g ∈ ·) same
    simpa [requested, Granularity.mem_all] using inside
  · intro same
    exact List.filter_congr fun g _ => by simp [same g]

theorem isLine_body (d : Distribution) (source : String) (g : Granularity) :
    IsLine (g.marker.toList ++ d.body source) := by
  have marker : '\n' ∉ g.marker.toList := by
    cases g <;> decide
  refine ⟨g.marker.toList ++ (Line.timestampField d.timestamp ++
    d.centroids.flatMap centroidField ++ ' ' :: Name.quote d.name.toList ++
    Line.sourceField source ++ Line.tagFields d.tags.entries), ?_, ?_⟩
  · simp [marker, Line.lineFeed_notMem_timestampField, Line.lineFeed_notMem_centroidField,
      Name.lineFeed_notMem_quote, Line.lineFeed_notMem_sourceField, Line.lineFeed_notMem_tagFields]
  · simp only [body, List.append_assoc]

theorem lines_chars (d : Distribution) (source : String) :
    lines (d.chars source) = d.requested.map fun g => g.marker.toList ++ d.body source :=
  lines_flatMap (d.isLine_body source) d.requested

private theorem marker_append_inj {g h : Granularity} {r s : List Char}
    (same : g.marker.toList ++ r = h.marker.toList ++ s) : g = h ∧ r = s := by
  cases g <;> cases h <;> simp_all [Granularity.marker]

private theorem map_marker_inj {gs hs : List Granularity} {r s : List Char} (asked : gs ≠ [])
    (same : (gs.map fun g => g.marker.toList ++ r) = hs.map fun g => g.marker.toList ++ s) :
    gs = hs ∧ r = s := by
  have bodies : r = s := by
    cases gs with
    | nil => exact absurd rfl asked
    | cons g gs =>
      cases hs with
      | nil => cases same
      | cons h hs => exact (marker_append_inj (List.cons.inj same).1).2
  subst bodies
  have apart : Function.Injective fun g : Granularity => g.marker.toList ++ r :=
    fun _ _ alike => (marker_append_inj alike).1
  exact ⟨apart.list_map same, rfl⟩

theorem requested_ne_nil {d : Distribution} (asked : d.granularities ≠ []) : d.requested ≠ [] := by
  obtain ⟨g, rest, shape⟩ := List.exists_cons_of_ne_nil asked
  have inside : g ∈ d.requested := by
    rw [requested, List.mem_filter, shape]
    exact ⟨Granularity.mem_all g, by simp⟩
  exact List.ne_nil_of_mem inside

/-- Records of distributions are the same if and only if they tell the same for the same
granularities. -/
theorem chars_inj {d d' : Distribution} (asked : d.granularities ≠ []) (source source' : String) :
    d.chars source = d'.chars source' ↔
      d.content source = d'.content source' ∧ ∀ g, g ∈ d.granularities ↔ g ∈ d'.granularities := by
  rw [← body_inj, ← requested_inj]
  constructor
  · intro same
    have alike := congrArg lines same
    rw [lines_chars, lines_chars] at alike
    obtain ⟨requested, body⟩ := map_marker_inj (requested_ne_nil asked) alike
    exact ⟨body, requested⟩
  · intro ⟨body, requested⟩
    rw [chars, chars, body, requested]

theorem toList_of_encode {d : Distribution} {fallback record : String}
    (ok : d.encode fallback = .ok record) :
    record.toList = d.chars (resolveSource d.source fallback) :=
  (Line.of_written ok).2

theorem granularities_of_encode {d : Distribution} {fallback record : String}
    (ok : d.encode fallback = .ok record) : d.granularities ≠ [] := by
  have lists : d.checkLists = .ok () :=
    ((Line.check_eq_ok_iff _ _ _ _).mp (Line.of_written ok).1).2.2.1
  intro nothing
  rw [checkLists, nothing, List.isEmpty_nil, if_pos rfl] at lists
  split at lists <;> cases lists

end Distribution

/-- Accepted points have the same line if and only if they tell the same; accepted distributions have
the same record if and only if they tell the same for the same granularities, and their record has
one line for each granularity asked for, in a fixed order and all equal behind their markers. -/
theorem points_distributions_unambiguous :
    (∀ (m m' : Metric) (fallback fallback' line line' : String),
      m.encode fallback = .ok line → m'.encode fallback' = .ok line' →
      (line = line' ↔ m.content (resolveSource m.source fallback) =
        m'.content (resolveSource m'.source fallback'))) ∧
    (∀ (d d' : Distribution) (fallback fallback' record record' : String),
      d.encode fallback = .ok record → d'.encode fallback' = .ok record' →
      (record = record' ↔ d.content (resolveSource d.source fallback) =
          d'.content (resolveSource d'.source fallback') ∧
        ∀ g, g ∈ d.granularities ↔ g ∈ d'.granularities)) ∧
    ∀ (d : Distribution) (fallback record : String), d.encode fallback = .ok record →
      ∃ rest, lines record.toList =
        (Granularity.all.filter (· ∈ d.granularities)).map fun g => g.marker.toList ++ rest := by
  refine ⟨?_, ?_, ?_⟩
  · intro m m' fallback fallback' line line' ok ok'
    rw [← Metric.chars_inj, ← Metric.toList_of_encode ok, ← Metric.toList_of_encode ok',
      String.toList_inj]
  · intro d d' fallback fallback' record record' ok ok'
    rw [← Distribution.chars_inj (Distribution.granularities_of_encode ok),
      ← Distribution.toList_of_encode ok, ← Distribution.toList_of_encode ok', String.toList_inj]
  · intro d fallback record ok
    refine ⟨d.body (resolveSource d.source fallback), ?_⟩
    rw [Distribution.toList_of_encode ok, Distribution.lines_chars, Distribution.requested]

/-- A point with a tag value that looks like the end of a value and one more tag. -/
def Metric.mimic : Metric :=
  ⟨"cpu", ⟨0⟩, none, some "h", ⟨[("k", "v\\\" \"b\"=\"c")], by decide⟩⟩

def Metric.mimicked : Metric := ⟨"cpu", ⟨0⟩, none, none, ⟨[("k", "v"), ("b", "c")], by decide⟩⟩

def Distribution.latency (asked : List Granularity) : Distribution :=
  ⟨"latency", [⟨⟨0⟩, 3⟩, ⟨⟨0⟩, 3⟩], asked, some 7, none, ⟨[("k", "v")], by decide⟩⟩

theorem points_distributions_told :
    ∃ line line' record record' : String,
      Metric.mimic.encode "h" = .ok line ∧ Metric.mimicked.encode "h" = .ok line' ∧ line ≠ line' ∧
      (Distribution.latency [.day, .minute, .day]).encode "h" = .ok record ∧
      (Distribution.latency [.minute, .day]).encode "h" = .ok record' ∧ record = record' ∧
      ∃ rest, lines record.toList = ["!M".toList ++ rest, "!D".toList ++ rest] := by
  obtain ⟨point, record, shape⟩ := points_distributions_unambiguous
  have mimic : Metric.mimic.encode "h" = .ok _ := rfl
  have mimicked : Metric.mimicked.encode "h" = .ok _ := rfl
  have repeated : (Distribution.latency [.day, .minute, .day]).encode "h" = .ok _ := rfl
  have plain : (Distribution.latency [.minute, .day]).encode "h" = .ok _ := rfl
  have asked (g : Granularity) :
      g ∈ [Granularity.day, .minute, .day] ↔ g ∈ [Granularity.minute, .day] := by
    cases g <;> decide
  refine ⟨_, _, _, _, mimic, mimicked, ?_, repeated, plain, ?_, shape _ _ _ repeated⟩
  · intro same
    have tags := congrArg Metric.Content.tags ((point _ _ _ _ _ _ mimic mimicked).mp same)
    revert tags
    decide
  · exact (record _ _ _ _ _ _ repeated plain).mpr ⟨rfl, asked⟩

end TelemetrySender
