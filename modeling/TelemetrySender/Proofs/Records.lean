import Mathlib.Data.List.Dedup
import TelemetrySender.Proofs.Lines
import TelemetrySender.Proofs.SpanLines
import TelemetrySender.Sender.Run

/-!
What records are made of.  Whatever a caller puts into an entity, its record is made up of whole
lines: a line feed ends it, and there is no other in the record of a point, of a span or of the
logs of a span, while a distribution has one line for each granularity asked for.
-/

set_option autoImplicit false
set_option relaxedAutoImplicit false

namespace TelemetrySender

open Text

namespace Json

theorem le_of_isFigure {c : Char} (figure : isFigure c = true) : 0x20 ≤ c.toNat := by
  by_contra below
  have control : ∀ n, n < 0x20 → isFigure (Char.ofNat n) = false := by decide
  have other := control c.toNat (Nat.not_le.mp below)
  rw [Char.ofNat_toNat, figure] at other
  cases other

theorem le_of_mem_escapeChar {c d : Char} (member : d ∈ escapeChar c) : 0x20 ≤ d.toNat := by
  have short {e : Char} (letter : 0x20 ≤ e.toNat) (inside : d ∈ ['\\', e]) : 0x20 ≤ d.toNat := by
    rcases List.mem_cons.mp inside with rfl | rest
    · decide
    · rwa [List.mem_singleton.mp rest]
  unfold escapeChar at member
  split_ifs at member with quote backslash backspace formFeed lineFeed carriage tab control
  iterate 7 exact short (by decide) member
  · rcases List.mem_append.mp member with mark | digit
    · exact short (by decide) mark
    · exact le_of_isFigure (by simp [isFigure, Hex.isAlphanum_of_mem_digits digit])
  · rw [List.mem_singleton.mp member]
    exact Nat.not_lt.mp control

theorem le_of_mem_quote {s : String} {c : Char} (member : c ∈ quote s) : 0x20 ≤ c.toNat := by
  rw [quote, List.mem_cons, List.mem_append, List.mem_singleton] at member
  rcases member with rfl | inside | rfl
  · decide
  · obtain ⟨d, -, written⟩ := List.mem_flatMap.mp inside
    exact le_of_mem_escapeChar written
  · decide

mutual

theorem le_of_mem_render {c : Char} : (j : Json) → c ∈ j.render → 0x20 ≤ c.toNat
  | null, member => by
    rw [render] at member
    have word : "null".toList = ['n', 'u', 'l', 'l'] := rfl
    have letters : ∀ d ∈ ['n', 'u', 'l', 'l'], 0x20 ≤ d.toNat := by simp
    exact letters c (word ▸ member)
  | integer n, member => by
    rw [render] at member
    exact le_of_isFigure (Decimal.isFigure_of_mem_integerText member)
  | text s, member => by
    rw [render] at member
    exact le_of_mem_quote member
  | array items, member => by
    rw [render, List.mem_cons, List.mem_append, List.mem_singleton] at member
    rcases member with rfl | inside | rfl
    · decide
    · exact le_of_mem_renderItems items inside
    · decide
  | object members, member => by
    rw [render, List.mem_cons, List.mem_append, List.mem_singleton] at member
    rcases member with rfl | inside | rfl
    · decide
    · exact le_of_mem_renderMembers members inside
    · decide

theorem le_of_mem_renderItems {c : Char} :
    (items : List Json) → c ∈ renderItems items → 0x20 ≤ c.toNat
  | [], member => by
    rw [renderItems] at member
    cases member
  | [j], member => by
    rw [renderItems] at member
    exact le_of_mem_render j member
  | j :: k :: rest, member => by
    rw [renderItems, List.mem_append, List.mem_cons] at member
    rcases member with first | rfl | later
    · exact le_of_mem_render j first
    · decide
    · exact le_of_mem_renderItems (k :: rest) later

theorem le_of_mem_renderMembers {c : Char} :
    (members : List (String × Json)) → c ∈ renderMembers members → 0x20 ≤ c.toNat
  | [], member => by
    rw [renderMembers] at member
    cases member
  | [(key, j)], member => by
    rw [renderMembers, List.mem_append, List.mem_cons] at member
    rcases member with first | rfl | later
    · exact le_of_mem_quote first
    · decide
    · exact le_of_mem_render j later
  | (key, j) :: m :: rest, member => by
    simp only [renderMembers, List.mem_append, List.mem_cons] at member
    rcases member with (first | rfl | second) | rfl | later
    · exact le_of_mem_quote first
    · decide
    · exact le_of_mem_render j second
    · decide
    · exact le_of_mem_renderMembers (m :: rest) later

end

end Json

namespace Metric

theorem isLine_chars (m : Metric) (source : String) : IsLine (m.chars source) := by
  refine ⟨Name.quote m.name.toList ++ ' ' :: Line.valueText m.value ++
    Line.timestampField m.timestamp ++ Line.sourceField source ++ Line.tagFields m.tags.entries,
    ?_, rfl⟩
  simp [Name.lineFeed_notMem_quote, Line.lineFeed_notMem_valueText,
    Line.lineFeed_notMem_timestampField, Line.lineFeed_notMem_sourceField,
    Line.lineFeed_notMem_tagFields]

end Metric

namespace Span

theorem isLine_chars (s : Span) (source : String) : IsLine (s.chars source) := by
  have identifier {label : String} (plain : '\n' ∉ label.toList) (ids : List Uuid) :
      '\n' ∉ ids.flatMap (uuidField label) :=
    Line.lineFeed_notMem_flatMap (Line.lineFeed_notMem_uuidField plain) ids
  refine ⟨Quoted.encode s.name.toList ++ Line.sourceField source ++
    uuidField "traceId" s.traceId ++ uuidField "spanId" s.spanId ++
    s.parents.flatMap (uuidField "parent") ++ s.followsFrom.flatMap (uuidField "followsFrom") ++
    Line.tagFields s.writtenTags ++ Line.integerField s.startMillis ++
    Line.integerField s.durationMillis, ?_, rfl⟩
  simp only [List.mem_append, not_or]
  exact ⟨⟨⟨⟨⟨⟨⟨⟨Quoted.lineFeed_notMem_encode _, Line.lineFeed_notMem_sourceField source⟩,
    Line.lineFeed_notMem_uuidField (by decide) _⟩, Line.lineFeed_notMem_uuidField (by decide) _⟩,
    identifier (by decide) _⟩, identifier (by decide) _⟩, Line.lineFeed_notMem_tagFields _⟩,
    Line.lineFeed_notMem_integerField _⟩, Line.lineFeed_notMem_integerField _⟩

end Span

theorem SpanLogRecord.isLine_encode (r : SpanLogRecord) : IsLine r.encode.toList := by
  refine ⟨r.json.render, ?_, String.toList_ofList⟩
  intro member
  exact absurd (Json.le_of_mem_render r.json member) (by decide)

/-- A record is made up of lines, of so many if that is known. -/
structure Framed (known : Option Nat) (record : String) : Prop where
  nonempty : record ≠ ""
  ended : record.toList.getLast? = some '\n'
  feeds : ∀ n ∈ known, record.toList.count '\n' = n

namespace Framed

theorem nonempty_of_ended {record : String} (ended : record.toList.getLast? = some '\n') :
    record ≠ "" := by
  rintro rfl
  cases ended

private theorem count_flatten {ls : List (List Char)} (each : ∀ l ∈ ls, IsLine l) :
    ls.flatten.count '\n' = ls.length := by
  induction ls with
  | nil => rfl
  | cons l ls ih =>
    rw [List.forall_mem_cons] at each
    obtain ⟨⟨t, clear, rfl⟩, others⟩ := each
    rw [List.flatten_cons, List.count_append, ih others, List.count_append,
      List.count_eq_zero.mpr clear, List.count_singleton_self, List.length_cons]
    omega

theorem ofLines {record : String} {ls : List (List Char)} (filled : ls ≠ [])
    (each : ∀ l ∈ ls, IsLine l) (shape : record.toList = ls.flatten) :
    Framed (some ls.length) record := by
  have ended : record.toList.getLast? = some '\n' := by
    obtain ⟨front, last, rfl⟩ := (List.eq_nil_or_concat' ls).resolve_left filled
    obtain ⟨t, -, rfl⟩ := each last (List.mem_append_right front List.mem_cons_self)
    rw [shape, List.flatten_append]
    simp
  refine ⟨nonempty_of_ended ended, ended, ?_⟩
  intro n known
  obtain rfl := Option.mem_some_iff.mp known
  rw [shape, count_flatten each]

theorem ofLine {record : String} (line : IsLine record.toList) : Framed (some 1) record := by
  have single : record.toList = [record.toList].flatten := List.flatten_singleton.symm
  exact ofLines (List.cons_ne_nil _ _) (by simpa using line) single

theorem ofEnded {record : String} (ended : record.toList.getLast? = some '\n') :
    Framed none record :=
  ⟨nonempty_of_ended ended, ended, by simp⟩

end Framed

theorem Distribution.length_requested (d : Distribution) :
    d.requested.length = d.granularities.dedup.length := by
  have once : d.requested.Nodup := (by decide : Granularity.all.Nodup).filter _
  have same : d.requested.Perm d.granularities.dedup := by
    refine (List.perm_ext_iff_of_nodup once d.granularities.nodup_dedup).mpr fun g => ?_
    simp [requested, Granularity.mem_all]
  exact same.length_eq

namespace Call

/-- The records that a call makes under a kind. -/
inductive Makes (defaultSource : String) : Call → Kind → String → Prop
  | metric {m : Metric} {record : String} :
      m.encode defaultSource = .ok record → Makes defaultSource (.metric m) .points record
  | formatted {point record : String} :
      Sender.formattedRecord point = .ok record →
        Makes defaultSource (.formatted point) .points record
  | distribution {d : Distribution} {record : String} :
      d.encode defaultSource = .ok record → Makes defaultSource (.distribution d) .histograms record
  | span {x : Span} {record : String} :
      x.encode defaultSource = .ok record → Makes defaultSource (.span x) .spans record
  | logs {x : Span} {record : String} :
      x.encode defaultSource = .ok record → x.logs.isEmpty = false →
        Makes defaultSource (.span x) .spanLogs
          (SpanLogRecord.encode ⟨x.traceId, x.spanId, x.logs, some record⟩)

/-- How many lines a record of a call has; points that are formatted already may have any number. -/
def lineCount? : Call → Option Nat
  | .metric _ => some 1
  | .distribution d => some d.granularities.dedup.length
  | .span _ => some 1
  | _ => none

theorem Makes.framed {defaultSource record : String} {call : Call} {k : Kind}
    (made : Makes defaultSource call k record) : Framed call.lineCount? record := by
  cases made with
  | metric ok =>
    refine .ofLine ?_
    rw [Metric.toList_of_encode ok]
    exact Metric.isLine_chars _ _
  | formatted ok =>
    refine .ofEnded ?_
    unfold Sender.formattedRecord at ok
    split_ifs at ok with blank fed
    · rw [← Except.ok.inj ok, fed]
    · rw [← Except.ok.inj ok, String.toList_push, List.getLast?_concat]
  | @distribution d record ok =>
    have lines : ∀ l ∈ d.requested.map fun g =>
        g.marker.toList ++ d.body (resolveSource d.source defaultSource), IsLine l := by
      intro l member
      obtain ⟨g, -, rfl⟩ := List.mem_map.mp member
      exact d.isLine_body _ g
    have filled := Distribution.requested_ne_nil (Distribution.granularities_of_encode ok)
    have framed := Framed.ofLines (by simpa using filled) lines
      ((Distribution.toList_of_encode ok).trans (List.flatMap_def ..))
    rwa [List.length_map, d.length_requested] at framed
  | span ok =>
    refine .ofLine ?_
    rw [Span.toList_of_encode ok]
    exact Span.isLine_chars _ _
  | logs ok more => exact .ofLine (SpanLogRecord.isLine_encode _)

end Call

end TelemetrySender
