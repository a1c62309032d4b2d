import TelemetrySender.Proofs.Reading
import TelemetrySender.Proofs.Records
import TelemetrySender.Proofs.Sends

/-!
What a reader recovers from the lines of span logs: the identifiers, every log with its fields in order, and
the record of the span, so different logs have different lines.  A span that is sent with its logs leaves
its own record behind in two places, at the end of the queue of spans and in the line of its logs.
-/

set_option autoImplicit false
set_option relaxedAutoImplicit false

namespace TelemetrySender

theorem mapM_map_eq_some {α β : Type} {write : α → β} {read? : β → Option α}
    (back : ∀ a, read? (write a) = some a) (l : List α) : (l.map write).mapM read? = some l := by
  induction l with
  | nil => rfl
  | cons a l ih => simp [List.mapM_cons, back, ih]

namespace Uuid
open Text

private theorem text_eq_intercalate (u : Uuid) (d : List Char)
    (digits : Hex.digits u.bits.toNat 32 = d) :
    u.text = ['-'].intercalate
      [d.take 8, (d.drop 8).take 4, (d.drop 12).take 4, (d.drop 16).take 4, d.drop 20] := by
  simp only [text, digits, List.intercalate_cons_cons, List.intercalate_singleton, List.append_assoc,
    List.cons_append, List.nil_append]

theorem ofText?_text (u : Uuid) : ofText? u.text = some u := by
  have number : Hex.number? 16 (u.text.filter (· ≠ '-')) 0 = some u.bits.toNat := by
    have small : u.bits.toNat < Nat.pow 16 32 := u.bits.isLt
    have all := Hex.number?_digits small [] 0
    rw [List.append_nil, Nat.mul_zero, Nat.zero_add] at all
    have plain : u.text.filter (· ≠ '-') = Hex.digits u.bits.toNat 32 := by
      simpa only [bne, beq_eq_decide, decide_not] using filter_text u
    rw [plain, all, Hex.number?]
  have parts : (u.text.splitOn '-').map List.length = [8, 4, 4, 4, 12] := by
    have plain : '-' ∉ Hex.digits u.bits.toNat 32 := by
      intro member
      exact absurd (Hex.isAlphanum_of_mem_digits member) (by decide)
    have length := Hex.length_digits u.bits.toNat 32
    rw [text_eq_intercalate u _ rfl]
    generalize Hex.digits u.bits.toNat 32 = d at plain length ⊢
    have clear (n m : Nat) : '-' ∉ (d.drop n).take m :=
      fun member => plain (List.mem_of_mem_drop (List.mem_of_mem_take member))
    have pieces : ∀ piece ∈ [d.take 8, (d.drop 8).take 4, (d.drop 12).take 4, (d.drop 16).take 4,
        d.drop 20], '-' ∉ piece := by
      simp only [List.forall_mem_cons]
      exact ⟨clear 0 8, clear 8 4, clear 12 4, clear 16 4,
        fun member => plain (List.mem_of_mem_drop member), by simp⟩
    rw [List.splitOn_intercalate '-' pieces (List.cons_ne_nil _ _)]
    simp [length]
  have bits : (⟨BitVec.ofNat 128 u.bits.toNat⟩ : Uuid) = u := by
    rw [BitVec.ofNat_toNat, BitVec.setWidth_eq]
  simp only [ofText?, parts, number, bits]

end Uuid
section Readers

def Json.member? (key : String) : Json → Option Json
  | object members => Keyed.find? key members
  | _ => none

def Json.optionalText? : Json → Option (Option String)
  | null => some none
  | text s => some (some s)
  | _ => none

namespace Attributes

def pair? : String × Json → Option (String × String)
  | (key, .text value) => some (key, value)
  | _ => none

def ofMembers? (members : List (String × Json)) : Option Attributes :=
  (members.mapM pair?).map ofList

end Attributes

def SpanLog.ofJson? (j : Json) : Option SpanLog :=
  match j.member? "timestamp", j.member? "fields" with
  | some (.integer timestamp), some (.object members) =>
    (Attributes.ofMembers? members).map (⟨timestamp, ·⟩)
  | _, _ => none

namespace SpanLogRecord

def ofJson? (j : Json) : Option SpanLogRecord :=
  match j.member? "traceId", j.member? "spanId", j.member? "logs", j.member? "span" with
  | some (.text traceId), some (.text spanId), some (.array items), some span => do
    let traceId ← Uuid.ofText? traceId.toList
    let spanId ← Uuid.ofText? spanId.toList
    let logs ← items.mapM SpanLog.ofJson?
    let span ← span.optionalText?
    return ⟨traceId, spanId, logs, span⟩
  | _, _, _, _ => none

/-- Reads a line of span logs. -/
def decode? (line : String) : Option SpanLogRecord :=
  (Json.parse? line.toList).bind ofJson?

end SpanLogRecord

end Readers

section RoundTrip

theorem Keyed.assign_of_absent {α : Type} {key : String} (value : α) {entries : List (String × α)}
    (absent : key ∉ entries.map Prod.fst) : assign key value entries = entries ++ [(key, value)] := by
  induction entries with
  | nil => rfl
  | cons p rest ih =>
    rw [List.map_cons, List.mem_cons, not_or] at absent
    rw [assign, if_neg (Ne.symm absent.1), ih absent.2, List.cons_append]

namespace Attributes

theorem entries_foldl_insert (pairs : List (String × String)) (a : Attributes)
    (nodup : ((a.entries ++ pairs).map Prod.fst).Nodup) :
    (pairs.foldl (fun a p => a.insert p.1 p.2) a).entries = a.entries ++ pairs := by
  induction pairs generalizing a with
  | nil => rw [List.foldl_nil, List.append_nil]
  | cons p pairs ih =>
    have absent : p.1 ∉ a.entries.map Prod.fst := by
      rw [List.map_append, List.nodup_append'] at nodup
      exact fun member => nodup.2.2 member List.mem_cons_self
    have inserted : (a.insert p.1 p.2).entries = a.entries ++ [p] :=
      Keyed.assign_of_absent p.2 absent
    have same : a.entries ++ p :: pairs = (a.insert p.1 p.2).entries ++ pairs := by
      rw [inserted, List.append_assoc, List.singleton_append]
    rw [List.foldl_cons, ih _ (same ▸ nodup), same]

theorem ofList_entries (a : Attributes) : ofList a.entries = a := by
  have entries := entries_foldl_insert a.entries empty a.keys_nodup
  obtain ⟨pairs, nodup⟩ := a
  rw [Attributes.mk.injEq]
  exact entries

theorem ofMembers?_entries (a : Attributes) :
    ofMembers? (a.entries.map fun f => (f.1, .text f.2)) = some a := by
  have back : ∀ f : String × String, pair? (f.1, .text f.2) = some f := fun _ => rfl
  rw [ofMembers?, mapM_map_eq_some back, Option.map_some, ofList_entries]

end Attributes

theorem SpanLog.ofJson?_json (l : SpanLog) : ofJson? l.json = some l := by
  have timestamp : l.json.member? "timestamp" = some (.integer l.timestamp) := rfl
  have fields : l.json.member? "fields" =
      some (.object (l.fields.entries.map fun f => (f.1, .text f.2))) := rfl
  simp only [ofJson?, timestamp, fields, Attributes.ofMembers?_entries, Option.map_some]

namespace SpanLogRecord

theorem ofJson?_json (r : SpanLogRecord) : ofJson? r.json = some r := by
  have traceId : r.json.member? "traceId" = some (.text (String.ofList r.traceId.text)) := rfl
  have spanId : r.json.member? "spanId" = some (.text (String.ofList r.spanId.text)) := rfl
  have logs : r.json.member? "logs" = some (.array (r.logs.map SpanLog.json)) := rfl
  obtain ⟨j, span, text⟩ : ∃ j, r.json.member? "span" = some j ∧ j.optionalText? = some r.span := by
    refine ⟨_, rfl, ?_⟩
    cases r.span with
    | none => rfl
    | some s => rfl
  simp only [ofJson?, traceId, spanId, logs, span, String.toList_ofList, Uuid.ofText?_text,
    mapM_map_eq_some SpanLog.ofJson?_json, text, Option.bind_eq_bind, Option.bind_some, Option.pure_def]

theorem decode?_encode (r : SpanLogRecord) : decode? r.encode = some r := by
  have lineFeed : ∀ c ∈ ['\n'], Json.isSpace c = true := List.forall_mem_singleton.mpr rfl
  have read := Json.parse?_render r.json lineFeed
  rw [decode?, encode, String.toList_ofList, read, Option.bind_some, ofJson?_json]

theorem encode_inj (r t : SpanLogRecord) (same : r.encode = t.encode) : r = t := by
  have read := r.decode?_encode
  rw [same, t.decode?_encode] at read
  exact (Option.some.inj read).symm

end SpanLogRecord

end RoundTrip

section Matching

namespace Span

open Text

def front (x : Span) (source : String) : List Char :=
  Quoted.encode x.name.toList ++ Line.sourceField source ++
    uuidField "traceId" x.traceId ++ uuidField "spanId" x.spanId ++
    x.parents.flatMap (uuidField "parent") ++ x.followsFrom.flatMap (uuidField "followsFrom") ++
    Line.tagFields x.tags

theorem chars_of_logs {x : Span} (logs : x.logs ≠ []) (source : String) :
    x.chars source = x.front source ++ (" \"_spanLogs\"=\"true\"".toList ++ x.times) := by
  have mark : Line.tagFields [(logMarkerKey, "true")] = " \"_spanLogs\"=\"true\"".toList := rfl
  have tags : Line.tagFields x.writtenTags =
      Line.tagFields x.tags ++ " \"_spanLogs\"=\"true\"".toList := by
    rw [writtenTags_eq, if_neg logs, ← mark, Line.tagFields, List.flatMap_append, Line.tagFields,
      Line.tagFields]
  simp only [chars, front, times, tags, Line.integerField, List.append_assoc, List.cons_append]

end Span

variable {σ : Type}

/-- What a span that is sent with its logs leaves behind: its record at the end of the queue of spans, and
in the line of its logs. -/
structure Matches (s t : Sender σ) (x : Span) (record line : String) : Prop where
  encoded : x.encode s.defaultSource = .ok record
  spans : t.queued .spans = s.queued .spans ++ [record]
  spanLogs : t.queued .spanLogs = s.queued .spanLogs ++ [line]
  read : SpanLogRecord.decode? line = some ⟨x.traceId, x.spanId, x.logs, some record⟩
  marked : record.toList = x.front (resolveSource x.source s.defaultSource) ++
    (" \"_spanLogs\"=\"true\"".toList ++ x.times)

theorem matches_of_queued (s : Sender σ) (x : Span)
    (changed : (s.step (.span x)).2.queued .spanLogs ≠ s.queued .spanLogs) :
    ∃ record line, Matches s (s.step (.span x)).2 x record line := by
  cases encoded : x.encode s.defaultSource with
  | error fault =>
    have refused := (atomic_of_refused s encoded).refused fault rfl
    rw [refused] at changed
    exact absurd rfl changed
  | ok record =>
    have atomic := atomic_of_accepted s encoded
    have logs : x.logs ≠ [] := by
      intro none
      refine changed ?_
      rw [Sender.queued, atomic.silent none, Sender.queued]
    have logged := atomic.logged x record rfl logs rfl
    have room : ¬ (s.buffer .spans).Full := by
      intro full
      refine changed ?_
      rw [Sender.queued, logged.dropped full]
      rfl
    have spans := (atomic.accepted record rfl).2.records
    have spanLogs := (logged.queued room).records
    rw [if_neg room] at spans
    split_ifs at spanLogs with full
    · exact absurd spanLogs changed
    · have marked := (Span.toList_of_encode encoded).trans (Span.chars_of_logs logs _)
      exact ⟨record, _, encoded, spans, spanLogs, SpanLogRecord.decode?_encode _, marked⟩

example : ((Sender.new "client" "host" ⟨1, 1, 99⟩ (.scripted "scripted") (.new [])).step
    (.span ⟨"call", 0, 1, none, ⟨1⟩, ⟨2⟩, [], [], [], [⟨5, .empty⟩]⟩)).2.queued .spanLogs ≠ [] := by
  decide +kernel

end Matching

/-- What a reader makes of the lines of span logs. -/
structure SpanLogsLegible (σ : Type) : Prop where
  reads : ∀ r : SpanLogRecord, SpanLogRecord.decode? r.encode = some r
  tells : ∀ r t : SpanLogRecord, r.encode = t.encode → r = t
  clean : ∀ r : SpanLogRecord,
    ∃ text, r.encode.toList = text ++ ['\n'] ∧ ∀ c ∈ text, 0x20 ≤ c.toNat
  matched : ∀ (s : Sender σ) (x : Span),
    (s.step (.span x)).2.queued .spanLogs ≠ s.queued .spanLogs →
      ∃ record line, Matches s (s.step (.span x)).2 x record line

/-- Lines of span logs lose nothing, and belong to the span that was queued with them. -/
theorem spanLogs_legible (σ : Type) : SpanLogsLegible σ where
  reads := SpanLogRecord.decode?_encode
  tells := SpanLogRecord.encode_inj
  clean r := ⟨r.json.render, String.toList_ofList, fun _ => Json.le_of_mem_render r.json⟩
  matched := matches_of_queued

end TelemetrySender
