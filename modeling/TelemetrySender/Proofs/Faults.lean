import Mathlib.Logic.Basic
import Mathlib.Tactic.SplitIfs
import TelemetrySender.Distribution
import TelemetrySender.Metric
import TelemetrySender.Span.Basic

/-!
What the encoders find fault with.  All that is wrong with an entity stands in one order: its name, its
source, the lists that are empty, and its tags, each by key before value.  An entity with no fault at all is
encoded; any other is refused for the first fault in that order, in a text that repeats what was handed in.
-/

set_option autoImplicit false
set_option relaxedAutoImplicit false

namespace TelemetrySender

open Text

section Blank

def spaces : List Nat :=
  [0x09, 0x0A, 0x0B, 0x0C, 0x0D, 0x20, 0x85, 0xA0, 0x1680, 0x2000, 0x2001, 0x2002, 0x2003, 0x2004, 0x2005,
    0x2006, 0x2007, 0x2008, 0x2009, 0x200A, 0x2028, 0x2029, 0x202F, 0x205F, 0x3000]

def IsBlank (s : String) : Prop := ∀ c ∈ s.toList, c.toNat ∈ spaces

theorem isWhiteSpace_iff (c : Char) : Blank.isWhiteSpace c = true ↔ c.toNat ∈ spaces := by
  simp only [Blank.isWhiteSpace, Ranges.covers, Blank.whiteSpace, List.any_cons, List.any_nil, spaces,
    Bool.or_eq_true, Bool.and_eq_true, decide_eq_true_eq, List.mem_cons, List.not_mem_nil,
    Bool.false_eq_true, or_false]
  omega

theorem isBlank_iff (s : String) : isBlank s = true ↔ IsBlank s := by
  simp only [isBlank, Blank.isBlank, List.all_eq_true, isWhiteSpace_iff, IsBlank]

instance (s : String) : Decidable (IsBlank s) := decidable_of_iff _ (isBlank_iff s)

end Blank

/-- Neither the source handed in nor the one that stands in for it can be written. -/
def Sourceless (given : Option String) (fallback : String) : Prop :=
  (∀ source ∈ given, IsBlank source) ∧ IsBlank fallback

instance (given : Option String) (fallback : String) : Decidable (Sourceless given fallback) :=
  inferInstanceAs (Decidable ((∀ source ∈ given, IsBlank source) ∧ IsBlank fallback))

theorem resolveSource_isBlank_iff (given : Option String) (fallback : String) :
    IsBlank (resolveSource given fallback) ↔ Sourceless given fallback := by
  cases given with
  | none => simp [resolveSource, Sourceless]
  | some source =>
    by_cases blank : IsBlank source <;> simp [resolveSource, Sourceless, isBlank_iff, blank]

def Sound (t : String × String) : Prop := ¬ IsBlank t.1 ∧ ¬ IsBlank t.2

section Order

def firstOf : List Invalid → Except Invalid Unit
  | [] => .ok ()
  | fault :: _ => .error fault

theorem firstOf_append (first second : List Invalid) :
    firstOf (first ++ second) = match firstOf first with
      | .error fault => .error fault
      | .ok () => firstOf second := by
  cases first with
  | nil => rfl
  | cons fault first => rfl

variable (subject : Subject) (context : Context)

def tagFaults (t : String × String) : List Invalid :=
  (if IsBlank t.1 then [.blankTagKey subject context] else []) ++
    if IsBlank t.2 then [.blankTagValue subject t.1 t.2 context] else []

/-- All that is wrong with an entity, in order.  What it lacks in lists is given. -/
def faults (fallback : String) (lacks : List Invalid) : List Invalid :=
  (if IsBlank context.name then [.blankName subject context] else []) ++
    ((if Sourceless context.source fallback then [.blankSource subject context] else []) ++
      (lacks ++ context.tags.flatMap (tagFaults subject context)))

theorem checkTags_eq (tags : List (String × String)) :
    Line.checkTags subject context tags = firstOf (tags.flatMap (tagFaults subject context)) := by
  induction tags with
  | nil => rfl
  | cons t tags ih =>
    obtain ⟨key, value⟩ := t
    rw [Line.checkTags, List.flatMap_cons, tagFaults]
    simp only [isBlank_iff]
    split_ifs with blankKey blankValue
    · rfl
    · rfl
    · rfl
    · exact ih

/-- The checks that run are a search for the first fault. -/
theorem check_eq (fallback : String) (lacks : List Invalid) :
    Line.check subject context fallback (firstOf lacks) =
      firstOf (faults subject context fallback lacks) := by
  unfold Line.check faults
  simp only [isBlank_iff, resolveSource_isBlank_iff]
  split_ifs with blankName blankSource sourceless
  · rfl
  · rfl
  · rfl
  · rw [List.nil_append, List.nil_append, firstOf_append]
    cases firstOf lacks with
    | error fault => rfl
    | ok => exact checkTags_eq subject context context.tags

theorem tagFaults_eq_nil_iff (t : String × String) : tagFaults subject context t = [] ↔ Sound t := by
  by_cases key : IsBlank t.1 <;> by_cases value : IsBlank t.2 <;> simp [tagFaults, Sound, key, value]

theorem faults_eq_nil_iff (fallback : String) (lacks : List Invalid) :
    faults subject context fallback lacks = [] ↔ ¬ IsBlank context.name ∧
      ¬ Sourceless context.source fallback ∧ lacks = [] ∧ ∀ t ∈ context.tags, Sound t := by
  simp only [faults, List.append_eq_nil_iff, List.flatMap_eq_nil_iff, tagFaults_eq_nil_iff,
    ite_eq_right_iff, List.cons_ne_nil, imp_false]

theorem head?_flatMap_tagFaults {tags : List (String × String)} {fault : Invalid}
    (first : (tags.flatMap (tagFaults subject context)).head? = some fault) :
    ∃ before t after, tags = before ++ t :: after ∧ (∀ t ∈ before, Sound t) ∧
      (tagFaults subject context t).head? = some fault := by
  induction tags with
  | nil => cases first
  | cons t tags ih =>
    rw [List.flatMap_cons, List.head?_append] at first
    by_cases sound : Sound t
    · rw [(tagFaults_eq_nil_iff subject context t).mpr sound, List.head?_nil, Option.none_or] at first
      obtain ⟨before, u, after, rfl, others, found⟩ := ih first
      exact ⟨t :: before, u, after, rfl, List.forall_mem_cons.mpr ⟨sound, others⟩, found⟩
    · have some := mt (tagFaults_eq_nil_iff subject context t).mp sound
      rw [List.head?_eq_some_head some, Option.some_or] at first
      exact ⟨[], t, tags, rfl, by simp, by rw [List.head?_eq_some_head some, first]⟩

end Order

/-- How an encoder judges an entity that it checks under a name: `lacks` is what the entity lacks in
lists, and `complete` says that it lacks nothing.  A blank value is refused along with its own key,
and every refusal repeats the entity as it was handed in. -/
structure Judged (subject : Subject) (context : Context) (fallback : String) (lacks : List Invalid)
    (complete : Prop) (encoded : Except Invalid String) : Prop where
  accepted : (∃ record, encoded = .ok record) ↔ ¬ IsBlank context.name ∧
    ((∃ source ∈ context.source, ¬ IsBlank source) ∨ ¬ IsBlank fallback) ∧ complete ∧
      ∀ t ∈ context.tags, ¬ IsBlank t.1 ∧ ¬ IsBlank t.2
  refused : ∀ fault, encoded = .error fault ↔
    (faults subject context fallback lacks).head? = some fault
  value : ∀ s key value c, encoded = .error (.blankTagValue s key value c) →
    s = subject ∧ c = context ∧ ∃ before after, context.tags = before ++ (key, value) :: after ∧
      (∀ t ∈ before, ¬ IsBlank t.1 ∧ ¬ IsBlank t.2) ∧ ¬ IsBlank key ∧ IsBlank value
  told : ∀ fault, encoded = .error fault → ∃ heading, fault.message = heading ++
    ("name=" ++ context.name ++ ", source=" ++ (match context.source with
      | some source => source
      | none => "null") ++ ", tags=\x7b" ++
      String.intercalate ", " (context.tags.map fun t => t.1 ++ "=[" ++ t.2 ++ "]") ++ "\x7d")

def Distribution.lacks (d : Distribution) : List Invalid :=
  (if d.centroids = [] then [.emptyCentroids d.context] else []) ++
    if d.granularities = [] then [.emptyGranularities d.context] else []

section Judged

variable {subject : Subject} {context : Context} {fallback : String} {lacks : List Invalid}

theorem Context.text_eq (c : Context) : c.text =
    "name=" ++ c.name ++ ", source=" ++ (match c.source with
      | some source => source
      | none => "null") ++ ", tags=\x7b" ++
      String.intercalate ", " (c.tags.map fun t => t.1 ++ "=[" ++ t.2 ++ "]") ++ "\x7d" := by
  obtain ⟨name, source, tags⟩ := c
  cases source <;> rfl

theorem told_of_mem_faults {fault : Invalid}
    (member : fault ∈ faults subject context fallback lacks)
    (own : ∀ l ∈ lacks, l = .emptyCentroids context ∨ l = .emptyGranularities context) :
    ∃ heading, fault.message = heading ++ context.text := by
  simp only [faults, tagFaults, List.mem_append, List.mem_flatMap, List.mem_ite_nil_right,
    List.mem_singleton] at member
  rcases member with ⟨-, rfl⟩ | ⟨-, rfl⟩ | lacking | ⟨t, -, ⟨-, rfl⟩ | ⟨-, rfl⟩⟩
  · exact ⟨_, rfl⟩
  · exact ⟨_, rfl⟩
  · rcases own fault lacking with rfl | rfl
    · exact ⟨_, rfl⟩
    · exact ⟨_, rfl⟩
  · exact ⟨_, rfl⟩
  · exact ⟨_, rfl⟩

theorem value_of_head?_faults {s : Subject} {key value : String} {c : Context}
    (first : (faults subject context fallback lacks).head? = some (.blankTagValue s key value c))
    (own : ∀ l ∈ lacks, l = .emptyCentroids context ∨ l = .emptyGranularities context) :
    s = subject ∧ c = context ∧ ∃ before after, context.tags = before ++ (key, value) :: after ∧
      (∀ t ∈ before, Sound t) ∧ ¬ IsBlank key ∧ IsBlank value := by
  have tagged : (context.tags.flatMap (tagFaults subject context)).head? =
      some (.blankTagValue s key value c) := by
    unfold faults at first
    split_ifs at first
    · cases first
    · cases first
    · cases first
    · cases lacks with
      | nil => exact first
      | cons l lacks =>
        obtain rfl := Option.some.inj first
        rcases own _ List.mem_cons_self with other | other <;> cases other
  obtain ⟨before, t, after, tags, sound, found⟩ := head?_flatMap_tagFaults subject context tagged
  unfold tagFaults at found
  split_ifs at found with blankKey _ blankValue
  · cases found
  · cases found
  · obtain ⟨rfl, rfl, rfl, rfl⟩ := Invalid.blankTagValue.inj (Option.some.inj found)
    exact ⟨rfl, rfl, before, after, tags, sound, blankKey, blankValue⟩
  · cases found

theorem judged {complete : Prop} {text : List Char} (lacking : lacks = [] ↔ complete)
    (own : ∀ l ∈ lacks, l = .emptyCentroids context ∨ l = .emptyGranularities context) :
    Judged subject context fallback lacks complete
      (match Line.check subject context fallback (firstOf lacks) with
        | .error fault => .error fault
        | .ok () => .ok (String.ofList text)) := by
  have sourceless : ¬ Sourceless context.source fallback ↔
      (∃ source ∈ context.source, ¬ IsBlank source) ∨ ¬ IsBlank fallback := by
    simp only [Sourceless, not_and_or, not_forall, exists_prop]
  rw [check_eq]
  cases all : faults subject context fallback lacks with
  | nil =>
    have none := (faults_eq_nil_iff subject context fallback lacks).mp all
    rw [sourceless, lacking] at none
    refine ⟨⟨fun _ => none, fun _ => ⟨_, rfl⟩⟩, ?_, ?_, ?_⟩
    · simp [firstOf, all]
    · rintro s key value c ⟨⟩
    · rintro fault ⟨⟩
  | cons fault rest =>
    have some := mt (faults_eq_nil_iff subject context fallback lacks).mpr (all ▸ List.cons_ne_nil _ _)
    rw [sourceless, lacking] at some
    have member : fault ∈ faults subject context fallback lacks := all ▸ List.mem_cons_self
    have first : (faults subject context fallback lacks).head? = Option.some fault := by
      rw [all, List.head?_cons]
    refine ⟨⟨?_, fun none => absurd none some⟩, ?_, ?_, ?_⟩
    · rintro ⟨record, ⟨⟩⟩
    · simp [firstOf, all]
    · rintro s key value c ⟨⟩
      exact value_of_head?_faults first own
    · rintro _ ⟨⟩
      rw [← Context.text_eq]
      exact told_of_mem_faults member own

example : faults .span ⟨"call", some " ", [("k", "v"), ("", "\t"), ("late", "w")]⟩ "\u200b" [] =
    [.blankTagKey .span ⟨"call", some " ", [("k", "v"), ("", "\t"), ("late", "w")]⟩,
      .blankTagValue .span "" "\t" ⟨"call", some " ", [("k", "v"), ("", "\t"), ("late", "w")]⟩] := by
  decide

end Judged

structure EncodersJudge : Prop where
  metric : ∀ (m : Metric) (fallback : String),
    Judged .metric ⟨m.name, m.source, m.tags.entries⟩ fallback [] True (m.encode fallback)
  distribution : ∀ (d : Distribution) (fallback : String),
    Judged .histogram ⟨d.name, d.source, d.tags.entries⟩ fallback d.lacks
      (d.centroids ≠ [] ∧ d.granularities ≠ []) (d.encode fallback)
  span : ∀ (x : Span) (fallback : String),
    Judged .span ⟨x.name, x.source, x.tags⟩ fallback [] True (x.encode fallback)

/-- The encoders accept what is sound, and name the first fault of anything else. -/
theorem encoders_judge : EncodersJudge where
  metric m fallback := judged (by simp) (by simp)
  distribution d fallback := by
    have lists : d.checkLists = firstOf d.lacks := by
      unfold Distribution.checkLists Distribution.lacks
      simp only [List.isEmpty_iff]
      split_ifs <;> rfl
    have complete : d.lacks = [] ↔ d.centroids ≠ [] ∧ d.granularities ≠ [] := by
      simp [Distribution.lacks]
    rw [Distribution.encode, lists]
    refine judged complete ?_
    intro l member
    simp only [Distribution.lacks, List.mem_append, List.mem_ite_nil_right, List.mem_singleton] at member
    rcases member with ⟨-, rfl⟩ | ⟨-, rfl⟩
    · exact .inl rfl
    · exact .inr rfl
  span x fallback := judged (by simp) (by simp)

end TelemetrySender
