import TelemetrySender.Proofs.Emissions

/-!
Forgetting that cannot be noticed.  A window that holds many keys drives out those that do not hold
anything back any more.  As long as no clock runs backwards they never will again, so of any number of
sayings, under any number of keys, exactly those are let through whose key was not let through less than
the width of the window ago.
-/

set_option autoImplicit false
set_option relaxedAutoImplicit false

namespace TelemetrySender

namespace Saying

def plain (time : Nat) (line : LogLine) : Saying := ⟨time, line.text, line⟩

def stamp (x : Saying) : Nat × String := (x.time, x.key)

end Saying

namespace LogWindow

/-- No saying comes before one that was said earlier. -/
def InOrder (sayings : List Saying) : Prop := sayings.Pairwise fun x y => x.time ≤ y.time

def answers : LogWindow → List Saying → List Bool
  | _, [] => []
  | w, x :: rest => (w.letThrough x.time x.key).1 :: answers (w.letThrough x.time x.key).2 rest

section Last

variable {key : String} {passed : List Saying}

theorem mem_of_lastOf {last : Nat} (found : lastOf key passed = some last) :
    ∃ y ∈ passed, y.key = key ∧ y.time = last := by
  obtain ⟨y, first, rfl⟩ := Option.map_eq_some_iff.mp found
  have member := List.mem_reverse.mp (List.mem_of_find?_eq_some first)
  have same : y.key = key := by simpa using List.find?_some first
  exact ⟨y, member, same, rfl⟩

theorem lastOf_of_mem (order : InOrder passed) {y : Saying} (member : y ∈ passed) :
    ∃ last, lastOf y.key passed = some last ∧ y.time ≤ last := by
  induction passed using List.reverseRecOn with
  | nil => cases member
  | append_singleton before x ih =>
    obtain ⟨earlier, -, last⟩ := List.pairwise_append.mp order
    rw [lastOf_snoc]
    rcases List.mem_append.mp member with old | new
    · split_ifs
      · exact ⟨x.time, rfl, last y old x List.mem_cons_self⟩
      · exact ih earlier old
    · rw [List.mem_singleton.mp new, if_pos rfl]
      exact ⟨x.time, rfl, Nat.le_refl _⟩

/-- In order, a saying is due if and only if nothing was let through under its key less than a window
ago. -/
theorem due_iff (order : InOrder passed) {width : Nat} {x : Saying} :
    Due width passed x ↔ ¬ ∃ y ∈ passed, y.key = x.key ∧ x.time - y.time < width := by
  constructor
  · rintro due ⟨y, member, same, early⟩
    obtain ⟨last, found, later⟩ := lastOf_of_mem order member
    rw [same] at found
    have late := due last found
    omega
  · intro none last found
    obtain ⟨y, member, same, rfl⟩ := mem_of_lastOf found
    by_contra early
    exact none ⟨y, member, same, Nat.not_le.mp early⟩

end Last

/-- A window knows of every key when it was let through last, or that was not less than a window ago. -/
structure Remembers (w : LogWindow) (passed : List Saying) (now : Nat) : Prop where
  nodup : (w.emissions.map Prod.fst).Nodup
  known : ∀ key last, Keyed.find? key w.emissions = some last → lastOf key passed = some last
  forgotten : ∀ key, Keyed.find? key w.emissions = none →
    ∀ last, lastOf key passed = some last → w.width ≤ now - last

theorem find?_prune {w : LogWindow} (nodup : (w.emissions.map Prod.fst).Nodup) (now : Nat)
    (key : String) :
    Keyed.find? key (w.prune now) = Keyed.find? key w.emissions ∨
      Keyed.find? key (w.prune now) = (Keyed.find? key w.emissions).filter (w.fresh now) := by
  unfold prune
  split_ifs
  · exact .inr (Keyed.find?_filter key _ nodup)
  · exact .inl rfl

namespace Remembers

variable {w : LogWindow} {before : List Saying} {x : Saying} {now : Nat}

theorem later (remembers : Remembers w before now) {time : Nat} (onward : now ≤ time) :
    Remembers w before time where
  nodup := remembers.nodup
  known := remembers.known
  forgotten key unknown last found := by
    have late := remembers.forgotten key unknown last found
    omega

theorem prune (remembers : Remembers w before now) :
    Remembers { w with emissions := w.prune now } before now := by
  constructor
  · have sub : (w.prune now).Sublist w.emissions := by
      unfold LogWindow.prune
      split_ifs
      · exact List.filter_sublist
      · exact List.Sublist.refl _
    exact remembers.nodup.sublist (sub.map _)
  · intro key last found
    refine remembers.known key last ?_
    rcases find?_prune remembers.nodup now key with same | kept
    · rwa [same] at found
    · rw [kept] at found
      exact (Option.filter_eq_some_iff.mp found).1
  · intro key unknown last found
    cases known : Keyed.find? key w.emissions with
    | none => exact remembers.forgotten key known last found
    | some old =>
      obtain rfl := Option.some.inj ((remembers.known key old known).symm.trans found)
      rcases find?_prune remembers.nodup now key with same | kept
      · change Keyed.find? key (w.prune now) = none at unknown
        rw [same, known] at unknown
        cases unknown
      · change Keyed.find? key (w.prune now) = none at unknown
        rw [kept, known, Option.filter_some] at unknown
        simpa [fresh] using unknown

theorem renewed (remembers : Remembers w before x.time) {entries : List (String × Nat)}
    (renews : Renews w.emissions x.time x.key entries) :
    Remembers { w with emissions := entries } (before ++ [x]) x.time := by
  refine ⟨renews.nodup remembers.nodup, fun key last found => ?_, fun key unknown last found => ?_⟩
  · rw [renews.find] at found
    rw [lastOf_snoc]
    split_ifs at found ⊢
    · exact found
    · exact remembers.known key last found
  · rw [lastOf_snoc] at found
    rw [renews.find] at unknown
    split_ifs at found unknown
    exact remembers.forgotten key unknown last found

theorem through_iff (remembers : Remembers w before x.time) :
    (w.letThrough x.time x.key).1 = true ↔ Due w.width before x :=
  letThrough_iff_due (remembers.known x.key) (remembers.forgotten x.key)

theorem say (remembers : Remembers w before x.time) :
    Remembers (w.letThrough x.time x.key).2
      (before ++ if (w.letThrough x.time x.key).1 then [x] else []) x.time := by
  have outcome := w.outcome x.time x.key
  generalize w.letThrough x.time x.key = answer at outcome ⊢
  cases outcome with
  | held => simpa using remembers
  | again _ _ renews => exact remembers.renewed renews
  | first _ renews => exact remembers.prune.renewed renews

end Remembers

namespace InOrder

variable {sayings before after : List Saying} {x : Saying}

theorem passed (order : InOrder sayings) (w : LogWindow) : InOrder (w.passed sayings) :=
  order.sublist (w.passed_sublist sayings)

theorem start (order : InOrder (before ++ x :: after)) : InOrder before :=
  (List.pairwise_append.mp order).1

theorem le (order : InOrder (before ++ x :: after)) : ∀ y ∈ before, y.time ≤ x.time :=
  fun y member => (List.pairwise_append.mp order).2.2 y member x List.mem_cons_self

end InOrder

private theorem remembers_new (width now : Nat) : Remembers (new width) [] now :=
  ⟨List.nodup_nil, fun _ _ found => (nomatch found), fun _ _ _ found => (nomatch found)⟩

theorem remembers_afterAll (width : Nat) {sayings : List Saying} (order : InOrder sayings) {now : Nat}
    (latest : ∀ x ∈ sayings, x.time ≤ now) :
    Remembers ((new width).afterAll sayings) ((new width).passed sayings) now := by
  induction sayings using List.reverseRecOn generalizing now with
  | nil => exact remembers_new width now
  | append_singleton before x ih =>
    have remembers := (ih order.start order.le).say
    rw [afterAll_append, passed_append]
    have onward : x.time ≤ now := latest x (by simp)
    simpa [LogWindow.passed, afterAll] using remembers.later onward

theorem letThrough_iff (width : Nat) {before after : List Saying} {x : Saying}
    (order : InOrder (before ++ x :: after)) :
    (((new width).afterAll before).letThrough x.time x.key).1 = true ↔
      ¬ ∃ y ∈ (new width).passed before, y.key = x.key ∧ x.time - y.time < width := by
  have through := (remembers_afterAll width order.start order.le).through_iff
  rwa [width_afterAll, due_iff (order.start.passed _)] at through

theorem answers_eq (w : LogWindow) {sayings others : List Saying}
    (same : others.map Saying.stamp = sayings.map Saying.stamp) :
    w.answers others = w.answers sayings := by
  induction sayings generalizing w others with
  | nil => rw [List.map_eq_nil_iff.mp same]
  | cons x rest ih =>
    cases others with
    | nil => cases same
    | cons y more =>
      obtain ⟨first, later⟩ := List.cons.inj same
      obtain ⟨time, key⟩ := Prod.mk.inj first
      rw [answers, answers, time, key, ih _ later]

theorem letThrough_of_held {w : LogWindow} {now : Nat} {key : String}
    (held : (w.letThrough now key).1 = false) : w.letThrough now key = (false, w) := by
  have outcome := w.outcome now key
  generalize w.letThrough now key = answer at held outcome ⊢
  cases outcome with
  | held => rfl
  | again | first => cases held

theorem passed_of_held (w : LogWindow) {before after : List Saying} {x : Saying}
    (held : ((w.afterAll before).letThrough x.time x.key).1 = false) :
    w.passed (before ++ x :: after) = w.passed (before ++ after) := by
  rw [passed_append, passed_append, passed, letThrough_of_held held]
  rfl

theorem pairwise_passed (width : Nat) {sayings : List Saying} (order : InOrder sayings) :
    ((new width).passed sayings).Pairwise fun y x => y.key = x.key → y.time + width ≤ x.time := by
  induction sayings using List.reverseRecOn with
  | nil => exact List.Pairwise.nil
  | append_singleton before x ih =>
    rw [passed_append, passed]
    cases through : (((new width).afterAll before).letThrough x.time x.key).1 with
    | false => simpa [passed] using ih order.start
    | true =>
      refine List.pairwise_append.mpr ⟨ih order.start, by simp [passed], ?_⟩
      intro y member z last same
      obtain rfl : z = x := by simpa [passed] using last
      have none := (letThrough_iff width order).mp through
      have late : width ≤ z.time - y.time := by
        by_contra early
        exact none ⟨y, member, same, Nat.not_le.mp early⟩
      have later := order.le y ((passed_sublist _ _).subset member)
      omega

theorem passed_of_through (w : LogWindow) {before after : List Saying} {x : Saying}
    (through : ((w.afterAll before).letThrough x.time x.key).1 = true) :
    w.passed (before ++ x :: after) =
      w.passed before ++ x :: (w.afterAll (before ++ [x])).passed after := by
  rw [passed_append, passed, through, afterAll_append]
  rfl

theorem letThrough_again (width : Nat) {before between after : List Saying} {y x : Saying}
    (order : InOrder ((before ++ y :: between) ++ x :: after))
    (through : (((new width).afterAll before).letThrough y.time y.key).1 = true)
    (same : x.key = y.key) (late : y.time + width ≤ x.time)
    (early : ∀ z ∈ between, z.key = y.key → z.time < y.time + width) :
    (((new width).afterAll (before ++ y :: between)).letThrough x.time x.key).1 = true := by
  have apart := pairwise_passed width order.start
  rw [passed_of_through _ through] at apart
  rw [letThrough_iff width order, passed_of_through _ through]
  rintro ⟨z, member, key, soon⟩
  rcases List.mem_append.mp member with old | member
  · have earlier := order.start.le z ((passed_sublist _ _).subset old)
    omega
  · rcases List.mem_cons.mp member with rfl | inside
    · omega
    · have own : z.key = y.key := key.trans same
      have held := early z ((passed_sublist _ _).subset inside) own
      have behind := (List.pairwise_append.mp apart).2.1
      have passed := List.rel_of_pairwise_cons behind inside own.symm
      omega

/-- How a window deals with sayings, whatever it has forgotten. -/
structure Deduplicates (width : Nat) (sayings : List Saying) : Prop where
  exact : ∀ before x after, sayings = before ++ x :: after →
    ((((new width).afterAll before).letThrough x.time x.key).1 = true ↔
      ¬ ∃ y ∈ (new width).passed before, y.key = x.key ∧ x.time - y.time < width)
  alike : ∀ others, others.map Saying.stamp = sayings.map Saying.stamp →
    (new width).answers others = (new width).answers sayings
  held : ∀ before x after, sayings = before ++ x :: after →
    (((new width).afterAll before).letThrough x.time x.key).1 = false →
      (new width).passed sayings = (new width).passed (before ++ after)
  apart : ((new width).passed sayings).Pairwise fun y x => y.key = x.key → y.time + width ≤ x.time
  again : ∀ before y between x after, sayings = (before ++ y :: between) ++ x :: after →
    (((new width).afterAll before).letThrough y.time y.key).1 = true →
    x.key = y.key → y.time + width ≤ x.time →
    (∀ z ∈ between, z.key = y.key → z.time < y.time + width) →
      (((new width).afterAll (before ++ y :: between)).letThrough x.time x.key).1 = true

/-- In order, sayings are let through exactly when they are due, under any number of keys. -/
theorem InOrder.deduplicates (width : Nat) {sayings : List Saying} (order : InOrder sayings) :
    Deduplicates width sayings := by
  constructor
  · rintro before x after rfl
    exact letThrough_iff width order
  · intro others same
    exact answers_eq _ same
  · rintro before x after rfl held
    exact passed_of_held _ held
  · exact pairwise_passed width order
  · rintro before y between x after rfl through same late early
    exact letThrough_again width order through same late early

/-- As many keys as make a crowd, a new one when all of them are stale, and one of them again. -/
def crowded : List Saying :=
  ((List.range crowd).map fun i => .plain 0 ⟨.debug, "message " ++ i.repr⟩) ++
    [.plain 5 ⟨.debug, "one more"⟩, ⟨5, "message 0", ⟨.warn, "message 0 once more"⟩⟩]

theorem inOrder_crowded : InOrder crowded := by
  refine List.pairwise_append.mpr ⟨?_, ?_, ?_⟩
  · exact List.pairwise_map.mpr (List.pairwise_of_forall fun _ _ => Nat.le_refl 0)
  · simp [Saying.plain]
  · intro x member y _
    obtain ⟨i, -, rfl⟩ := List.mem_map.mp member
    exact Nat.zero_le _

theorem crowded_deduplicates : InOrder crowded ∧ Deduplicates 5 crowded :=
  ⟨inOrder_crowded, inOrder_crowded.deduplicates 5⟩

end LogWindow

end TelemetrySender
