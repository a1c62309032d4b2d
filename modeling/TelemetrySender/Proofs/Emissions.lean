import Mathlib.Data.List.Induction
import Mathlib.Data.List.Perm.Subperm
import Mathlib.Tactic.SplitIfs
import TelemetrySender.Log.Window

/-!
What a window lets through of many sayings, one after the other.  As long as there are fewer keys than
a crowd, nothing is ever driven out, so the window knows of every key when it was last let through: a
saying is let through if and only if its key never was, or not less than the width of the window ago.
-/

set_option autoImplicit false
set_option relaxedAutoImplicit false

namespace TelemetrySender

/-- A line that is to be logged at some time, unless it is a repeat of one with the same key. -/
structure Saying where
  time : Nat
  key : String
  line : LogLine

namespace LogWindow

def afterAll (w : LogWindow) (sayings : List Saying) : LogWindow :=
  sayings.foldl (fun w x => (w.letThrough x.time x.key).2) w

def passed : LogWindow → List Saying → List Saying
  | _, [] => []
  | w, x :: rest =>
    (if (w.letThrough x.time x.key).1 then [x] else []) ++ passed (w.letThrough x.time x.key).2 rest

theorem afterAll_append (w : LogWindow) (early late : List Saying) :
    w.afterAll (early ++ late) = (w.afterAll early).afterAll late :=
  List.foldl_append

theorem passed_append (w : LogWindow) (early late : List Saying) :
    w.passed (early ++ late) = w.passed early ++ (w.afterAll early).passed late := by
  induction early generalizing w with
  | nil => rfl
  | cons x rest ih =>
    rw [List.cons_append, passed, ih, passed, List.append_assoc]
    rfl

theorem passed_sublist (w : LogWindow) (sayings : List Saying) :
    (w.passed sayings).Sublist sayings := by
  induction sayings generalizing w with
  | nil => exact List.nil_sublist _
  | cons x rest ih =>
    rw [passed]
    split
    · exact (ih _).cons_cons x
    · exact (ih _).cons x

def lastOf (key : String) (passed : List Saying) : Option Nat :=
  (passed.reverse.find? fun x => x.key = key).map Saying.time

theorem lastOf_snoc (key : String) (passed : List Saying) (x : Saying) :
    lastOf key (passed ++ [x]) = if x.key = key then some x.time else lastOf key passed := by
  rw [lastOf, List.reverse_append, List.reverse_singleton, List.singleton_append, List.find?_cons]
  split_ifs with same
  · rw [decide_eq_true same]
    rfl
  · rw [decide_eq_false same]
    rfl

/-- Its key was never let through, or not less than a window ago; a time that lies in the future is no
time ago. -/
def Due (width : Nat) (passed : List Saying) (x : Saying) : Prop :=
  ∀ last, lastOf x.key passed = some last → width ≤ x.time - last

structure Renews (kept : List (String × Nat)) (now : Nat) (key : String)
    (entries : List (String × Nat)) : Prop where
  find : ∀ k, Keyed.find? k entries = if key = k then some now else Keyed.find? k kept
  keys : ∀ k, k ∈ entries.map Prod.fst ↔ k = key ∨ k ∈ kept.map Prod.fst
  nodup : (kept.map Prod.fst).Nodup → (entries.map Prod.fst).Nodup

theorem renews_assign (kept : List (String × Nat)) (now : Nat) (key : String) :
    Renews kept now key (Keyed.assign key now kept) where
  find k := by
    split_ifs with same
    · rw [← same]
      exact Keyed.find?_assign_self key now kept
    · exact Keyed.find?_assign_of_ne (Ne.symm same) now kept
  keys k := Keyed.mem_keys_assign key k now kept
  nodup := Keyed.nodup_keys_assign key now

theorem renews_cons {kept : List (String × Nat)} {key : String}
    (absent : Keyed.find? key kept = none) (now : Nat) : Renews kept now key ((key, now) :: kept) where
  find _ := rfl
  keys _ := List.mem_cons
  nodup nodup := by
    refine List.nodup_cons.mpr ⟨fun member => ?_, nodup⟩
    obtain ⟨p, inside, same⟩ := List.mem_map.mp member
    exact Keyed.find?_eq_none_iff.mp absent p inside same

/-- All that a window may do with a key: hold it back, let it through again, or let it through for the
first time that it knows of, after which it may have forgotten others. -/
inductive Outcome (w : LogWindow) (now : Nat) (key : String) : Bool × LogWindow → Prop
  | held {last : Nat} (known : Keyed.find? key w.emissions = some last)
      (early : now - last < w.width) : Outcome w now key (false, w)
  | again {last : Nat} {entries : List (String × Nat)}
      (known : Keyed.find? key w.emissions = some last) (late : w.width ≤ now - last)
      (renews : Renews w.emissions now key entries) :
      Outcome w now key (true, { w with emissions := entries })
  | first {entries : List (String × Nat)} (unknown : Keyed.find? key w.emissions = none)
      (renews : Renews (w.prune now) now key entries) :
      Outcome w now key (true, { w with emissions := entries })

theorem prune_subset (w : LogWindow) (now : Nat) : w.prune now ⊆ w.emissions := by
  unfold prune
  split_ifs
  · exact List.filter_subset_self _
  · exact List.Subset.refl _

theorem outcome (w : LogWindow) (now : Nat) (key : String) :
    Outcome w now key (w.letThrough now key) := by
  unfold letThrough
  cases known : Keyed.find? key w.emissions with
  | some last =>
    by_cases early : w.fresh now last = true
    · simp only [early, if_true]
      exact .held known (of_decide_eq_true early)
    · simp only [early, Bool.false_eq_true, if_false]
      refine .again known (Nat.not_lt.mp fun less => early (decide_eq_true less)) ?_
      exact renews_assign w.emissions now key
  | none =>
    refine .first known (renews_cons ?_ now)
    exact Keyed.find?_eq_none_iff.mpr fun p member =>
      Keyed.find?_eq_none_iff.mp known p (w.prune_subset now member)

theorem letThrough_iff_due {w : LogWindow} {before : List Saying} {x : Saying}
    (known : ∀ last, Keyed.find? x.key w.emissions = some last → lastOf x.key before = some last)
    (unknown : Keyed.find? x.key w.emissions = none → Due w.width before x) :
    (w.letThrough x.time x.key).1 = true ↔ Due w.width before x := by
  have outcome := w.outcome x.time x.key
  generalize w.letThrough x.time x.key = answer at outcome ⊢
  cases outcome with
  | held found early => simp [Due, known _ found, early]
  | again found late => simp [Due, known _ found, late]
  | first absent => simpa using unknown absent

/-- A window has not forgotten anything that was let through, all of it under these keys. -/
structure Tracks (keys : List String) (w : LogWindow) (passed : List Saying) : Prop where
  known : ∀ key, Keyed.find? key w.emissions = lastOf key passed
  nodup : (w.emissions.map Prod.fst).Nodup
  within : w.emissions.map Prod.fst ⊆ keys

namespace Tracks

variable {keys : List String} {w : LogWindow} {before : List Saying} {x : Saying}

theorem length_le (tracks : Tracks keys w before) : w.emissions.length ≤ keys.length := by
  have all := (tracks.nodup.subperm tracks.within).length_le
  rwa [List.length_map] at all

theorem prune_eq (tracks : Tracks keys w before) (few : keys.length < crowd) (now : Nat) :
    w.prune now = w.emissions := by
  have bound := tracks.length_le
  rw [prune, if_neg (by omega)]

private theorem through_iff (tracks : Tracks keys w before) :
    (w.letThrough x.time x.key).1 = true ↔ Due w.width before x := by
  refine letThrough_iff_due (fun last found => (tracks.known x.key).symm.trans found) ?_
  intro unknown last found
  rw [← tracks.known, unknown] at found
  cases found

private theorem remembered (tracks : Tracks keys w before) (own : x.key ∈ keys)
    {entries : List (String × Nat)} (renews : Renews w.emissions x.time x.key entries) :
    Tracks keys { w with emissions := entries } (before ++ [x]) := by
  refine ⟨fun key => ?_, renews.nodup tracks.nodup, fun key member => ?_⟩
  · rw [lastOf_snoc, renews.find, tracks.known]
  · rcases (renews.keys key).mp member with rfl | old
    · exact own
    · exact tracks.within old

theorem say (tracks : Tracks keys w before) (few : keys.length < crowd) (own : x.key ∈ keys) :
    Tracks keys (w.letThrough x.time x.key).2
      (before ++ if (w.letThrough x.time x.key).1 then [x] else []) := by
  have outcome := w.outcome x.time x.key
  generalize w.letThrough x.time x.key = answer at outcome ⊢
  cases outcome with
  | held => simpa using tracks
  | again _ _ renews => exact tracks.remembered own renews
  | first _ renews =>
    rw [tracks.prune_eq few] at renews
    exact tracks.remembered own renews

end Tracks

private theorem tracks_new (keys : List String) (width : Nat) : Tracks keys (new width) [] :=
  ⟨fun _ => rfl, List.nodup_nil, by simp [new]⟩

theorem width_letThrough (w : LogWindow) (now : Nat) (key : String) :
    (w.letThrough now key).2.width = w.width := by
  have outcome := w.outcome now key
  generalize w.letThrough now key = answer at outcome ⊢
  cases outcome <;> rfl

theorem width_afterAll (w : LogWindow) (sayings : List Saying) :
    (w.afterAll sayings).width = w.width := by
  induction sayings generalizing w with
  | nil => rfl
  | cons x rest ih => exact (ih _).trans (w.width_letThrough x.time x.key)

private theorem tracks_afterAll {keys : List String} (few : keys.length < crowd) (width : Nat)
    {sayings : List Saying} (own : ∀ x ∈ sayings, x.key ∈ keys) :
    Tracks keys ((new width).afterAll sayings) ((new width).passed sayings) := by
  -- From the end: what the window does to a saying is up to all that was let through before it.
  induction sayings using List.reverseRecOn with
  | nil => exact tracks_new keys width
  | append_singleton before x ih =>
    have tracks := ih fun y member => own y (List.mem_append_left _ member)
    rw [afterAll_append, passed_append]
    have said := tracks.say few (own x (by simp))
    simpa [passed, afterAll] using said

/-- How a window deals with sayings if it never forgets: it stays small, drives nothing out, and lets
exactly those through that are due. -/
structure Rations (bound width : Nat) (sayings : List Saying) : Prop where
  small : ∀ before after, sayings = before ++ after →
    ((new width).afterAll before).emissions.length ≤ bound
  keeps : ∀ before x after, sayings = before ++ x :: after →
    ((new width).afterAll before).prune x.time = ((new width).afterAll before).emissions
  exact : ∀ before x after, sayings = before ++ x :: after →
    ((((new width).afterAll before).letThrough x.time x.key).1 = true ↔
      Due width ((new width).passed before) x)

theorem rations_of_few {keys : List String} (few : keys.length < crowd) (width : Nat)
    {sayings : List Saying} (own : ∀ x ∈ sayings, x.key ∈ keys) :
    Rations keys.length width sayings := by
  have tracks {before after : List Saying} (shape : sayings = before ++ after) :
      Tracks keys ((new width).afterAll before) ((new width).passed before) := by
    refine tracks_afterAll few width fun x member => own x ?_
    rw [shape]
    exact List.mem_append_left after member
  constructor
  · intro before after shape
    exact (tracks shape).length_le
  · intro before x after shape
    exact (tracks shape).prune_eq few x.time
  · intro before x after shape
    have through := (tracks shape).through_iff (x := x)
    rwa [width_afterAll] at through

end LogWindow

end TelemetrySender
