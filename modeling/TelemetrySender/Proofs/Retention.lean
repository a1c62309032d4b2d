import Mathlib.Data.List.Dedup
import Mathlib.Data.List.MinMax
import Mathlib.Order.Bounds.Basic
import Mathlib.Order.Nat
import TelemetrySender.Proofs.Pruning

/-!
How many keys a window holds.  Keys are driven out only when a new one meets a crowd, so a window may hold
stale keys for long; but it never holds more than a crowd of them, unless more than that were let through
in a span of time shorter than its width.
-/

set_option autoImplicit false
set_option relaxedAutoImplicit false

namespace TelemetrySender.LogWindow

def keysWithin (since til : Nat) (sayings : List Saying) : List String :=
  ((sayings.filter fun x => decide (since ≤ x.time ∧ x.time ≤ til)).map Saying.key).dedup

/-- The most keys of sayings in a span of time that is shorter than `width` and over by `now`. -/
def busiest (width now : Nat) (sayings : List Saying) : Nat :=
  ((List.range (now + 1)).map fun til => (keysWithin (til + 1 - width) til sayings).length).foldr max 0

section Spans

variable {since til width now : Nat} {sayings : List Saying}

theorem mem_keysWithin {key : String} :
    key ∈ keysWithin since til sayings ↔
      ∃ x ∈ sayings, x.key = key ∧ since ≤ x.time ∧ x.time ≤ til := by
  simp only [keysWithin, List.mem_dedup, List.mem_map, List.mem_filter, decide_eq_true_eq]
  constructor
  · rintro ⟨x, ⟨member, inside⟩, same⟩
    exact ⟨x, member, same, inside⟩
  · rintro ⟨x, member, same, inside⟩
    exact ⟨x, ⟨member, inside⟩, same⟩

/-- Keys that differ are no more than those of a span that has them all. -/
theorem length_le_keysWithin {keys : List String} (nodup : keys.Nodup)
    (within : keys ⊆ keysWithin since til sayings) :
    keys.length ≤ (keysWithin since til sayings).length :=
  (nodup.subperm within).length_le

theorem keysWithin_le (wider : List Saying) {early : Nat} (earlier : early ≤ since)
    (more : sayings ⊆ wider) :
    (keysWithin since til sayings).length ≤ (keysWithin early til wider).length := by
  refine length_le_keysWithin (List.nodup_dedup _) fun key member => ?_
  obtain ⟨x, inside, same, late, ended⟩ := mem_keysWithin.mp member
  exact mem_keysWithin.mpr ⟨x, more inside, same, earlier.trans late, ended⟩

theorem keysWithin_le_busiest (short : til - since < width) (ended : til ≤ now) :
    (keysWithin since til sayings).length ≤ busiest width now sayings := by
  have widest : (keysWithin (til + 1 - width) til sayings).length ≤ busiest width now sayings :=
    List.le_max_of_le (List.mem_map.mpr ⟨til, List.mem_range.mpr (Nat.lt_succ_of_le ended), rfl⟩)
      (Nat.le_refl _)
  exact (keysWithin_le sayings (by omega) (List.Subset.refl _)).trans widest

theorem busiest_le {most : Nat}
    (all : ∀ since til, since ≤ til → til ≤ now → til - since < width →
      (keysWithin since til sayings).length ≤ most) :
    busiest width now sayings ≤ most := by
  refine List.max_le_of_forall_le _ most fun n member => ?_
  obtain ⟨til, inside, rfl⟩ := List.mem_map.mp member
  have ended : til ≤ now := Nat.le_of_lt_succ (List.mem_range.mp inside)
  rcases Nat.eq_zero_or_pos width with none | some
  · have empty : keysWithin (til + 1 - width) til sayings = [] := by
      refine List.eq_nil_iff_forall_not_mem.mpr fun key member => ?_
      obtain ⟨x, -, -, late, early⟩ := mem_keysWithin.mp member
      omega
    rw [empty]
    exact Nat.zero_le most
  · exact all _ til (by omega) ended (by omega)

theorem busiest_isLUB : IsLUB {n | ∃ since til, since ≤ til ∧ til ≤ now ∧ til - since < width ∧
    n = (keysWithin since til sayings).length} (busiest width now sayings) := by
  constructor
  · rintro n ⟨since, til, -, ended, short, rfl⟩
    exact keysWithin_le_busiest short ended
  · intro most bound
    exact busiest_le fun since til forward ended short => bound ⟨since, til, forward, ended, short, rfl⟩

theorem busiest_mono {later : Nat} {wider : List Saying} (onward : now ≤ later)
    (more : sayings ⊆ wider) : busiest width now sayings ≤ busiest width later wider := by
  refine busiest_le fun since til _ ended short => ?_
  exact (keysWithin_le wider (Nat.le_refl since) more).trans
    (keysWithin_le_busiest short (ended.trans onward))

end Spans

theorem Renews.length_le {kept entries : List (String × Nat)} {now : Nat} {key : String}
    (renews : Renews kept now key entries) (nodup : (kept.map Prod.fst).Nodup) {keys : List String}
    (own : key ∈ keys) (others : kept.map Prod.fst ⊆ keys) : entries.length ≤ keys.length := by
  have within : entries.map Prod.fst ⊆ keys := by
    intro k member
    rcases (renews.keys k).mp member with rfl | old
    · exact own
    · exact others old
  have all := ((renews.nodup nodup).subperm within).length_le
  rwa [List.length_map] at all

theorem Remembers.recent {w : LogWindow} {before : List Saying} {now : Nat}
    (remembers : Remembers w before now) (crowded : crowd ≤ w.emissions.length) {key : String}
    (kept : key ∈ (w.prune now).map Prod.fst) :
    ∃ y ∈ before, y.key = key ∧ now - y.time < w.width := by
  have pruned : w.prune now = w.emissions.filter fun e => w.fresh now e.2 := by
    rw [LogWindow.prune, if_pos crowded]
  have found : Keyed.find? key (w.prune now) ≠ none := by
    intro none
    obtain ⟨p, member, same⟩ := List.mem_map.mp kept
    exact Keyed.find?_eq_none_iff.mp none p member same
  obtain ⟨last, known⟩ := Option.ne_none_iff_exists'.mp found
  obtain ⟨y, member, same, rfl⟩ := mem_of_lastOf (remembers.prune.known key last known)
  have entry := Keyed.mem_of_find? known
  rw [pruned, List.mem_filter] at entry
  exact ⟨y, member, same, of_decide_eq_true entry.2⟩

theorem Remembers.length_first {w : LogWindow} {before : List Saying} {x : Saying}
    (remembers : Remembers w before x.time) (past : ∀ y ∈ before, y.time ≤ x.time)
    {entries : List (String × Nat)} (renews : Renews (w.prune x.time) x.time x.key entries) :
    entries.length ≤ max crowd (busiest w.width x.time (before ++ [x])) := by
  have nodup := remembers.prune.nodup
  have oneMore : entries.length ≤ (w.prune x.time).length + 1 := by
    have all : entries.length ≤ (x.key :: (w.prune x.time).map Prod.fst).length :=
      renews.length_le nodup List.mem_cons_self (List.subset_cons_self _ _)
    rwa [List.length_cons, List.length_map] at all
  rcases Nat.lt_or_ge w.emissions.length crowd with room | crowded
  · rw [LogWindow.prune, if_neg (Nat.not_le.mpr room)] at oneMore
    omega
  -- All that is kept is fresh; without any width, nothing is.
  rcases Nat.eq_zero_or_pos w.width with narrow | wide
  · have empty : w.prune x.time = [] := by
      rw [LogWindow.prune, if_pos crowded, List.filter_eq_nil_iff]
      intro e _
      simp [fresh, narrow]
    rw [empty, List.length_nil] at oneMore
    have filled : 1 ≤ crowd := by decide
    omega
  · have own : x.key ∈ keysWithin (x.time + 1 - w.width) x.time (before ++ [x]) :=
      mem_keysWithin.mpr ⟨x, by simp, rfl, by omega, Nat.le_refl _⟩
    have others : (w.prune x.time).map Prod.fst ⊆
        keysWithin (x.time + 1 - w.width) x.time (before ++ [x]) := by
      intro key kept
      obtain ⟨y, member, same, late⟩ := remembers.recent crowded kept
      have ended := past y member
      exact mem_keysWithin.mpr ⟨y, List.mem_append_left [x] member, same, by omega, ended⟩
    have bound := renews.length_le nodup own others
    have busy : (keysWithin (x.time + 1 - w.width) x.time (before ++ [x])).length ≤
        busiest w.width x.time (before ++ [x]) :=
      keysWithin_le_busiest (by omega) (Nat.le_refl _)
    omega

theorem Remembers.length_say {w : LogWindow} {before : List Saying} {x : Saying}
    (remembers : Remembers w before x.time) (past : ∀ y ∈ before, y.time ≤ x.time)
    (bound : w.emissions.length ≤ max crowd (busiest w.width x.time before)) :
    (w.letThrough x.time x.key).2.emissions.length ≤
      max crowd (busiest w.width x.time
        (before ++ if (w.letThrough x.time x.key).1 then [x] else [])) := by
  have more : busiest w.width x.time before ≤ busiest w.width x.time (before ++ [x]) :=
    busiest_mono (Nat.le_refl _) (List.subset_append_left before [x])
  have outcome := w.outcome x.time x.key
  generalize w.letThrough x.time x.key = answer at outcome ⊢
  cases outcome with
  | held => simpa using bound
  | @again last entries known late renews =>
    have own : x.key ∈ w.emissions.map Prod.fst :=
      List.mem_map.mpr ⟨_, Keyed.mem_of_find? known, rfl⟩
    have same := renews.length_le remembers.nodup own (List.Subset.refl _)
    rw [List.length_map] at same
    change entries.length ≤ max crowd (busiest w.width x.time (before ++ [x]))
    omega
  | first unknown renews => exact remembers.length_first past renews

theorem length_afterAll (width : Nat) {sayings : List Saying} (order : InOrder sayings) {now : Nat}
    (latest : ∀ x ∈ sayings, x.time ≤ now) :
    ((new width).afterAll sayings).emissions.length ≤
      max crowd (busiest width now ((new width).passed sayings)) := by
  induction sayings using List.reverseRecOn generalizing now with
  | nil => exact Nat.zero_le _
  | append_singleton before x ih =>
    have past : ∀ y ∈ (new width).passed before, y.time ≤ x.time :=
      fun y member => order.le y ((passed_sublist _ _).subset member)
    have remembers := remembers_afterAll width order.start order.le
    have bound := ih order.start order.le
    have said := remembers.length_say past (by rwa [width_afterAll])
    rw [width_afterAll] at said
    have onward : x.time ≤ now := latest x (by simp)
    rw [afterAll_append, passed_append]
    refine said.trans (max_le_max (Nat.le_refl crowd) ?_)
    rw [passed, passed, List.append_nil]
    exact busiest_mono onward (List.Subset.refl _)

/-- How much a window holds of sayings, at any time: every key once, and no more of them than make a
crowd or than were let through in a span of time shorter than its width. -/
structure Retains (width : Nat) (sayings : List Saying) : Prop where
  once : ∀ before after, sayings = before ++ after →
    (((new width).afterAll before).emissions.map Prod.fst).Nodup
  most : ∀ before x after, sayings = before ++ x :: after →
    ((new width).afterAll (before ++ [x])).emissions.length ≤
      max crowd (busiest width x.time ((new width).passed (before ++ [x])))
  largest : ∀ before x after, sayings = before ++ x :: after →
    IsLUB {n | ∃ since til, since ≤ til ∧ til ≤ x.time ∧ til - since < width ∧
        n = (keysWithin since til ((new width).passed (before ++ [x]))).length}
      (busiest width x.time ((new width).passed (before ++ [x])))
  few : (∀ since til, since ≤ til → til - since < width →
      (keysWithin since til ((new width).passed sayings)).length ≤ crowd) →
    ∀ before after, sayings = before ++ after →
      ((new width).afterAll before).emissions.length ≤ crowd

theorem InOrder.le_last {before : List Saying} {x : Saying} (order : InOrder (before ++ [x])) :
    ∀ y ∈ before ++ [x], y.time ≤ x.time := by
  intro y member
  rcases List.mem_append.mp member with old | own
  · exact order.le y old
  · rw [List.mem_singleton.mp own]

theorem InOrder.exists_latest {sayings : List Saying} (order : InOrder sayings) :
    ∃ now, ∀ x ∈ sayings, x.time ≤ now := by
  rcases List.eq_nil_or_concat' sayings with rfl | ⟨before, x, rfl⟩
  · exact ⟨0, by simp⟩
  · exact ⟨x.time, order.le_last⟩

theorem length_le_crowd (width : Nat) {before after : List Saying}
    (order : InOrder (before ++ after))
    (few : ∀ since til, since ≤ til → til - since < width →
      (keysWithin since til ((new width).passed (before ++ after))).length ≤ crowd) :
    ((new width).afterAll before).emissions.length ≤ crowd := by
  have start : InOrder before := (List.pairwise_append.mp order).1
  obtain ⟨now, latest⟩ := start.exists_latest
  have bound := length_afterAll width start latest
  have quiet : busiest width now ((new width).passed before) ≤ crowd := by
    refine busiest_le fun since til forward _ short => ?_
    refine (keysWithin_le _ (Nat.le_refl since) ?_).trans (few since til forward short)
    rw [passed_append]
    exact List.subset_append_left _ _
  omega

/-- Sayings in order, however many keys they have. -/
theorem InOrder.retains (width : Nat) {sayings : List Saying} (order : InOrder sayings) :
    Retains width sayings := by
  constructor
  · rintro before after rfl
    have start : InOrder before := (List.pairwise_append.mp order).1
    obtain ⟨now, latest⟩ := start.exists_latest
    exact (remembers_afterAll width start latest).nodup
  · rintro before x after rfl
    have shape : before ++ x :: after = (before ++ [x]) ++ after := by simp
    have start : InOrder (before ++ [x]) := (List.pairwise_append.mp (shape ▸ order)).1
    exact length_afterAll width start start.le_last
  · intro before x after _
    exact busiest_isLUB
  · rintro few before after rfl
    exact length_le_crowd width order few

theorem crowded_retains : InOrder crowded ∧ Retains 5 crowded :=
  ⟨inOrder_crowded, inOrder_crowded.retains 5⟩

end TelemetrySender.LogWindow
