/-!
Values under keys, as a list of pairs in the order in which the keys first came.
-/

set_option autoImplicit false
set_option relaxedAutoImplicit false

namespace TelemetrySender.Keyed

variable {κ ι α β : Type} [DecidableEq κ] [DecidableEq ι]

/-- Replaces the value of a key in place, or appends the pair. -/
def assign (key : κ) (value : α) : List (κ × α) → List (κ × α)
  | [] => [(key, value)]
  | p :: rest => if p.1 = key then (key, value) :: rest else p :: assign key value rest

def find? (key : κ) : List (κ × α) → Option α
  | [] => none
  | p :: rest => if p.1 = key then some p.2 else find? key rest

theorem find?_assign_self (key : κ) (value : α) (entries : List (κ × α)) :
    find? key (assign key value entries) = some value := by
  induction entries with
  | nil => simp [assign, find?]
  | cons p rest ih =>
    unfold assign
    split
    · simp [find?]
    · rename_i other
      simpa [find?, other] using ih

theorem find?_assign_of_ne {key k : κ} (other : k ≠ key) (value : α) (entries : List (κ × α)) :
    find? k (assign key value entries) = find? k entries := by
  induction entries with
  | nil => simp [assign, find?, other.symm]
  | cons p rest ih =>
    unfold assign
    split
    · rename_i same
      simp [find?, same, other.symm]
    · by_cases first : p.1 = k <;> simp [find?, first, ih]

theorem mem_keys_assign (key k : κ) (value : α) (entries : List (κ × α)) :
    k ∈ (assign key value entries).map Prod.fst ↔ k = key ∨ k ∈ entries.map Prod.fst := by
  induction entries with
  | nil => simp [assign]
  | cons p rest ih =>
    unfold assign
    split
    · rename_i same
      simp only [List.map_cons, List.mem_cons, same]
      constructor
      · rintro (h | h)
        · exact .inl h
        · exact .inr (.inr h)
      · rintro (h | h | h)
        · exact .inl h
        · exact .inl h
        · exact .inr h
    · simp only [List.map_cons, List.mem_cons, ih]
      constructor
      · rintro (h | h | h)
        · exact .inr (.inl h)
        · exact .inl h
        · exact .inr (.inr h)
      · rintro (h | h | h)
        · exact .inr (.inl h)
        · exact .inl h
        · exact .inr (.inr h)

theorem nodup_keys_assign (key : κ) (value : α) {entries : List (κ × α)}
    (nodup : (entries.map Prod.fst).Nodup) :
    ((assign key value entries).map Prod.fst).Nodup := by
  induction entries with
  | nil => simp [assign]
  | cons p rest ih =>
    simp only [List.map_cons, List.nodup_cons] at nodup
    unfold assign
    split
    · rename_i same
      simpa [← same] using nodup
    · rename_i other
      simp only [List.map_cons, List.nodup_cons, mem_keys_assign, not_or]
      exact ⟨⟨other, nodup.1⟩, ih nodup.2⟩

theorem find?_append (key : κ) (first second : List (κ × α)) :
    find? key (first ++ second) = (find? key first).or (find? key second) := by
  induction first with
  | nil => rfl
  | cons p rest ih =>
    rw [List.cons_append, find?, find?]
    split
    · rfl
    · exact ih

theorem find?_eq_none_iff {key : κ} {entries : List (κ × α)} :
    find? key entries = none ↔ ∀ p ∈ entries, p.1 ≠ key := by
  induction entries with
  | nil => simp [find?]
  | cons p rest ih =>
    rw [find?, List.forall_mem_cons]
    split
    · rename_i same
      exact ⟨fun found => (nomatch found), fun absent => absurd same absent.1⟩
    · rename_i other
      rw [ih]
      exact ⟨fun absent => ⟨other, absent⟩, And.right⟩

theorem mem_of_find? {key : κ} {value : α} {entries : List (κ × α)}
    (found : find? key entries = some value) : (key, value) ∈ entries := by
  induction entries with
  | nil => cases found
  | cons p rest ih =>
    rw [find?] at found
    split at found
    · rename_i same
      obtain rfl := Option.some.inj found
      rw [← same]
      exact List.mem_cons_self
    · exact List.mem_cons_of_mem p (ih found)

theorem find?_filter (key : κ) (p : κ × α → Bool) {entries : List (κ × α)}
    (nodup : (entries.map Prod.fst).Nodup) :
    find? key (entries.filter p) = (find? key entries).filter fun value => p (key, value) := by
  induction entries with
  | nil => rfl
  | cons e rest ih =>
    obtain ⟨own, value⟩ := e
    rw [List.map_cons, List.nodup_cons] at nodup
    by_cases same : own = key
    · subst same
      have absent : find? own rest = none := by
        refine find?_eq_none_iff.mpr fun q member twice => nodup.1 ?_
        exact List.mem_map.mpr ⟨q, member, twice⟩
      cases picked : p (own, value) <;>
        simp [find?, picked, ih nodup.2, absent, Option.filter_some]
    · cases picked : p (own, value) <;> simp [find?, picked, same, ih nodup.2]

theorem find?_map (name : κ → ι) (inj : ∀ a b, name a = name b → a = b) (read : α → β) (key : κ)
    (entries : List (κ × α)) :
    find? (name key) (entries.map fun p => (name p.1, read p.2)) = (find? key entries).map read := by
  induction entries with
  | nil => rfl
  | cons p rest ih =>
    rw [List.map_cons, find?, find?]
    by_cases same : p.1 = key
    · rw [if_pos same, if_pos (congrArg name same)]
      rfl
    · rw [if_neg same, if_neg fun names => same (inj _ _ names), ih]

end TelemetrySender.Keyed
