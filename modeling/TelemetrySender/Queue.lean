/-!
First-in first-out queues.  A queue is seen as the list of its elements, the oldest first; it is
held as two lists so that adding an element takes constant time.
-/

set_option autoImplicit false
set_option relaxedAutoImplicit false

namespace TelemetrySender

structure Queue (α : Type) where
  front : List α
  back : List α
  size : Nat
  size_eq : size = front.length + back.length

namespace Queue

variable {α : Type}

def empty : Queue α := ⟨[], [], 0, rfl⟩

def toList (q : Queue α) : List α :=
  q.front ++ q.back.reverse

def ofList (l : List α) : Queue α := ⟨l, [], l.length, rfl⟩

def push (q : Queue α) (a : α) : Queue α :=
  ⟨q.front, a :: q.back, q.size + 1, by simp [q.size_eq, Nat.add_assoc]⟩

def append (q : Queue α) (l : List α) : Queue α := l.foldl push q

def pop? (q : Queue α) : Option (α × Queue α) :=
  match q.toList with
  | [] => none
  | a :: rest => some (a, ofList rest)

@[simp] theorem toList_ofList (l : List α) : (ofList l).toList = l := by
  simp [ofList, toList]

@[simp] theorem toList_push (q : Queue α) (a : α) : (q.push a).toList = q.toList ++ [a] := by
  simp [push, toList]

theorem size_eq_length (q : Queue α) : q.size = q.toList.length := by
  simp [toList, q.size_eq]

@[simp] theorem size_ofList (l : List α) : (ofList l).size = l.length := rfl

@[simp] theorem toList_append (q : Queue α) (l : List α) :
    (q.append l).toList = q.toList ++ l := by
  induction l generalizing q with
  | nil => simp [append]
  | cons a rest ih =>
    have step := ih (q.push a)
    rw [toList_push, List.append_assoc] at step
    exact step

@[simp] theorem size_append (q : Queue α) (l : List α) :
    (q.append l).size = q.size + l.length := by
  rw [size_eq_length, toList_append, List.length_append, ← size_eq_length]

theorem pop?_eq_none_iff (q : Queue α) : q.pop? = none ↔ q.toList = [] := by
  unfold pop?
  split <;> simp_all

theorem pop?_eq_some_iff (q : Queue α) (a : α) (rest : Queue α) :
    q.pop? = some (a, rest) ↔ ∃ l, q.toList = a :: l ∧ rest = ofList l := by
  unfold pop?
  split
  · simp_all
  · rename_i b l h
    simp only [h, Option.some.injEq, Prod.mk.injEq, List.cons.injEq]
    constructor
    · rintro ⟨rfl, rfl⟩
      exact ⟨l, ⟨rfl, rfl⟩, rfl⟩
    · rintro ⟨m, ⟨rfl, rfl⟩, rfl⟩
      exact ⟨rfl, rfl⟩

theorem size_le_of_pop? {q rest : Queue α} {a : α} (popped : q.pop? = some (a, rest)) :
    rest.size ≤ q.size := by
  obtain ⟨l, shape, rfl⟩ := (q.pop?_eq_some_iff a rest).mp popped
  rw [q.size_eq_length, shape, size_ofList, List.length_cons]
  omega

end Queue

end TelemetrySender
