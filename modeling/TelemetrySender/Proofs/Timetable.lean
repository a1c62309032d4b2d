import TelemetrySender.Proofs.Punctual

/-!
The timetable of an exporter: the calls that are made, and between them the cycles that are due.  It
depends on when calls are made and on how much time is slept in total, not on the sleeps that the
time is made up of.
-/

set_option autoImplicit false
set_option relaxedAutoImplicit false

namespace TelemetrySender.Exporter

namespace Action

def call? : Action → Option Call
  | call c => some c
  | sleep _ => none

def takes : Action → Nat
  | call _ => 0
  | sleep duration => min duration longestWait

end Action

def slept (actions : List Action) : Nat := (actions.map Action.takes).sum

def timedCalls (now : Nat) : List Action → List (Nat × Call)
  | [] => []
  | .call c :: rest => (now, c) :: timedCalls now rest
  | .sleep duration :: rest => timedCalls (now + min duration longestWait) rest

/-- The cycles that are due after one time and up to another; none if the signal was given. -/
def cyclesWithin (pause : Nat) (told : Bool) (after upTo : Nat) : List Move :=
  if told then []
  else (List.range' (cyclesBy pause after) (cyclesBy pause upTo - cyclesBy pause after)).map
    fun n => .cycle (cycleTime pause n)

/-- The timetable of an exporter: calls that are made at given times, and between them the cycles
that are due, up to a last time. -/
def timetable (pause last : Nat) (told : Bool) (now : Nat) : List (Nat × Call) → List Move
  | [] => cyclesWithin pause told now last
  | (time, c) :: rest =>
    cyclesWithin pause told now time ++ .call c :: timetable pause last (told || c.closes) time rest

section Splitting

variable {pause : Nat}

theorem cyclesWithin_append (pos : 0 < pause) (told : Bool) {a b c : Nat} (ab : a ≤ b) (bc : b ≤ c) :
    cyclesWithin pause told a b ++ cyclesWithin pause told b c = cyclesWithin pause told a c := by
  have first := cyclesBy_mono pos ab
  have second := cyclesBy_mono pos bc
  unfold cyclesWithin
  cases told with
  | true => rfl
  | false =>
    have joint : cyclesBy pause b =
        cyclesBy pause a + (cyclesBy pause b - cyclesBy pause a) := by
      omega
    have total : cyclesBy pause b - cyclesBy pause a + (cyclesBy pause c - cyclesBy pause b) =
        cyclesBy pause c - cyclesBy pause a := by
      omega
    simp only [Bool.false_eq_true, if_false]
    rw [← List.map_append, ← total, ← List.range'_append_1, ← joint]

theorem cyclesWithin_self (pause : Nat) (told : Bool) (now : Nat) :
    cyclesWithin pause told now now = [] := by
  unfold cyclesWithin
  split_ifs
  · rfl
  · rw [Nat.sub_self]
    rfl

theorem closes_cyclesWithin (pause : Nat) (told : Bool) (after upTo : Nat) :
    (cyclesWithin pause told after upTo).any Move.closes = false := by
  unfold cyclesWithin
  split_ifs
  · rfl
  · rw [List.any_map]
    exact List.any_eq_false.mpr fun _ _ => Bool.false_ne_true

theorem le_of_mem_timedCalls {now : Nat} {actions : List Action} {timed : Nat × Call}
    (member : timed ∈ timedCalls now actions) : now ≤ timed.1 := by
  induction actions generalizing now with
  | nil => cases member
  | cons action rest ih =>
    cases action with
    | call c =>
      rcases List.mem_cons.mp member with rfl | later
      · exact Nat.le_refl now
      · exact ih later
    | sleep duration => exact (Nat.le_add_right now _).trans (ih member)

theorem timetable_split (pos : 0 < pause) (told : Bool) {now mid last : Nat} (passed : now ≤ mid)
    (left : mid ≤ last) {timed : List (Nat × Call)} (later : ∀ t ∈ timed, mid ≤ t.1) :
    cyclesWithin pause told now mid ++ timetable pause last told mid timed =
      timetable pause last told now timed := by
  cases timed with
  | nil => exact cyclesWithin_append pos told passed left
  | cons first rest =>
    have mid_le := later first List.mem_cons_self
    rw [timetable, timetable, ← List.append_assoc, cyclesWithin_append pos told passed mid_le]

end Splitting

/-- The timetable of an exporter from its start on. -/
def plan (interval : Nat) (actions : List Action) : List Move :=
  timetable (min interval longestWait) (slept actions) false 0 (timedCalls 0 actions)

section Calls

theorem calls_cyclesWithin (pause : Nat) (told : Bool) (after upTo : Nat) :
    (cyclesWithin pause told after upTo).filterMap Move.call? = [] := by
  unfold cyclesWithin
  split_ifs
  · rfl
  · rw [List.filterMap_map, List.filterMap_eq_nil_iff]
    intro n _
    rfl

theorem calls_timetable (pause last : Nat) (told : Bool) (now : Nat) (timed : List (Nat × Call)) :
    (timetable pause last told now timed).filterMap Move.call? = timed.map Prod.snd := by
  induction timed generalizing told now with
  | nil => exact calls_cyclesWithin pause told now last
  | cons first rest ih =>
    rw [timetable, List.filterMap_append, calls_cyclesWithin, List.nil_append]
    exact congrArg (first.2 :: ·) (ih _ _)

theorem calls_timedCalls (now : Nat) (actions : List Action) :
    (timedCalls now actions).map Prod.snd = actions.filterMap Action.call? := by
  induction actions generalizing now with
  | nil => rfl
  | cons action rest ih =>
    cases action with
    | call c => exact congrArg (c :: ·) (ih now)
    | sleep duration => exact ih _

theorem calls_plan (interval : Nat) (actions : List Action) :
    (plan interval actions).filterMap Move.call? = actions.filterMap Action.call? := by
  rw [plan, calls_timetable, calls_timedCalls]

theorem call_mem_plan {interval : Nat} {actions : List Action} {c : Call} :
    .call c ∈ plan interval actions ↔ .call c ∈ actions := by
  have move : .call c ∈ plan interval actions ↔
      c ∈ (plan interval actions).filterMap Move.call? := by
    rw [List.mem_filterMap]
    constructor
    · intro member
      exact ⟨.call c, member, rfl⟩
    · rintro ⟨m, member, call⟩
      cases m with
      | call d => exact Option.some.inj call ▸ member
      | cycle time => cases call
  have action : .call c ∈ actions ↔ c ∈ actions.filterMap Action.call? := by
    rw [List.mem_filterMap]
    constructor
    · intro member
      exact ⟨.call c, member, rfl⟩
    · rintro ⟨a, member, call⟩
      cases a with
      | call d => exact Option.some.inj call ▸ member
      | sleep duration => cases call
  rw [move, action, calls_plan]

end Calls

end TelemetrySender.Exporter
