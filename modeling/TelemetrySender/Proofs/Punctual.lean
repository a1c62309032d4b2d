import TelemetrySender.Proofs.Loop

/-!
Punctuality.  The first cycle of a loop is due one second after the start, and every later one a pause
after the one before.  As long as nobody closes, the cycles that are due by a time are those that have
run by then, each at its time, whatever is called meanwhile and whatever the transport answers.
-/

set_option autoImplicit false
set_option relaxedAutoImplicit false

namespace TelemetrySender.Exporter

variable {σ : Type}

def cycleTime (pause n : Nat) : Nat := firstDelay + n * pause

def cyclesBy (pause time : Nat) : Nat :=
  if time < firstDelay then 0 else 1 + (time - firstDelay) / pause

section Times

variable {pause : Nat}

theorem cycleTime_zero (pause : Nat) : cycleTime pause 0 = firstDelay := by
  rw [cycleTime, Nat.zero_mul, Nat.add_zero]

theorem cycleTime_succ (pause n : Nat) : cycleTime pause (n + 1) = cycleTime pause n + pause := by
  rw [cycleTime, cycleTime, Nat.add_mul, Nat.one_mul, Nat.add_assoc]

theorem cycleTime_le_iff (pos : 0 < pause) (n time : Nat) :
    cycleTime pause n ≤ time ↔ n < cyclesBy pause time := by
  unfold cycleTime cyclesBy
  split_ifs with early
  · omega
  · have reach : n * pause ≤ time - firstDelay ↔ n ≤ (time - firstDelay) / pause :=
      (Nat.le_div_iff_mul_le pos).symm
    omega

theorem cyclesBy_mono (pos : 0 < pause) {time later : Nat} (le : time ≤ later) :
    cyclesBy pause time ≤ cyclesBy pause later := by
  by_contra fewer
  have due := (cycleTime_le_iff pos (cyclesBy pause later) time).mpr (by omega)
  have before := (cycleTime_le_iff pos (cyclesBy pause later) later).mp (due.trans le)
  omega

end Times

def Stage.Awaits (due clock : Nat) : Stage → Prop
  | .first time => time = due ∧ clock ≤ due
  | .periodic time => time = due ∧ clock ≤ due
  | .looking => clock = due
  | .cycling => clock = due
  | .stopped => False

def Stage.Settled (clock : Nat) : Stage → Prop
  | .first due => clock < due
  | .periodic due => clock < due
  | .stopped => True
  | _ => False

namespace Loop

variable {pause n : Nat} {l l' last : Loop σ} {moves : List Move} {move : Option Move}

/-- The invariant: of all cycles, those before number `n` have run. -/
structure OnTime (pause n : Nat) (l : Loop σ) : Prop where
  next : l.stage.Awaits (cycleTime pause n) l.clock
  past : ∀ m < n, cycleTime pause m ≤ l.clock

theorem OnTime.start (pause : Nat) (sender : Sender σ) : OnTime pause 0 (.start sender) := by
  constructor
  · exact ⟨(cycleTime_zero pause).symm, Nat.zero_le _⟩
  · intro m before
    exact absurd before (Nat.not_lt_zero m)

/-- Unless the signal was given, a step keeps on time, and the cycle that it runs is the next. -/
theorem OnTime.step (onTime : OnTime pause n l) (step : Step pause l move l')
    (on : l'.sender.closing = false) :
    (OnTime pause n l' ∧ move.toList.filterMap Move.time? = []) ∨
      (OnTime pause (n + 1) l' ∧ move = some (.cycle (cycleTime pause n))) := by
  obtain ⟨next, past⟩ := onTime
  cases step with
  | call c => exact .inl ⟨⟨next, past⟩, rfl⟩
  | @passes time later waits =>
    refine .inl ⟨⟨?_, fun m before => (past m before).trans later⟩, rfl⟩
    obtain ⟨sender, clock, stage⟩ := l
    cases stage with
    | first due => exact ⟨next.1, next.1 ▸ waits⟩
    | periodic due => exact ⟨next.1, next.1 ▸ waits⟩
    | looking => cases waits
    | cycling => cases waits
    | stopped => cases next
  | fires due =>
    refine .inl ⟨⟨?_, past⟩, rfl⟩
    obtain ⟨sender, clock, stage⟩ := l
    cases stage with
    | first time => exact Nat.le_antisymm next.2 (next.1 ▸ due)
    | periodic time => exact Nat.le_antisymm next.2 (next.1 ▸ due)
    | looking => cases due
    | cycling => cases due
    | stopped => cases due
  | toldFirst first told =>
    have off : l.sender.closing = false := on
    exact absurd told (by simp [off])
  | told periodic told =>
    have off : l.sender.closing = false := on
    exact absurd told (by simp [off])
  | goesOn looking =>
    rw [looking] at next
    exact .inl ⟨⟨next, past⟩, rfl⟩
  | leaves looking told =>
    have off : l.sender.closing = false := on
    exact absurd told (by simp [off])
  | cycles cycling =>
    rw [closing_cycle] at on
    rw [cycling] at next
    have now : l.clock = cycleTime pause n := next
    refine .inr ⟨⟨⟨?_, ?_⟩, ?_⟩, ?_⟩
    · rw [cycleTime_succ, now]
    · rw [cycleTime_succ, now]
      exact Nat.le_add_right _ _
    · intro m before
      rcases Nat.lt_succ_iff_lt_or_eq.mp before with earlier | rfl
      · exact past m earlier
      · exact now.ge
    · rw [on, if_neg Bool.false_ne_true, now]

theorem Run.onTime {sender : Sender σ} (run : Run pause (.start sender) moves last)
    (on : last.sender.closing = false) :
    ∃ n, OnTime pause n last ∧
      moves.filterMap Move.time? = (List.range n).map (cycleTime pause) := by
  induction run with
  | still => exact ⟨0, .start pause sender, rfl⟩
  | @more moves move l l' run step ih =>
    have before : l.sender.closing = false := by
      have given := (Run.single step).closing
      rw [on] at given
      exact (Bool.or_eq_false_iff.mp given.symm).1
    obtain ⟨n, onTime, times⟩ := ih before
    rw [List.filterMap_append, times]
    rcases onTime.step step on with ⟨still, quiet⟩ | ⟨next, rfl⟩
    · exact ⟨n, still, by rw [quiet, List.append_nil]⟩
    · refine ⟨n + 1, next, ?_⟩
      rw [List.range_succ, List.map_append]
      rfl

theorem OnTime.cyclesBy_eq (pos : 0 < pause) (onTime : OnTime pause n l)
    (settled : l.stage.Settled l.clock) : cyclesBy pause l.clock = n := by
  have early : l.clock < cycleTime pause n := by
    obtain ⟨next, -⟩ := onTime
    obtain ⟨sender, clock, stage⟩ := l
    cases stage with
    | first due => exact next.1 ▸ settled
    | periodic due => exact next.1 ▸ settled
    | looking => cases settled
    | cycling => cases settled
    | stopped => cases next
  have notMore : ¬ n < cyclesBy pause l.clock := by
    rw [← cycleTime_le_iff pos]
    exact Nat.not_le.mpr early
  cases n with
  | zero => omega
  | succ m =>
    have last := (cycleTime_le_iff pos m l.clock).mp (onTime.past m (Nat.lt_succ_self m))
    omega

end Loop

/-- What every execution of a loop comes to. -/
structure Loop.Scheduled (pause : Nat) (sender : Sender σ) (moves : List Move) (last : Loop σ) :
    Prop where
  times : (∀ m ∈ moves, m.closes = false) → last.stage.Settled last.clock →
    moves.filterMap Move.time? = (List.range (cyclesBy pause last.clock)).map (cycleTime pause)
  explicit : SameButLog (sender.run (moves.map Move.toCall)) last.sender
  silent : moves.Pairwise fun earlier later => earlier.closes = true → later.time? = none

theorem Loop.Run.scheduled {pause : Nat} (pos : 0 < pause) {sender : Sender σ}
    (on : sender.closing = false) {moves : List Move} {last : Loop σ}
    (run : Loop.Run pause (.start sender) moves last) : Loop.Scheduled pause sender moves last where
  times := by
    intro none settled
    have stillOn : last.sender.closing = false := by
      have given := run.closing
      have quiet : moves.any Move.closes = false := by
        rw [List.any_eq_false]
        intro m member
        simp [none m member]
      rw [quiet, Bool.or_false] at given
      exact given.trans on
    obtain ⟨n, onTime, times⟩ := run.onTime stillOn
    rw [times, onTime.cyclesBy_eq pos settled]
  explicit := run.sameButLog
  silent := run.silent

end TelemetrySender.Exporter
