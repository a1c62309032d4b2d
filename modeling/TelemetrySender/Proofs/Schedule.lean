import TelemetrySender.Proofs.Timetable
import TelemetrySender.Transport.Scripted

/-!
Exporters run on schedule.  An exporter is one way for its loop to go, in which all that is due is
done before anything is called and before time passes on.  So what it does is on its timetable: its
cycles run at their times and are scheduled flushes.  The times are a pause apart: the interval, but
thirty years at most.
-/

set_option autoImplicit false
set_option relaxedAutoImplicit false

namespace TelemetrySender.Exporter

variable {σ : Type}

/-- The phase of an exporter all of whose cycles before number `n` have run. -/
def phaseBefore (pause n : Nat) : Phase :=
  if n = 0 then .first (cycleTime pause n) else .periodic (cycleTime pause n)

def Stage.ofPhase : Phase → Stage
  | .first due => .first due
  | .periodic due => .periodic due
  | .stopped => .stopped

theorem waits_phaseBefore {pause n time : Nat} (early : time ≤ cycleTime pause n) :
    (Stage.ofPhase (phaseBefore pause n)).Waits time := by
  unfold phaseBefore
  split_ifs
  · exact early
  · exact early

theorem fires_phaseBefore (pause n : Nat) :
    (Stage.ofPhase (phaseBefore pause n)).Fires (cycleTime pause n) := by
  unfold phaseBefore
  split_ifs
  · exact Nat.le_refl _
  · exact Nat.le_refl _

theorem settled_phaseBefore {pause n time : Nat} (early : time < cycleTime pause n) :
    (Stage.ofPhase (phaseBefore pause n)).Settled time := by
  unfold phaseBefore
  split_ifs
  · exact early
  · exact early

def toLoop (e : Exporter σ) : Loop σ := ⟨e.sender, e.elapsed, .ofPhase e.phase⟩

/-- Between actions an exporter is prompt: it has done all that is due. -/
def Prompt (e : Exporter σ) : Prop :=
  e.phase = if e.sender.closing then .stopped else phaseBefore e.pause (cyclesBy e.pause e.elapsed)

/-- An exporter comes from one prompt state to another, with these moves. -/
structure Goes (e : Exporter σ) (moves : List Move) (e' : Exporter σ) : Prop where
  run : Loop.Run e.pause e.toLoop moves e'.toLoop
  interval : e'.interval = e.interval
  prompt : e'.Prompt

section Prompt

variable {e e' e'' : Exporter σ} {moves later : List Move}

theorem Goes.pause (goes : Goes e moves e') : e'.pause = e.pause := by
  rw [Exporter.pause, goes.interval, Exporter.pause]

theorem Goes.trans (first : Goes e moves e') (second : Goes e' later e'') :
    Goes e (moves ++ later) e'' := by
  constructor
  · have run := second.run
    rw [first.pause] at run
    exact first.run.trans run
  · rw [second.interval, first.interval]
  · exact second.prompt

private theorem run_tick {n : Nat} (phase : e.phase = phaseBefore e.pause n)
    (early : e.elapsed ≤ cycleTime e.pause n) (on : e.sender.closing = false) :
    Loop.Run e.pause e.toLoop [.cycle (cycleTime e.pause n)]
      (e.tick (cycleTime e.pause n)).toLoop := by
  let due := cycleTime e.pause n
  let reached : Loop σ := ⟨e.sender, due, .ofPhase e.phase⟩
  let looking : Loop σ := ⟨e.sender, due, .looking⟩
  let cycling : Loop σ := ⟨e.sender, due, .cycling⟩
  have passes : Loop.Step e.pause e.toLoop none reached := by
    refine .passes early ?_
    change (Stage.ofPhase e.phase).Waits due
    rw [phase]
    exact waits_phaseBefore (Nat.le_refl due)
  have fires : Loop.Step e.pause reached none looking := by
    refine .fires ?_
    change (Stage.ofPhase e.phase).Fires due
    rw [phase]
    exact fires_phaseBefore e.pause n
  have goesOn : Loop.Step e.pause looking none cycling := .goesOn rfl on
  have cycles : Loop.Step e.pause cycling (some (.cycle due)) (e.tick due).toLoop := by
    have step : Loop.Step e.pause cycling _ (e.tick due).toLoop := .cycles rfl
    rw [if_neg (by simp [cycling, on])] at step
    exact step
  exact ((Loop.Run.still.more passes).more fires).more goesOn |>.more cycles

private theorem goes_ticksUntil {time n count : Nat}
    (total : cyclesBy e.pause time = n + count) (phase : e.phase = phaseBefore e.pause n)
    (early : e.elapsed ≤ cycleTime e.pause n) (reached : e.elapsed ≤ time)
    (on : e.sender.closing = false) :
    Goes e ((List.range' n count).map fun n => .cycle (cycleTime e.pause n))
        { e.ticksUntil time (cycleTime e.pause n) with elapsed := time } ∧
      (e.ticksUntil time (cycleTime e.pause n)).sender.closing = false := by
  induction count generalizing e n with
  | zero =>
    have future : time < cycleTime e.pause n := by
      have due := cycleTime_le_iff e.pause_pos n time
      omega
    rw [ticksUntil, if_neg (Nat.not_le.mpr future)]
    refine ⟨⟨?_, rfl, ?_⟩, on⟩
    · refine Loop.Run.still.more (.passes reached ?_)
      change (Stage.ofPhase e.phase).Waits time
      rw [phase]
      exact waits_phaseBefore (Nat.le_of_lt future)
    · change e.phase = if e.sender.closing then .stopped
        else phaseBefore e.pause (cyclesBy e.pause time)
      rw [on, if_neg Bool.false_ne_true, total, phase]
      rfl
  | succ count ih =>
    have now : cycleTime e.pause n ≤ time := by
      have due := cycleTime_le_iff e.pause_pos n time
      omega
    have next : cycleTime e.pause n + e.pause = cycleTime e.pause (n + 1) :=
      (cycleTime_succ e.pause n).symm
    let ticked := e.tick (cycleTime e.pause n)
    have total' : cyclesBy ticked.pause time = n + 1 + count := by
      change cyclesBy e.pause time = n + 1 + count
      omega
    have phase' : ticked.phase = phaseBefore ticked.pause (n + 1) := by
      change Phase.periodic (cycleTime e.pause n + e.pause) = phaseBefore e.pause (n + 1)
      rw [phaseBefore, if_neg (Nat.succ_ne_zero n), next]
    have early' : ticked.elapsed ≤ cycleTime ticked.pause (n + 1) := by
      change cycleTime e.pause n ≤ cycleTime e.pause (n + 1)
      omega
    have on' : ticked.sender.closing = false := (closing_cycle e.sender).trans on
    obtain ⟨goes, off⟩ := ih total' phase' early' now on'
    rw [ticksUntil, if_pos now, next, List.range'_succ, List.map_cons]
    exact ⟨⟨(run_tick phase early on).trans goes.run, goes.interval, goes.prompt⟩, off⟩

private theorem wake_of_on (on : e.sender.closing = false) : e.wake = e := by
  rw [wake, if_neg (by simp [on])]

private theorem wake_of_stopped (stopped : e.phase = .stopped) : e.wake = e := by
  unfold wake
  split
  · rw [stopped]
  · rfl

theorem step_sleep_of_told (prompt : e.Prompt) (told : e.sender.closing = true) (duration : Nat) :
    (e.step (.sleep duration)).2 = { e with elapsed := e.elapsed + min duration longestWait } := by
  rw [Prompt, told, if_pos rfl] at prompt
  have slept : e.sleep duration = { e with elapsed := e.elapsed + min duration longestWait } := by
    simp only [sleep, prompt]
  change (e.sleep duration).wake = _
  rw [slept]
  exact wake_of_stopped prompt

theorem goes_sleep (prompt : e.Prompt) (duration : Nat) :
    Goes e (cyclesWithin e.pause e.sender.closing e.elapsed
      (e.elapsed + min duration longestWait)) (e.step (.sleep duration)).2 := by
  let time := e.elapsed + min duration longestWait
  have reached : e.elapsed ≤ time := Nat.le_add_right _ _
  cases closing : e.sender.closing with
  | true =>
    rw [step_sleep_of_told prompt closing]
    rw [Prompt, closing, if_pos rfl] at prompt
    constructor
    · refine Loop.Run.still.more (.passes reached ?_)
      change (Stage.ofPhase e.phase).Waits time
      rw [prompt]
      exact trivial
    · rfl
    · change e.phase = if e.sender.closing then _ else _
      rw [closing, if_pos rfl, prompt]
  | false =>
    rw [Prompt, closing, if_neg Bool.false_ne_true] at prompt
    let n := cyclesBy e.pause e.elapsed
    have early : e.elapsed ≤ cycleTime e.pause n := by
      have due := cycleTime_le_iff e.pause_pos n e.elapsed
      omega
    have total : cyclesBy e.pause time = n + (cyclesBy e.pause time - n) := by
      have more := cyclesBy_mono e.pause_pos reached
      omega
    obtain ⟨goes, on⟩ := goes_ticksUntil total prompt early reached closing
    have slept : e.sleep duration =
        { e.ticksUntil time (cycleTime e.pause n) with elapsed := time } := by
      rw [sleep, prompt, phaseBefore]
      split_ifs <;> rfl
    have asleep : (e.step (.sleep duration)).2 =
        { e.ticksUntil time (cycleTime e.pause n) with elapsed := time } := by
      change (e.sleep duration).wake = _
      rw [slept]
      exact wake_of_on on
    rw [asleep]
    exact goes

private theorem goes_wake (told : e.sender.closing = true) : Goes e [] e.wake := by
  have stays {e' : Exporter σ} (closing : e'.sender.closing = true) (phase : e'.phase = .stopped) :
      e'.Prompt := by
    rw [Prompt, closing, if_pos rfl, phase]
  cases phase : e.phase with
  | first due =>
    have woken : e.wake = { e with phase := .stopped } := by
      rw [wake, if_pos told, phase]
    rw [woken]
    have first : e.toLoop.stage = .first due := congrArg Stage.ofPhase phase
    exact ⟨Loop.Run.still.more (.toldFirst first told), rfl, stays told rfl⟩
  | periodic due =>
    have woken : e.wake = { e.onSender (·.log .debug
        ("wavefront exporter for " ++ e.sender.clientId ++ " stopped")) with phase := .stopped } := by
      rw [wake, if_pos told, phase]
    rw [woken]
    have periodic : e.toLoop.stage = .periodic due := congrArg Stage.ofPhase phase
    exact ⟨Loop.Run.still.more (.told periodic told), rfl, stays told rfl⟩
  | stopped =>
    rw [wake_of_stopped phase]
    exact ⟨.still, rfl, stays told phase⟩

theorem goes_call (prompt : e.Prompt) (c : Call) : Goes e [.call c] (e.step (.call c)).2 := by
  let called : Exporter σ := e.onSender fun _ => (e.sender.step c).2
  have call : Loop.Run e.pause e.toLoop [.call c] called.toLoop :=
    Loop.Run.still.more (.call e.toLoop c)
  have signal : called.sender.closing = (e.sender.closing || c.closes) := e.sender.closing_step c
  change Goes e [.call c] called.wake
  cases closing : called.sender.closing with
  | false =>
    have before : e.sender.closing = false := by
      rw [closing] at signal
      exact (Bool.or_eq_false_iff.mp signal.symm).1
    rw [Prompt, before] at prompt
    rw [wake_of_on closing]
    refine ⟨call, rfl, ?_⟩
    rw [Prompt, closing]
    exact prompt
  | true =>
    have woken := goes_wake closing
    exact ⟨call.trans woken.run, woken.interval, woken.prompt⟩

theorem elapsed_step (e : Exporter σ) (action : Action) :
    (e.step action).2.elapsed = e.elapsed + action.takes := by
  have still (e : Exporter σ) : e.wake.elapsed = e.elapsed := by
    unfold wake
    split_ifs
    · split <;> rfl
    · rfl
  cases action with
  | call c => exact still _
  | sleep duration => exact still _

theorem elapsed_run (e : Exporter σ) (actions : List Action) :
    (e.run actions).elapsed = e.elapsed + slept actions := by
  induction actions generalizing e with
  | nil => rfl
  | cons action rest ih =>
    change ((e.step action).2.run rest).elapsed = _
    rw [ih, elapsed_step, slept, slept, List.map_cons, List.sum_cons, Nat.add_assoc]

theorem goes_run (prompt : e.Prompt) (actions : List Action) :
    Goes e (timetable e.pause (e.elapsed + slept actions) e.sender.closing e.elapsed
      (timedCalls e.elapsed actions)) (e.run actions) := by
  induction actions generalizing e with
  | nil =>
    change Goes e (cyclesWithin e.pause e.sender.closing e.elapsed e.elapsed) e
    rw [cyclesWithin_self]
    exact ⟨.still, rfl, prompt⟩
  | cons action rest ih =>
    have elapsed := elapsed_step e action
    have total : e.elapsed + slept (action :: rest) = e.elapsed + action.takes + slept rest := by
      rw [slept, slept, List.map_cons, List.sum_cons, Nat.add_assoc]
    rw [total]
    change Goes e _ ((e.step action).2.run rest)
    cases action with
    | call c =>
      have first := goes_call prompt c
      have signal : (e.step (.call c)).2.sender.closing = (e.sender.closing || c.closes) := by
        have given := first.run.closing
        rw [List.any_cons, List.any_nil, Bool.or_false] at given
        exact given
      have joined := first.trans (ih first.prompt)
      change (e.step (.call c)).2.elapsed = e.elapsed at elapsed
      rw [first.pause, elapsed, signal] at joined
      rw [timedCalls, timetable, cyclesWithin_self]
      exact joined
    | sleep duration =>
      have first := goes_sleep prompt duration
      have signal : (e.step (.sleep duration)).2.sender.closing = e.sender.closing := by
        have given := first.run.closing
        rw [closes_cyclesWithin, Bool.or_false] at given
        exact given
      have joined := first.trans (ih first.prompt)
      change (e.step (.sleep duration)).2.elapsed = e.elapsed + min duration longestWait at elapsed
      rw [first.pause, elapsed, signal] at joined
      rw [timetable_split e.pause_pos e.sender.closing (Nat.le_add_right _ _) (Nat.le_add_right _ _)
        fun _ => le_of_mem_timedCalls] at joined
      exact joined

end Prompt

theorem prompt_start {sender : Sender σ} (on : sender.closing = false) (interval : Nat)
    (pos : 0 < interval) : (start sender interval pos).Prompt := by
  have none : cyclesBy (start sender interval pos).pause 0 = 0 := rfl
  change Phase.first firstDelay = if sender.closing then .stopped
    else phaseBefore (start sender interval pos).pause (cyclesBy _ 0)
  rw [on, if_neg Bool.false_ne_true, none, phaseBefore, if_pos rfl, cycleTime_zero]

theorem Prompt.settled {e : Exporter σ} (prompt : e.Prompt) :
    e.toLoop.stage.Settled e.toLoop.clock := by
  change (Stage.ofPhase e.phase).Settled e.elapsed
  rw [prompt]
  split_ifs
  · exact trivial
  · refine settled_phaseBefore (Nat.not_le.mp fun reached => ?_)
    have more := (cycleTime_le_iff e.pause_pos _ _).mp reached
    omega

/-- What an exporter comes to with some actions: on its timetable are all calls and, as long as
nobody closes, the cycles that are due in the time slept.  The sender without its exporter comes to
the same if its flushes are scheduled by hand. -/
structure OnSchedule (sender : Sender σ) (interval : Nat) (actions : List Action)
    (last : Exporter σ) : Prop where
  elapsed : last.elapsed = slept actions
  settled : last.toLoop.stage.Settled last.toLoop.clock
  run : Loop.Run (min interval longestWait) (.start sender) (plan interval actions) last.toLoop
  calls : (plan interval actions).filterMap Move.call? = actions.filterMap Action.call?
  cycles : (∀ c, .call c ∈ actions → c.closes = false) →
    (plan interval actions).filterMap Move.time? =
      (List.range (cyclesBy (min interval longestWait) (slept actions))).map
        (cycleTime (min interval longestWait))
  explicit : SameButLog (sender.run ((plan interval actions).map Move.toCall)) last.sender
  silent : (plan interval actions).Pairwise fun earlier later =>
    earlier.closes = true → later.time? = none

/-- How an exporter with an interval keeps time. -/
structure KeepsTime (sender : Sender σ) (interval : Nat) (pos : 0 < interval) : Prop where
  runs : ∀ actions, OnSchedule sender interval actions ((start sender interval pos).run actions)
  unsplit : ∀ actions others, timedCalls 0 others = timedCalls 0 actions →
    slept others = slept actions →
    ((start sender interval pos).run others).sender.buffers =
        ((start sender interval pos).run actions).sender.buffers ∧
      ((start sender interval pos).run others).sender.deeds =
        ((start sender interval pos).run actions).sender.deeds
  anyway : ∀ moves last, Loop.Run (min interval longestWait) (.start sender) moves last →
    Loop.Scheduled (min interval longestWait) sender moves last

theorem onSchedule_run (sender : Sender σ) (on : sender.closing = false) (interval : Nat)
    (pos : 0 < interval) (actions : List Action) :
    OnSchedule sender interval actions ((start sender interval pos).run actions) := by
  let last := (start sender interval pos).run actions
  have elapsed : last.elapsed = slept actions := by
    rw [elapsed_run]
    exact Nat.zero_add _
  obtain ⟨run, -, prompt⟩ := goes_run (prompt_start on interval pos) actions
  have planned : timetable (start sender interval pos).pause
      ((start sender interval pos).elapsed + slept actions)
      (start sender interval pos).sender.closing (start sender interval pos).elapsed
      (timedCalls (start sender interval pos).elapsed actions) = plan interval actions := by
    change timetable _ (0 + slept actions) sender.closing 0 (timedCalls 0 actions) = _
    rw [Nat.zero_add, on]
    rfl
  rw [planned] at run
  have scheduled := Loop.Run.scheduled (start sender interval pos).pause_pos on run
  refine ⟨elapsed, prompt.settled, run, calls_plan interval actions, ?_, scheduled.explicit,
    scheduled.silent⟩
  intro none
  have quiet : ∀ m ∈ plan interval actions, m.closes = false := by
    intro m member
    cases m with
    | call c => exact none c (call_mem_plan.mp member)
    | cycle time => rfl
  have times := scheduled.times quiet prompt.settled
  change _ = (List.range (cyclesBy _ last.elapsed)).map _ at times
  rw [elapsed] at times
  exact times

/-- Every exporter keeps time: its loop is exactly scheduled flushes at its ticks. -/
theorem exporter_keepsTime (sender : Sender σ) (on : sender.closing = false) (interval : Nat)
    (pos : 0 < interval) : KeepsTime sender interval pos := by
  constructor
  · exact onSchedule_run sender on interval pos
  · intro actions others calls time
    have one := (onSchedule_run sender on interval pos actions).explicit
    have other := (onSchedule_run sender on interval pos others).explicit
    have same : plan interval others = plan interval actions := by
      rw [plan, plan, calls, time]
    rw [same] at other
    constructor
    · rw [other.buffers, one.buffers]
    · rw [other.deeds, one.deeds]
  · intro moves last run
    exact run.scheduled (start sender interval pos).pause_pos on

def failing : Sender Transport.Script :=
  .new "client" "host" ⟨10, 3, 8⟩ (.scripted "scripted") (.new [.error ⟨"BrokenPipe", "broken pipe"⟩])

def elevenSeconds : List Action :=
  [.call (.formatted "a"), .sleep (5 * Nat.pow 10 8), .call (.formatted "b"),
    .sleep (15 * Nat.pow 10 8), .call (.formatted "c"), .sleep (9 * Nat.pow 10 9)]

theorem failing_keepsTime :
    failing.closing = false ∧ 0 < 5 * Nat.pow 10 9 ∧
      (plan (5 * Nat.pow 10 9) elevenSeconds).filterMap Move.time? =
        [Nat.pow 10 9, 6 * Nat.pow 10 9, 11 * Nat.pow 10 9] ∧
      KeepsTime failing (5 * Nat.pow 10 9) (by decide) := by
  refine ⟨rfl, by decide, by decide +kernel, ?_⟩
  exact exporter_keepsTime failing rfl (5 * Nat.pow 10 9) (by decide)

def longest : Nat := (Nat.pow 2 64 - 1) * Nat.pow 10 6

def thirtyYears : List Action :=
  [.call (.formatted "a"), .sleep firstDelay, .call (.formatted "b"), .sleep longestWait]

def unhindered : Sender Transport.Script :=
  .new "client" "host" ⟨10, 3, 8⟩ (.scripted "scripted") (.new [])

/-- An interval of more than thirty years is not kept: by then a second cycle has run, which is not
due by the interval, and has emptied the queue. -/
theorem longest_not_kept :
    cyclesBy longest (slept thirtyYears) = 1 ∧
      (unhindered.run [.formatted "a", .scheduledFlush, .formatted "b"]).queued .points = ["b\n"] ∧
      (plan longest thirtyYears).filterMap Move.time? = [firstDelay, firstDelay + longestWait] ∧
      ((start unhindered longest (by decide)).run thirtyYears).sender.queued .points = [] := by
  refine ⟨by decide +kernel, by decide +kernel, by decide +kernel, ?_⟩
  have explicit := (onSchedule_run unhindered rfl longest (by decide) thirtyYears).explicit
  rw [Sender.queued, Sender.buffer, explicit.buffers]
  decide +kernel

end TelemetrySender.Exporter
