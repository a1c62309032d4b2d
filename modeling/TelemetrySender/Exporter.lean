import TelemetrySender.Sender.Run

/-!
The periodic exporter: a sender whose cycles are run by a clock.  The first cycle is due one second
after the start and each later one an interval after the last, but never more than thirty years
after it; a transport fault is logged and does not stop the exporter.  Once the sender was told to
close, the exporter stops and runs no cycle.
-/

set_option autoImplicit false
set_option relaxedAutoImplicit false

namespace TelemetrySender

/-- What the exporter waits for: its first cycle, any later one, or nothing more.  Times are in
nanoseconds since its start. -/
inductive Phase where
  | first (due : Nat)
  | periodic (due : Nat)
  | stopped
  deriving DecidableEq

structure Exporter (σ : Type) where
  sender : Sender σ
  interval : Nat
  interval_pos : 0 < interval
  elapsed : Nat
  phase : Phase

namespace Exporter

variable {σ : Type}

def firstDelay : Nat := Nat.pow 10 9

/-- The longest time that the timer waits at once, thirty years of 365 days.  This is an assumption
on the timer, which is no part of the program. -/
def longestWait : Nat := 30 * 365 * 24 * 60 * 60 * Nat.pow 10 9

def start (sender : Sender σ) (interval : Nat) (pos : 0 < interval) : Exporter σ :=
  ⟨sender, interval, pos, 0, .first firstDelay⟩

def onSender (e : Exporter σ) (f : Sender σ → Sender σ) : Exporter σ :=
  { e with sender := f e.sender }

def cycle (s : Sender σ) : Sender σ :=
  let flushed := s.scheduledFlush
  match flushed.1 with
  | none => flushed.2
  | some fault => flushed.2.log .warn ("error flushing buffers to Wavefront: " ++ fault.message)

def pause (e : Exporter σ) : Nat := min e.interval longestWait

theorem pause_pos (e : Exporter σ) : 0 < e.pause := by
  have h := e.interval_pos
  simp only [pause, longestWait, Nat.pow_eq]
  omega

def tick (e : Exporter σ) (due : Nat) : Exporter σ :=
  { e with sender := cycle e.sender, elapsed := due, phase := .periodic (due + e.pause) }

def ticksUntil (e : Exporter σ) (time due : Nat) : Exporter σ :=
  if due ≤ time then ticksUntil (e.tick due) time (due + e.pause) else e
termination_by time + 1 - due
decreasing_by have := e.pause_pos; omega

/-- Lets time pass, as far as it can be waited at once; a cycle due at the very end of it is run. -/
def sleep (e : Exporter σ) (duration : Nat) : Exporter σ :=
  let time := e.elapsed + min duration longestWait
  let e := match e.phase with
    | .first due => e.ticksUntil time due
    | .periodic due => e.ticksUntil time due
    | .stopped => e
  { e with elapsed := time }

def wake (e : Exporter σ) : Exporter σ :=
  if e.sender.closing then
    match e.phase with
    | .first _ => { e with phase := .stopped }
    | .periodic _ =>
      { e.onSender (·.log .debug ("wavefront exporter for " ++ e.sender.clientId ++ " stopped"))
        with phase := .stopped }
    | .stopped => e
  else e

inductive Action where
  | call (call : Call)
  | sleep (duration : Nat)

/-- Between actions the exporter does all that is due. -/
def step (e : Exporter σ) : Action → Reply × Exporter σ
  | .call c =>
    let r := e.sender.step c
    (r.1, (e.onSender fun _ => r.2).wake)
  | .sleep duration => (.ok, (e.sleep duration).wake)

def run (e : Exporter σ) (actions : List Action) : Exporter σ :=
  actions.foldl (fun e a => (e.step a).2) e

end Exporter

end TelemetrySender
