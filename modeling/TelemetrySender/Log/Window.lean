import TelemetrySender.Keyed
import TelemetrySender.Log.Basic

/-!
Holding back repeated log lines.  A line is let through unless one with the same key was let
through less than a window ago; a time that lies in the future counts as no time ago.  The keys are
remembered with the time at which they were last let through, and once there are many, a new key
first drives out those that no longer hold anything back.
-/

set_option autoImplicit false
set_option relaxedAutoImplicit false

namespace TelemetrySender

/-- Times are counted in nanoseconds from a common start. -/
structure LogWindow where
  width : Nat
  emissions : List (String × Nat)

namespace LogWindow

/-- The number of keys from which on stale keys are driven out. -/
def crowd : Nat := 1000

def new (width : Nat) : LogWindow := ⟨width, []⟩

/-- Whether an emission at `last` still holds back its key at `now`; the difference of a time in
the future is zero. -/
def fresh (w : LogWindow) (now last : Nat) : Bool :=
  now - last < w.width

def prune (w : LogWindow) (now : Nat) : List (String × Nat) :=
  if crowd ≤ w.emissions.length then w.emissions.filter fun e => w.fresh now e.2
  else w.emissions

/-- Whether a line under `key` is let through at `now`, and the window behind it. -/
def letThrough (w : LogWindow) (now : Nat) (key : String) : Bool × LogWindow :=
  match Keyed.find? key w.emissions with
  | some last =>
    if w.fresh now last then (false, w)
    else (true, { w with emissions := Keyed.assign key now w.emissions })
  | none => (true, { w with emissions := (key, now) :: w.prune now })

end LogWindow

end TelemetrySender
