import TelemetrySender.Transport.Basic

/-!
A transport whose answers are laid down beforehand.  It gives the outcomes of its script in order
and accepts everything once the script is exhausted.
-/

set_option autoImplicit false
set_option relaxedAutoImplicit false

namespace TelemetrySender.Transport

/-- How the next deliveries end, how the next call of close fails if it shall, and how often close
was called. -/
structure Script where
  outcomes : List Outcome
  closeFault : Option Fault
  closes : Nat

namespace Script

def new (outcomes : List Outcome) : Script := ⟨outcomes, none, 0⟩

def extend (s : Script) (outcomes : List Outcome) : Script :=
  { s with outcomes := s.outcomes ++ outcomes }

def next (s : Script) : Outcome × Script :=
  match s.outcomes with
  | [] => (.ok accepted, s)
  | o :: rest => (o, { s with outcomes := rest })

def close (s : Script) : Except Fault Unit × Script :=
  (match s.closeFault with
    | some f => .error f
    | none => .ok (),
    { s with closeFault := none, closes := s.closes + 1 })

end Script

def scripted (name : String) : Transport Script :=
  ⟨name, fun _ _ s => s.next, Script.close⟩

end TelemetrySender.Transport
