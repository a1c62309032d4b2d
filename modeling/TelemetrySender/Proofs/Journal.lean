import Mathlib.Tactic.SplitIfs
import TelemetrySender.Sender.Run

/-!
What the journal of a sender tells, in the order in which it happened and without the log lines:
its deeds.  From the deeds it is read off which records of a kind were accepted, which arrived and
which were given up, and which deliveries were tried with which outcome.
-/

set_option autoImplicit false
set_option relaxedAutoImplicit false

namespace TelemetrySender

namespace Delivery

def status? (d : Delivery) : Option Nat :=
  match d.outcome with
  | .ok status => some status
  | .error _ => none

def fault? (d : Delivery) : Option Fault :=
  match d.outcome with
  | .ok _ => none
  | .error fault => some fault

def failed (d : Delivery) : Bool := d.fault?.isSome

def succeeded (d : Delivery) : Bool :=
  d.status?.any fun status => decide (status < 400 ∨ 599 < status)

def refused (d : Delivery) : Bool :=
  d.status?.any fun status => decide (status = 401 ∨ status = 403)

def switchesOff (d : Delivery) : Bool := d.refused && d.kind.canDisable

/-- Answered with a status from 400 to 599 that does not switch the kind off: its records go back
behind the queue. -/
def returns (d : Delivery) : Bool :=
  (d.status?.any fun status => decide (400 ≤ status ∧ status ≤ 599)) && !d.switchesOff

variable {d : Delivery} {status : Nat}

theorem succeeded_iff (answer : d.outcome = .ok status) :
    d.succeeded = true ↔ Verdict.ofStatus d.kind status = .delivered := by
  simp only [succeeded, status?, answer, Option.any_some, decide_eq_true_eq, Verdict.ofStatus]
  split_ifs <;> simp <;> omega

theorem switchesOff_iff (answer : d.outcome = .ok status) :
    d.switchesOff = true ↔ Verdict.ofStatus d.kind status = .disable := by
  simp only [switchesOff, refused, status?, answer, Option.any_some, Bool.and_eq_true,
    decide_eq_true_eq, Verdict.ofStatus]
  split_ifs <;> simp_all
  omega

theorem returns_iff (answer : d.outcome = .ok status) :
    d.returns = true ↔ Verdict.ofStatus d.kind status = .denied ∨
      Verdict.ofStatus d.kind status = .rejected := by
  have off := switchesOff_iff answer
  simp only [returns, status?, answer, Option.any_some, Bool.and_eq_true, decide_eq_true_eq,
    Bool.not_eq_true', ← Bool.not_eq_true, off, Verdict.ofStatus]
  split_ifs <;> simp_all

end Delivery

namespace Event

/-- A log line is no deed. -/
def isDeed : Event → Bool
  | logged _ => false
  | _ => true

def kind? : Event → Option Kind
  | queued k _ => some k
  | lost k _ _ => some k
  | reported d => some d.kind
  | logged _ => none
  | closed _ => none

def delivery? : Event → Option Delivery
  | reported d => some d
  | _ => none

/-- The records of a kind that an event brought into its queue, rejected ones that came back not
counted. -/
def acceptedOf (k : Kind) : Event → List String
  | queued j record => if j = k then [record] else []
  | _ => []

def arrivedOf (k : Kind) : Event → List String
  | reported d => if d.kind = k ∧ d.succeeded then d.records else []
  | _ => []

def lostOf (k : Kind) : Event → List String
  | lost j _ records => if j = k then records else []
  | _ => []

def returnedOf (k : Kind) : Event → List String
  | reported d => if d.kind = k ∧ d.returns then d.records else []
  | _ => []

variable {e : Event} {k : Kind}

theorem acceptedOf_of_ne (other : e.kind? ≠ some k) : e.acceptedOf k = [] := by
  cases e <;> simp_all [kind?, acceptedOf]

theorem arrivedOf_of_ne (other : e.kind? ≠ some k) : e.arrivedOf k = [] := by
  cases e <;> simp_all [kind?, arrivedOf]

theorem lostOf_of_ne (other : e.kind? ≠ some k) : e.lostOf k = [] := by
  cases e <;> simp_all [kind?, lostOf]

end Event

namespace Sender

variable {σ : Type}

def deeds (s : Sender σ) : List Event := (s.journal.filter Event.isDeed).reverse

def reports (s : Sender σ) : List Delivery := s.deeds.filterMap Event.delivery?

def accepted (s : Sender σ) (k : Kind) : List String := s.deeds.flatMap (Event.acceptedOf k)

def arrived (s : Sender σ) (k : Kind) : List String := s.deeds.flatMap (Event.arrivedOf k)

def lost (s : Sender σ) (k : Kind) : List String := s.deeds.flatMap (Event.lostOf k)

def queued (s : Sender σ) (k : Kind) : List String := (s.buffer k).records

section Extension

variable {s t : Sender σ} {events : List Event}

theorem reports_append (deeds : t.deeds = s.deeds ++ events) :
    t.reports = s.reports ++ events.filterMap Event.delivery? := by
  rw [reports, deeds, List.filterMap_append]
  rfl

theorem accepted_append (deeds : t.deeds = s.deeds ++ events) (k : Kind) :
    t.accepted k = s.accepted k ++ events.flatMap (Event.acceptedOf k) := by
  rw [accepted, deeds, List.flatMap_append]
  rfl

theorem arrived_append (deeds : t.deeds = s.deeds ++ events) (k : Kind) :
    t.arrived k = s.arrived k ++ events.flatMap (Event.arrivedOf k) := by
  rw [arrived, deeds, List.flatMap_append]
  rfl

theorem lost_append (deeds : t.deeds = s.deeds ++ events) (k : Kind) :
    t.lost k = s.lost k ++ events.flatMap (Event.lostOf k) := by
  rw [lost, deeds, List.flatMap_append]
  rfl

end Extension

theorem deeds_record {e : Event} (deed : e.isDeed = true) (s : Sender σ) :
    (s.record e).deeds = s.deeds ++ [e] := by
  simp [deeds, record, deed]

@[simp] theorem deeds_setBuffer (s : Sender σ) (k : Kind) (b : Buffer) :
    (s.setBuffer k b).deeds = s.deeds := rfl

@[simp] theorem deeds_onBuffer (s : Sender σ) (k : Kind) (f : Buffer → Buffer) :
    (s.onBuffer k f).deeds = s.deeds := rfl

/-- A notice moves the log window and, unless it is held back, adds a log line. -/
theorem say_cases (s : Sender σ) (n : Notice) :
    ∃ window, s.say n = { s with window := window } ∨
      s.say n = { s with window := window }.record (.logged n.line) := by
  refine ⟨(s.window.letThrough s.now n.key).2, ?_⟩
  cases admitted : (s.window.letThrough s.now n.key).1
  · exact .inl (by simp [say, admitted])
  · exact .inr (by simp [say, admitted])

@[simp] theorem deeds_say (s : Sender σ) (n : Notice) : (s.say n).deeds = s.deeds := by
  obtain ⟨window, quiet | logged⟩ := s.say_cases n
  · rw [quiet]
    rfl
  · rw [logged]
    rfl

@[simp] theorem deeds_log (s : Sender σ) (level : Level) (text : String) :
    (s.log level text).deeds = s.deeds := rfl

end Sender

end TelemetrySender
