import TelemetrySender.Keyed
import TelemetrySender.Kind

/-!
What a sender counts about each kind, and how the counts are published as metrics of its own.  The
sender keeps its counts for itself and tells a recorder of metrics of every change to them; statuses
are counted by the recorder alone.  Counts grow without bound here; what is read off is a 64-bit word.
-/

set_option autoImplicit false
set_option relaxedAutoImplicit false

namespace TelemetrySender

/-- The counts of a kind as the recorder of metrics has them. -/
structure Recorded where
  valid : Nat
  invalid : Nat
  dropped : Nat
  reportErrors : Nat
  deriving DecidableEq

/-- Report errors are deliveries that failed before any answer came.  The others are counted by the
status they were answered with, in the order of first occurrence.  The queue and the room left in it
are as they were last gauged. -/
structure Tally where
  valid : Nat
  invalid : Nat
  dropped : Nat
  reportErrors : Nat
  statuses : List (Nat × Nat)
  queueSize : Nat
  remaining : Nat
  recorded : Recorded

namespace Tally

def zero : Tally := ⟨0, 0, 0, 0, [], 0, 0, ⟨0, 0, 0, 0⟩⟩

/-- What a 64-bit counter shows of a count. -/
def reading (count : Nat) : Nat := count % Nat.pow 2 64

def addValid (t : Tally) : Tally :=
  { t with
    valid := t.valid + 1
    recorded := { t.recorded with valid := t.recorded.valid + 1 } }

def addInvalid (t : Tally) : Tally :=
  { t with
    invalid := t.invalid + 1
    recorded := { t.recorded with invalid := t.recorded.invalid + 1 } }

def addDropped (t : Tally) (count : Nat) : Tally :=
  { t with
    dropped := t.dropped + count
    recorded := { t.recorded with dropped := t.recorded.dropped + count } }

def addReportError (t : Tally) : Tally :=
  { t with
    reportErrors := t.reportErrors + 1
    recorded := { t.recorded with reportErrors := t.recorded.reportErrors + 1 } }

def statusCount (t : Tally) (status : Nat) : Nat :=
  (Keyed.find? status t.statuses).getD 0

def addStatus (t : Tally) (status : Nat) : Tally :=
  { t with statuses := Keyed.assign status (t.statusCount status + 1) t.statuses }

def gauge (t : Tally) (size capacity : Nat) : Tally :=
  { t with queueSize := size, remaining := capacity - size }

def metricName (transport : String) (kind : Kind) (what : String) : String :=
  "~sdk.rust.core.sender." ++ transport ++ "." ++ kind.segment ++ "." ++ what

/-- The published metrics of one kind by name; a status is published once it was counted. -/
def published (t : Tally) (transport : String) (kind : Kind) : List (String × Nat) :=
  let name := metricName transport kind
  [(name "valid", reading t.recorded.valid), (name "invalid", reading t.recorded.invalid),
    (name "dropped", reading t.recorded.dropped),
    (name "report.errors", reading t.recorded.reportErrors),
    (name "queue.size", t.queueSize), (name "queue.remaining_capacity", t.remaining)] ++
    t.statuses.map fun s => (name ("report." ++ s.1.repr), reading s.2)

/-- The recorder has the counts as they stand. -/
def Told (t : Tally) : Prop := t.recorded = ⟨t.valid, t.invalid, t.dropped, t.reportErrors⟩

section Told

variable {t : Tally}

theorem Told.addValid (told : t.Told) : t.addValid.Told := by
  unfold Told at told ⊢
  rw [Tally.addValid, told]

theorem Told.addInvalid (told : t.Told) : t.addInvalid.Told := by
  unfold Told at told ⊢
  rw [Tally.addInvalid, told]

theorem Told.addDropped (told : t.Told) (count : Nat) : (t.addDropped count).Told := by
  unfold Told at told ⊢
  rw [Tally.addDropped, told]

theorem Told.addReportError (told : t.Told) : t.addReportError.Told := by
  unfold Told at told ⊢
  rw [Tally.addReportError, told]

theorem Told.addStatus (told : t.Told) (status : Nat) : (t.addStatus status).Told := told

end Told

theorem addDropped_addDropped (t : Tally) (count more : Nat) :
    (t.addDropped count).addDropped more = t.addDropped (count + more) := by
  simp only [addDropped, Nat.add_assoc]

end Tally

end TelemetrySender
