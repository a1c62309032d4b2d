/-!
The four kinds of telemetry.  Each kind has a queue of its own and is delivered under a format tag
of its own; a cycle visits the kinds in the order of `Kind.all`.
-/

set_option autoImplicit false
set_option relaxedAutoImplicit false

namespace TelemetrySender

inductive Kind where
  | points
  | histograms
  | spans
  | spanLogs
  deriving DecidableEq

namespace Kind

/-- Every kind once, in the order in which a cycle visits them. -/
def all : List Kind := [points, histograms, spans, spanLogs]

def title : Kind → String
  | points => "points"
  | histograms => "histograms"
  | spans => "spans"
  | spanLogs => "span logs"

/-- The tag under which the backend expects records of the kind. -/
def format : Kind → String
  | points => "wavefront"
  | histograms => "histogram"
  | spans => "trace"
  | spanLogs => "spanLogs"

def segment : Kind → String
  | points => "points"
  | histograms => "histograms"
  | spans => "spans"
  | spanLogs => "span_logs"

/-- Whether a refusal by the backend switches the kind off for good.  Points never are. -/
def canDisable : Kind → Bool
  | points => false
  | histograms => true
  | spans => true
  | spanLogs => true

theorem mem_all (k : Kind) : k ∈ all := by
  cases k <;> decide

theorem format_injective {j k : Kind} (h : j.format = k.format) : j = k := by
  cases j <;> cases k <;> first | rfl | exact absurd h (by decide)

end Kind

structure PerKind (α : Type) where
  points : α
  histograms : α
  spans : α
  spanLogs : α

namespace PerKind

variable {α : Type}

def const (a : α) : PerKind α := ⟨a, a, a, a⟩

def get (t : PerKind α) : Kind → α
  | .points => t.points
  | .histograms => t.histograms
  | .spans => t.spans
  | .spanLogs => t.spanLogs

def set (t : PerKind α) : Kind → α → PerKind α
  | .points, a => { t with points := a }
  | .histograms, a => { t with histograms := a }
  | .spans, a => { t with spans := a }
  | .spanLogs, a => { t with spanLogs := a }

@[simp] theorem get_const (a : α) (k : Kind) : (const a).get k = a := by
  cases k <;> rfl

@[simp] theorem get_set_self (t : PerKind α) (k : Kind) (a : α) : (t.set k a).get k = a := by
  cases k <;> rfl

@[simp] theorem get_set_of_ne (t : PerKind α) {j k : Kind} (a : α) (h : j ≠ k) :
    (t.set k a).get j = t.get j := by
  cases j <;> cases k <;> first | rfl | exact absurd rfl h

@[simp] theorem set_set (t : PerKind α) (k : Kind) (a b : α) :
    (t.set k a).set k b = t.set k b := by
  cases k <;> rfl

end PerKind

end TelemetrySender
