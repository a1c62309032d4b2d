import TelemetrySender.Exporter
import TelemetrySender.Proofs.Signal

/-!
The loop of an exporter, step by step.  It waits for its timer or for the signal to close, and where
both have come it may go by either.  Before a cycle it looks at the signal, and the cycle looks
again.  Its callers may call at any time, also between two such looks.

Whichever way it goes, it comes to the same as calls of its sender: what the callers asked for, and a
scheduled flush at the time of each cycle.  Behind a call to close there is no cycle any more.
-/

set_option autoImplicit false
set_option relaxedAutoImplicit false

namespace TelemetrySender.Exporter

variable {σ : Type}

/-- Where the loop stands: it waits for its first cycle, looks whether its sender was told to close,
is to run a cycle, or waits for the next. -/
inductive Stage where
  | first (due : Nat)
  | looking
  | cycling
  | periodic (due : Nat)
  | stopped

def Stage.Waits (time : Nat) : Stage → Prop
  | .first due => time ≤ due
  | .periodic due => time ≤ due
  | .stopped => True
  | _ => False

def Stage.Fires (clock : Nat) : Stage → Prop
  | .first due => due ≤ clock
  | .periodic due => due ≤ clock
  | _ => False

/-- A sender with its loop. -/
structure Loop (σ : Type) where
  sender : Sender σ
  clock : Nat
  stage : Stage

inductive Move where
  | call (call : Call)
  | cycle (time : Nat)

namespace Move

def call? : Move → Option Call
  | call c => some c
  | cycle _ => none

def time? : Move → Option Nat
  | call _ => none
  | cycle time => some time

def toCall : Move → Call
  | call c => c
  | cycle _ => .scheduledFlush

def closes (m : Move) : Bool := m.toCall.closes

end Move

namespace Loop

def start (sender : Sender σ) : Loop σ := ⟨sender, 0, .first firstDelay⟩

def stop (l : Loop σ) : Loop σ :=
  { l with
    sender := l.sender.log .debug ("wavefront exporter for " ++ l.sender.clientId ++ " stopped")
    stage := .stopped }

/-- All that may happen next. -/
inductive Step (pause : Nat) : Loop σ → Option Move → Loop σ → Prop
  | call (l : Loop σ) (c : Call) :
      Step pause l (some (.call c)) { l with sender := (l.sender.step c).2 }
  | passes {l : Loop σ} {time : Nat} (later : l.clock ≤ time) (waits : l.stage.Waits time) :
      Step pause l none { l with clock := time }
  | fires {l : Loop σ} (due : l.stage.Fires l.clock) : Step pause l none { l with stage := .looking }
  | toldFirst {l : Loop σ} {due : Nat} (first : l.stage = .first due)
      (told : l.sender.closing = true) : Step pause l none { l with stage := .stopped }
  | told {l : Loop σ} {due : Nat} (periodic : l.stage = .periodic due)
      (told : l.sender.closing = true) : Step pause l none l.stop
  | goesOn {l : Loop σ} (looking : l.stage = .looking) (on : l.sender.closing = false) :
      Step pause l none { l with stage := .cycling }
  | leaves {l : Loop σ} (looking : l.stage = .looking) (told : l.sender.closing = true) :
      Step pause l none l.stop
  | cycles {l : Loop σ} (cycling : l.stage = .cycling) :
      Step pause l (if l.sender.closing then none else some (.cycle l.clock))
        { l with sender := cycle l.sender, stage := .periodic (l.clock + pause) }

inductive Run (pause : Nat) (start : Loop σ) : List Move → Loop σ → Prop
  | still : Run pause start [] start
  | more {moves : List Move} {move : Option Move} {l l' : Loop σ} :
      Run pause start moves l → Step pause l move l' → Run pause start (moves ++ move.toList) l'

end Loop

theorem sameButLog_cycle (s : Sender σ) : SameButLog (s.step .scheduledFlush).2 (cycle s) := by
  simp only [cycle, Sender.step]
  cases s.scheduledFlush.1 with
  | none => exact .refl _
  | some fault => exact .log _ .warn _

theorem closing_cycle (s : Sender σ) : (cycle s).closing = s.closing := by
  rw [(sameButLog_cycle s).closing, s.closing_step]
  exact Bool.or_false _

theorem cycle_of_closing {s : Sender σ} (told : s.closing = true) : cycle s = s := by
  have skipped : s.scheduledFlush = (none, s) := by rw [Sender.scheduledFlush, if_pos told]
  simp only [cycle, skipped]

namespace Loop

variable {pause : Nat} {a b c l l' start last : Loop σ} {moves later : List Move}
  {move : Option Move}

theorem Run.trans (first : Run pause a moves b) (second : Run pause b later c) :
    Run pause a (moves ++ later) c := by
  induction second with
  | still =>
    rw [List.append_nil]
    exact first
  | more _ step ih =>
    rw [← List.append_assoc]
    exact ih.more step

theorem Run.single (step : Step pause l move l') : Run pause l move.toList l' := by
  have run := Run.more .still step
  rwa [List.nil_append] at run

theorem Step.sameButLog {s : Sender σ} (step : Step pause l move l')
    (same : SameButLog s l.sender) :
    SameButLog (s.run (move.toList.map Move.toCall)) l'.sender := by
  cases step with
  | call c => exact (same.step c).2
  | passes => exact same
  | fires => exact same
  | toldFirst => exact same
  | told => exact same.trans (.log _ .debug _)
  | goesOn => exact same
  | leaves => exact same.trans (.log _ .debug _)
  | cycles =>
    cases told : l.sender.closing with
    | true =>
      rw [if_pos rfl, cycle_of_closing told]
      exact same
    | false =>
      rw [if_neg Bool.false_ne_true]
      exact (same.step .scheduledFlush).2.trans (sameButLog_cycle l.sender)

theorem Run.sameButLog (run : Run pause start moves last) :
    SameButLog (start.sender.run (moves.map Move.toCall)) last.sender := by
  induction run with
  | still => exact .refl _
  | more _ step ih =>
    rw [List.map_append, Sender.run_append]
    exact step.sameButLog ih

theorem Run.closing (run : Run pause start moves last) :
    last.sender.closing = (start.sender.closing || moves.any Move.closes) := by
  rw [run.sameButLog.closing, Sender.closing_run, List.any_map]
  rfl

theorem Run.silent (run : Run pause start moves last) :
    moves.Pairwise fun earlier later => earlier.closes = true → later.time? = none := by
  induction run with
  | still => exact List.Pairwise.nil
  | @more moves move l l' run step ih =>
    rw [List.pairwise_append]
    refine ⟨ih, ?_, ?_⟩
    · cases move with
      | none => exact List.Pairwise.nil
      | some m => exact List.pairwise_singleton _ m
    · intro earlier before m seen closes
      have told : l.sender.closing = true := by
        rw [run.closing, List.any_eq_true.mpr ⟨earlier, before, closes⟩, Bool.or_true]
      cases step with
      | call c =>
        obtain rfl := List.mem_singleton.mp seen
        rfl
      | cycles =>
        rw [if_pos told] at seen
        cases seen
      | passes | fires | toldFirst | told | goesOn | leaves => cases seen

end Loop

end TelemetrySender.Exporter
