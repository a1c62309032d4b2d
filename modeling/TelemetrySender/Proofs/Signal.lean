import TelemetrySender.Proofs.Framing

/-!
The signal to close.  It is given by the first call to close and never taken back, and every delivery
that is tried carries it as it stood by then.
-/

set_option autoImplicit false
set_option relaxedAutoImplicit false

namespace TelemetrySender

variable {σ : Type}

def Call.closes : Call → Bool
  | .close => true
  | _ => false

namespace Sender

variable (s : Sender σ) (k : Kind)

private theorem closing_say (n : Notice) : (s.say n).closing = s.closing := by
  obtain ⟨window, quiet | logged⟩ := s.say_cases n
  · rw [quiet]
  · rw [logged]
    rfl

private theorem closing_accept (record : String) :
    (s.accept k record).2.closing = s.closing := by
  simp only [accept, offer]
  split_ifs
  · rfl
  · exact closing_say _ (.full k)

theorem closing_submit (encoded : Except Invalid String) :
    (s.submit k encoded).2.closing = s.closing := by
  cases encoded with
  | error fault => rfl
  | ok record => exact s.closing_accept k record

theorem closing_sendSpan (x : Span) : (s.sendSpan x).2.closing = s.closing := by
  unfold sendSpan
  cases x.encode s.defaultSource with
  | error fault => rfl
  | ok record =>
    have span := s.closing_accept .spans record
    simp only
    split_ifs
    · exact span
    · rw [closing_accept, span]
    · exact span

theorem closing_flush : s.flush.2.closing = s.closing := by
  apply s.flush_keeps (p := fun t => t.closing = s.closing)
  · intro t k same
    rw [(Course.visit t k).closing, same]
  · rfl

private theorem closing_shut : s.shut.closing = s.closing := rfl

theorem closing_close : s.close.closing = true := by
  have flushed : s.lastFlush.closing = true := by
    rw [lastFlush, closing_flush]
  rw [s.shut_close.closing, closing_shut, flushed]

theorem closing_step (call : Call) : (s.step call).2.closing = (s.closing || call.closes) := by
  cases call with
  | metric m => exact (s.closing_submit .points _).trans (Bool.or_false _).symm
  | formatted p => exact (s.closing_submit .points _).trans (Bool.or_false _).symm
  | distribution d => exact (s.closing_submit .histograms _).trans (Bool.or_false _).symm
  | span x => exact (s.closing_sendSpan x).trans (Bool.or_false _).symm
  | flush => exact s.closing_flush.trans (Bool.or_false _).symm
  | scheduledFlush =>
    simp only [step, scheduledFlush, Call.closes, Bool.or_false]
    split
    · rfl
    · exact s.closing_flush
  | close => exact s.closing_close.trans (Bool.or_true _).symm
  | clock now => exact (Bool.or_false _).symm

theorem closing_run (calls : List Call) :
    (s.run calls).closing = (s.closing || calls.any Call.closes) := by
  induction calls generalizing s with
  | nil => exact (Bool.or_false _).symm
  | cons call rest ih =>
    have step := s.closing_step call
    change ((s.step call).2.run rest).closing = _
    rw [ih, step, List.any_cons, Bool.or_assoc]

end Sender

end TelemetrySender
