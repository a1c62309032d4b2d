import TelemetrySender.Proofs.Schedule

/-!
Shutting down.  The first call to close gives the signal, and that is for good.  From then on nothing
is delivered unless a caller asks for it; what is scheduled leaves the sender as it is.  And every
call to close, the first or a later one, visits all kinds and then closes the transport once, whatever
fails.
-/

set_option autoImplicit false
set_option relaxedAutoImplicit false

namespace TelemetrySender

variable {σ : Type}

def Event.isClosed : Event → Bool
  | .closed _ => true
  | _ => false

/-- All that is reported between two states was reported before or behind the signal. -/
def ReportsAs (told : Bool) (s t : Sender σ) : Prop :=
  ∃ later, t.reports = s.reports ++ later ∧ ∀ d ∈ later, d.closing = told

namespace ReportsAs

variable {told : Bool} {s t u : Sender σ}

theorem ofSame (told : Bool) (same : t.reports = s.reports) : ReportsAs told s t :=
  ⟨[], by rw [same, List.append_nil], by simp⟩

theorem trans (first : ReportsAs told s t) (second : ReportsAs told t u) : ReportsAs told s u := by
  obtain ⟨early, reports, seenEarly⟩ := first
  obtain ⟨late, later, seenLate⟩ := second
  refine ⟨early ++ late, ?_, ?_⟩
  · rw [later, reports, List.append_assoc]
  · intro d member
    rcases List.mem_append.mp member with inEarly | inLate
    · exact seenEarly d inEarly
    · exact seenLate d inLate

end ReportsAs

theorem Transport.closing_of_mem_attempts (t : Transport σ) (k : Kind) (closing : Bool)
    (chunks : List Chunk) (link : σ) {d : Delivery} (member : d ∈ t.attempts k closing chunks link) :
    d.closing = closing := by
  induction chunks generalizing link with
  | nil => cases member
  | cons chunk rest ih =>
    rcases List.mem_cons.mp member with rfl | later
    · rfl
    · exact ih _ later

namespace Sender

variable (s : Sender σ)

theorem reportsAs_visit (k : Kind) : ReportsAs s.closing s (s.visit k).2 := by
  refine ⟨s.nextHanded k, ?_, ?_⟩
  · rw [reports_append (Course.visit s k).deeds, s.delivery?_batchDeeds]
  · intro d member
    have tried := (s.handed_prefix k (s.nextBatch k).chunks).subset member
    exact s.transport.closing_of_mem_attempts k s.closing _ s.link tried

theorem reportsAs_flush : ReportsAs s.closing s s.flush.2 := by
  have kept := s.flush_keeps (p := fun t => t.closing = s.closing ∧ ReportsAs s.closing s t)
    (fun t k kept => ?_) ⟨rfl, .ofSame _ rfl⟩
  · exact kept.2
  · obtain ⟨closing, before⟩ := kept
    have visit := t.reportsAs_visit k
    rw [closing] at visit
    exact ⟨(Course.visit t k).closing.trans closing, before.trans visit⟩

theorem reportsAs_close : ReportsAs true s s.close := by
  have flushed : ReportsAs true { s with closing := true } s.lastFlush :=
    reportsAs_flush { s with closing := true }
  have told : ({ s with closing := true } : Sender σ).reports = s.reports := rfl
  obtain ⟨outcome, deeds⟩ := (s.lastFlush_closes .points).deeds
  have closed : s.close.reports = s.lastFlush.reports := by
    rw [reports_append deeds]
    exact List.append_nil _
  exact (ReportsAs.ofSame true told).trans (flushed.trans (.ofSame true closed))

theorem reportsAs_step (call : Call) : ReportsAs (s.step call).2.closing s (s.step call).2 := by
  cases call with
  | flush =>
    have flushed := s.reportsAs_flush
    rw [← s.closing_flush] at flushed
    exact flushed
  | scheduledFlush =>
    simp only [step, scheduledFlush]
    split_ifs
    · exact .ofSame _ rfl
    · have flushed := s.reportsAs_flush
      rw [← s.closing_flush] at flushed
      exact flushed
  | close =>
    have closed := s.reportsAs_close
    rw [← s.closing_close] at closed
    exact closed
  | metric | formatted | distribution | span | clock => exact .ofSame _ (s.step_takes rfl).reports

theorem reportsAs_run {calls : List Call} (same : (s.run calls).closing = s.closing) :
    ReportsAs s.closing s (s.run calls) := by
  induction calls generalizing s with
  | nil => exact .ofSame _ rfl
  | cons call rest ih =>
    change ((s.step call).2.run rest).closing = s.closing at same
    have given := s.closing_step call
    have first : (s.step call).2.closing = s.closing := by
      rw [closing_run, given] at same
      rw [given]
      cases closing : s.closing with
      | true => rfl
      | false =>
        rw [closing] at same
        exact (Bool.or_eq_false_iff.mp same).1
    have step := s.reportsAs_step call
    have later := ih (s.step call).2 (same.trans first.symm)
    rw [first] at step later
    exact step.trans later

theorem reportsAs_run_of_told (told : s.closing = true) (calls : List Call) :
    ReportsAs true s (s.run calls) := by
  have stays : (s.run calls).closing = s.closing := by
    rw [closing_run, told, Bool.true_or]
  have later := s.reportsAs_run stays
  rw [told] at later
  exact later

theorem reports_step_of_told (told : s.closing = true) {call : Call} (noFlush : call ≠ .flush)
    (noClose : call ≠ .close) : (s.step call).2.reports = s.reports := by
  cases call with
  | flush => exact absurd rfl noFlush
  | close => exact absurd rfl noClose
  | scheduledFlush =>
    simp only [step, scheduledFlush]
    rw [if_pos told]
  | metric | formatted | distribution | span | clock => exact (s.step_takes rfl).reports

private theorem countP_isClosed_of_kinds {events : List Event}
    (about : ∀ e ∈ events, e.kind?.isSome = true) : events.countP Event.isClosed = 0 := by
  rw [List.countP_eq_zero]
  intro e member closed
  have kind := about e member
  cases e with
  | closed outcome => cases kind
  | queued | lost | reported | logged => cases closed

private theorem countP_isClosed_flush :
    s.flush.2.deeds.countP Event.isClosed = s.deeds.countP Event.isClosed := by
  obtain ⟨events, deeds, about⟩ := s.deeds_flush
  rw [deeds, List.countP_append, countP_isClosed_of_kinds about, Nat.add_zero]

private theorem countP_isClosed_takes {call : Call} {source : String} {t : Sender σ}
    (takes : Takes source call s t) :
    t.deeds.countP Event.isClosed = s.deeds.countP Event.isClosed := by
  obtain ⟨events, deeds, queued⟩ := takes.deeds
  have none : events.countP Event.isClosed = 0 := by
    refine countP_isClosed_of_kinds fun e member => ?_
    obtain ⟨k, record, rfl, -⟩ := queued e member
    rfl
  rw [deeds, List.countP_append, none, Nat.add_zero]

theorem countP_isClosed_step (call : Call) :
    (s.step call).2.deeds.countP Event.isClosed =
      s.deeds.countP Event.isClosed + if call.closes then 1 else 0 := by
  cases call with
  | flush => exact s.countP_isClosed_flush
  | scheduledFlush =>
    change s.scheduledFlush.2.deeds.countP Event.isClosed = s.deeds.countP Event.isClosed
    unfold scheduledFlush
    split_ifs
    · rfl
    · exact s.countP_isClosed_flush
  | close =>
    obtain ⟨events, outcome, deeds, about⟩ := s.deeds_close
    change s.close.deeds.countP Event.isClosed = _
    rw [deeds, List.countP_append, List.countP_append, countP_isClosed_of_kinds about]
    rfl
  | metric | formatted | distribution | span | clock =>
    exact s.countP_isClosed_takes (s.step_takes rfl)

theorem countP_isClosed_run (calls : List Call) :
    (s.run calls).deeds.countP Event.isClosed =
      s.deeds.countP Event.isClosed + calls.countP Call.closes := by
  induction calls generalizing s with
  | nil => rfl
  | cons call rest ih =>
    change ((s.step call).2.run rest).deeds.countP Event.isClosed = _
    rw [ih, s.countP_isClosed_step, List.countP_cons]
    omega

theorem lastFlush_eq : s.lastFlush =
    Kind.all.foldl (fun t k => (t.visit k).2) { s with closing := true } := by
  have visits (kinds : List Kind) (progress : Option ReportFault × Sender σ) :
      (kinds.foldl visitNext progress).2 = kinds.foldl (fun t k => (t.visit k).2) progress.2 := by
    induction kinds generalizing progress with
    | nil => rfl
    | cons k rest ih => exact ih (visitNext progress k)
  exact visits Kind.all (none, _)

end Sender

/-- What closing comes to in the runs of a sender: the first call to close gives the signal, nothing
takes it back, and all that is reported in the last cycle or later carries it. -/
structure ShutsDown (sender : Sender σ) : Prop where
  signal : ∀ calls, (sender.run calls).closing = calls.any Call.closes
  unseen : ∀ calls, calls.any Call.closes = false → ReportsAs false sender (sender.run calls)
  seen : ∀ before after,
    ReportsAs true (sender.run before) (sender.run (before ++ .close :: after))
  skips : ∀ calls, calls.any Call.closes = true →
    (sender.run calls).step .scheduledFlush = (.ok, sender.run calls)
  silent : ∀ calls call, calls.any Call.closes = true → call ≠ .flush → call ≠ .close →
    ((sender.run calls).step call).2.reports = (sender.run calls).reports
  visits : ∀ calls, SameButLog
    (Kind.all.foldl (fun (s : Sender σ) k => (s.visit k).2)
      { sender.run calls with closing := true }).shut
    (sender.run calls).close
  closed : ∀ calls, ∃ events outcome,
    (sender.run calls).close.deeds = (sender.run calls).deeds ++ events ++ [.closed outcome] ∧
      ∀ e ∈ events, e.kind?.isSome = true
  once : ∀ calls, (sender.run calls).deeds.countP Event.isClosed = calls.countP Call.closes
  traced : ∀ calls, Traced sender.link (sender.run calls)

/-- What closing comes to in an execution of the loop of an exporter, whichever way it goes. -/
structure ShutsDownInLoop (sender : Sender σ) (pause : Nat) (moves : List Exporter.Move)
    (last : Exporter.Loop σ) : Prop where
  signal : last.sender.closing = moves.any Exporter.Move.closes
  seen : ∀ before after, moves = before ++ .call .close :: after →
    ReportsAs true (sender.run (before.map Exporter.Move.toCall)) last.sender
  skips : moves.any Exporter.Move.closes = true → Exporter.cycle last.sender = last.sender
  silent : moves.any Exporter.Move.closes = true → ∀ move next,
    Exporter.Loop.Step pause last move next → move ≠ some (.call .flush) →
      move ≠ some (.call .close) → next.sender.reports = last.sender.reports

theorem Sender.shutsDown (clientId defaultSource : String) (limits : Limits)
    (transport : Transport σ) (link : σ) :
    ShutsDown (Sender.new clientId defaultSource limits transport link) := by
  let start := Sender.new clientId defaultSource limits transport link
  have signal (calls : List Call) : (start.run calls).closing = calls.any Call.closes := by
    rw [closing_run]
    exact Bool.false_or _
  constructor
  · exact signal
  · intro calls none
    exact start.reportsAs_run ((signal calls).trans none)
  · intro before after
    have last := (start.run before).reportsAs_close
    have later := reportsAs_run_of_told _ (start.run before).closing_close after
    rw [run_append]
    exact last.trans later
  · intro calls told
    rw [← signal calls] at told
    change (Reply.ofFlush (start.run calls).scheduledFlush.1, (start.run calls).scheduledFlush.2) = _
    rw [scheduledFlush, if_pos told]
    rfl
  · intro calls call told noFlush noClose
    rw [← signal calls] at told
    exact (start.run calls).reports_step_of_told told noFlush noClose
  · intro calls
    rw [← lastFlush_eq]
    exact (start.run calls).shut_close
  · intro calls
    exact (start.run calls).deeds_close
  · intro calls
    rw [countP_isClosed_run]
    exact Nat.zero_add _
  · intro calls
    exact Traced.run (s := start) rfl calls

namespace Exporter

variable {pause : Nat} {sender : Sender σ} {moves : List Move} {move : Option Move}
  {last next : Loop σ}

theorem Loop.Run.shutsDown (on : sender.closing = false)
    (run : Loop.Run pause (.start sender) moves last) :
    ShutsDownInLoop sender pause moves last := by
  have signal : last.sender.closing = moves.any Move.closes := by
    rw [run.closing]
    change (sender.closing || _) = _
    rw [on, Bool.false_or]
  constructor
  · exact signal
  · rintro before after rfl
    have explicit := run.sameButLog.reports
    rw [List.map_append, List.map_cons, Sender.run_append] at explicit
    let told := sender.run (before.map Move.toCall)
    have closed := told.reportsAs_close
    have later := told.close.reportsAs_run_of_told told.closing_close (after.map Move.toCall)
    exact (closed.trans later).trans (.ofSame true explicit)
  · intro told
    exact cycle_of_closing (signal.trans told)
  · intro told move next step noFlush noClose
    have closing : last.sender.closing = true := signal.trans told
    have same := (step.sameButLog (.refl last.sender)).reports
    cases step with
    | call c =>
      refine last.sender.reports_step_of_told closing ?_ ?_
      · rintro rfl
        exact noFlush rfl
      · rintro rfl
        exact noClose rfl
    | cycles =>
      rw [if_pos closing] at same
      exact same
    | passes | fires | toldFirst | told | goesOn | leaves => exact same

end Exporter

/-- Shutting down is final, with an exporter and without. -/
structure FinalShutdown (sender : Sender σ) : Prop where
  alone : ShutsDown sender
  inLoop : ∀ pause moves last, Exporter.Loop.Run pause (.start sender) moves last →
    ShutsDownInLoop sender pause moves last
  asleep : ∀ interval pos actions duration, .call .close ∈ actions →
    (((Exporter.start sender interval pos).run actions).step (.sleep duration)).2.sender =
      ((Exporter.start sender interval pos).run actions).sender

/-- Every sender shuts down for good, whatever its transport answers and its loop does first. -/
theorem shutdown_final (clientId defaultSource : String) (limits : Limits)
    (transport : Transport σ) (link : σ) :
    FinalShutdown (Sender.new clientId defaultSource limits transport link) := by
  let sender := Sender.new clientId defaultSource limits transport link
  constructor
  · exact Sender.shutsDown clientId defaultSource limits transport link
  · intro pause moves last run
    exact run.shutsDown rfl
  · intro interval pos actions duration closes
    let e := (Exporter.start sender interval pos).run actions
    have on : sender.closing = false := rfl
    have goes := Exporter.goes_run (Exporter.prompt_start on interval pos) actions
    have schedule := Exporter.onSchedule_run sender on interval pos actions
    have planned : .call .close ∈ Exporter.plan interval actions :=
      Exporter.call_mem_plan.mpr closes
    have told : e.sender.closing = true := by
      have signal := (schedule.run.shutsDown on).signal
      rw [List.any_eq_true.mpr ⟨_, planned, rfl⟩] at signal
      exact signal
    have still := congrArg Exporter.sender
      (Exporter.step_sleep_of_told goes.prompt told duration)
    exact still

end TelemetrySender
