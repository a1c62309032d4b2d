import TelemetrySender.Proofs.Entry
import TelemetrySender.Proofs.Handover
import TelemetrySender.Proofs.Past
import TelemetrySender.Sender.Run

/-!
Runs from the side of one kind.  A run is a row of turns: something that does not concern the kind,
an entry, or a visit.  What every turn preserves, every run preserves.
-/

set_option autoImplicit false
set_option relaxedAutoImplicit false

namespace TelemetrySender

variable {σ : Type}

structure Aside (k : Kind) (s s' : Sender σ) : Prop where
  setup : s'.setup = s.setup
  buffer : s'.buffer k = s.buffer k
  deeds : ∃ events, s'.deeds = s.deeds ++ events ∧ ∀ e ∈ events, e.kind? ≠ some k

namespace Aside

variable {j k : Kind} {s t u : Sender σ}

theorem refl (k : Kind) (s : Sender σ) : Aside k s s := ⟨rfl, rfl, [], by simp, by simp⟩

theorem trans (first : Aside k s t) (second : Aside k t u) : Aside k s u := by
  obtain ⟨early, deeds, aboutEarly⟩ := first.deeds
  obtain ⟨late, later, aboutLate⟩ := second.deeds
  refine ⟨second.setup.trans first.setup, second.buffer.trans first.buffer, early ++ late, ?_, ?_⟩
  · rw [later, deeds, List.append_assoc]
  · intro e member
    rcases List.mem_append.mp member with inEarly | inLate
    · exact aboutEarly e inEarly
    · exact aboutLate e inLate

theorem ofEntry {records : List String} {valid dropped : Nat}
    (entry : Entry j records valid dropped s t) (other : k ≠ j) : Aside k s t := by
  refine ⟨entry.setup, entry.others k other, records.map (.queued j), entry.deeds, ?_⟩
  intro e member
  obtain ⟨record, -, rfl⟩ := List.mem_map.mp member
  exact fun same => other (Option.some.inj same).symm

theorem ofCourse {taken : Nat} {events : List Event} (course : Course j taken events s t)
    (other : k ≠ j) : Aside k s t := by
  refine ⟨course.setup, course.others k other, events, course.deeds, fun e member => ?_⟩
  rw [course.about e member]
  exact fun same => other (Option.some.inj same).symm

theorem ofClosed (k : Kind) (s : Sender σ) (link : σ) (outcome : Except Fault Unit) :
    Aside k s ({ s with link := link }.record (.closed outcome)) :=
  ⟨rfl, rfl, [.closed outcome], Sender.deeds_record rfl _, by simp [Event.kind?]⟩

theorem ofSameButLog (k : Kind) (same : SameButLog s t) : Aside k s t := by
  refine ⟨?_, ?_, [], ?_, by simp⟩
  · rw [same.rest]
    rfl
  · rw [Sender.buffer, same.buffers]
    rfl
  · rw [same.deeds, List.append_nil]

private theorem flatMap_deeds (aside : Aside k s t) {g : Event → List String}
    (reads : ∀ e : Event, e.kind? ≠ some k → g e = []) :
    t.deeds.flatMap g = s.deeds.flatMap g := by
  obtain ⟨events, deeds, others⟩ := aside.deeds
  have silent := List.flatMap_eq_nil_iff.mpr fun e member => reads e (others e member)
  rw [deeds, List.flatMap_append, silent, List.append_nil]

theorem accepted (aside : Aside k s t) : t.accepted k = s.accepted k :=
  aside.flatMap_deeds fun _ => Event.acceptedOf_of_ne

theorem arrived (aside : Aside k s t) : t.arrived k = s.arrived k :=
  aside.flatMap_deeds fun _ => Event.arrivedOf_of_ne

theorem lost (aside : Aside k s t) : t.lost k = s.lost k :=
  aside.flatMap_deeds fun _ => Event.lostOf_of_ne

theorem queued (aside : Aside k s t) : t.queued k = s.queued k := by
  rw [Sender.queued, aside.buffer, Sender.queued]

end Aside

theorem Entry.accepted {k : Kind} {s t : Sender σ} {records : List String} {valid dropped : Nat}
    (entry : Entry k records valid dropped s t) : t.accepted k = s.accepted k ++ records := by
  rw [Sender.accepted_append entry.deeds, List.flatMap_map]
  simp [Event.acceptedOf]

/-- What a part of a run is to a kind; `orphans` counts the span logs that were dropped because their
span found its queue full. -/
inductive Turn (k : Kind) : Nat → Sender σ → Sender σ → Prop
  | aside {s t : Sender σ} : Aside k s t → Turn k 0 s t
  | entry {s t : Sender σ} {records : List String} {valid dropped orphans : Nat} :
      Entry k records valid dropped s t → valid + orphans = records.length + dropped →
        Turn k orphans s t
  | visit (s : Sender σ) : Turn k 0 s (s.visit k).2

inductive Turns (k : Kind) : Nat → Sender σ → Sender σ → Prop
  | none (s : Sender σ) : Turns k 0 s s
  | more {s t u : Sender σ} {m n : Nat} : Turns k m s t → Turn k n t u → Turns k (m + n) s u

namespace Turns

variable {k : Kind} {m n : Nat} {s t u : Sender σ}

theorem single (turn : Turn k n s t) : Turns k n s t := by
  have one := Turns.more (.none s) turn
  rwa [Nat.zero_add] at one

theorem trans (first : Turns k m s t) (second : Turns k n t u) : Turns k (m + n) s u := by
  induction second with
  | none => exact first
  | more _ turn ih =>
    rw [← Nat.add_assoc]
    exact .more (ih first) turn

/-- What every turn preserves. -/
theorem preserves {p : Nat → Sender σ → Prop} (turns : Turns k n s t)
    (step : ∀ {m n : Nat} {s t : Sender σ}, p m s → Turn k n s t → p (m + n) t)
    (start : p m s) : p (m + n) t := by
  induction turns with
  | none => exact start
  | more _ turn ih =>
    rw [← Nat.add_assoc]
    exact step (ih start) turn

end Turns

namespace Sender

variable (s : Sender σ) (k : Kind)

theorem visit_aside {j : Kind} (other : k ≠ j) : Aside k s (s.visit j).2 :=
  .ofCourse (Course.visit s j) other

private theorem foldl_visitNext_aside {kinds : List Kind} (others : k ∉ kinds)
    (progress : Option ReportFault × Sender σ) :
    Aside k progress.2 (kinds.foldl visitNext progress).2 := by
  induction kinds generalizing progress with
  | nil => exact .refl k _
  | cons j rest ih =>
    rw [List.mem_cons, not_or] at others
    exact (progress.2.visit_aside k others.1).trans (ih others.2 (visitNext progress j))

private theorem foldl_visitNext_keeps {p : Sender σ → Prop}
    (keeps : ∀ (s : Sender σ) (j : Kind), p s → p (s.visit j).2) (kinds : List Kind)
    {progress : Option ReportFault × Sender σ} (start : p progress.2) :
    p (kinds.foldl visitNext progress).2 := by
  induction kinds generalizing progress with
  | nil => exact start
  | cons j rest ih =>
    have next : p (visitNext progress j).2 := keeps progress.2 j start
    exact ih next

theorem flush_keeps {p : Sender σ → Prop}
    (keeps : ∀ (s : Sender σ) (j : Kind), p s → p (s.visit j).2) (start : p s) : p s.flush.2 :=
  foldl_visitNext_keeps keeps Kind.all start

theorem deeds_flush :
    ∃ events, s.flush.2.deeds = s.deeds ++ events ∧ ∀ e ∈ events, e.kind?.isSome = true := by
  refine s.flush_keeps
    (p := fun t => ∃ events, t.deeds = s.deeds ++ events ∧ ∀ e ∈ events, e.kind?.isSome = true)
    (fun t j kept => ?_) ⟨[], by simp, by simp⟩
  obtain ⟨events, deeds, about⟩ := kept
  have course := Course.visit t j
  refine ⟨events ++ t.batchDeeds j, by rw [course.deeds, deeds, List.append_assoc], ?_⟩
  intro e member
  rcases List.mem_append.mp member with early | late
  · exact about e early
  · rw [course.about e late]
    rfl

/-- A cycle visits every kind once, and what visits keep holds then. -/
theorem flush_visits_keeping {p : Sender σ → Prop}
    (keeps : ∀ (s : Sender σ) (j : Kind), p s → p (s.visit j).2) (start : p s) :
    ∃ t, p t ∧ Aside k s t ∧ Aside k (t.visit k).2 s.flush.2 := by
  have once : ∃ before after, Kind.all = before ++ k :: after ∧ k ∉ before ∧ k ∉ after := by
    cases k
    · exact ⟨[], [.histograms, .spans, .spanLogs], by decide⟩
    · exact ⟨[.points], [.spans, .spanLogs], by decide⟩
    · exact ⟨[.points, .histograms], [.spanLogs], by decide⟩
    · exact ⟨[.points, .histograms, .spans], [], by decide⟩
  obtain ⟨before, after, all, early, late⟩ := once
  refine ⟨(before.foldl visitNext (none, s)).2, foldl_visitNext_keeps keeps before start,
    foldl_visitNext_aside k early (none, s), ?_⟩
  rw [flush, all, List.foldl_append, List.foldl_cons]
  exact foldl_visitNext_aside k late (visitNext (before.foldl visitNext (none, s)) k)

theorem flush_visits : ∃ t, Aside k s t ∧ Aside k (t.visit k).2 s.flush.2 := by
  obtain ⟨t, -, visits⟩ := s.flush_visits_keeping k (p := fun _ => True) (fun _ _ _ => trivial) trivial
  exact ⟨t, visits⟩

def lastFlush : Sender σ := { s with closing := true }.flush.2

def shut (s : Sender σ) : Sender σ :=
  { s with link := (s.transport.close s.link).2 }.record (.closed (s.transport.close s.link).1)

private theorem deeds_shut : s.shut.deeds = s.deeds ++ [.closed (s.transport.close s.link).1] :=
  deeds_record rfl _

private theorem shut_congr {s t : Sender σ} (same : SameButLog s t) :
    SameButLog s.shut t.shut := by
  have close : t.transport.close t.link = s.transport.close s.link := by rw [same.rest]
  constructor
  · rw [shut, shut, close, same.rest]
    rfl
  · rw [deeds_shut, deeds_shut, close, same.deeds]

private theorem shut_reported (text : Fault → String) :
    SameButLog s.shut (match (s.transport.close s.link).1 with
      | .error fault => s.shut.log .warn (text fault)
      | .ok () => s.shut) := by
  cases (s.transport.close s.link).1 with
  | error fault => exact .log s.shut .warn (text fault)
  | ok done => exact .refl s.shut

theorem shut_close : SameButLog s.lastFlush.shut s.close := by
  unfold close lastFlush
  generalize { s with closing := true }.flush = flushed
  obtain ⟨fault, t⟩ := flushed
  cases fault with
  | none =>
    exact t.shut_reported fun fault =>
      "error closing " ++ t.transport.name ++ " transport: " ++ fault.text
  | some fault =>
    have flushed := SameButLog.log t .warn ("error flushing buffer: " ++ fault.message)
    exact (shut_congr flushed).trans (shut_reported _ fun fault =>
      "error closing " ++ t.transport.name ++ " transport: " ++ fault.text)

structure Closes (k : Kind) (s s' : Sender σ) : Prop where
  aside : Aside k s s'
  deeds : ∃ outcome, s'.deeds = s.deeds ++ [.closed outcome]
  link : s'.link = (s.transport.close s.link).2

private theorem shut_closes : Closes k s s.shut :=
  ⟨Aside.ofClosed k s _ _, ⟨_, s.deeds_shut⟩, rfl⟩

theorem lastFlush_closes : Closes k s.lastFlush s.close := by
  obtain ⟨aside, ⟨outcome, deeds⟩, link⟩ := s.lastFlush.shut_closes k
  have same := s.shut_close
  constructor
  · exact aside.trans (.ofSameButLog k same)
  · exact ⟨outcome, same.deeds.trans deeds⟩
  · exact same.link.trans link

theorem deeds_close :
    ∃ events outcome, s.close.deeds = s.deeds ++ events ++ [.closed outcome] ∧
      ∀ e ∈ events, e.kind?.isSome = true := by
  obtain ⟨events, deeds, about⟩ := deeds_flush { s with closing := true }
  change s.lastFlush.deeds = s.deeds ++ events at deeds
  obtain ⟨outcome, closed⟩ := (s.lastFlush_closes .points).deeds
  exact ⟨events, outcome, by rw [closed, deeds], about⟩

theorem close_visits_keeping {p : Sender σ → Prop}
    (keeps : ∀ (s : Sender σ) (j : Kind), p s → p (s.visit j).2)
    (start : p { s with closing := true }) :
    ∃ t, p t ∧ Aside k s t ∧ Aside k (t.visit k).2 s.close := by
  obtain ⟨t, kept, before, after⟩ := flush_visits_keeping _ k keeps start
  exact ⟨t, kept, ⟨before.setup, before.buffer, before.deeds⟩, after.trans (s.lastFlush_closes k).aside⟩

theorem close_visits : ∃ t, Aside k s t ∧ Aside k (t.visit k).2 s.close := by
  obtain ⟨t, -, visits⟩ := s.close_visits_keeping k (p := fun _ => True) (fun _ _ _ => trivial) trivial
  exact ⟨t, visits⟩

def orphans (s : Sender σ) : Call → Nat
  | .span span =>
    match span.encode s.defaultSource with
    | .ok _ =>
      if span.logs.isEmpty = false ∧
        (s.buffer .spans).capacity ≤ (s.buffer .spans).queue.size then 1 else 0
    | .error _ => 0
  | _ => 0

def orphansOf (s : Sender σ) : List Call → Nat
  | [] => 0
  | call :: rest => s.orphans call + orphansOf (s.step call).2 rest

theorem entry_turn {j : Kind} {t : Sender σ} {records : List String} {valid dropped orphans : Nat}
    (entry : Entry j records valid dropped s t)
    (books : valid + orphans = records.length + dropped) :
    Turn k (if k = j then orphans else 0) s t := by
  by_cases same : k = j
  · subst same
    rw [if_pos rfl]
    exact .entry entry books
  · rw [if_neg same]
    exact .aside (.ofEntry entry same)

theorem accept_turn (j : Kind) (record : String) : Turn k 0 s (s.accept j record).2 := by
  obtain ⟨records, dropped, one, entry⟩ := Entry.accept s j record
  have turn : Turn k (if k = j then 0 else 0) s _ := s.entry_turn k entry one.symm
  rwa [ite_self] at turn

theorem submit_turn (j : Kind) (encoded : Except Invalid String) :
    Turn k 0 s (s.submit j encoded).2 := by
  cases encoded with
  | error fault =>
    have turn : Turn k (if k = j then 0 else 0) s _ := s.entry_turn k (Entry.refuse s j) rfl
    rwa [ite_self] at turn
  | ok record => exact s.accept_turn k j record

theorem flush_turns : Turns k 0 s s.flush.2 := by
  obtain ⟨t, before, after⟩ := s.flush_visits k
  exact .more (.more (.single (.aside before)) (.visit t)) (.aside after)

theorem close_turns : Turns k 0 s s.close := by
  obtain ⟨t, before, after⟩ := s.close_visits k
  exact .more (.more (.single (.aside before)) (.visit t)) (.aside after)

private theorem without_orphans {t : Sender σ} (turns : Turns k 0 s t) :
    Turns k (if k = .spanLogs then 0 else 0) s t := by
  rwa [ite_self]

theorem sendSpan_turns (span : Span) :
    Turns k (if k = .spanLogs then s.orphans (.span span) else 0) s (s.sendSpan span).2 := by
  unfold sendSpan
  simp only [orphans]
  cases span.encode s.defaultSource with
  | error fault => exact s.without_orphans k (.single (s.submit_turn k .spans (.error fault)))
  | ok record =>
    have first : Turns k 0 s (s.accept .spans record).2 := .single (s.accept_turn k .spans record)
    cases span.logs.isEmpty with
    | true => exact s.without_orphans k first
    | false =>
      rcases Nat.lt_or_ge (s.buffer .spans).queue.size (s.buffer .spans).capacity with room | full
      · have queued := (Entry.accept_of_lt room record).1
        simp only [queued, Bool.false_eq_true, if_false, if_true, true_and,
          if_neg (Nat.not_le.mpr room)]
        exact s.without_orphans k (.more first (accept_turn _ k .spanLogs _))
      · have refused := (Entry.accept_of_le full record).1
        simp only [refused, Bool.false_eq_true, if_false, true_and, if_pos full]
        have dropped : Turn k (if k = .spanLogs then 1 else 0) (s.accept .spans record).2 _ :=
          entry_turn _ k (Entry.drop _ .spanLogs) rfl
        have turns := Turns.more first dropped
        rwa [Nat.zero_add] at turns

theorem scheduledFlush_turns : Turns k 0 s s.scheduledFlush.2 := by
  unfold scheduledFlush
  split
  · exact .none s
  · exact s.flush_turns k

theorem step_turns (call : Call) :
    Turns k (if k = .spanLogs then s.orphans call else 0) s (s.step call).2 := by
  cases call with
  | metric m => exact s.without_orphans k (.single (s.submit_turn k .points _))
  | formatted p => exact s.without_orphans k (.single (s.submit_turn k .points _))
  | distribution d => exact s.without_orphans k (.single (s.submit_turn k .histograms _))
  | span x => exact s.sendSpan_turns k x
  | flush => exact s.without_orphans k (s.flush_turns k)
  | scheduledFlush => exact s.without_orphans k (s.scheduledFlush_turns k)
  | close => exact s.without_orphans k (s.close_turns k)
  | clock now =>
    have idle : Aside k s { s with now := now } := ⟨rfl, rfl, [], by simp [deeds], by simp⟩
    exact s.without_orphans k (.single (.aside idle))

/-- A run is a row of turns to every kind. -/
theorem run_turns (calls : List Call) :
    Turns k (if k = .spanLogs then s.orphansOf calls else 0) s (s.run calls) := by
  induction calls generalizing s with
  | nil => exact s.without_orphans k (.none s)
  | cons call rest ih =>
    have turns := (s.step_turns k call).trans (ih (s.step call).2)
    have sum : (if k = .spanLogs then s.orphansOf (call :: rest) else 0) =
        (if k = .spanLogs then s.orphans call else 0) +
          if k = .spanLogs then (s.step call).2.orphansOf rest else 0 := by
      split_ifs <;> rfl
    rw [sum]
    exact turns

theorem setup_run (calls : List Call) : (s.run calls).setup = s.setup := by
  refine (s.run_turns .points calls).preserves (p := fun _ t => t.setup = s.setup) (m := 0)
    (fun {_ _ t u} same turn => ?_) rfl
  rw [← same]
  cases turn with
  | aside aside => exact aside.setup
  | entry entry => exact entry.setup
  | visit => exact (Course.visit t .points).setup

end Sender

end TelemetrySender
