import Mathlib.Algebra.GroupWithZero.Nat
import TelemetrySender.Proofs.Course

/-!
What a course of deeds counts: every record that is given up as dropped, every answer under its
status, every failure as a report error, and nothing as valid or invalid.  The recorder of metrics is
told of all of it.
-/

set_option autoImplicit false
set_option relaxedAutoImplicit false

namespace TelemetrySender

variable {σ : Type}

def Tally.answers (t : Tally) : Nat := (t.statuses.map Prod.snd).sum

namespace Keyed

variable {κ : Type} [DecidableEq κ]

theorem sum_assign (key : κ) (entries : List (κ × Nat)) :
    ((assign key ((find? key entries).getD 0 + 1) entries).map Prod.snd).sum =
      (entries.map Prod.snd).sum + 1 := by
  induction entries with
  | nil => rfl
  | cons p rest ih =>
    rw [assign, find?]
    by_cases same : p.1 = key
    · simp only [if_pos same, Option.getD_some, List.map_cons, List.sum_cons]
      omega
    · simp only [if_neg same, List.map_cons, List.sum_cons, ih]
      omega

theorem mem_assign {α : Type} {key : κ} {value : α} {entries : List (κ × α)} {p : κ × α}
    (member : p ∈ assign key value entries) : p = (key, value) ∨ p ∈ entries := by
  induction entries with
  | nil => exact .inl (List.mem_singleton.mp member)
  | cons q rest ih =>
    unfold assign at member
    split at member
    · rcases List.mem_cons.mp member with new | old
      · exact .inl new
      · exact .inr (List.mem_cons_of_mem q old)
    · rcases List.mem_cons.mp member with rfl | later
      · exact .inr List.mem_cons_self
      · exact (ih later).imp_right (List.mem_cons_of_mem q)

end Keyed

namespace Event

private theorem foldl_count_eq_add {f : Tally → Nat} {g : Event → Nat} {events : List Event}
    (step : ∀ t, ∀ e ∈ events, f (count t e) = f t + g e) (t : Tally) :
    f (events.foldl count t) = f t + (events.map g).sum := by
  induction events generalizing t with
  | nil => rfl
  | cons e rest ih =>
    have later := ih (fun t e member => step t e (List.mem_cons_of_mem _ member)) (count t e)
    rw [List.foldl_cons, later, step t e List.mem_cons_self, List.map_cons, List.sum_cons]
    omega

variable {d : Delivery} {status : Nat} {fault : Fault}

theorem count_of_ok (answer : d.outcome = .ok status) (t : Tally) :
    count t (.reported d) = t.addStatus status := by
  simp only [count, answer]

theorem count_of_error (answer : d.outcome = .error fault) (t : Tally) :
    count t (.reported d) = t.addReportError := by
  simp only [count, answer]

theorem taken_in_count (t : Tally) (e : Event) :
    (count t e).valid = t.valid ∧ (count t e).invalid = t.invalid := by
  cases e with
  | reported d =>
    cases answer : d.outcome with
    | ok status =>
      rw [count_of_ok answer]
      exact ⟨rfl, rfl⟩
    | error fault =>
      rw [count_of_error answer]
      exact ⟨rfl, rfl⟩
  | _ => exact ⟨rfl, rfl⟩

theorem dropped_count {k : Kind} {e : Event} (about : e.kind? = some k) (t : Tally) :
    (count t e).dropped = t.dropped + (e.lostOf k).length := by
  cases e with
  | reported d =>
    cases answer : d.outcome with
    | ok status =>
      rw [count_of_ok answer]
      rfl
    | error fault =>
      rw [count_of_error answer]
      rfl
  | lost j cause records =>
    obtain rfl : j = k := Option.some.inj about
    simp [count, lostOf, Tally.addDropped]
  | _ => rfl

theorem reportErrors_count (t : Tally) (e : Event) :
    (count t e).reportErrors = t.reportErrors + (e.delivery?.toList).countP Delivery.failed := by
  cases e with
  | reported d =>
    cases answer : d.outcome with
    | ok status =>
      rw [count_of_ok answer]
      simp [delivery?, answer, Delivery.failed, Delivery.fault?, Tally.addStatus]
    | error fault =>
      rw [count_of_error answer]
      simp [delivery?, answer, Delivery.failed, Delivery.fault?, Tally.addReportError]
  | _ => rfl

theorem statusCount_count (status : Nat) (t : Tally) (e : Event) :
    (count t e).statusCount status =
      t.statusCount status + (e.delivery?.toList).countP (fun d => d.status? = some status) := by
  cases e with
  | reported d =>
    cases answer : d.outcome with
    | error fault =>
      rw [count_of_error answer]
      simp [delivery?, answer, Delivery.status?, Tally.statusCount, Tally.addReportError]
    | ok answered =>
      rw [count_of_ok answer]
      by_cases same : status = answered
      · subst same
        simp [delivery?, answer, Delivery.status?, Tally.statusCount, Tally.addStatus,
          Keyed.find?_assign_self]
      · simp [delivery?, answer, Delivery.status?, Tally.statusCount, Tally.addStatus,
          Keyed.find?_assign_of_ne same, Ne.symm same]
  | _ => rfl

theorem answers_count (t : Tally) (e : Event) :
    (count t e).answers =
      t.answers + (e.delivery?.toList).countP fun d => d.status?.isSome := by
  cases e with
  | reported d =>
    cases answer : d.outcome with
    | error fault =>
      rw [count_of_error answer]
      simp [delivery?, answer, Delivery.status?, Tally.answers, Tally.addReportError]
    | ok status =>
      have one := Keyed.sum_assign status t.statuses
      rw [count_of_ok answer]
      simpa [delivery?, answer, Delivery.status?, Tally.answers, Tally.addStatus,
        Tally.statusCount] using one
  | _ => rfl

theorem listed_count {t : Tally} (listed : ∀ p ∈ t.statuses, 0 < p.2) (e : Event) :
    ∀ p ∈ (count t e).statuses, 0 < p.2 := by
  cases e with
  | reported d =>
    cases answer : d.outcome with
    | error fault =>
      rw [count_of_error answer]
      exact listed
    | ok status =>
      rw [count_of_ok answer]
      intro p member
      rcases Keyed.mem_assign member with rfl | old
      · exact Nat.succ_pos _
      · exact listed p old
  | _ => exact listed

theorem told_count {t : Tally} (told : t.Told) (e : Event) : (count t e).Told := by
  cases e with
  | reported d =>
    cases answer : d.outcome with
    | error fault =>
      rw [count_of_error answer]
      exact told.addReportError
    | ok status =>
      rw [count_of_ok answer]
      exact told.addStatus status
  | lost j cause records => exact told.addDropped records.length
  | _ => exact told

end Event

namespace Course

variable {k : Kind} {taken : Nat} {events : List Event} {s t : Sender σ}

theorem valid (course : Course k taken events s t) :
    (t.buffer k).tally.valid = (s.buffer k).tally.valid := by
  have all := congrArg Tally.valid course.counts
  rw [Event.foldl_count_eq_add (g := fun _ => 0) fun t e _ => (Event.taken_in_count t e).1,
    List.map_const', List.sum_replicate_nat, Nat.mul_zero, Nat.add_zero] at all
  exact all

theorem invalid (course : Course k taken events s t) :
    (t.buffer k).tally.invalid = (s.buffer k).tally.invalid := by
  have all := congrArg Tally.invalid course.counts
  rw [Event.foldl_count_eq_add (g := fun _ => 0) fun t e _ => (Event.taken_in_count t e).2,
    List.map_const', List.sum_replicate_nat, Nat.mul_zero, Nat.add_zero] at all
  exact all

private theorem countP_deliveries (p : Delivery → Bool) (events : List Event) :
    (events.map fun e => (e.delivery?.toList).countP p).sum =
      (events.filterMap Event.delivery?).countP p := by
  rw [List.filterMap_eq_flatMap_toList, List.countP_flatMap]
  rfl

/-- Every record given up is counted as dropped, and nothing else is. -/
theorem dropped (course : Course k taken events s t) :
    (t.buffer k).tally.dropped =
      (s.buffer k).tally.dropped + (events.flatMap (Event.lostOf k)).length := by
  have all := congrArg Tally.dropped course.counts
  rw [Event.foldl_count_eq_add fun t e member => Event.dropped_count (course.about e member) t,
    ← List.length_flatMap] at all
  exact all

theorem reportErrors (course : Course k taken events s t) :
    (t.buffer k).tally.reportErrors = (s.buffer k).tally.reportErrors +
      (events.filterMap Event.delivery?).countP Delivery.failed := by
  have all := congrArg Tally.reportErrors course.counts
  rw [Event.foldl_count_eq_add fun t e _ => Event.reportErrors_count t e, countP_deliveries] at all
  exact all

theorem statusCount (course : Course k taken events s t) (status : Nat) :
    (t.buffer k).tally.statusCount status = (s.buffer k).tally.statusCount status +
      (events.filterMap Event.delivery?).countP fun d => d.status? = some status := by
  have all := congrArg (Tally.statusCount · status) course.counts
  rw [Event.foldl_count_eq_add (f := (Tally.statusCount · status)) fun t e _ =>
    Event.statusCount_count status t e, countP_deliveries] at all
  exact all

theorem answers (course : Course k taken events s t) :
    (t.buffer k).tally.answers = (s.buffer k).tally.answers +
      (events.filterMap Event.delivery?).countP fun d => d.status?.isSome := by
  have all := congrArg Tally.answers course.counts
  rw [Event.foldl_count_eq_add fun t e _ => Event.answers_count t e, countP_deliveries] at all
  exact all

private theorem counts_keep (course : Course k taken events s t) {p : Tally → Prop}
    (keeps : ∀ {t : Tally}, p t → ∀ e, p (Event.count t e)) (start : p (s.buffer k).tally.counts) :
    p (t.buffer k).tally.counts := by
  rw [course.counts]
  exact List.foldlRecOn events Event.count start fun _ kept e _ => keeps kept e

theorem listed (course : Course k taken events s t)
    (listed : ∀ p ∈ (s.buffer k).tally.statuses, 0 < p.2) :
    ∀ p ∈ (t.buffer k).tally.statuses, 0 < p.2 :=
  course.counts_keep (p := fun t => ∀ p ∈ t.statuses, 0 < p.2) Event.listed_count listed

theorem told (course : Course k taken events s t) (told : (s.buffer k).tally.Told) :
    (t.buffer k).tally.Told :=
  course.counts_keep (p := Tally.Told) Event.told_count told

end Course

end TelemetrySender
