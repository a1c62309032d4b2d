import TelemetrySender.Proofs.Published
import TelemetrySender.Proofs.Transcript

/-!
Metering.  What a sender counts about deliveries, and what it publishes, is what the history of its
transport tells.  A cycle visits all kinds, whatever fails on the way; it fails if a delivery of it did,
with the fault of the first kind that has one.  Behind a cycle the gauges show the queues as they are.
-/

set_option autoImplicit false
set_option relaxedAutoImplicit false

namespace TelemetrySender

variable {σ : Type}

/-- The invariant of a kind: its counts are those of its deliveries. -/
structure Counted (s : Sender σ) (k : Kind) : Prop where
  statuses : ∀ status, (s.buffer k).tally.statusCount status =
    (s.reportsOf k).countP fun d => d.status? = some status
  answers : (s.buffer k).tally.answers = (s.reportsOf k).countP fun d => d.status?.isSome
  reportErrors : (s.buffer k).tally.reportErrors = (s.reportsOf k).countP Delivery.failed
  listed : ∀ p ∈ (s.buffer k).tally.statuses, 0 < p.2
  told : (s.buffer k).tally.Told

namespace Counted

variable {k : Kind} {n : Nat} {s t : Sender σ}

theorem visit (counted : Counted s k) : Counted (s.visit k).2 k := by
  have course := Course.visit s k
  constructor
  · intro status
    rw [course.statusCount, s.delivery?_batchDeeds, s.reportsOf_visit, List.countP_append,
      counted.statuses]
  · rw [course.answers, s.delivery?_batchDeeds, s.reportsOf_visit, List.countP_append,
      counted.answers]
  · rw [course.reportErrors, s.delivery?_batchDeeds, s.reportsOf_visit, List.countP_append,
      counted.reportErrors]
  · exact course.listed counted.listed
  · exact course.told counted.told

theorem aside (counted : Counted s k) (aside : Aside k s t) : Counted t k := by
  constructor
  · rw [aside.buffer, aside.reportsOf]
    exact counted.statuses
  · rw [aside.buffer, aside.reportsOf]
    exact counted.answers
  · rw [aside.buffer, aside.reportsOf]
    exact counted.reportErrors
  · rw [aside.buffer]
    exact counted.listed
  · rw [aside.buffer]
    exact counted.told

theorem visited (counted : Counted s k) (j : Kind) : Counted (s.visit j).2 k := by
  by_cases same : k = j
  · rw [← same]
    exact counted.visit
  · exact counted.aside (s.visit_aside k same)

theorem turn (counted : Counted s k) (turn : Turn k n s t) : Counted t k := by
  cases turn with
  | aside aside => exact counted.aside aside
  | entry entry =>
    constructor
    · intro status
      rw [Tally.statusCount, entry.statuses, entry.reportsOf]
      exact counted.statuses status
    · rw [Tally.answers, entry.statuses, entry.reportsOf]
      exact counted.answers
    · rw [entry.reportErrors, entry.reportsOf]
      exact counted.reportErrors
    · rw [entry.statuses]
      exact counted.listed
    · exact entry.told counted.told
  | visit => exact counted.visit

theorem new (clientId defaultSource : String) (limits : Limits) (transport : Transport σ) (link : σ)
    (k : Kind) : Counted (Sender.new clientId defaultSource limits transport link) k := by
  constructor
  · intro status
    cases k <;> rfl
  · cases k <;> rfl
  · cases k <;> rfl
  · intro p member
    cases k <;> cases member
  · cases k <;> rfl

theorem run (counted : Counted s k) (calls : List Call) : Counted (s.run calls) k :=
  (s.run_turns k calls).preserves (p := fun _ s => Counted s k) (m := 0)
    (fun counted turn => counted.turn turn) counted

theorem told_to_close (counted : Counted s k) : Counted { s with closing := true } k :=
  ⟨counted.statuses, counted.answers, counted.reportErrors, counted.listed, counted.told⟩

end Counted

namespace Tally

theorem reading_of_lt {count : Nat} (small : count < Nat.pow 2 64) : reading count = count :=
  Nat.mod_eq_of_lt small

def shown? (count : Nat) : Option Nat := if count = 0 then none else some (reading count)

end Tally

namespace Sender

variable (s : Sender σ) (k : Kind)

def sentAs : List Delivery := s.reports.filter fun d => d.kind.format = k.format

private theorem sentAs_eq : s.sentAs k = s.reportsOf k := by
  refine List.filter_congr fun d _ => ?_
  rw [decide_eq_decide]
  exact ⟨Kind.format_injective, congrArg Kind.format⟩

private theorem countP_reports (p : Delivery → Bool) :
    s.reports.countP p = (s.reportsOf .points).countP p + (s.reportsOf .histograms).countP p +
      (s.reportsOf .spans).countP p + (s.reportsOf .spanLogs).countP p := by
  unfold reportsOf
  induction s.reports with
  | nil => rfl
  | cons d rest ih =>
    rw [List.countP_cons, ih]
    cases own : d.kind <;> simp [own, List.countP_cons] <;> omega

private theorem failures_eq (counted : ∀ k, Counted s k) :
    s.failures = Tally.reading ((s.reportsOf .points).countP Delivery.failed) +
      Tally.reading ((s.reportsOf .histograms).countP Delivery.failed) +
      Tally.reading ((s.reportsOf .spans).countP Delivery.failed) +
      Tally.reading ((s.reportsOf .spanLogs).countP Delivery.failed) := by
  simp only [failures, Kind.all, List.foldl_cons, List.foldl_nil, (counted _).reportErrors,
    Nat.zero_add]

theorem reading_failures (counted : ∀ k, Counted s k) :
    Tally.reading s.failures = Tally.reading (s.reports.countP Delivery.failed) := by
  rw [s.failures_eq counted, s.countP_reports]
  simp only [Tally.reading, Nat.pow_eq]
  omega

theorem failures_of_lt (counted : ∀ k, Counted s k)
    (small : s.reports.countP Delivery.failed < Nat.pow 2 64) :
    s.failures = s.reports.countP Delivery.failed := by
  have all := s.countP_reports Delivery.failed
  rw [s.failures_eq counted, Tally.reading_of_lt, Tally.reading_of_lt, Tally.reading_of_lt,
    Tally.reading_of_lt, all] <;> omega

end Sender

/-- All that a sender counts agrees with what its transport was called for. -/
structure Metered (origin : σ) (s : Sender σ) : Prop where
  statuses : ∀ k status, s.metric? k (Tally.statusName status) =
    Tally.shown? ((s.sentAs k).countP fun d => d.status? = some status)
  reportErrors : ∀ k, (s.stats k).reportErrors =
    Tally.reading ((s.sentAs k).countP Delivery.failed)
  complete : ∀ k, (s.buffer k).tally.answers + (s.buffer k).tally.reportErrors =
    (s.sentAs k).length
  failures : Tally.reading s.failures = Tally.reading (s.reports.countP Delivery.failed)
  failures_of_lt : s.reports.countP Delivery.failed < Nat.pow 2 64 →
    s.failures = s.reports.countP Delivery.failed
  mirrored : ∀ k, s.metric? k "valid" = some (s.stats k).valid ∧
    s.metric? k "invalid" = some (s.stats k).invalid ∧
    s.metric? k "dropped" = some (s.stats k).dropped ∧
    s.metric? k "report.errors" = some (s.stats k).reportErrors
  transcribed : Transcribed origin s

namespace Counted

variable {k : Kind} {s : Sender σ}

private theorem metric?_statusName (counted : Counted s k) (status : Nat) :
    s.metric? k (Tally.statusName status) =
      Tally.shown? ((s.sentAs k).countP fun d => d.status? = some status) := by
  have count := counted.statuses status
  rw [s.metric?_statusName, s.sentAs_eq, ← count, Tally.statusCount]
  cases found : Keyed.find? status (s.buffer k).tally.statuses with
  | none => rfl
  | some count =>
    have pos : 0 < count := counted.listed _ (Keyed.mem_of_find? found)
    rw [Option.getD_some, Tally.shown?, if_neg (Nat.ne_of_gt pos)]
    rfl

private theorem complete (counted : Counted s k) :
    (s.buffer k).tally.answers + (s.buffer k).tally.reportErrors = (s.sentAs k).length := by
  have either (d : Delivery) : d.failed = true ↔ ¬ d.status?.isSome = true := by
    cases answer : d.outcome <;> simp [Delivery.failed, Delivery.fault?, Delivery.status?, answer]
  rw [counted.answers, counted.reportErrors, s.sentAs_eq, List.length_eq_countP_add_countP
    fun d : Delivery => d.status?.isSome]
  refine congrArg (_ + ·) (List.countP_congr fun d _ => ?_)
  rw [decide_eq_true_eq, either]

private theorem mirrored (counted : Counted s k) :
    s.metric? k "valid" = some (s.stats k).valid ∧
      s.metric? k "invalid" = some (s.stats k).invalid ∧
      s.metric? k "dropped" = some (s.stats k).dropped ∧
      s.metric? k "report.errors" = some (s.stats k).reportErrors := by
  have told : (s.buffer k).tally.recorded = _ := counted.told
  refine ⟨s.metric?_of_standing k ?_, s.metric?_of_standing k ?_, s.metric?_of_standing k ?_,
    s.metric?_of_standing k ?_⟩ <;> rw [Tally.standing, told] <;> rfl

end Counted

theorem Metered.of {origin : σ} {s : Sender σ} (counted : ∀ k, Counted s k)
    (transcribed : Transcribed origin s) : Metered origin s where
  statuses k := (counted k).metric?_statusName
  reportErrors k := by rw [Sender.stats, (counted k).reportErrors, s.sentAs_eq]
  complete k := (counted k).complete
  failures := s.reading_failures counted
  failures_of_lt := s.failures_of_lt counted
  mirrored k := (counted k).mirrored
  transcribed := transcribed

/-- The visit of a kind, with the deliveries that were tried. -/
structure Visit where
  kind : Kind
  tried : List Delivery

def Visit.fault? (v : Visit) : Option ReportFault :=
  (v.tried.findSome? Delivery.fault?).map (ReportFault.mk v.kind)

namespace Sender

def visits : List Kind → Sender σ → List Visit
  | [], _ => []
  | k :: rest, s => ⟨k, s.nextHanded k⟩ :: visits rest (s.visit k).2

variable (s : Sender σ) (k : Kind)

private theorem fault_visit : (s.visit k).1 = (s.nextHanded k).findSome? Delivery.fault? := by
  have same : (s.onBuffer k Buffer.gauge).nextHanded k = s.nextHanded k := by
    cases k <;> rfl
  rw [← same]
  exact (Course.deliver (s.onBuffer k Buffer.gauge) k).2

private theorem foldl_visitNext (kinds : List Kind) (progress : Option ReportFault × Sender σ) :
    kinds.foldl visitNext progress =
      (progress.1.or ((visits kinds progress.2).findSome? Visit.fault?),
        kinds.foldl (fun t k => (t.visit k).2) progress.2) := by
  induction kinds generalizing progress with
  | nil => simp [visits]
  | cons k rest ih =>
    have visit : (⟨k, progress.2.nextHanded k⟩ : Visit).fault? =
        (progress.2.visit k).1.map (ReportFault.mk k) := by
      rw [fault_visit, Visit.fault?]
    rw [List.foldl_cons, ih, visits, List.findSome?_cons, visit]
    simp only [visitNext, List.foldl_cons]
    cases progress.1 <;> cases (progress.2.visit k).1 <;> rfl

private theorem reports_visits (kinds : List Kind) :
    (kinds.foldl (fun t k => (t.visit k).2) s).reports =
      s.reports ++ (visits kinds s).flatMap Visit.tried := by
  induction kinds generalizing s with
  | nil => simp [visits]
  | cons k rest ih =>
    rw [List.foldl_cons, ih, reports_append (Course.visit s k).deeds, s.delivery?_batchDeeds, visits,
      List.flatMap_cons, List.append_assoc]

private theorem map_kind_visits (kinds : List Kind) : (visits kinds s).map Visit.kind = kinds := by
  induction kinds generalizing s with
  | nil => rfl
  | cons k rest ih => rw [visits, List.map_cons, ih]

private theorem forall_visits {p : Visit → Prop}
    (each : ∀ (s : Sender σ) (k : Kind), p ⟨k, s.nextHanded k⟩) (kinds : List Kind) :
    ∀ v ∈ visits kinds s, p v := by
  induction kinds generalizing s with
  | nil => simp [visits]
  | cons k rest ih => exact List.forall_mem_cons.mpr ⟨each s k, ih _⟩

end Sender

/-- A cycle from one state to another, and the fault that it gives: all kinds are visited, whatever
fails, and the fault is that of the first kind that has one. -/
structure Cycled (s : Sender σ) (fault : Option ReportFault) (t : Sender σ) : Prop where
  runs : t = Kind.all.foldl (fun t k => (t.visit k).2) s
  kinds : (Sender.visits Kind.all s).map Visit.kind = Kind.all
  reports : t.reports = s.reports ++ (Sender.visits Kind.all s).flatMap Visit.tried
  own : ∀ v ∈ Sender.visits Kind.all s, ∀ d ∈ v.tried, d.kind = v.kind
  first : fault = (Sender.visits Kind.all s).findSome? Visit.fault?
  fault_iff : fault.isSome = true ↔
    ∃ d ∈ (Sender.visits Kind.all s).flatMap Visit.tried, d.failed = true
  once : ∀ v ∈ Sender.visits Kind.all s,
    v.tried.countP Delivery.failed = if v.fault?.isSome then 1 else 0
  failed : t.reports.countP Delivery.failed = s.reports.countP Delivery.failed +
    (Sender.visits Kind.all s).countP fun v => v.fault?.isSome

namespace Visit

variable (v : Visit)

private theorem isSome_fault? : v.fault?.isSome = (v.tried.findSome? Delivery.fault?).isSome :=
  Option.isSome_map

theorem isSome_fault?_iff : v.fault?.isSome = true ↔ ∃ d ∈ v.tried, d.failed = true := by
  rw [isSome_fault?, List.findSome?_isSome_iff]
  rfl

end Visit

namespace Sender

variable (s : Sender σ) (k : Kind)

private theorem countP_failed_visits (visits : List Visit)
    (once : ∀ v ∈ visits, v.tried.countP Delivery.failed = if v.fault?.isSome then 1 else 0) :
    (visits.flatMap Visit.tried).countP Delivery.failed =
      visits.countP fun v => v.fault?.isSome := by
  induction visits with
  | nil => rfl
  | cons v rest ih =>
    rw [List.forall_mem_cons] at once
    rw [List.flatMap_cons, List.countP_append, once.1, ih once.2, List.countP_cons, Nat.add_comm]

theorem flush_cycled : Cycled s s.flush.1 s.flush.2 := by
  have shape : s.flush = _ := foldl_visitNext Kind.all (none, s)
  have runs : s.flush.2 = Kind.all.foldl (fun t k => (t.visit k).2) s := by rw [shape]
  have first : s.flush.1 = (visits Kind.all s).findSome? Visit.fault? := by
    rw [shape, Option.none_or]
  have reports : s.flush.2.reports = s.reports ++ (visits Kind.all s).flatMap Visit.tried := by
    rw [runs, s.reports_visits]
  have once : ∀ v ∈ visits Kind.all s,
      v.tried.countP Delivery.failed = if v.fault?.isSome then 1 else 0 := by
    refine s.forall_visits (fun s k => ?_) Kind.all
    rw [Visit.isSome_fault?]
    exact Delivery.countP_failed_handedOver _ _
  constructor
  · exact runs
  · exact s.map_kind_visits Kind.all
  · exact reports
  · refine s.forall_visits (fun s k => ?_) Kind.all
    exact fun d member => s.kind_of_mem_handed k _ member
  · exact first
  · rw [first, List.findSome?_isSome_iff]
    simp only [Visit.isSome_fault?_iff, List.mem_flatMap]
    exact ⟨fun ⟨v, visited, d, tried, failed⟩ => ⟨d, ⟨v, visited, tried⟩, failed⟩,
      fun ⟨d, ⟨v, visited, tried⟩, failed⟩ => ⟨v, visited, d, tried, failed⟩⟩
  · exact once
  · rw [reports, List.countP_append, countP_failed_visits _ once]

end Sender

structure Gauged (s : Sender σ) : Prop where
  size : ∀ k, s.metric? k "queue.size" = some (s.queued k).length
  room : ∀ k, s.metric? k "queue.remaining_capacity" =
    some ((s.buffer k).capacity - (s.queued k).length)

namespace Gauged

variable {s : Sender σ}

private theorem of_buffers (gauged : ∀ k, ∃ b : Buffer, s.buffer k = b.gauge) : Gauged s := by
  constructor <;> intro k <;> obtain ⟨b, last⟩ := gauged k <;>
    rw [Sender.queued, ← Buffer.size_eq_length] <;> refine s.metric?_of_standing k ?_ <;> rw [last]
  · rfl
  · rfl

private theorem visit (s : Sender σ) (k : Kind) :
    ∃ b : Buffer, (s.visit k).2.buffer k = b.gauge :=
  ⟨_, Sender.buffer_onBuffer_self _ k Buffer.gauge⟩

theorem flush (s : Sender σ) : Gauged s.flush.2 := by
  refine of_buffers fun k => ?_
  obtain ⟨t, -, after⟩ := s.flush_visits k
  rw [after.buffer]
  exact visit t k

theorem close (s : Sender σ) : Gauged s.close := by
  refine of_buffers fun k => ?_
  obtain ⟨t, -, after⟩ := s.close_visits k
  rw [after.buffer]
  exact visit t k

end Gauged

structure Charged (s t : Sender σ) : Prop where
  failures : Tally.reading t.failures = Tally.reading
    (s.failures + (Sender.visits Kind.all s).countP fun v => v.fault?.isSome)
  failures_of_lt : t.reports.countP Delivery.failed < Nat.pow 2 64 →
    t.failures = s.failures + (Sender.visits Kind.all s).countP fun v => v.fault?.isSome

namespace Charged

variable {origin : σ} {fault : Option ReportFault} {s t : Sender σ}

private theorem of (before : Metered origin s) (after : Metered origin t)
    (cycled : Cycled s fault t) : Charged s t := by
  constructor
  · have counted := before.failures
    rw [after.failures, cycled.failed]
    simp only [Tally.reading, Nat.pow_eq] at counted ⊢
    omega
  · intro small
    have fits : s.reports.countP Delivery.failed < Nat.pow 2 64 := by
      rw [cycled.failed] at small
      omega
    rw [after.failures_of_lt small, before.failures_of_lt fits, cycled.failed]

end Charged

/-- A cycle as its caller, the counts and the gauges see it. -/
structure MeteredCycle (s : Sender σ) (fault : Option ReportFault) (t : Sender σ) : Prop where
  cycled : Cycled s fault t
  charged : Charged s t
  gauged : Gauged t

private theorem Sender.flush_metered {origin : σ} {s : Sender σ} (counted : ∀ k, Counted s k)
    (transcribed : Transcribed origin s) : MeteredCycle s s.flush.1 s.flush.2 := by
  have kept (k : Kind) : Counted s.flush.2 k :=
    s.flush_keeps (p := fun t => Counted t k) (fun t j counted => counted.visited j) (counted k)
  have cycled := s.flush_cycled
  have before : Metered origin s := .of counted transcribed
  have after : Metered origin s.flush.2 := .of kept transcribed.flush
  exact ⟨cycled, .of before after cycled, .flush s⟩

/-- What deliveries are counted and published in the runs of a sender. -/
structure RunMetered (sender : Sender σ) : Prop where
  metered : ∀ calls, Metered sender.link (sender.run calls)
  flush : ∀ calls, ∃ fault,
    ((sender.run calls).step .flush).1 = .ofFlush fault ∧
      MeteredCycle (sender.run calls) fault ((sender.run calls).step .flush).2
  scheduled : ∀ calls, (sender.run calls).closing = false →
    (sender.run calls).step .scheduledFlush = (sender.run calls).step .flush
  close : ∀ calls, ∃ fault,
    MeteredCycle { sender.run calls with closing := true } fault (sender.run calls).lastFlush ∧
      (sender.run calls).close.reports = (sender.run calls).lastFlush.reports ∧
      Gauged (sender.run calls).close

/-- Deliveries are accounted for in all runs of a sender. -/
theorem run_metered (clientId defaultSource : String) (limits : Limits) (transport : Transport σ)
    (link : σ) : RunMetered (Sender.new clientId defaultSource limits transport link) := by
  let start := Sender.new clientId defaultSource limits transport link
  have fresh (k : Kind) : Counted start k := .new clientId defaultSource limits transport link k
  have counted (calls : List Call) (k : Kind) : Counted (start.run calls) k := (fresh k).run calls
  have first : Transcribed link start := ⟨rfl, trivial⟩
  have transcribed (calls : List Call) : Transcribed link (start.run calls) := first.run calls
  constructor
  · intro calls
    exact .of (counted calls) (transcribed calls)
  · intro calls
    exact ⟨_, rfl, Sender.flush_metered (counted calls) (transcribed calls)⟩
  · intro calls on
    change (Reply.ofFlush (start.run calls).scheduledFlush.1, (start.run calls).scheduledFlush.2) = _
    rw [Sender.scheduledFlush, on]
    rfl
  · intro calls
    have told (k : Kind) := (counted calls k).told_to_close
    obtain ⟨outcome, deeds⟩ := ((start.run calls).lastFlush_closes .points).deeds
    have closing : Transcribed link { start.run calls with closing := true } :=
      ⟨(transcribed calls).traced, (transcribed calls).answers⟩
    refine ⟨_, Sender.flush_metered told closing, ?_, .close _⟩
    rw [Sender.reports_append deeds]
    exact List.append_nil _

end TelemetrySender
