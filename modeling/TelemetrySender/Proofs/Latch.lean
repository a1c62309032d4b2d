import TelemetrySender.Proofs.Policy
import TelemetrySender.Proofs.Turns

/-!
Switching off.  A kind is off exactly from the moment at which one of its own deliveries was refused,
if it can be switched off at all, and nothing of it is handed over from then on.
-/

set_option autoImplicit false
set_option relaxedAutoImplicit false

namespace TelemetrySender

variable {σ : Type}

def Sender.reportsOf (s : Sender σ) (k : Kind) : List Delivery :=
  s.reports.filter fun d => d.kind = k

section

variable {k : Kind} {s t : Sender σ}

theorem Aside.reportsOf (aside : Aside k s t) : t.reportsOf k = s.reportsOf k := by
  obtain ⟨events, deeds, others⟩ := aside.deeds
  have none : (events.filterMap Event.delivery?).filter (fun d => d.kind = k) = [] := by
    rw [List.filter_eq_nil_iff]
    intro d member own
    obtain ⟨e, inEvents, delivery⟩ := List.mem_filterMap.mp member
    refine others e inEvents ?_
    cases e <;> simp_all [Event.delivery?, Event.kind?]
  rw [Sender.reportsOf, Sender.reports_append deeds, List.filter_append, none, List.append_nil]
  rfl

theorem Entry.reportsOf {records : List String} {valid dropped : Nat}
    (entry : Entry k records valid dropped s t) : t.reportsOf k = s.reportsOf k := by
  have none : (records.map (Event.queued k)).filterMap Event.delivery? = [] := by
    rw [List.filterMap_eq_nil_iff]
    intro e member
    obtain ⟨record, -, rfl⟩ := List.mem_map.mp member
    rfl
  rw [Sender.reportsOf, Sender.reports_append entry.deeds, none, List.append_nil]
  rfl

theorem Sender.reportsOf_visit (s : Sender σ) (k : Kind) :
    (s.visit k).2.reportsOf k = s.reportsOf k ++ s.nextHanded k := by
  have own : (s.nextHanded k).filter (fun d => d.kind = k) = s.nextHanded k := by
    rw [List.filter_eq_self]
    intro d member
    simpa using s.kind_of_mem_handed k _ member
  rw [reportsOf, reports_append (Course.visit s k).deeds, s.delivery?_batchDeeds, List.filter_append,
    own]
  rfl

end

/-- A kind is off if and only if a delivery of it switched it off, and that was its last. -/
structure Latched (s : Sender σ) (k : Kind) : Prop where
  disabled : (s.buffer k).disabled = (s.reportsOf k).any Delivery.switchesOff
  last : ∀ before d after, s.reportsOf k = before ++ d :: after → d.switchesOff = true → after = []

namespace Latched

variable {k : Kind} {s t : Sender σ}

theorem ofSame (latched : Latched s k) (reports : t.reportsOf k = s.reportsOf k)
    (disabled : (t.buffer k).disabled = (s.buffer k).disabled) : Latched t k :=
  ⟨by rw [disabled, reports, latched.disabled], by rw [reports]; exact latched.last⟩

theorem visit (latched : Latched s k) : Latched (s.visit k).2 k := by
  have course := Course.visit s k
  refine ⟨?_, ?_⟩
  · rw [course.disabled, s.switchesOff_batchDeeds, s.reportsOf_visit, List.any_append,
      latched.disabled]
  · intro before d after shape off
    have ends : d.ends = true := by rw [Delivery.ends, off, Bool.or_true]
    -- The delivery is one of this batch, or an earlier one, after which nothing is tried any more.
    rw [s.reportsOf_visit, List.append_eq_append_iff] at shape
    rcases shape with ⟨early, -, new⟩ | ⟨late, old, rest⟩
    · exact Delivery.eq_nil_of_handedOver new ends
    · cases late with
      | nil =>
        have new : s.nextHanded k = [] ++ d :: after := rest.symm
        exact Delivery.eq_nil_of_handedOver new ends
      | cons first late =>
        obtain ⟨rfl, rfl⟩ := List.cons.inj rest
        have earlier : late = [] := latched.last before d late old off
        have isOff : (s.buffer k).disabled = true := by
          rw [latched.disabled, old]
          simp [off]
        rw [earlier, s.nextHanded_of_off k isOff]
        rfl

theorem turn {n : Nat} (latched : Latched s k) (turn : Turn k n s t) : Latched t k := by
  cases turn with
  | aside aside => exact latched.ofSame aside.reportsOf (by rw [aside.buffer])
  | entry entry => exact latched.ofSame entry.reportsOf entry.disabled
  | visit => exact latched.visit

theorem new (clientId defaultSource : String) (limits : Limits) (transport : Transport σ) (link : σ)
    (k : Kind) : Latched (Sender.new clientId defaultSource limits transport link) k := by
  refine ⟨?_, ?_⟩
  · cases k <;> rfl
  · intro before d after shape
    simp [Sender.reportsOf, Sender.reports, Sender.deeds, Sender.new] at shape

theorem run (latched : Latched s k) (calls : List Call) : Latched (s.run calls) k :=
  (s.run_turns k calls).preserves (p := fun _ s => Latched s k) (m := 0)
    (fun latched turn => latched.turn turn) latched

end Latched

namespace Sender

variable (s : Sender σ) (k : Kind)

/-- What is taken off the queue of a kind is given up, record by record, and counted as dropped. -/
def Discards (s : Sender σ) (k : Kind) (t : Sender σ) : Prop :=
  ∃ taken given, s.queued k = taken ++ t.queued k ∧ given.Perm taken ∧
    t.lost k = s.lost k ++ given ∧
    (t.buffer k).tally.dropped = (s.buffer k).tally.dropped + taken.length

private theorem discards_visit (off : (s.buffer k).disabled = true) :
    s.Discards k (s.visit k).2 := by
  have course := Course.visit s k
  have none := s.nextHanded_of_off k off
  have dealt := Batch.perm_taken s.limits.batchSize s.limits.messageSize (s.queued k)
  have left : (s.visit k).2.queued k = (s.queued k).drop (s.batchReach k) := by
    rw [s.queued_batch k course, none, s.rest_nextBatch]
    exact List.append_nil _
  have lost : (s.batchDeeds k).flatMap (Event.lostOf k) =
      (s.nextBatch k).oversize ++ (s.nextBatch k).chunks.flatten := by
    rw [s.lostOf_batchDeeds, nextUnsent, none]
    simp [Delivery.recordsOf]
  have all : ((s.nextBatch k).oversize ++ (s.nextBatch k).chunks.flatten).Perm
      ((s.queued k).take (s.batchReach k)) := List.perm_append_comm.trans dealt
  refine ⟨(s.queued k).take (s.batchReach k), _, ?_, all, ?_, ?_⟩
  · rw [left, List.take_append_drop]
  · rw [lost_append course.deeds, lost]
  · rw [course.dropped, lost, all.length_eq]

private theorem discards_cycle {t u : Sender σ} (before : Aside k s t)
    (after : Aside k (t.visit k).2 u) (off : (s.buffer k).disabled = true) : s.Discards k u := by
  obtain ⟨taken, given, queue, all, lost, dropped⟩ :=
    t.discards_visit k (by rw [before.buffer, off])
  refine ⟨taken, given, ?_, all, ?_, ?_⟩
  · rw [after.queued, ← queue, before.queued]
  · rw [after.lost, lost, before.lost]
  · rw [after.buffer, dropped, before.buffer]

theorem discards_flush (off : (s.buffer k).disabled = true) : s.Discards k s.flush.2 := by
  obtain ⟨t, before, after⟩ := s.flush_visits k
  exact s.discards_cycle k before after off

theorem discards_scheduledFlush (off : (s.buffer k).disabled = true) :
    s.Discards k s.scheduledFlush.2 := by
  unfold scheduledFlush
  split
  · exact ⟨[], [], rfl, .nil, by simp, rfl⟩
  · exact s.discards_flush k off

theorem discards_close (off : (s.buffer k).disabled = true) : s.Discards k s.close := by
  obtain ⟨t, before, after⟩ := s.close_visits k
  exact s.discards_cycle k before after off

theorem reports_run (calls : List Call) : ∃ later, (s.run calls).reports = s.reports ++ later := by
  have grows := (s.run_turns .points calls).preserves (m := 0)
    (p := fun _ t => s.reports <+: t.reports) (fun {_ _ t u} old turn => ?_) List.prefix_rfl
  · obtain ⟨later, same⟩ := grows
    exact ⟨later, same.symm⟩
  · have more : ∃ events, u.deeds = t.deeds ++ events := by
      cases turn with
      | aside aside =>
        obtain ⟨events, deeds, -⟩ := aside.deeds
        exact ⟨events, deeds⟩
      | entry entry => exact ⟨_, entry.deeds⟩
      | visit => exact ⟨_, (Course.visit t .points).deeds⟩
    obtain ⟨events, deeds⟩ := more
    exact old.trans ⟨_, (reports_append deeds).symm⟩

end Sender

/-- A kind that is off stays off and silent, and only a refusal of its own switches it off.  Callers
do not notice, and a cycle gives up all that it takes off the queue. -/
structure LatchSafe (s : Sender σ) (k : Kind) : Prop where
  off_iff : (s.buffer k).disabled = true ↔
    k.canDisable = true ∧ ∃ d ∈ s.reports, d.kind = k ∧ d.refused = true
  points_on : k = .points → (s.buffer k).disabled = false
  silent : ∀ before d after, s.reports = before ++ d :: after → d.kind = k → d.refused = true →
    k.canDisable = true → ∀ later ∈ after, later.kind.format ≠ k.format
  stays : (s.buffer k).disabled = true → ∀ more, ((s.run more).buffer k).disabled = true ∧
    ∃ after, (s.run more).reports = s.reports ++ after ∧
      ∀ later ∈ after, later.kind.format ≠ k.format
  sends : ∀ call record, call.submission? s.defaultSource = some (k, .ok record) →
    (s.step call).1 = .ok ∧
      ((s.step call).2.buffer k).tally.valid = (s.buffer k).tally.valid + 1
  logs : k = .spanLogs → ∀ x record, x.encode s.defaultSource = .ok record →
    x.logs.isEmpty = false → (s.buffer .spans).queue.size < (s.buffer .spans).capacity →
    (s.step (.span x)).1 = .ok ∧
      ((s.step (.span x)).2.buffer k).tally.valid = (s.buffer k).tally.valid + 1
  discards : (s.buffer k).disabled = true → s.Discards k s.flush.2 ∧
    s.Discards k s.scheduledFlush.2 ∧ s.Discards k s.close

namespace Latched

variable {k : Kind} {s : Sender σ}

theorem off_iff (latched : Latched s k) : (s.buffer k).disabled = true ↔
    k.canDisable = true ∧ ∃ d ∈ s.reports, d.kind = k ∧ d.refused = true := by
  rw [latched.disabled, List.any_eq_true]
  constructor
  · rintro ⟨d, member, off⟩
    obtain ⟨tried, own⟩ := List.mem_filter.mp member
    have kind : d.kind = k := by simpa using own
    rw [Delivery.switchesOff, Bool.and_eq_true, kind] at off
    exact ⟨off.2, d, tried, kind, off.1⟩
  · rintro ⟨able, d, tried, rfl, refused⟩
    exact ⟨d, List.mem_filter.mpr ⟨tried, by simp⟩, by rw [Delivery.switchesOff, refused, able]; rfl⟩

theorem silent (latched : Latched s k) {before after : List Delivery} {d : Delivery}
    (shape : s.reports = before ++ d :: after) (own : d.kind = k) (refused : d.refused = true)
    (able : k.canDisable = true) {later : Delivery} (member : later ∈ after) :
    later.kind.format ≠ k.format := by
  have off : d.switchesOff = true := by rw [Delivery.switchesOff, refused, own, able]; rfl
  have ours : s.reportsOf k = before.filter (fun d => d.kind = k) ++
      d :: after.filter fun d => d.kind = k := by
    rw [Sender.reportsOf, shape, List.filter_append, List.filter_cons_of_pos (by simpa using own)]
  have none := latched.last _ d _ ours off
  intro same
  have kind := Kind.format_injective same
  exact List.filter_eq_nil_iff.mp none later member (by simpa using kind)

theorem stays (latched : Latched s k) (off : (s.buffer k).disabled = true) (more : List Call) :
    ((s.run more).buffer k).disabled = true ∧ ∃ after, (s.run more).reports = s.reports ++ after ∧
      ∀ later ∈ after, later.kind.format ≠ k.format := by
  have goesOn := latched.run more
  obtain ⟨after, reports⟩ := s.reports_run more
  obtain ⟨able, d, tried, own, refused⟩ := latched.off_iff.mp off
  refine ⟨goesOn.off_iff.mpr ⟨able, d, ?_, own, refused⟩, after, reports, fun later member => ?_⟩
  · rw [reports]
    exact List.mem_append_left after tried
  · obtain ⟨before, behind, shape⟩ := List.append_of_mem tried
    rw [shape, List.append_assoc, List.cons_append] at reports
    exact goesOn.silent reports own refused able (List.mem_append_right behind member)

end Latched

/-- In every run, every kind that can be switched off is switched off safely. -/
theorem run_latchSafe (clientId defaultSource : String) (limits : Limits) (transport : Transport σ)
    (link : σ) (calls : List Call) (k : Kind) :
    LatchSafe ((Sender.new clientId defaultSource limits transport link).run calls) k := by
  have latched := (Latched.new clientId defaultSource limits transport link k).run calls
  exact {
    off_iff := latched.off_iff
    points_on := by
      rintro rfl
      rw [← Bool.not_eq_true, latched.off_iff]
      exact fun off => Bool.false_ne_true off.1
    silent := fun _ _ _ shape own refused able _ member => latched.silent shape own refused able member
    stays := latched.stays
    sends := fun _ _ wellFormed => Sender.submission_ok _ wellFormed
    logs := by
      rintro rfl x record wellFormed logs room
      exact Sender.logs_ok _ wellFormed logs room
    discards := fun off => ⟨Sender.discards_flush _ k off, Sender.discards_scheduledFlush _ k off,
      Sender.discards_close _ k off⟩ }

end TelemetrySender
