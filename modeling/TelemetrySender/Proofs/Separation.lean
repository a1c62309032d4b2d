import TelemetrySender.Proofs.Signal
import TelemetrySender.Transport.Scripted

/-!
Kinds do not interfere.  What becomes of a kind is determined by what is sent of it, by when cycles
are run, and by how its own deliveries are answered.  Nothing else that is sent or answered, faults
and refusals included, and no reading of the clock makes a difference to it.
-/

set_option autoImplicit false
set_option relaxedAutoImplicit false

namespace TelemetrySender

variable {σ τ υ : Type}

/-- A call concerns a kind if it sends an entity of the kind or may run a cycle. -/
def Call.concerns (k : Kind) : Call → Bool
  | .metric _ => k = .points
  | .formatted _ => k = .points
  | .distribution _ => k = .histograms
  | .span _ => k = .spans
  | .flush => true
  | .scheduledFlush => true
  | .close => true
  | .clock _ => false

/-- As far as both go, deliveries are answered alike. -/
def AnsweredAlike (a b : List Delivery) : Prop := ∀ p ∈ a.zip b, p.1.outcome = p.2.outcome

instance (a b : List Delivery) : Decidable (AnsweredAlike a b) :=
  inferInstanceAs (Decidable (∀ p ∈ a.zip b, p.1.outcome = p.2.outcome))

namespace AnsweredAlike

variable {a b c d : List Delivery}

theorem ofPrefix (alike : AnsweredAlike a b) (left : c <+: a) (right : d <+: b) :
    AnsweredAlike c d := by
  obtain ⟨more, rfl⟩ := left
  obtain ⟨others, rfl⟩ := right
  intro p member
  apply alike p
  clear alike
  induction c generalizing d with
  | nil => cases member
  | cons x c ih =>
    cases d with
    | nil => cases member
    | cons y d =>
      rcases List.mem_cons.mp member with rfl | later
      · exact List.mem_cons_self
      · exact List.mem_cons_of_mem _ (ih later)

theorem behind (alike : AnsweredAlike (c ++ a) (c ++ b)) : AnsweredAlike a b := by
  intro p member
  apply alike p
  rw [List.zip_append rfl]
  exact List.mem_append_right _ member

theorem tail {x y : Delivery} (alike : AnsweredAlike (x :: a) (y :: b)) : AnsweredAlike a b :=
  fun p member => alike p (List.mem_cons_of_mem _ member)

end AnsweredAlike

theorem Delivery.handedOver_congr (t : Transport σ) (u : Transport τ) (k : Kind) (off closing : Bool)
    (chunks : List Chunk) (link : σ) (other : τ)
    (alike : AnsweredAlike (handedOver off (t.attempts k closing chunks link))
      (handedOver off (u.attempts k closing chunks other))) :
    handedOver off (t.attempts k closing chunks link) =
      handedOver off (u.attempts k closing chunks other) := by
  cases off with
  | true => rfl
  | false =>
    induction chunks generalizing link other with
    | nil => rfl
    | cons chunk rest ih =>
      rw [Transport.attempts, Transport.attempts, handedOver_cons, handedOver_cons] at alike ⊢
      have answer := alike (_, _) List.mem_cons_self
      simp only at answer
      rw [answer] at alike ⊢
      congr 1
      split_ifs with last
      · rfl
      · rw [if_neg last, if_neg last] at alike
        exact ih _ _ alike.tail

structure Buffer.Alike (a b : Buffer) : Prop where
  capacity : b.capacity = a.capacity
  records : b.records = a.records
  disabled : b.disabled = a.disabled
  counts : b.tally.counts = a.tally.counts

namespace Buffer.Alike

variable {a b c : Buffer}

theorem refl (a : Buffer) : Alike a a := ⟨rfl, rfl, rfl, rfl⟩

theorem symm (alike : Alike a b) : Alike b a :=
  ⟨alike.capacity.symm, alike.records.symm, alike.disabled.symm, alike.counts.symm⟩

theorem trans (first : Alike a b) (second : Alike b c) : Alike a c where
  capacity := second.capacity.trans first.capacity
  records := second.records.trans first.records
  disabled := second.disabled.trans first.disabled
  counts := second.counts.trans first.counts

theorem count (alike : Alike a b) {f : Tally → Tally} (f_counts : ∀ t, (f t).counts = f t.counts) :
    Alike (a.count f) (b.count f) where
  capacity := alike.capacity
  records := alike.records
  disabled := alike.disabled
  counts := by
    change (f b.tally).counts = (f a.tally).counts
    rw [f_counts, f_counts, alike.counts]

theorem offer (alike : Alike a b) (record : String) :
    Alike (a.offer record).2 (b.offer record).2 := by
  have size : b.queue.size = a.queue.size := by
    rw [b.size_eq_length, a.size_eq_length, alike.records]
  rcases Nat.lt_or_ge a.queue.size a.capacity with free | full
  · have free' : b.queue.size < b.capacity := by
      rw [size, alike.capacity]
      exact free
    have records : b.queue.toList = a.queue.toList := alike.records
    rw [offer_of_lt record free, offer_of_lt record free']
    refine ⟨alike.capacity, ?_, alike.disabled, alike.counts⟩
    simp only [Buffer.records, Queue.toList_push, records]
  · have full' : b.capacity ≤ b.queue.size := by
      rw [size, alike.capacity]
      exact full
    rw [offer_of_le record full, offer_of_le record full']
    exact alike.count (f := fun t => t.addDropped 1) fun _ => rfl

end Buffer.Alike

/-- Two senders agree on a kind: it is in the same state with both, and the same was delivered. -/
structure Agree (k : Kind) (s : Sender σ) (t : Sender τ) : Prop where
  defaultSource : t.defaultSource = s.defaultSource
  limits : t.limits = s.limits
  closing : t.closing = s.closing
  buffer : (s.buffer k).Alike (t.buffer k)
  reportsOf : t.reportsOf k = s.reportsOf k

namespace Agree

variable {k : Kind} {s s' : Sender σ} {t t' : Sender τ} {u : Sender υ}

theorem refl (k : Kind) (s : Sender σ) : Agree k s s := ⟨rfl, rfl, rfl, .refl _, rfl⟩

theorem symm (agree : Agree k s t) : Agree k t s :=
  ⟨agree.defaultSource.symm, agree.limits.symm, agree.closing.symm, agree.buffer.symm,
    agree.reportsOf.symm⟩

theorem trans (first : Agree k s t) (second : Agree k t u) : Agree k s u where
  defaultSource := second.defaultSource.trans first.defaultSource
  limits := second.limits.trans first.limits
  closing := second.closing.trans first.closing
  buffer := first.buffer.trans second.buffer
  reportsOf := second.reportsOf.trans first.reportsOf

theorem ofAside (aside : Aside k s s') (closing : s'.closing = s.closing) : Agree k s s' where
  defaultSource := congrArg Setup.defaultSource aside.setup
  limits := congrArg Setup.limits aside.setup
  closing := closing
  buffer := by
    rw [aside.buffer]
    exact .refl _
  reportsOf := aside.reportsOf

theorem close (agree : Agree k s t) :
    Agree k { s with closing := true } { t with closing := true } :=
  ⟨agree.defaultSource, agree.limits, rfl, agree.buffer, agree.reportsOf⟩

private theorem onward (agree : Agree k s t) (left : s'.setup = s.setup)
    (right : t'.setup = t.setup) (closing : t'.closing = s'.closing)
    (buffer : (s'.buffer k).Alike (t'.buffer k)) (reportsOf : t'.reportsOf k = s'.reportsOf k) :
    Agree k s' t' := by
  refine ⟨?_, ?_, closing, buffer, reportsOf⟩
  · have source : t'.defaultSource = t.defaultSource := congrArg Setup.defaultSource right
    have source' : s'.defaultSource = s.defaultSource := congrArg Setup.defaultSource left
    rw [source, source', agree.defaultSource]
  · have limits : t'.limits = t.limits := congrArg Setup.limits right
    have limits' : s'.limits = s.limits := congrArg Setup.limits left
    rw [limits, limits', agree.limits]

private theorem queued (agree : Agree k s t) : t.queued k = s.queued k := agree.buffer.records

private theorem nextBatch (agree : Agree k s t) : t.nextBatch k = s.nextBatch k := by
  rw [Sender.nextBatch, Sender.nextBatch, agree.queued, agree.limits]

private theorem nextHanded (agree : Agree k s t)
    (alike : AnsweredAlike ((s.visit k).2.reportsOf k) ((t.visit k).2.reportsOf k)) :
    t.nextHanded k = s.nextHanded k := by
  rw [s.reportsOf_visit, t.reportsOf_visit, agree.reportsOf] at alike
  have tried := alike.behind
  unfold Sender.nextHanded Sender.handed at tried ⊢
  rw [agree.nextBatch, agree.buffer.disabled, agree.closing] at tried ⊢
  exact (Delivery.handedOver_congr _ _ _ _ _ _ _ _ tried).symm

theorem visit (agree : Agree k s t)
    (alike : AnsweredAlike ((s.visit k).2.reportsOf k) ((t.visit k).2.reportsOf k)) :
    Agree k (s.visit k).2 (t.visit k).2 := by
  have handed := agree.nextHanded alike
  have reach : t.batchReach k = s.batchReach k := by
    rw [Sender.batchReach, Sender.batchReach, agree.queued, agree.limits]
  have deeds : t.batchDeeds k = s.batchDeeds k := by
    rw [t.batchDeeds_eq, s.batchDeeds_eq, Sender.nextUnsent, Sender.nextUnsent, Sender.nextLoss,
      Sender.nextLoss, agree.nextBatch, handed]
  have left := Course.visit s k
  have right := Course.visit t k
  rw [deeds, reach] at right
  apply agree.onward left.setup right.setup
  · rw [right.closing, left.closing, agree.closing]
  · constructor
    · rw [right.capacity, left.capacity, agree.buffer.capacity]
    · have queues : (t.visit k).2.queued k = (s.visit k).2.queued k := by
        rw [right.queued, left.queued, agree.queued]
      exact queues
    · rw [right.disabled, left.disabled, agree.buffer.disabled]
    · rw [right.counts, left.counts, agree.buffer.counts]
  · rw [s.reportsOf_visit, t.reportsOf_visit, handed, agree.reportsOf]

end Agree

namespace Sender

variable (s : Sender σ) (k : Kind)

private theorem flush_agree : ∃ t : Sender σ, Agree k s t ∧ Agree k (t.visit k).2 s.flush.2 := by
  obtain ⟨t, closing, before, after⟩ := s.flush_visits_keeping k
    (p := fun t => t.closing = s.closing)
    (fun t j same => (Course.visit t j).closing.trans same) rfl
  have visited : (t.visit k).2.closing = s.closing := (Course.visit t k).closing.trans closing
  exact ⟨t, .ofAside before closing, .ofAside after (s.closing_flush.trans visited.symm)⟩

private theorem close_agree :
    ∃ t : Sender σ, Agree k { s with closing := true } t ∧ Agree k (t.visit k).2 s.close := by
  obtain ⟨t, closing, before, after⟩ := s.close_visits_keeping k
    (p := fun t => t.closing = true)
    (fun t j same => (Course.visit t j).closing.trans same) rfl
  have told : Aside k { s with closing := true } t := ⟨before.setup, before.buffer, before.deeds⟩
  have visited : (t.visit k).2.closing = true := (Course.visit t k).closing.trans closing
  exact ⟨t, .ofAside told closing, .ofAside after (s.closing_close.trans visited.symm)⟩

private theorem submit_entry (encoded : Except Invalid String) :
    ∃ records valid dropped, Entry k records valid dropped s (s.submit k encoded).2 := by
  cases encoded with
  | error fault => exact ⟨[], 0, 0, Entry.refuse s k⟩
  | ok record =>
    obtain ⟨records, dropped, -, entry⟩ := Entry.accept s k record
    exact ⟨records, 1, dropped, entry⟩

private theorem submit_aside {j : Kind} (other : k ≠ j) (encoded : Except Invalid String) :
    Aside k s (s.submit j encoded).2 := by
  obtain ⟨records, valid, dropped, entry⟩ := s.submit_entry j encoded
  exact .ofEntry entry other

private theorem sendSpan_aside (other : k ≠ .spanLogs) (x : Span) :
    Aside k (s.submit .spans (x.encode s.defaultSource)).2 (s.sendSpan x).2 := by
  unfold sendSpan
  cases x.encode s.defaultSource with
  | error fault => exact .refl k _
  | ok record =>
    simp only [submit]
    split_ifs
    · exact .refl k _
    · exact submit_aside _ k other (.ok _)
    · exact .ofEntry (Entry.drop _ .spanLogs) other

theorem step_agree (noLogs : k ≠ .spanLogs) {call : Call} (idle : call.concerns k = false) :
    Agree k s (s.step call).2 := by
  have still : (s.step call).2.closing = s.closing := by
    rw [s.closing_step]
    cases call <;> first | exact Bool.or_false _ | cases idle
  refine .ofAside ?_ still
  cases call with
  | metric m => exact s.submit_aside k (of_decide_eq_false idle) _
  | formatted p => exact s.submit_aside k (of_decide_eq_false idle) _
  | distribution d => exact s.submit_aside k (of_decide_eq_false idle) _
  | span x =>
    exact (s.submit_aside k (of_decide_eq_false idle) _).trans (s.sendSpan_aside k noLogs x)
  | flush => cases idle
  | scheduledFlush => cases idle
  | close => cases idle
  | clock now =>
    have quiet : Aside k s { s with now := now } := ⟨rfl, rfl, [], by simp [deeds], by simp⟩
    exact quiet

theorem idle_run_agree (noLogs : k ≠ .spanLogs) {calls : List Call}
    (idle : ∀ call ∈ calls, call.concerns k = false) : Agree k s (s.run calls) := by
  induction calls generalizing s with
  | nil => exact .refl k s
  | cons call rest ih =>
    rw [List.forall_mem_cons] at idle
    exact (s.step_agree k noLogs idle.1).trans (ih (s.step call).2 idle.2)

end Sender

namespace Buffer

def submitted (b : Buffer) : Except Invalid String → Buffer
  | .error _ => b.count Tally.addInvalid
  | .ok record => ((b.count Tally.addValid).offer record).2

theorem Alike.submitted {a b : Buffer} (alike : Alike a b) (encoded : Except Invalid String) :
    Alike (a.submitted encoded) (b.submitted encoded) := by
  cases encoded with
  | error fault => exact alike.count fun _ => rfl
  | ok record =>
    have counted := alike.count (f := Tally.addValid) fun _ => rfl
    exact counted.offer record

end Buffer

private theorem Sender.buffer_submit (s : Sender σ) (k : Kind) (encoded : Except Invalid String) :
    (s.submit k encoded).2.buffer k = (s.buffer k).submitted encoded := by
  cases encoded with
  | error fault => exact s.buffer_onBuffer_self k _
  | ok record =>
    simp only [submit, accept, offer, Buffer.submitted, buffer_onBuffer_self]
    split_ifs
    · rw [buffer_record, buffer_setBuffer_self]
    · rw [buffer_say, buffer_setBuffer_self]

namespace Agree

variable {k : Kind} {s u : Sender σ} {t v : Sender τ}

private theorem submit (agree : Agree k s t) (encoded : Except Invalid String) :
    Agree k (s.submit k encoded).2 (t.submit k encoded).2 := by
  obtain ⟨_, _, _, left⟩ := s.submit_entry k encoded
  obtain ⟨_, _, _, right⟩ := t.submit_entry k encoded
  apply agree.onward left.setup right.setup
  · rw [t.closing_submit, s.closing_submit, agree.closing]
  · rw [s.buffer_submit, t.buffer_submit]
    exact agree.buffer.submitted encoded
  · rw [right.reportsOf, left.reportsOf, agree.reportsOf]

private theorem cycle {s' : Sender σ} {t' : Sender τ} (agree : Agree k s t)
    (before : Agree k s s') (after : Agree k (s'.visit k).2 u)
    (before' : Agree k t t') (after' : Agree k (t'.visit k).2 v)
    (alike : AnsweredAlike (u.reportsOf k) (v.reportsOf k)) : Agree k u v := by
  rw [after.reportsOf, after'.reportsOf] at alike
  have met : Agree k s' t' := (before.symm.trans agree).trans before'
  exact (after.symm.trans (met.visit alike)).trans after'

private theorem flush (agree : Agree k s t)
    (alike : AnsweredAlike (s.flush.2.reportsOf k) (t.flush.2.reportsOf k)) :
    Agree k s.flush.2 t.flush.2 := by
  obtain ⟨s', before, after⟩ := s.flush_agree k
  obtain ⟨t', before', after'⟩ := t.flush_agree k
  exact agree.cycle before after before' after' alike

theorem step (agree : Agree k s t) (noLogs : k ≠ .spanLogs) {call : Call}
    (own : call.concerns k = true)
    (alike : AnsweredAlike ((s.step call).2.reportsOf k) ((t.step call).2.reportsOf k)) :
    Agree k (s.step call).2 (t.step call).2 := by
  cases call with
  | metric m =>
    obtain rfl : k = .points := of_decide_eq_true own
    simp only [Sender.step, Sender.sendMetric, agree.defaultSource]
    exact agree.submit _
  | formatted p =>
    obtain rfl : k = .points := of_decide_eq_true own
    exact agree.submit _
  | distribution d =>
    obtain rfl : k = .histograms := of_decide_eq_true own
    simp only [Sender.step, Sender.sendDistribution, agree.defaultSource]
    exact agree.submit _
  | span x =>
    obtain rfl : k = .spans := of_decide_eq_true own
    have record := agree.submit (x.encode s.defaultSource)
    have left := s.sendSpan_aside .spans noLogs x
    have right := t.sendSpan_aside .spans noLogs x
    rw [agree.defaultSource] at right
    have still : (s.sendSpan x).2.closing = (s.submit .spans (x.encode s.defaultSource)).2.closing := by
      rw [s.closing_sendSpan, s.closing_submit]
    have still' : (t.sendSpan x).2.closing = (t.submit .spans (x.encode s.defaultSource)).2.closing := by
      rw [t.closing_sendSpan, t.closing_submit]
    exact ((ofAside left still).symm.trans record).trans (ofAside right still')
  | flush => exact agree.flush alike
  | scheduledFlush =>
    simp only [Sender.step, Sender.scheduledFlush, agree.closing] at alike ⊢
    split_ifs at alike ⊢ with closing
    · exact agree
    · exact agree.flush alike
  | close =>
    obtain ⟨s', before, after⟩ := s.close_agree k
    obtain ⟨t', before', after'⟩ := t.close_agree k
    exact agree.close.cycle before after before' after' alike
  | clock now => cases own

private theorem reportsOf_run (s : Sender σ) (k : Kind) (calls : List Call) :
    s.reportsOf k <+: (s.run calls).reportsOf k := by
  obtain ⟨later, reports⟩ := s.reports_run calls
  rw [Sender.reportsOf, Sender.reportsOf, reports, List.filter_append]
  exact List.prefix_append _ _

theorem run (agree : Agree k s t) (noLogs : k ≠ .spanLogs) {calls others : List Call}
    (same : calls.filter (Call.concerns k) = others.filter (Call.concerns k))
    (alike : AnsweredAlike ((s.run calls).reportsOf k) ((t.run others).reportsOf k)) :
    Agree k (s.run calls) (t.run others) := by
  -- What does not concern the kind is passed by one call at a time in the first run, and up to the
  -- next call that does in the second.
  induction calls generalizing s t others with
  | nil =>
    have idle : ∀ call ∈ others, call.concerns k = false := by
      intro call member
      exact Bool.eq_false_iff.mpr (List.filter_eq_nil_iff.mp same.symm call member)
    exact agree.trans (t.idle_run_agree k noLogs idle)
  | cons call rest ih =>
    cases own : call.concerns k with
    | false =>
      have idle := s.step_agree k noLogs own
      rw [List.filter_cons_of_neg (by simp [own])] at same
      exact ih (idle.symm.trans agree) same alike
    | true =>
      rw [List.filter_cons_of_pos own] at same
      obtain ⟨passed, later, rfl, idle, -, same⟩ := List.filter_eq_cons_iff.mp same.symm
      have passes : ∀ call ∈ passed, call.concerns k = false := by
        intro call member
        exact Bool.eq_false_iff.mpr (idle call member)
      have met := agree.trans (t.idle_run_agree k noLogs passes)
      rw [Sender.run_append] at alike ⊢
      have answered := alike.ofPrefix (reportsOf_run (s.step call).2 k rest)
        (reportsOf_run ((t.run passed).step call).2 k later)
      exact ih (met.step noLogs own answered) same.symm alike

end Agree

/-- In every two runs of senders with the same limits and default source, a kind but for span logs
looks the same after the same calls that concern it, if its own deliveries are answered alike. -/
theorem runs_agree (clientId clientId' defaultSource : String) (limits : Limits)
    (transport : Transport σ) (transport' : Transport τ) (link : σ) (link' : τ)
    (calls others : List Call) (k : Kind) (noLogs : k ≠ .spanLogs)
    (alike : AnsweredAlike
      (((Sender.new clientId defaultSource limits transport link).run calls).reportsOf k)
      (((Sender.new clientId' defaultSource limits transport' link').run others).reportsOf k))
    (m n : Nat)
    (same : (calls.take m).filter (Call.concerns k) = (others.take n).filter (Call.concerns k)) :
    Agree k ((Sender.new clientId defaultSource limits transport link).run (calls.take m))
      ((Sender.new clientId' defaultSource limits transport' link').run (others.take n)) := by
  let start := Sender.new clientId defaultSource limits transport link
  let start' := Sender.new clientId' defaultSource limits transport' link'
  have first : Agree k start start' := by
    refine ⟨rfl, rfl, rfl, ?_, rfl⟩
    cases k <;> exact .refl _
  have left : (start.run (calls.take m)).reportsOf k <+: (start.run calls).reportsOf k := by
    have grows := Agree.reportsOf_run (start.run (calls.take m)) k (calls.drop m)
    rwa [← Sender.run_append, List.take_append_drop] at grows
  have right : (start'.run (others.take n)).reportsOf k <+: (start'.run others).reportsOf k := by
    have grows := Agree.reportsOf_run (start'.run (others.take n)) k (others.drop n)
    rwa [← Sender.run_append, List.take_append_drop] at grows
  exact first.run noLogs same (alike.ofPrefix left right)

def Call.mixed : List Call :=
  let span := Call.span ⟨"call", 0, 1, none, ⟨1⟩, ⟨2⟩, [], [], [], []⟩
  [.formatted "a", span, .flush, span, .clock 9, .formatted "b", .scheduledFlush, .close]

def Call.pointsOnly : List Call := [.formatted "a", .flush, .formatted "b", .scheduledFlush, .close]

def Sender.mixed : Sender Transport.Script :=
  .new "client" "host" ⟨10, 3, 200⟩ (.scripted "scripted")
    (.new [.ok 500, .error ⟨"BrokenPipe", "broken pipe"⟩, .ok 202, .ok 403])

def Sender.pointsOnly : Sender Transport.Script :=
  .new "another client" "host" ⟨10, 3, 200⟩ (.scripted "scripted") (.new [.ok 500, .ok 202])

/-- The spans that fail and are refused are nothing to the points. -/
theorem mixed_agree :
    Kind.points ≠ .spanLogs ∧
      AnsweredAlike ((Sender.mixed.run Call.mixed).reportsOf .points)
        ((Sender.pointsOnly.run Call.pointsOnly).reportsOf .points) ∧
      (Call.mixed.take 7).filter (Call.concerns .points) =
        (Call.pointsOnly.take 4).filter (Call.concerns .points) ∧
      ((Sender.mixed.run (Call.mixed.take 7)).buffer .spans).disabled = true ∧
      ((Sender.mixed.run (Call.mixed.take 7)).buffer .spans).tally.reportErrors = 1 ∧
      Agree .points (Sender.mixed.run (Call.mixed.take 7))
        (Sender.pointsOnly.run (Call.pointsOnly.take 4)) := by
  have alike : AnsweredAlike ((Sender.mixed.run Call.mixed).reportsOf .points)
      ((Sender.pointsOnly.run Call.pointsOnly).reportsOf .points) := by
    decide +kernel
  refine ⟨by decide, alike, rfl, by decide +kernel, by decide +kernel, ?_⟩
  exact runs_agree _ _ _ _ _ _ _ _ Call.mixed Call.pointsOnly .points (by decide) alike 7 4 rfl

end TelemetrySender
