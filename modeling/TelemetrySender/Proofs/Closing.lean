import TelemetrySender.Proofs.Policy
import TelemetrySender.Proofs.Turns
import TelemetrySender.Settings
import TelemetrySender.Transport.Scripted

/-!
Closing.  The last cycle of a sender is one like any other: it delivers one batch of every kind.
Over a transport that accepts everything it empties a queue exactly if a batch takes all of it.
-/

set_option autoImplicit false
set_option relaxedAutoImplicit false

namespace TelemetrySender

variable {σ : Type}

/-- What can be set up: the standard settings with any changes that are not refused. -/
inductive Settings.Built : Settings → Prop
  | standard : Built .standard
  | withDirect {s t : Settings} {server : String} {token : Option String} :
      Built s → s.withDirect server token = .ok t → Built t
  | withProxy {s t : Settings} {host : String} {ports : ProxyPorts} :
      Built s → s.withProxy host ports = .ok t → Built t
  | withTransport {s : Settings} : Built s → Built s.withTransport
  | setQueueSize {s t : Settings} {size : Nat} : Built s → s.setQueueSize size = .ok t → Built t
  | setBatchSize {s t : Settings} {size : Nat} : Built s → s.setBatchSize size = .ok t → Built t
  | setMessageSize {s t : Settings} {size : Nat} :
      Built s → s.setMessageSize size = .ok t → Built t
  | setFlushInterval {s t : Settings} {interval : Nat} :
      Built s → s.setFlushInterval interval = .ok t → Built t
  | setDefaultSource {s : Settings} {source : String} : Built s → Built (s.setDefaultSource source)

theorem Settings.Built.batchSize_pos {s : Settings} (built : s.Built) : 0 < s.limits.batchSize := by
  induction built with
  | standard => decide
  | withTransport _ ih => exact ih
  | setDefaultSource _ ih => exact ih
  | setBatchSize _ set ih =>
    unfold Settings.setBatchSize at set
    split at set
    · cases set
    · rename_i nonzero
      cases set
      exact Nat.pos_of_ne_zero nonzero
  | withDirect _ set ih | withProxy _ set ih | setQueueSize _ set ih | setMessageSize _ set ih
  | setFlushInterval _ set ih =>
    simp only [Settings.withDirect, Settings.withProxy, Settings.setQueueSize,
      Settings.setMessageSize, Settings.setFlushInterval] at set
    split at set <;> cases set
    exact ih

namespace Transport

/-- Every report over a link succeeds, whatever was reported over it before. -/
def Accepting (t : Transport σ) (link : σ) : Prop :=
  ∀ (before : List (Kind × String)) (k : Kind) (payload : String), ∃ status,
    (t.report k payload (before.foldl (fun link r => (t.report r.1 r.2 link).2) link)).1 =
      .ok status ∧ (status < 400 ∨ 599 < status)

variable {t : Transport σ} {link : σ}

theorem Accepting.after (accepting : t.Accepting link) (k : Kind) (payload : String) :
    t.Accepting (t.report k payload link).2 :=
  fun before => accepting ((k, payload) :: before)

theorem Accepting.linkAfter (accepting : t.Accepting link) (tried : List Delivery) :
    t.Accepting (Delivery.linkAfter t link tried) := by
  induction tried generalizing link with
  | nil => exact accepting
  | cons d rest ih => exact ih (accepting.after d.kind d.payload)

theorem Accepting.succeeded (accepting : t.Accepting link) {k : Kind} {closing : Bool}
    {chunks : List Chunk} {d : Delivery} (member : d ∈ t.attempts k closing chunks link) :
    d.succeeded = true := by
  induction chunks generalizing link with
  | nil => cases member
  | cons chunk rest ih =>
    rcases List.mem_cons.mp member with rfl | later
    · obtain ⟨status, answer, outside⟩ := accepting [] k (String.join chunk)
      rw [List.foldl_nil] at answer
      simp [Delivery.succeeded, Delivery.status?, answer, outside]
    · exact ih (accepting.after k (String.join chunk)) later

theorem accepting_of_exhausted {script : Script} (exhausted : script.outcomes = []) (name : String) :
    (scripted name).Accepting script := by
  have next : script.next = (.ok accepted, script) := by
    rw [Script.next, exhausted]
  intro before k payload
  have still : before.foldl (fun link r => ((scripted name).report r.1 r.2 link).2) script =
      script := by
    induction before with
    | nil => rfl
    | cons r rest ih =>
      rw [List.foldl_cons]
      change rest.foldl _ script.next.2 = script
      rw [next]
      exact ih
  refine ⟨accepted, ?_, by decide⟩
  rw [still]
  exact congrArg Prod.fst next

end Transport

namespace Delivery

theorem recordsOf_eq_nil {p : Delivery → Bool} {tried : List Delivery}
    (none : ∀ d ∈ tried, p d = false) : recordsOf p tried = [] := by
  have empty : tried.filter p = [] :=
    List.filter_eq_nil_iff.mpr fun d member => by simp [none d member]
  rw [recordsOf, empty]
  rfl

private theorem recordsOf_eq_all {p : Delivery → Bool} {tried : List Delivery}
    (all : ∀ d ∈ tried, p d = true) :
    recordsOf p tried = tried.flatMap records := by
  rw [recordsOf, List.filter_eq_self.mpr all]

end Delivery

namespace Sender

variable (s : Sender σ) (k : Kind)

/-- The next batch of a kind all arrives but for the records that are too long. -/
structure Arrives (s : Sender σ) (k : Kind) (s' : Sender σ) : Prop where
  queued : s'.queued k = (s.nextBatch k).rest
  arrived : s'.arrived k = s.arrived k ++ (s.nextBatch k).chunks.flatten
  lost : s'.lost k = s.lost k ++ (s.nextBatch k).oversize
  dropped : (s'.buffer k).tally.dropped =
    (s.buffer k).tally.dropped + (s.nextBatch k).oversize.length

theorem visit_arrives (on : (s.buffer k).disabled = false)
    (accepting : s.transport.Accepting s.link) : s.Arrives k (s.visit k).2 := by
  have course := Course.visit s k
  have succeeded : ∀ d ∈ s.nextHanded k, d.succeeded = true := by
    intro d member
    exact accepting.succeeded ((s.handed_prefix k _).subset member)
  have fine : ∀ d ∈ s.nextHanded k, d.returns = false ∧ d.ends = false := by
    intro d member
    exact Delivery.fate_of_succeeded (succeeded d member)
  have unsent := s.nextUnsent_eq_nil k on fun d member => (fine d member).2
  have arrived : Delivery.recordsOf Delivery.succeeded (s.nextHanded k) =
      (s.nextBatch k).chunks.flatten := by
    rw [Delivery.recordsOf_eq_all succeeded, s.flatten_nextBatch, unsent]
    exact (List.append_nil _).symm
  have back := Delivery.recordsOf_eq_nil fun d member => (fine d member).1
  have ended := Delivery.recordsOf_eq_nil fun d member => (fine d member).2
  have lost : (s.batchDeeds k).flatMap (Event.lostOf k) = (s.nextBatch k).oversize := by
    rw [s.lostOf_batchDeeds, ended, unsent, List.flatten_nil, List.append_nil, List.append_nil]
  exact {
    queued := by rw [s.queued_batch k course, back, List.append_nil]
    arrived := by rw [arrived_append course.deeds, s.arrivedOf_batchDeeds, arrived]
    lost := by rw [lost_append course.deeds, lost]
    dropped := by rw [course.dropped, lost] }

/-- States that a sender with settings that can be set up may come into. -/
def FromBuilder (s : Sender σ) : Prop :=
  ∃ (settings : Settings) (destination : Destination) (hostSource : String)
    (transport : Transport σ) (link : σ) (calls : List Call),
    settings.Built ∧ s = (settings.sender destination hostSource transport link).run calls

theorem FromBuilder.batchSize_pos {s : Sender σ} (built : s.FromBuilder) :
    0 < s.limits.batchSize := by
  obtain ⟨settings, destination, hostSource, transport, link, calls, built, rfl⟩ := built
  have limits := congrArg Setup.limits
    (setup_run (settings.sender destination hostSource transport link) calls)
  change _ = settings.limits at limits
  change 0 < (Setup.limits (setup _)).batchSize
  rw [limits]
  exact built.batchSize_pos

theorem accepting_visit (j : Kind) (accepting : s.transport.Accepting s.link) :
    (s.visit j).2.transport.Accepting (s.visit j).2.link := by
  have course := Course.visit s j
  rw [course.transport, course.link, s.follow_batchDeeds]
  exact accepting.linkAfter _

private theorem close_arrives (on : (s.buffer k).disabled = false)
    (accepting : s.transport.Accepting s.link) : s.Arrives k s.close := by
  obtain ⟨t, still, before, after⟩ := s.close_visits_keeping k
    (p := fun s => s.transport.Accepting s.link) accepting_visit accepting
  have arrives := t.visit_arrives k (by rw [before.buffer, on]) still
  have limits : t.limits = s.limits := congrArg Setup.limits before.setup
  have batch : t.nextBatch k = s.nextBatch k := by
    rw [nextBatch, nextBatch, limits, before.queued]
  exact {
    queued := by rw [after.queued, arrives.queued, batch]
    arrived := by rw [after.arrived, arrives.arrived, before.arrived, batch]
    lost := by rw [after.lost, arrives.lost, before.lost, batch]
    dropped := by rw [after.buffer, arrives.dropped, before.buffer, batch] }

end Sender

/-- What closing comes to if all that is reported is accepted: one batch of every kind arrives but
for the records that are too long, and then the transport is closed. -/
structure LastCycle (s after : Sender σ) : Prop where
  arrives : ∀ k, s.Arrives k after
  closed : ∃ events outcome, after.deeds = s.deeds ++ events ++ [.closed outcome] ∧
    ∀ e ∈ events, e.kind?.isSome = true
  empty_iff : ∀ k, after.queued k = [] ↔
    ((s.queued k).dropLast.filter (Batch.fits s.limits.messageSize)).length < s.limits.batchSize

/-- Closing a sender no kind of which is off, over a transport that accepts everything. -/
theorem close_lastCycle {s : Sender σ} (built : s.FromBuilder)
    (on : ∀ k, (s.buffer k).disabled = false) (accepting : s.transport.Accepting s.link) :
    LastCycle s s.close where
  arrives k := s.close_arrives k (on k) accepting
  closed := s.deeds_close
  empty_iff k := by
    rw [(s.close_arrives k (on k) accepting).queued]
    exact Batch.rest_cut_eq_nil_iff built.batchSize_pos _ _

def Sender.withTwoPoints : Sender Transport.Script :=
  let settings := { Settings.standard.withTransport with
    limits := { Limits.standard with batchSize := 1 } }
  (settings.sender .custom "default-host" (.scripted "scripted") (.new [])).run
    [.formatted "a 1 source=h", .formatted "b 1 source=h"]

private theorem withTwoPoints_fromBuilder : Sender.withTwoPoints.FromBuilder := by
  have set : Settings.standard.withTransport.setBatchSize 1 = .ok _ := rfl
  exact ⟨_, _, _, _, _, _, .setBatchSize (.withTransport .standard) set, rfl⟩

private theorem withTwoPoints_on (k : Kind) : (Sender.withTwoPoints.buffer k).disabled = false := by
  cases k <;> decide +kernel

private theorem withTwoPoints_accepting :
    Sender.withTwoPoints.transport.Accepting Sender.withTwoPoints.link :=
  Transport.accepting_of_exhausted (by decide +kernel) _

theorem close_withTwoPoints :
    Sender.withTwoPoints.FromBuilder ∧ (∀ k, (Sender.withTwoPoints.buffer k).disabled = false) ∧
      Sender.withTwoPoints.transport.Accepting Sender.withTwoPoints.link ∧
      LastCycle Sender.withTwoPoints Sender.withTwoPoints.close :=
  ⟨withTwoPoints_fromBuilder, withTwoPoints_on, withTwoPoints_accepting,
    close_lastCycle withTwoPoints_fromBuilder withTwoPoints_on withTwoPoints_accepting⟩

/-- Closing need not empty a queue. -/
theorem close_leaves_point :
    Sender.withTwoPoints.FromBuilder ∧ (∀ k, (Sender.withTwoPoints.buffer k).disabled = false) ∧
      Sender.withTwoPoints.transport.Accepting Sender.withTwoPoints.link ∧
      Sender.withTwoPoints.queued .points = ["a 1 source=h\n", "b 1 source=h\n"] ∧
      Sender.withTwoPoints.close.queued .points = ["b 1 source=h\n"] :=
  ⟨withTwoPoints_fromBuilder, withTwoPoints_on, withTwoPoints_accepting, by decide +kernel,
    by decide +kernel⟩

end TelemetrySender
