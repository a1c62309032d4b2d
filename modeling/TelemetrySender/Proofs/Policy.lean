import TelemetrySender.Proofs.Counts
import TelemetrySender.Proofs.Handover

/-!
The retry policy.  All that comes of a batch is read off the deliveries that were tried: rejected
chunks go back behind the queue in order, and everything else that did not arrive is given up.
-/

set_option autoImplicit false
set_option relaxedAutoImplicit false

namespace TelemetrySender

variable {σ : Type}

namespace Delivery

/-- The records of all those deliveries that have a property. -/
def recordsOf (p : Delivery → Bool) (deliveries : List Delivery) : List String :=
  (deliveries.filter p).flatMap Delivery.records

private theorem flatMap_eq_recordsOf {g : Delivery → List String} {p : Delivery → Bool}
    {deliveries : List Delivery} (reads : ∀ d ∈ deliveries, g d = if p d then d.records else []) :
    deliveries.flatMap g = recordsOf p deliveries := by
  induction deliveries with
  | nil => rfl
  | cons d rest ih =>
    have later := ih fun d member => reads d (List.mem_cons_of_mem _ member)
    rw [List.flatMap_cons, later, reads d List.mem_cons_self]
    cases holds : p d <;> simp [recordsOf, holds]

theorem delivery?_deeds (d : Delivery) : d.deeds.filterMap Event.delivery? = [d] := by
  unfold deeds
  split_ifs <;> rfl

theorem acceptedOf_deeds (d : Delivery) (k : Kind) : d.deeds.flatMap (Event.acceptedOf k) = [] := by
  unfold deeds
  split_ifs <;> rfl

theorem arrivedOf_deeds (d : Delivery) :
    d.deeds.flatMap (Event.arrivedOf d.kind) = if d.succeeded then d.records else [] := by
  unfold deeds
  split_ifs <;> simp_all [Event.arrivedOf]

theorem returnedOf_deeds (d : Delivery) :
    d.deeds.flatMap (Event.returnedOf d.kind) = if d.returns then d.records else [] := by
  unfold deeds
  split_ifs <;> simp_all [Event.returnedOf]

theorem lostOf_deeds (d : Delivery) :
    d.deeds.flatMap (Event.lostOf d.kind) = if d.ends then d.records else [] := by
  unfold deeds ends
  split_ifs <;> simp_all [Event.lostOf]

def linkAfter (t : Transport σ) (link : σ) (deliveries : List Delivery) : σ :=
  deliveries.foldl (fun link d => (t.report d.kind d.payload link).2) link

theorem eq_nil_of_handedOver {off : Bool} {attempts before behind : List Delivery} {d : Delivery}
    (shape : handedOver off attempts = before ++ d :: behind) (last : d.ends = true) :
    behind = [] := by
  cases off with
  | true => simp [handedOver] at shape
  | false =>
    induction attempts generalizing before with
    | nil => simp [handedOver] at shape
    | cons a rest ih =>
      rw [handedOver_cons] at shape
      cases before with
      | nil =>
        obtain ⟨rfl, rest⟩ := List.cons.inj shape
        rw [← rest, if_pos last]
      | cons b before =>
        obtain ⟨rfl, rest⟩ := List.cons.inj shape
        cases ends : a.ends with
        | true => simp [ends] at rest
        | false =>
          rw [ends, if_neg Bool.false_ne_true] at rest
          exact ih rest

theorem handedOver_eq_self {attempts : List Delivery}
    (goes : ∀ d ∈ handedOver false attempts, d.ends = false) :
    handedOver false attempts = attempts := by
  induction attempts with
  | nil => rfl
  | cons a rest ih =>
    rw [handedOver_cons] at goes ⊢
    have first : a.ends = false := goes a List.mem_cons_self
    rw [first, if_neg Bool.false_ne_true] at goes ⊢
    rw [ih fun d member => goes d (List.mem_cons_of_mem _ member)]

theorem countP_failed_handedOver (off : Bool) (attempts : List Delivery) :
    (handedOver off attempts).countP failed =
      if ((handedOver off attempts).findSome? fault?).isSome then 1 else 0 := by
  cases off with
  | true => rfl
  | false =>
    induction attempts with
    | nil => rfl
    | cons a rest ih =>
      rw [handedOver_cons]
      cases fault : a.fault? with
      | some f =>
        have failed : a.failed = true := by rw [Delivery.failed, fault, Option.isSome_some]
        simp [ends, failed, fault]
      | none =>
        have well : a.failed = false := by rw [Delivery.failed, fault, Option.isSome_none]
        cases last : a.ends with
        | true => simp [well, fault]
        | false => simpa [well, fault] using ih

end Delivery

namespace Transport

variable (t : Transport σ) (k : Kind) (closing : Bool) (chunks : List Chunk) (link : σ)

theorem records_attempts : (t.attempts k closing chunks link).map Delivery.records = chunks := by
  induction chunks generalizing link with
  | nil => rfl
  | cons chunk rest ih => rw [attempts, List.map_cons, ih]

theorem kind_of_mem_attempts {d : Delivery} (member : d ∈ t.attempts k closing chunks link) :
    d.kind = k := by
  induction chunks generalizing link with
  | nil => cases member
  | cons chunk rest ih =>
    rcases List.mem_cons.mp member with rfl | later
    · rfl
    · exact ih _ later

end Transport

namespace Sender

variable (s : Sender σ) (k : Kind) (chunks : List Chunk)

theorem handed_prefix : s.handed k chunks <+: s.transport.attempts k s.closing chunks s.link := by
  unfold handed Delivery.handedOver
  split_ifs
  · exact List.nil_prefix
  · exact List.take_prefix _ _

theorem kind_of_mem_handed {d : Delivery} (member : d ∈ s.handed k chunks) : d.kind = k :=
  s.transport.kind_of_mem_attempts k _ _ _ ((s.handed_prefix k chunks).subset member)

theorem records_handed :
    (s.handed k chunks).map Delivery.records = chunks.take (s.handed k chunks).length := by
  have head := (s.handed_prefix k chunks).map Delivery.records
  rw [Transport.records_attempts] at head
  simpa using List.prefix_iff_eq_take.mp head

/-- The deliveries that are tried of the next batch. -/
def nextHanded : List Delivery := s.handed k (s.nextBatch k).chunks

theorem records_nextHanded :
    (s.nextHanded k).map Delivery.records =
      (s.nextBatch k).chunks.take (s.nextHanded k).length :=
  s.records_handed k _

theorem nextHanded_of_off (off : (s.buffer k).disabled = true) : s.nextHanded k = [] := by
  rw [nextHanded, handed, Delivery.handedOver, if_pos off]

theorem length_nextHanded (on : (s.buffer k).disabled = false)
    (goes : ∀ d ∈ s.nextHanded k, d.ends = false) :
    (s.nextHanded k).length = (s.nextBatch k).chunks.length := by
  rw [nextHanded, handed, on] at goes ⊢
  rw [Delivery.handedOver_eq_self goes, ← List.length_map (f := Delivery.records),
    Transport.records_attempts]

def nextUnsent : List Chunk := (s.nextBatch k).chunks.drop (s.nextHanded k).length

theorem nextUnsent_eq_nil (on : (s.buffer k).disabled = false)
    (goes : ∀ d ∈ s.nextHanded k, d.ends = false) : s.nextUnsent k = [] := by
  rw [nextUnsent, s.length_nextHanded k on goes, List.drop_length]

def nextLoss : Loss := if (s.nextHanded k).any Delivery.failed then .broken else .discarded

theorem batchDeeds_eq :
    s.batchDeeds k =
      (s.nextBatch k).oversize.map (fun record => .lost k .oversize [record]) ++
        (s.nextHanded k).flatMap Delivery.deeds ++
        (s.nextUnsent k).map (.lost k (s.nextLoss k)) := by
  rw [batchDeeds, chunkDeeds, List.append_assoc]
  rfl

private theorem flatMap_batchDeeds_of_silent {α : Type} {g : Event → List α}
    (silent : ∀ cause records, g (.lost k cause records) = []) :
    (s.batchDeeds k).flatMap g = (s.nextHanded k).flatMap fun d => d.deeds.flatMap g := by
  rw [s.batchDeeds_eq, List.flatMap_append, List.flatMap_append, List.flatMap_assoc, List.flatMap_map,
    List.flatMap_map, List.flatMap_eq_nil_iff.mpr fun _ _ => silent _ _,
    List.flatMap_eq_nil_iff.mpr fun _ _ => silent _ _, List.append_nil, List.nil_append]

theorem delivery?_batchDeeds : (s.batchDeeds k).filterMap Event.delivery? = s.nextHanded k := by
  have single (d : Delivery) : (d.deeds.flatMap fun e => e.delivery?.toList) = [d] := by
    rw [← List.filterMap_eq_flatMap_toList, d.delivery?_deeds]
  rw [List.filterMap_eq_flatMap_toList, flatMap_batchDeeds_of_silent s k fun _ _ => rfl]
  simp only [single, List.flatMap_singleton']

private theorem reading_batchDeeds {reading : Kind → Event → List String} {p : Delivery → Bool}
    (reads : ∀ d : Delivery, d.deeds.flatMap (reading d.kind) = if p d then d.records else [])
    (silent : ∀ cause records, reading k (.lost k cause records) = []) :
    (s.batchDeeds k).flatMap (reading k) = Delivery.recordsOf p (s.nextHanded k) := by
  rw [s.flatMap_batchDeeds_of_silent k silent]
  refine Delivery.flatMap_eq_recordsOf fun d member => ?_
  rw [← s.kind_of_mem_handed k _ member]
  exact reads d

theorem arrivedOf_batchDeeds :
    (s.batchDeeds k).flatMap (Event.arrivedOf k) =
      Delivery.recordsOf Delivery.succeeded (s.nextHanded k) :=
  s.reading_batchDeeds k Delivery.arrivedOf_deeds fun _ _ => rfl

theorem flatten_nextBatch :
    (s.nextBatch k).chunks.flatten =
      (s.nextHanded k).flatMap Delivery.records ++ (s.nextUnsent k).flatten := by
  rw [List.flatMap, s.records_nextHanded, nextUnsent, ← List.flatten_append, List.take_append_drop]

theorem returnedOf_batchDeeds :
    (s.batchDeeds k).flatMap (Event.returnedOf k) =
      Delivery.recordsOf Delivery.returns (s.nextHanded k) :=
  s.reading_batchDeeds k Delivery.returnedOf_deeds fun _ _ => rfl

theorem acceptedOf_batchDeeds : (s.batchDeeds k).flatMap (Event.acceptedOf k) = [] := by
  rw [s.flatMap_batchDeeds_of_silent k fun _ _ => rfl]
  exact List.flatMap_eq_nil_iff.mpr fun d _ => d.acceptedOf_deeds k

theorem lostOf_batchDeeds :
    (s.batchDeeds k).flatMap (Event.lostOf k) =
      (s.nextBatch k).oversize ++ Delivery.recordsOf Delivery.ends (s.nextHanded k) ++
        (s.nextUnsent k).flatten := by
  have deliveries : ((s.nextHanded k).flatMap fun d => d.deeds.flatMap (Event.lostOf k)) =
      Delivery.recordsOf Delivery.ends (s.nextHanded k) := by
    refine Delivery.flatMap_eq_recordsOf fun d member => ?_
    rw [← s.kind_of_mem_handed k _ member]
    exact d.lostOf_deeds
  rw [s.batchDeeds_eq, List.flatMap_append, List.flatMap_append, List.flatMap_assoc, deliveries]
  simp [Event.lostOf, List.flatMap_map, List.flatMap_id']

theorem queued_batch {t : Sender σ} (course : Course k (s.batchReach k) (s.batchDeeds k) s t) :
    t.queued k =
      (s.nextBatch k).rest ++ Delivery.recordsOf Delivery.returns (s.nextHanded k) := by
  rw [course.queued, s.returnedOf_batchDeeds, s.rest_nextBatch]

theorem switchesOff_batchDeeds :
    (s.batchDeeds k).any Event.switchesOff = (s.nextHanded k).any Delivery.switchesOff := by
  have silent {α : Type} (f : α → Chunk) (cause : Loss) (l : List α) :
      (l.map fun a => Event.lost k cause (f a)).any Event.switchesOff = false := by
    rw [List.any_map]
    exact List.any_eq_false.mpr fun _ _ => Bool.false_ne_true
  rw [s.batchDeeds_eq, List.any_append, List.any_append, silent, silent fun chunk => chunk, List.any_flatMap,
    Bool.false_or, Bool.or_false]
  simp only [Delivery.switchesOff_deeds]

theorem follow_batchDeeds :
    (s.batchDeeds k).foldl s.transport.follow s.link =
      Delivery.linkAfter s.transport s.link (s.nextHanded k) := by
  have silent {α : Type} (f : α → Chunk) (cause : Loss) (l : List α) (link : σ) :
      l.foldl (fun link a => s.transport.follow link (.lost k cause (f a))) link = link := by
    induction l with
    | nil => rfl
    | cons a rest ih => exact ih
  rw [s.batchDeeds_eq, List.foldl_append, List.foldl_append, List.foldl_map, List.foldl_map, silent, silent,
    List.foldl_flatMap]
  simp only [Delivery.follow_deeds]
  rfl

end Sender

/-- The retry policy: what a batch of a kind comes to if these deliveries are tried.  Rejected
chunks go back in order, behind what the batch left, and there is room for all of them. -/
structure FollowsPolicy (s : Sender σ) (k : Kind) (tried : List Delivery) (fault : Option Fault)
    (after : Sender σ) : Prop where
  inOrder : tried.map Delivery.records = (s.nextBatch k).chunks.take tried.length
  answered : tried <+: s.transport.attempts k s.closing (s.nextBatch k).chunks s.link
  link : after.link = Delivery.linkAfter s.transport s.link tried
  reported : after.reports = s.reports ++ tried
  skips : (s.buffer k).disabled = true → tried = []
  stops : ∀ before d behind, tried = before ++ d :: behind → d.ends = true → behind = []
  complete : (s.buffer k).disabled = false → (∀ d ∈ tried, d.ends = false) →
    tried.length = (s.nextBatch k).chunks.length
  queued : after.queued k =
    (s.nextBatch k).rest ++ Delivery.recordsOf Delivery.returns tried
  room : ∃ deeds, after.deeds = s.deeds ++ deeds ∧ ∀ j records, .lost j .overflow records ∉ deeds
  dropped : (after.buffer k).tally.dropped = (s.buffer k).tally.dropped +
    (s.nextBatch k).oversize.length + (Delivery.recordsOf Delivery.ends tried).length +
    ((s.nextBatch k).chunks.drop tried.length).flatten.length
  givenBack : fault = tried.findSome? Delivery.fault?
  reportErrors : (after.buffer k).tally.reportErrors =
    (s.buffer k).tally.reportErrors + if fault.isSome then 1 else 0
  statuses : ∀ status, (after.buffer k).tally.statusCount status =
    (s.buffer k).tally.statusCount status + tried.countP fun d => d.status? = some status
  valid : (after.buffer k).tally.valid = (s.buffer k).tally.valid
  invalid : (after.buffer k).tally.invalid = (s.buffer k).tally.invalid
  disabled : (after.buffer k).disabled =
    ((s.buffer k).disabled || tried.any Delivery.switchesOff)
  capacity : (after.buffer k).capacity = (s.buffer k).capacity
  others : ∀ j, j ≠ k → after.buffer j = s.buffer j
  setup : after.setup = s.setup
  closing : after.closing = s.closing

namespace Sender

variable (s : Sender σ) (k : Kind)

private theorem overflow_notMem_batchDeeds (j : Kind) (records : Chunk) :
    .lost j .overflow records ∉ s.batchDeeds k := by
  rw [s.batchDeeds_eq, nextLoss]
  simp only [List.mem_append, List.mem_map, List.mem_flatMap, not_or, not_exists, not_and]
  refine ⟨⟨fun _ _ same => ?_, fun d _ => ?_⟩, fun _ _ same => ?_⟩
  · cases same
  · unfold Delivery.deeds
    split_ifs <;> simp
  · split_ifs at same <;> cases same

/-- Every batch follows the retry policy, whatever the transport answers. -/
theorem deliver_followsPolicy :
    FollowsPolicy s k (s.nextHanded k) (s.deliver k).1 (s.deliver k).2 := by
  obtain ⟨course, fault⟩ := Course.deliver s k
  exact {
    inOrder := s.records_handed k _
    answered := s.handed_prefix k _
    link := by rw [course.link, s.follow_batchDeeds]
    reported := by
      rw [reports, course.deeds, List.filterMap_append, s.delivery?_batchDeeds]
      rfl
    skips := s.nextHanded_of_off k
    stops := fun _ _ _ shape last => Delivery.eq_nil_of_handedOver shape last
    complete := s.length_nextHanded k
    queued := s.queued_batch k course
    room := ⟨s.batchDeeds k, course.deeds, s.overflow_notMem_batchDeeds k⟩
    dropped := by
      rw [course.dropped, s.lostOf_batchDeeds, List.length_append, List.length_append,
        ← Nat.add_assoc, ← Nat.add_assoc]
      rfl
    givenBack := fault
    reportErrors := by
      rw [course.reportErrors, s.delivery?_batchDeeds, fault]
      exact congrArg _ (Delivery.countP_failed_handedOver _ _)
    statuses := by
      intro status
      rw [course.statusCount, s.delivery?_batchDeeds]
    valid := course.valid
    invalid := course.invalid
    disabled := by rw [course.disabled, s.switchesOff_batchDeeds]
    capacity := course.capacity
    others := course.others
    setup := course.setup
    closing := course.closing }

end Sender

end TelemetrySender
