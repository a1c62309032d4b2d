import TelemetrySender.Proofs.Voices

/-!
What is said has no effect.  Neither the clock nor the window, nor what was logged, makes a difference to
anything that a sender does: two senders that differ in these alone answer alike, do the same, and go on to
differ in these alone.
-/

set_option autoImplicit false
set_option relaxedAutoImplicit false

namespace TelemetrySender

variable {σ : Type}

/-- Two senders differ in their clocks, their windows and their log lines at most. -/
structure SameButSaid (s t : Sender σ) : Prop where
  rest : t = { s with window := t.window, now := t.now, journal := t.journal }
  deeds : t.deeds = s.deeds

namespace SameButSaid

variable {s t : Sender σ}

theorem refl (s : Sender σ) : SameButSaid s s := ⟨rfl, rfl⟩

theorem buffer (same : SameButSaid s t) (k : Kind) : t.buffer k = s.buffer k := by
  rw [same.rest]
  rfl

theorem limits (same : SameButSaid s t) : t.limits = s.limits := by
  rw [same.rest]

theorem defaultSource (same : SameButSaid s t) : t.defaultSource = s.defaultSource := by
  rw [same.rest]

theorem transport (same : SameButSaid s t) : t.transport = s.transport := by
  rw [same.rest]

theorem link (same : SameButSaid s t) : t.link = s.link := by
  rw [same.rest]

theorem closing (same : SameButSaid s t) : t.closing = s.closing := by
  rw [same.rest]

theorem setBuffer (same : SameButSaid s t) (k : Kind) (b : Buffer) :
    SameButSaid (s.setBuffer k b) (t.setBuffer k b) := by
  refine ⟨?_, same.deeds⟩
  rw [same.rest]
  rfl

theorem onBuffer (same : SameButSaid s t) (k : Kind) (f : Buffer → Buffer) :
    SameButSaid (s.onBuffer k f) (t.onBuffer k f) := by
  unfold Sender.onBuffer
  rw [same.buffer]
  exact same.setBuffer k _

theorem refuse (same : SameButSaid s t) (k : Kind) : SameButSaid (s.refuse k) (t.refuse k) :=
  same.onBuffer k _

private theorem setLink (same : SameButSaid s t) (link : σ) :
    SameButSaid { s with link := link } { t with link := link } := by
  refine ⟨?_, same.deeds⟩
  rw [same.rest]

theorem told (same : SameButSaid s t) :
    SameButSaid { s with closing := true } { t with closing := true } := by
  refine ⟨?_, same.deeds⟩
  rw [same.rest]

theorem clock (same : SameButSaid s t) (now later : Nat) :
    SameButSaid { s with now := now } { t with now := later } := by
  refine ⟨?_, same.deeds⟩
  rw [same.rest]

theorem record (same : SameButSaid s t) {e : Event} (deed : e.isDeed = true) :
    SameButSaid (s.record e) (t.record e) := by
  constructor
  · rw [same.rest]
    rfl
  · rw [Sender.deeds_record deed, Sender.deeds_record deed, same.deeds]

private theorem said (s : Sender σ) (n : Notice) : SameButSaid s (s.say n) := by
  obtain ⟨window, quiet | logged⟩ := s.say_cases n
  · rw [quiet]
    exact ⟨rfl, rfl⟩
  · rw [logged]
    exact ⟨rfl, rfl⟩

theorem symm (same : SameButSaid s t) : SameButSaid t s := by
  refine ⟨?_, same.deeds.symm⟩
  rw [same.rest]

theorem trans {u : Sender σ} (first : SameButSaid s t) (second : SameButSaid t u) :
    SameButSaid s u := by
  refine ⟨?_, second.deeds.trans first.deeds⟩
  rw [second.rest, first.rest]

theorem say (same : SameButSaid s t) (m n : Notice) : SameButSaid (s.say m) (t.say n) :=
  ((said s m).symm.trans same).trans (said t n)

theorem lose (same : SameButSaid s t) (k : Kind) (cause : Loss) (records : Chunk) :
    SameButSaid (s.lose k cause records) (t.lose k cause records) :=
  (same.onBuffer k _).record rfl

theorem tried (same : SameButSaid s t) (d : Delivery) : SameButSaid (s.tried d) (t.tried d) := by
  have follow : t.transport.follow t.link (.reported d) = s.transport.follow s.link (.reported d) := by
    rw [same.transport, same.link]
  unfold Sender.tried
  rw [follow]
  exact (same.setLink _).record rfl

theorem requeue (same : SameButSaid s t) (k : Kind) (chunk : Chunk) :
    SameButSaid (s.requeue k chunk) (t.requeue k chunk) := by
  have back := same.setBuffer k ((s.buffer k).requeue chunk).2
  simp only [Sender.requeue, same.buffer]
  cases ((s.buffer k).requeue chunk).1 with
  | nil => exact back
  | cons record rest => exact (back.record rfl).say _ _

theorem settle (same : SameButSaid s t) (k : Kind) (chunk : Chunk) (status : Nat) :
    SameButSaid (s.settle k chunk status) (t.settle k chunk status) := by
  have counted := same.onBuffer k (·.count (·.addStatus status))
  simp only [Sender.settle]
  cases Verdict.ofStatus k status with
  | delivered => exact counted
  | disable => exact ((counted.onBuffer k _).say _ _).lose k _ chunk
  | denied => exact (counted.say _ _).requeue k chunk
  | rejected => exact (counted.say _ _).requeue k chunk

end SameButSaid

structure SameResult {α : Type} (r q : α × Sender σ) : Prop where
  answer : q.1 = r.1
  sender : SameButSaid r.2 q.2

namespace SameResult

variable {α β : Type} {r q : α × Sender σ}

private theorem foldl {f : α × Sender σ → β → α × Sender σ}
    (step : ∀ {r q} b, SameResult r q → SameResult (f r b) (f q b)) (same : SameResult r q)
    (l : List β) : SameResult (l.foldl f r) (l.foldl f q) := by
  induction l generalizing r q with
  | nil => exact same
  | cons b rest ih => exact ih (step b same)

private theorem map (same : SameResult r q) (f : α → β) : SameResult (f r.1, r.2) (f q.1, q.2) :=
  ⟨congrArg f same.answer, same.sender⟩

end SameResult

namespace SameButSaid

variable {s t : Sender σ}

theorem hand (same : SameButSaid s t) (k : Kind) (chunk : Chunk) :
    SameResult (s.hand k chunk) (t.hand k chunk) := by
  have attempt : t.attempt k chunk = s.attempt k chunk := by
    rw [Sender.attempt, Sender.attempt, same.transport, same.link, same.closing]
  rw [s.hand_eq, t.hand_eq, attempt]
  have tried := same.tried (s.attempt k chunk)
  cases (s.attempt k chunk).outcome with
  | ok status => exact ⟨rfl, tried.settle k chunk status⟩
  | error fault => exact ⟨rfl, (tried.lose k .broken chunk).onBuffer k (·.count Tally.addReportError)⟩

private theorem deliverChunk {r q : Option Fault × Sender σ} (k : Kind) (chunk : Chunk)
    (same : SameResult r q) :
    SameResult (Sender.deliverChunk k r chunk) (Sender.deliverChunk k q chunk) := by
  obtain ⟨fault, s⟩ := r
  obtain ⟨other, t⟩ := q
  obtain ⟨rfl, same⟩ := same
  cases other with
  | some fault => exact ⟨rfl, same.lose k .broken chunk⟩
  | none =>
    simp only [Sender.deliverChunk, same.buffer]
    split
    · exact ⟨rfl, (same.say _ _).lose k .discarded chunk⟩
    · exact same.hand k chunk

private theorem takeBatch (same : SameButSaid s t) (k : Kind) :
    SameResult (s.takeBatch k) (t.takeBatch k) := by
  have notices (records : List String) {s t : Sender σ} (same : SameButSaid s t) :
      SameButSaid
        (records.foldl (fun s r => (s.record (.lost k .oversize [r])).say
          (.oversize s.limits.messageSize r)) s)
        (records.foldl (fun s r => (s.record (.lost k .oversize [r])).say
          (.oversize s.limits.messageSize r)) t) := by
    induction records generalizing s t with
    | nil => exact same
    | cons r rest ih => exact ih ((same.record rfl).say _ _)
  simp only [Sender.takeBatch, same.buffer, same.limits]
  exact ⟨rfl, notices _ (same.setBuffer k _)⟩

theorem deliver (same : SameButSaid s t) (k : Kind) :
    SameResult (s.deliver k) (t.deliver k) := by
  have taken := same.takeBatch k
  have start : SameResult ((none : Option Fault), (s.takeBatch k).2) (none, (t.takeBatch k).2) :=
    ⟨rfl, taken.sender⟩
  simp only [Sender.deliver, taken.answer]
  exact start.foldl (fun chunk same => deliverChunk k chunk same) _

theorem visit (same : SameButSaid s t) (k : Kind) : SameResult (s.visit k) (t.visit k) := by
  have delivered := (same.onBuffer k Buffer.gauge).deliver k
  exact ⟨delivered.answer, delivered.sender.onBuffer k Buffer.gauge⟩

theorem flush (same : SameButSaid s t) : SameResult s.flush t.flush := by
  have step {r q : Option ReportFault × Sender σ} (k : Kind) (same : SameResult r q) :
      SameResult (Sender.visitNext r k) (Sender.visitNext q k) := by
    have visited := same.sender.visit k
    refine ⟨?_, visited.sender⟩
    simp only [Sender.visitNext, same.answer, visited.answer]
  have start : SameResult ((none : Option ReportFault), s) (none, t) := ⟨rfl, same⟩
  exact start.foldl step Kind.all

theorem scheduledFlush (same : SameButSaid s t) :
    SameResult s.scheduledFlush t.scheduledFlush := by
  unfold Sender.scheduledFlush
  rw [same.closing]
  split_ifs
  · exact ⟨rfl, same⟩
  · exact same.flush

private theorem ofSameButLog (same : SameButLog s t) : SameButSaid s t := by
  refine ⟨?_, same.deeds⟩
  rw [same.rest]

private theorem shut (same : SameButSaid s t) : SameButSaid s.shut t.shut := by
  have closed : t.transport.close t.link = s.transport.close s.link := by
    rw [same.transport, same.link]
  unfold Sender.shut
  rw [closed]
  exact (same.setLink _).record rfl

theorem close (same : SameButSaid s t) : SameButSaid s.close t.close := by
  have shut := same.told.flush.sender.shut
  exact ((ofSameButLog s.shut_close).symm.trans shut).trans (ofSameButLog t.shut_close)

theorem offer (same : SameButSaid s t) (k : Kind) (record : String) :
    SameResult (s.offer k record) (t.offer k record) := by
  have offered := same.setBuffer k ((s.buffer k).offer record).2
  simp only [Sender.offer, same.buffer]
  split
  · exact ⟨rfl, offered.record rfl⟩
  · exact ⟨rfl, offered.say _ _⟩

theorem accept (same : SameButSaid s t) (k : Kind) (record : String) :
    SameResult (s.accept k record) (t.accept k record) :=
  (same.onBuffer k _).offer k record

theorem submit (same : SameButSaid s t) (k : Kind) (encoded : Except Invalid String) :
    SameResult (s.submit k encoded) (t.submit k encoded) := by
  cases encoded with
  | error fault => exact ⟨rfl, same.refuse k⟩
  | ok record => exact ⟨rfl, (same.accept k record).sender⟩

theorem sendSpan (same : SameButSaid s t) (x : Span) : SameResult (s.sendSpan x) (t.sendSpan x) := by
  unfold Sender.sendSpan
  rw [same.defaultSource]
  cases x.encode s.defaultSource with
  | error fault => exact ⟨rfl, same.refuse .spans⟩
  | ok record =>
    have accepted := same.accept .spans record
    simp only [accepted.answer]
    split_ifs
    · exact ⟨rfl, accepted.sender⟩
    · exact ⟨rfl, (accepted.sender.accept .spanLogs _).sender⟩
    · exact ⟨rfl, accepted.sender.onBuffer .spanLogs (·.drop 1)⟩

theorem step (same : SameButSaid s t) (call : Call) : SameResult (s.step call) (t.step call) := by
  cases call with
  | metric m =>
    simp only [Sender.step, Sender.sendMetric, same.defaultSource]
    exact (same.submit .points _).map _
  | formatted p => exact (same.submit .points (Sender.formattedRecord p)).map _
  | distribution d =>
    simp only [Sender.step, Sender.sendDistribution, same.defaultSource]
    exact (same.submit .histograms _).map _
  | span x => exact (same.sendSpan x).map _
  | flush => exact same.flush.map _
  | scheduledFlush => exact same.scheduledFlush.map _
  | close => exact ⟨rfl, same.close⟩
  | clock now => exact ⟨rfl, same.clock now now⟩

theorem notices (same : SameButSaid s t) (call : Call) : t.notices call = s.notices call := by
  have crowded (k : Kind) : t.crowded k = s.crowded k := by
    rw [Sender.crowded, Sender.crowded, same.buffer]
  have refused (k : Kind) (encoded : Except Invalid String) :
      t.refused k encoded = s.refused k encoded := by
    cases encoded with
    | error fault => rfl
    | ok record => exact crowded k
  have refusals : t.refusals call = s.refusals call := by
    cases call with
    | metric | formatted | distribution | span =>
      simp only [Sender.refusals, same.defaultSource, same.buffer, refused, crowded]
    | flush | scheduledFlush | close | clock => rfl
  rw [Sender.notices, Sender.notices, refusals, (same.step call).sender.deeds, same.deeds, same.limits]

end SameButSaid

def Call.acts : Call → Bool
  | .clock _ => false
  | _ => true

namespace Sender

variable {s t : Sender σ}

/-- The keys of all that is said in the course of some calls, in order. -/
def keyHistory (s : Sender σ) (calls : List Call) : List String := (s.history calls).map Saying.key

private theorem keyHistory_cons (s : Sender σ) (call : Call) (rest : List Call) :
    s.keyHistory (call :: rest) =
      (s.notices call).map Notice.key ++ (s.step call).2.keyHistory rest := by
  rw [keyHistory, history, List.map_append, sayings, List.map_map]
  rfl

private theorem keyHistory_acts (same : SameButSaid s t) (calls : List Call) :
    t.keyHistory (calls.filter Call.acts) = s.keyHistory calls := by
  -- The sender that skips a call is behind by a clock at most, so both still have the same to say.
  induction calls generalizing s t with
  | nil => rfl
  | cons call rest ih =>
    rw [keyHistory_cons]
    cases acts : call.acts with
    | true =>
      rw [List.filter_cons_of_pos acts, keyHistory_cons, same.notices, ih (same.step call).sender]
    | false =>
      cases call with
      | metric | formatted | distribution | span | flush | scheduledFlush | close => cases acts
      | clock now =>
        rw [List.filter_cons_of_neg (by simp [acts]), s.notices_clock now]
        exact ih (same.clock now t.now)

/-- Two courses of calls in which the same calls act have the same keys. -/
theorem keyHistory_eq (s : Sender σ) {calls others : List Call}
    (same : calls.filter Call.acts = others.filter Call.acts) :
    s.keyHistory calls = s.keyHistory others := by
  rw [← keyHistory_acts (.refl s), same, keyHistory_acts (.refl s)]

end Sender

end TelemetrySender
