import TelemetrySender.Proofs.Framing

/-!
The transcript of a transport.  What the deeds of a sender tell about deliveries is true: the transport
was called for these and no others, in this order, and gave these answers.
-/

set_option autoImplicit false
set_option relaxedAutoImplicit false

namespace TelemetrySender

variable {σ : Type}

namespace Transport

def Answers (t : Transport σ) (link : σ) : Event → Prop
  | .reported d => d.outcome = (t.report d.kind d.payload link).1
  | _ => True

def AnswersAll (t : Transport σ) : List Event → σ → Prop
  | [], _ => True
  | e :: rest, link => t.Answers link e ∧ t.AnswersAll rest (t.follow link e)

variable {t : Transport σ} {early late : List Event} {link : σ}

theorem AnswersAll.append (first : t.AnswersAll early link)
    (second : t.AnswersAll late (early.foldl t.follow link)) :
    t.AnswersAll (early ++ late) link := by
  induction early generalizing link with
  | nil => exact second
  | cons e rest ih => exact ⟨first.1, ih first.2 second⟩

/-- Events that do not call the transport leave its link, and nothing about them can be untrue. -/
def Idle (t : Transport σ) (e : Event) : Prop :=
  ∀ link, t.Answers link e ∧ t.follow link e = link

theorem idle_lost (k : Kind) (cause : Loss) (records : Chunk) : t.Idle (.lost k cause records) :=
  fun _ => ⟨trivial, rfl⟩

theorem idle_queued (k : Kind) (record : String) : t.Idle (.queued k record) :=
  fun _ => ⟨trivial, rfl⟩

theorem answersAll_idle {events : List Event} (idle : ∀ e ∈ events, t.Idle e) (link : σ) :
    t.AnswersAll events link ∧ events.foldl t.follow link = link := by
  induction events generalizing link with
  | nil => exact ⟨trivial, rfl⟩
  | cons e rest ih =>
    rw [List.forall_mem_cons] at idle
    obtain ⟨answers, still⟩ := idle.1 link
    rw [AnswersAll, List.foldl_cons, still]
    exact ⟨⟨answers, (ih idle.2 link).1⟩, (ih idle.2 link).2⟩

private theorem answersAll_deeds {d : Delivery}
    (answers : d.outcome = (t.report d.kind d.payload link).1) : t.AnswersAll d.deeds link := by
  refine ⟨answers, (answersAll_idle (fun e member => ?_) _).1⟩
  split_ifs at member with failed off
  · rw [List.mem_singleton.mp member]
    exact idle_lost _ _ _
  · rw [List.mem_singleton.mp member]
    exact idle_lost _ _ _
  · cases member

private theorem answersAll_handedOver (off : Bool) (k : Kind) (closing : Bool) (chunks : List Chunk) :
    t.AnswersAll
      ((Delivery.handedOver off (t.attempts k closing chunks link)).flatMap Delivery.deeds) link := by
  cases off with
  | true => trivial
  | false =>
    induction chunks generalizing link with
    | nil => trivial
    | cons chunk rest ih =>
      rw [attempts, Delivery.handedOver_cons, List.flatMap_cons]
      refine (answersAll_deeds rfl).append ?_
      rw [Delivery.follow_deeds]
      split_ifs
      · trivial
      · exact ih

end Transport

theorem Sender.answersAll_batchDeeds (s : Sender σ) (k : Kind) :
    s.transport.AnswersAll (s.batchDeeds k) s.link := by
  rw [s.batchDeeds_eq]
  have oversize : ∀ e ∈ (s.nextBatch k).oversize.map fun r => Event.lost k .oversize [r],
      s.transport.Idle e := by
    intro e member
    obtain ⟨record, -, rfl⟩ := List.mem_map.mp member
    exact Transport.idle_lost _ _ _
  have unsent : ∀ e ∈ (s.nextUnsent k).map (Event.lost k (s.nextLoss k)), s.transport.Idle e := by
    intro e member
    obtain ⟨chunk, -, rfl⟩ := List.mem_map.mp member
    exact Transport.idle_lost _ _ _
  obtain ⟨first, still⟩ := Transport.answersAll_idle oversize s.link
  refine (first.append ?_).append (Transport.answersAll_idle unsent _).1
  rw [still]
  exact Transport.answersAll_handedOver _ _ _ _

/-- What the deeds of a sender tell is all that its transport was called for since it had some link,
and every delivery ended as they say. -/
structure Transcribed (origin : σ) (s : Sender σ) : Prop where
  traced : Traced origin s
  answers : s.transport.AnswersAll s.deeds origin

namespace Transcribed

variable {origin : σ} {s t : Sender σ}

private theorem more {events : List Event} (transcribed : Transcribed origin s)
    (traced : Traced origin t) (setup : t.setup = s.setup) (deeds : t.deeds = s.deeds ++ events)
    (answers : s.transport.AnswersAll events s.link) : Transcribed origin t := by
  have transport : t.transport = s.transport := congrArg Setup.transport setup
  have link : s.link = s.deeds.foldl s.transport.follow origin := transcribed.traced
  refine ⟨traced, ?_⟩
  rw [transport, deeds]
  rw [link] at answers
  exact transcribed.answers.append answers

theorem visit (transcribed : Transcribed origin s) (k : Kind) : Transcribed origin (s.visit k).2 := by
  have course := Course.visit s k
  exact transcribed.more (transcribed.traced.visit k) course.setup course.deeds
    (s.answersAll_batchDeeds k)

theorem flush (transcribed : Transcribed origin s) : Transcribed origin s.flush.2 :=
  s.flush_keeps (fun _ k transcribed => transcribed.visit k) transcribed

theorem close (transcribed : Transcribed origin s) : Transcribed origin s.close := by
  have closing : Transcribed origin { s with closing := true } :=
    ⟨transcribed.traced, transcribed.answers⟩
  have last : Transcribed origin s.lastFlush := closing.flush
  have closed := s.lastFlush_closes .points
  obtain ⟨outcome, deeds⟩ := closed.deeds
  exact last.more transcribed.traced.close closed.aside.setup deeds ⟨trivial, trivial⟩

theorem takes {source : String} {call : Call} (transcribed : Transcribed origin s)
    (takes : Takes source call s t) : Transcribed origin t := by
  obtain ⟨events, deeds, queued⟩ := takes.deeds
  refine transcribed.more (transcribed.traced.takes takes) takes.setup deeds
    (Transport.answersAll_idle (fun e member => ?_) _).1
  obtain ⟨k, record, rfl, -⟩ := queued e member
  exact Transport.idle_queued k record

theorem step (transcribed : Transcribed origin s) (call : Call) :
    Transcribed origin (s.step call).2 := by
  rcases s.step_cases call with takes | cycle | last
  · exact transcribed.takes takes
  · rw [cycle]
    exact transcribed.flush
  · rw [last]
    exact transcribed.close

theorem run (transcribed : Transcribed origin s) (calls : List Call) :
    Transcribed origin (s.run calls) := by
  induction calls generalizing s with
  | nil => exact transcribed
  | cons call rest ih => exact ih (transcribed.step call)

end Transcribed

end TelemetrySender
