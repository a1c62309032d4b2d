import TelemetrySender.Proofs.Conservation
import TelemetrySender.Proofs.Timeless

/-!
Few keys.  What a sender says tells kinds and statuses apart, but neither counts nor records; statuses
are few, and it says something only of those that are errors.  So there are fewer keys than a crowd, the
window never forgets, and what is logged is exactly what is due.
-/

set_option autoImplicit false
set_option relaxedAutoImplicit false

namespace TelemetrySender

variable {σ : Type}

namespace Notice

/-- What a sender may have to say: that a kind is switched off only of those that can be, that it is
not admitted only if it was refused, and that a chunk was rejected only of other errors. -/
def Possible : Notice → Prop
  | discarding k => k.canDisable = true
  | disabling k status => k.canDisable = true ∧ (status = 401 ∨ status = 403)
  | denied k status => k.canDisable = false ∧ (status = 401 ∨ status = 403)
  | rejected _ status => 400 ≤ status ∧ status ≤ 599 ∧ status ≠ 401 ∧ status ≠ 403
  | full _ => True
  | overflow _ _ => True
  | oversize _ _ => True

/-- One notice for each key: 4 of full queues, 1 of records that are too long, 3 and 6 of kinds that are
off or are being switched off, 2 of a kind that cannot be, and 792 of other errors. -/
def typical : List Notice :=
  Kind.all.map full ++ [oversize 0 ""] ++
    (Kind.all.filter Kind.canDisable).flatMap (fun k =>
      [discarding k, disabling k 401, disabling k 403]) ++
    (Kind.all.filter (!·.canDisable)).flatMap (fun k => [denied k 401, denied k 403]) ++
    Kind.all.flatMap fun k =>
      ((List.range' 400 200).filter fun status => status ≠ 401 ∧ status ≠ 403).map (rejected k)

def keys : List String := typical.map key

theorem length_keys : keys.length = 808 := by
  rw [keys, List.length_map]
  decide +kernel

theorem key_mem_keys {n : Notice} (possible : n.Possible) : n.key ∈ keys := by
  have under {t : Notice} (member : t ∈ typical) (same : t.key = n.key) : n.key ∈ keys := by
    rw [← same]
    exact List.mem_map_of_mem member
  cases n with
  | full k => exact under (t := full k) (by simp [typical, k.mem_all]) rfl
  | overflow k count => exact under (t := full k) (by simp [typical, k.mem_all]) rfl
  | oversize limit record => exact under (t := oversize 0 "") (by simp [typical]) rfl
  | discarding k =>
    have able : k.canDisable = true := possible
    exact under (t := discarding k) (by simp [typical, k.mem_all, able]) rfl
  | disabling k status =>
    obtain ⟨able, refused⟩ : k.canDisable = true ∧ (status = 401 ∨ status = 403) := possible
    refine under (t := disabling k status) ?_ rfl
    rcases refused with rfl | rfl <;> simp [typical, k.mem_all, able]
  | denied k status =>
    obtain ⟨unable, refused⟩ : k.canDisable = false ∧ (status = 401 ∨ status = 403) := possible
    refine under (t := denied k status) ?_ rfl
    rcases refused with rfl | rfl <;> simp [typical, k.mem_all, unable]
  | rejected k status =>
    obtain ⟨low, high, other⟩ :
      400 ≤ status ∧ status ≤ 599 ∧ status ≠ 401 ∧ status ≠ 403 := possible
    have error : status < 600 := by omega
    exact under (t := rejected k status) (by simp [typical, k.mem_all, low, error, other]) rfl

end Notice

theorem Delivery.possible (d : Delivery) : ∀ n ∈ d.notices, n.Possible := by
  intro n member
  unfold notices at member
  cases answer : d.outcome with
  | error fault => simp [answer] at member
  | ok status =>
    simp only [answer, Verdict.ofStatus] at member
    split_ifs at member <;> simp_all [Notice.Possible]

theorem Event.possible {limit : Nat} {e : Event}
    (able : ∀ k records, e = .lost k .discarded records → k.canDisable = true) :
    ∀ n ∈ e.notices limit, n.Possible := by
  intro n member
  cases e with
  | queued | logged | closed => cases member
  | reported d => exact d.possible n member
  | lost k cause records =>
    cases cause with
    | disabled | broken => cases member
    | oversize =>
      obtain ⟨record, -, rfl⟩ := List.mem_map.mp member
      trivial
    | overflow =>
      rw [List.mem_singleton.mp member]
      trivial
    | discarded =>
      rw [List.mem_singleton.mp member]
      exact able k records rfl

namespace Sender

variable {s : Sender σ}

private theorem able_of_discarded (books : ∀ k, ∃ orphans, Books s k orphans) {k : Kind}
    {records : Chunk} (member : .lost k .discarded records ∈ s.deeds) : k.canDisable = true := by
  obtain ⟨orphans, books⟩ := books k
  have own : .lost k .discarded records ∈ s.deedsOf k :=
    List.mem_filter.mpr ⟨member, by simp [Event.kind?]⟩
  obtain ⟨before, after, shape⟩ := List.append_of_mem own
  cases books.explained.grounds shape with
  | @discarded _ d _ reported off =>
    have here : .reported d ∈ s.deedsOf k := by
      rw [shape]
      exact List.mem_append_left _ reported
    have kind : d.kind = k := by simpa [Event.kind?] using (List.mem_filter.mp here).2
    rw [Delivery.switchesOff, Bool.and_eq_true, kind] at off
    exact off.2

private theorem possible_crowded (k : Kind) : ∀ n ∈ s.crowded k, n.Possible := by
  intro n member
  unfold crowded at member
  split_ifs at member
  · cases member
  · rw [List.mem_singleton.mp member]
    trivial

private theorem possible_refused (k : Kind) (encoded : Except Invalid String) :
    ∀ n ∈ s.refused k encoded, n.Possible := by
  cases encoded with
  | error fault => simp [refused]
  | ok record => exact possible_crowded k

private theorem possible_refusals (call : Call) : ∀ n ∈ s.refusals call, n.Possible := by
  cases call with
  | metric m => exact possible_refused .points _
  | formatted p => exact possible_refused .points _
  | distribution d => exact possible_refused .histograms _
  | span x =>
    intro n member
    simp only [refusals] at member
    rcases List.mem_append.mp member with ofSpan | ofLogs
    · exact possible_refused .spans _ n ofSpan
    · split at ofLogs
      · cases ofLogs
      · split_ifs at ofLogs
        · cases ofLogs
        · exact possible_crowded .spanLogs n ofLogs
  | flush | scheduledFlush | close | clock => simp [refusals]

private theorem possible_notices (books : ∀ k, ∃ orphans, Books s k orphans) (call : Call) :
    ∀ n ∈ s.notices call, n.Possible := by
  intro n member
  have after (k : Kind) : ∃ orphans, Books (s.step call).2 k orphans := by
    obtain ⟨orphans, books⟩ := books k
    exact ⟨_, books.run [call]⟩
  rcases List.mem_append.mp member with refused | said
  · exact possible_refusals call n refused
  · obtain ⟨e, done, said⟩ := List.mem_flatMap.mp said
    refine Event.possible (fun k records same => ?_) n said
    rw [same] at done
    exact able_of_discarded after (List.mem_of_mem_drop done)

private theorem key_mem_keys_history (books : ∀ k, ∃ orphans, Books s k orphans)
    (calls : List Call) : ∀ x ∈ s.history calls, x.key ∈ Notice.keys := by
  induction calls generalizing s with
  | nil => simp [history]
  | cons call rest ih =>
    intro x member
    rcases List.mem_append.mp member with now | later
    · obtain ⟨n, said, rfl⟩ := List.mem_map.mp now
      exact Notice.key_mem_keys (possible_notices books call n said)
    · refine ih (fun k => ?_) x later
      obtain ⟨orphans, books⟩ := books k
      exact ⟨_, books.run [call]⟩

end Sender

/-- What comes of all that a sender says in its runs. -/
structure Quiet (sender : Sender σ) : Prop where
  window : ∀ calls, (sender.run calls).window =
    (LogWindow.new Sender.noticeWindow).afterAll (sender.history calls)
  speaks : ∀ calls call, Speaks (sender.run calls) call ((sender.run calls).step call).2
  keys : ∀ calls, ∀ x ∈ sender.history calls, x.key ∈ Notice.keys
  timeless : ∀ calls others, calls.filter Call.acts = others.filter Call.acts →
    sender.keyHistory calls = sender.keyHistory others
  rations : ∀ calls sayings, sayings.map Saying.key = sender.keyHistory calls →
    LogWindow.Rations 808 Sender.noticeWindow sayings

/-- In all runs, whatever the clock shows, what is said goes through a window that stays small,
drives nothing out, and lets through what is due. -/
theorem run_quiet (clientId defaultSource : String) (limits : Limits) (transport : Transport σ)
    (link : σ) : Quiet (Sender.new clientId defaultSource limits transport link) := by
  let start := Sender.new clientId defaultSource limits transport link
  have books (k : Kind) : ∃ orphans, Books start k orphans :=
    ⟨0, .new clientId defaultSource limits transport link k⟩
  have keys (calls : List Call) : ∀ x ∈ start.history calls, x.key ∈ Notice.keys :=
    Sender.key_mem_keys_history books calls
  constructor
  · exact start.window_run
  · intro calls call
    exact Speaks.step (start.run calls) call
  · exact keys
  · intro calls others same
    exact start.keyHistory_eq same
  · intro calls sayings same
    have few : Notice.keys.length < LogWindow.crowd := by
      rw [Notice.length_keys]
      decide
    have own : ∀ x ∈ sayings, x.key ∈ Notice.keys := by
      intro x member
      have said : x.key ∈ start.keyHistory calls := by
        rw [← same]
        exact List.mem_map_of_mem member
      obtain ⟨y, inHistory, key⟩ := List.mem_map.mp said
      rw [← key]
      exact keys calls y inHistory
    have rations := LogWindow.rations_of_few few Sender.noticeWindow own
    rwa [Notice.length_keys] at rations

end TelemetrySender
