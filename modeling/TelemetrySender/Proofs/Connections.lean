import Mathlib.Data.List.Nodup
import Mathlib.Tactic.SplitIfs
import TelemetrySender.Transport.Proxy

/-!
Connections to a proxy.  There is at most one for each port that is set up, whatever connecting,
writing, flushing and shutting down come to.  Every event on a port belongs to a connection that was
opened before and is not given up yet; a payload that was answered stands on the wire whole, and behind a
torn one nothing comes but a new connection.
-/

set_option autoImplicit false
set_option relaxedAutoImplicit false

namespace TelemetrySender

variable {ν : Type}

namespace WireEvent

def port : WireEvent → Nat
  | opened port => port
  | wrote port _ => port
  | torn port _ => port
  | closed port => port

def written? : WireEvent → Option String
  | wrote _ payload => some payload
  | _ => none

end WireEvent

namespace ProxyLink

variable (l : ProxyLink ν)

def events : List WireEvent := l.wire.reverse

def eventsOn (port : Nat) : List WireEvent := l.events.filter fun e => e.port = port

@[simp] theorem events_mark (e : WireEvent) : (l.mark e).events = l.events ++ [e] :=
  List.reverse_cons

@[simp] theorem connections_mark (e : WireEvent) : (l.mark e).connections = l.connections := rfl

end ProxyLink

inductive PortStep (port : Nat) : Bool → WireEvent → Bool → Prop
  | opened : PortStep port false (.opened port) true
  | wrote (payload : String) : PortStep port true (.wrote port payload) true
  | torn (payload : String) : PortStep port true (.torn port payload) false
  | closed : PortStep port true (.closed port) false

/-- What may happen on one port, connection after connection. -/
def PortLine (port : Nat) : Bool → List WireEvent → Bool → Prop
  | isOpen, [], still => isOpen = still
  | isOpen, e :: rest, later => ∃ now, PortStep port isOpen e now ∧ PortLine port now rest later

namespace PortLine

variable {port : Nat} {early late : List WireEvent} {first last : Bool}

theorem append_iff :
    PortLine port first (early ++ late) last ↔
      ∃ between, PortLine port first early between ∧ PortLine port between late last := by
  induction early generalizing first with
  | nil => simp [PortLine]
  | cons e rest ih =>
    simp only [List.cons_append, PortLine, ih]
    constructor
    · rintro ⟨now, step, between, line, behind⟩
      exact ⟨between, ⟨now, step, line⟩, behind⟩
    · rintro ⟨between, ⟨now, step, line⟩, behind⟩
      exact ⟨now, step, between, line, behind⟩

theorem snoc {e : WireEvent} {now : Bool} (line : PortLine port first early now)
    (step : PortStep port now e last) : PortLine port first (early ++ [e]) last :=
  append_iff.mpr ⟨now, line, last, step, rfl⟩

theorem fresh {e next : WireEvent}
    (line : PortLine port first (early ++ e :: next :: late) last)
    (ended : (∃ payload, e = .torn port payload) ∨ e = .closed port) : next = .opened port := by
  obtain ⟨between, -, now, givenUp, then_, step, -⟩ := append_iff.mp line
  have closed : now = false := by
    rcases ended with ⟨payload, rfl⟩ | rfl
    · cases givenUp
      rfl
    · cases givenUp
      rfl
  rw [closed] at step
  cases step
  rfl

end PortLine

namespace Network

/-- The network is asked for nothing but what concerns one port. -/
inductive Touches (net : Network ν) (port : Nat) : ν → ν → Prop
  | none (n : ν) : Touches net port n n
  | connect {n m : ν} : Touches net port n m → Touches net port n (net.connect port m).2
  | write {n m : ν} (payload : String) :
      Touches net port n m → Touches net port n (net.write port payload m).2
  | flush {n m : ν} : Touches net port n m → Touches net port n (net.flush port m).2

/-- A payload is not written whole. -/
inductive Tears (net : Network ν) (port : Nat) (payload : String) (fault : Fault) (n : ν) : ν → Prop
  | write {m : ν} : net.write port payload n = (.error fault, m) → Tears net port payload fault n m
  | flush {m o : ν} : net.write port payload n = (.ok (), m) → net.flush port m = (.error fault, o) →
      Tears net port payload fault n o

variable {net : Network ν} {port : Nat} {payload : String} {fault : Fault} {n m : ν}

theorem Tears.touches (tears : net.Tears port payload fault n m) {first : ν}
    (before : net.Touches port first n) : net.Touches port first m := by
  cases tears with
  | write failed =>
    have touched := before.write payload
    rwa [failed] at touched
  | flush written failed =>
    have touched := before.write payload
    rw [written] at touched
    have flushed := touched.flush
    rwa [failed] at flushed

end Network

namespace ProxyLink

inductive Ready (net : Network ν) (port : Nat) (l : ProxyLink ν) : ProxyLink ν → Prop
  | kept : port ∈ l.connections → Ready net port l l
  | fresh {n : ν} : port ∉ l.connections → net.connect port l.network = (.ok (), n) →
      Ready net port l
        ({ l with network := n, connections := l.connections ++ [port] }.mark (.opened port))

inductive Reported (net : Network ν) (port : Nat) (payload : String) (l : ProxyLink ν) :
    Outcome → ProxyLink ν → Prop
  | unreachable {fault : Fault} {n : ν} : port ∉ l.connections →
      net.connect port l.network = (.error fault, n) →
      Reported net port payload l (.error fault) { l with network := n }
  | torn {fault : Fault} {m : ProxyLink ν} {n : ν} : Ready net port l m →
      net.Tears port payload fault m.network n →
      Reported net port payload l (.error fault)
        ({ m with network := n, connections := m.connections.filter (· ≠ port) }.mark
          (.torn port payload))
  | written {m : ProxyLink ν} {n o : ν} : Ready net port l m →
      net.write port payload m.network = (.ok (), n) → net.flush port n = (.ok (), o) →
      Reported net port payload l (.ok 202) ({ m with network := o }.mark (.wrote port payload))

variable {net : Network ν} {ports : ProxyPorts} {k : Kind} {port : Nat} {payload : String}
  {l m : ProxyLink ν} {answer : Outcome}

private theorem write_reported (ready : Ready net port l m) :
    Reported net port payload l (m.write net port payload).1 (m.write net port payload).2 := by
  unfold write
  rcases written : net.write port payload m.network with ⟨fault | done, n⟩
  · exact .torn (m := m) ready (.write written)
  · rcases flushed : net.flush port n with ⟨fault | done, o⟩
    · simp only [flushed]
      exact .torn (m := m) ready (.flush written flushed)
    · simp only [flushed]
      exact .written (m := m) ready written flushed

theorem report_of_none (net : Network ν) (payload : String) (none : ports.port? k = none)
    (l : ProxyLink ν) : l.report net ports k payload =
      (.error ⟨"Unsupported", "no proxy port configured for format `" ++ k.format ++ "`"⟩, l) := by
  rw [report, none]

theorem report_reported (setUp : ports.port? k = some port) :
    Reported net port payload l (l.report net ports k payload).1 (l.report net ports k payload).2 := by
  unfold report connect
  rw [setUp]
  by_cases held : port ∈ l.connections
  · simp only [if_pos held]
    exact write_reported (.kept held)
  · simp only [if_neg held]
    rcases opened : net.connect port l.network with ⟨fault | done, n⟩
    · exact .unreachable held opened
    · exact write_reported (.fresh held opened)

section Ready

variable (ready : Ready net port l m)

include ready

theorem Ready.mem : port ∈ m.connections := by
  cases ready with
  | kept held => exact held
  | fresh => simp

theorem Ready.others {other : Nat} (ne : other ≠ port) :
    other ∈ m.connections ↔ other ∈ l.connections := by
  cases ready with
  | kept => exact Iff.rfl
  | fresh => simp [ne]

theorem Ready.nodup (single : l.connections.Nodup) : m.connections.Nodup := by
  cases ready with
  | kept => exact single
  | fresh none =>
    refine List.nodup_append.mpr ⟨single, List.nodup_singleton port, ?_⟩
    intro held member new only same
    rw [List.mem_singleton.mp only] at same
    exact none (same ▸ member)

theorem Ready.touches : net.Touches port l.network m.network := by
  cases ready with
  | kept => exact .none l.network
  | fresh none opened =>
    have touched : net.Touches port l.network (net.connect port l.network).2 :=
      .connect (.none l.network)
    rwa [opened] at touched

def opening (l : ProxyLink ν) (port : Nat) : List WireEvent :=
  if port ∈ l.connections then [] else [.opened port]

theorem Ready.events : m.events = l.events ++ l.opening port := by
  cases ready with
  | kept held => rw [opening, if_pos held, List.append_nil]
  | fresh none => rw [opening, if_neg none, events_mark]; rfl

end Ready

/-- What a report to a port that is set up comes to.  It is about this port alone; an answer stands
for a payload that was written whole, and no connection is kept that failed. -/
structure Delivers (net : Network ν) (port : Nat) (payload : String) (l : ProxyLink ν)
    (answer : Outcome) (l' : ProxyLink ν) : Prop where
  reported : Reported net port payload l answer l'
  touches : net.Touches port l.network l'.network
  others : ∀ other, other ≠ port → (other ∈ l'.connections ↔ other ∈ l.connections)
  single : l.connections.Nodup → l'.connections.Nodup
  whole : ∀ status, answer = .ok status → status = 202 ∧ port ∈ l'.connections ∧
    l'.events = l.events ++ (l.opening port ++ [.wrote port payload]) ∧
    ∃ n m, net.write port payload n = (.ok (), m) ∧ net.flush port m = (.ok (), l'.network)
  givesUp : ∀ fault, answer = .error fault → port ∉ l'.connections ∧
    (l'.events = l.events ∧ port ∉ l.connections ∨
      l'.events = l.events ++ (l.opening port ++ [.torn port payload]))

theorem Reported.delivers {l' : ProxyLink ν} (reported : Reported net port payload l answer l') :
    Delivers net port payload l answer l' := by
  have all := reported
  cases reported with
  | @unreachable fault n none failed =>
    have touched : net.Touches port l.network (net.connect port l.network).2 :=
      .connect (.none l.network)
    rw [failed] at touched
    refine ⟨all, touched, fun _ _ => Iff.rfl, fun single => single, ?_, ?_⟩
    · exact fun _ same => nomatch same
    · exact fun _ _ => ⟨none, .inl ⟨rfl, none⟩⟩
  | @torn fault m n ready tears =>
    refine ⟨all, tears.touches ready.touches, ?_, ?_, ?_, ?_⟩
    · intro other ne
      simp [ne, ready.others ne]
    · exact fun single => (ready.nodup single).filter _
    · exact fun _ same => nomatch same
    · intro _ _
      refine ⟨by simp, .inr ?_⟩
      rw [events_mark, ← List.append_assoc, ← ready.events]
      rfl
  | @written m n o ready written flushed =>
    have touched := ready.touches.write payload
    rw [written] at touched
    have both := touched.flush
    rw [flushed] at both
    refine ⟨all, both, fun other ne => ready.others ne, ready.nodup, ?_, ?_⟩
    · intro status same
      cases same
      refine ⟨rfl, ready.mem, ?_, _, _, written, flushed⟩
      rw [events_mark, ← List.append_assoc, ← ready.events]
      rfl
    · exact fun _ same => nomatch same

private theorem Delivers.more {l' : ProxyLink ν} (delivers : Delivers net port payload l answer l') :
    ∃ more, l'.events = l.events ++ more ∧ (∀ e ∈ more, e.port = port) ∧
      PortLine port (decide (port ∈ l.connections)) more (decide (port ∈ l'.connections)) ∧
      more.filterMap WireEvent.written? = if answer.toBool then [payload] else [] := by
  have opens : PortLine port (decide (port ∈ l.connections)) (l.opening port) true := by
    unfold opening
    split_ifs with held
    · exact decide_eq_true held
    · rw [decide_eq_false held]
      exact ⟨true, .opened, rfl⟩
  have about : ∀ e ∈ l.opening port, e.port = port := by
    unfold opening
    split_ifs <;> simp [WireEvent.port]
  have silent : (l.opening port).filterMap WireEvent.written? = [] := by
    unfold opening
    split_ifs <;> rfl
  have payloads (e : WireEvent) (own : e.port = port) :
      ∀ e' ∈ l.opening port ++ [e], e'.port = port := by
    intro e' member
    rcases List.mem_append.mp member with first | last
    · exact about e' first
    · rw [List.mem_singleton.mp last, own]
  cases answer with
  | ok status =>
    obtain ⟨-, held, events, -⟩ := delivers.whole status rfl
    refine ⟨_, events, payloads _ rfl, ?_, ?_⟩
    · rw [decide_eq_true held]
      exact opens.snoc (.wrote payload)
    · rw [List.filterMap_append, silent]
      rfl
  | error fault =>
    obtain ⟨gone, ⟨events, none⟩ | events⟩ := delivers.givesUp fault rfl
    · refine ⟨[], by rw [events, List.append_nil], by simp, ?_, rfl⟩
      rw [decide_eq_false none, decide_eq_false gone]
      rfl
    · refine ⟨_, events, payloads _ rfl, ?_, ?_⟩
      · rw [decide_eq_false gone]
        exact opens.snoc (.torn payload)
      · rw [List.filterMap_append, silent]
        rfl

structure Closes (l l' : ProxyLink ν) : Prop where
  none : l'.connections = []
  events : l'.events = l.events ++ l.connections.map .closed
  reopens : ∀ port, l'.opening port = [.opened port]

theorem close_closes (net : Network ν) (l : ProxyLink ν) : Closes l (l.close net).2 := by
  have marks (ports : List Nat) (m : ProxyLink ν) :
      (ports.foldl (fun l port => l.mark (.closed port)) m).connections = m.connections ∧
        (ports.foldl (fun l port => l.mark (.closed port)) m).events =
          m.events ++ ports.map .closed := by
    induction ports generalizing m with
    | nil => exact ⟨rfl, (List.append_nil _).symm⟩
    | cons port rest ih =>
      obtain ⟨connections, events⟩ := ih (m.mark (.closed port))
      rw [List.foldl_cons, connections, events]
      exact ⟨rfl, by simp⟩
  have none : (l.close net).2.connections = [] := (marks l.connections _).1
  refine ⟨none, (marks l.connections _).2, fun port => ?_⟩
  rw [opening, none]
  rfl

end ProxyLink

inductive ProxyCall where
  | reported (kind : Kind) (payload : String) (answer : Outcome)
  | closed (answer : Except Fault Unit)

def ProxyCall.answered? (ports : ProxyPorts) (port : Nat) : ProxyCall → Option String
  | reported k payload (.ok _) => if ports.port? k = some port then some payload else none
  | _ => none

/-- The calls that led to a link. Connections have no order: they may stand in any at any time. -/
inductive ProxyRun (net : Network ν) (ports : ProxyPorts) (start : ProxyLink ν) :
    List ProxyCall → ProxyLink ν → Prop
  | none : ProxyRun net ports start [] start
  | report {calls : List ProxyCall} {l l' : ProxyLink ν} {answer : Outcome} (k : Kind)
      (payload : String) : ProxyRun net ports start calls l →
      (Transport.proxy net ports).report k payload l = (answer, l') →
      ProxyRun net ports start (calls ++ [.reported k payload answer]) l'
  | close {calls : List ProxyCall} {l l' : ProxyLink ν} {answer : Except Fault Unit} :
      ProxyRun net ports start calls l → (Transport.proxy net ports).close l = (answer, l') →
      ProxyRun net ports start (calls ++ [.closed answer]) l'
  | reorder {calls : List ProxyCall} {l : ProxyLink ν} {order : List Nat} :
      ProxyRun net ports start calls l → order.Perm l.connections →
      ProxyRun net ports start calls { l with connections := order }

/-- The invariant of a link and the calls that led to it: what was written on a port are the
payloads of the reports that were answered, in order. -/
structure Wired (ports : ProxyPorts) (calls : List ProxyCall) (l : ProxyLink ν) : Prop where
  single : l.connections.Nodup
  setUp : ∀ e ∈ l.events, ∃ k, ports.port? k = some e.port
  line : ∀ port, PortLine port false (l.eventsOn port) (decide (port ∈ l.connections))
  written : ∀ port, (l.eventsOn port).filterMap WireEvent.written? =
    calls.filterMap (ProxyCall.answered? ports port)

namespace Wired

variable {net : Network ν} {ports : ProxyPorts} {calls : List ProxyCall} {l : ProxyLink ν}

open ProxyLink

private theorem new (ports : ProxyPorts) (network : ν) : Wired ports [] (.new network) where
  single := List.nodup_nil
  setUp := by simp [events, ProxyLink.new]
  line port := rfl
  written port := rfl

private theorem eventsOn_append {l l' : ProxyLink ν} {more : List WireEvent}
    (events : l'.events = l.events ++ more) (port : Nat) :
    l'.eventsOn port = l.eventsOn port ++ more.filter fun e => e.port = port := by
  rw [eventsOn, events, List.filter_append]
  rfl

private theorem refused (wired : Wired ports calls l) (k : Kind) (payload : String)
    (fault : Fault) : Wired ports (calls ++ [.reported k payload (.error fault)]) l := by
  refine ⟨wired.single, wired.setUp, wired.line, fun port => ?_⟩
  rw [List.filterMap_append, ← wired.written]
  exact (List.append_nil _).symm

private theorem delivers (wired : Wired ports calls l) {k : Kind} {port : Nat} {payload : String}
    {answer : Outcome} {l' : ProxyLink ν} (setUp : ports.port? k = some port)
    (delivers : Delivers net port payload l answer l') :
    Wired ports (calls ++ [.reported k payload answer]) l' := by
  obtain ⟨more, events, own, line, written⟩ := delivers.more
  have onPort : more.filter (fun e => e.port = port) = more := by
    rw [List.filter_eq_self]
    simpa using own
  have offPort {other : Nat} (ne : other ≠ port) :
      more.filter (fun e => e.port = other) = [] := by
    rw [List.filter_eq_nil_iff]
    intro e member
    simpa [own e member] using ne.symm
  constructor
  · exact delivers.single wired.single
  · intro e member
    rw [events, List.mem_append] at member
    rcases member with old | new
    · exact wired.setUp e old
    · exact ⟨k, by rw [own e new, setUp]⟩
  · intro other
    rw [eventsOn_append events]
    by_cases same : other = port
    · rw [same, onPort]
      exact PortLine.append_iff.mpr ⟨_, wired.line port, line⟩
    · rw [offPort same, List.append_nil, decide_eq_decide.mpr (delivers.others other same)]
      exact wired.line other
  · intro other
    rw [eventsOn_append events, List.filterMap_append, List.filterMap_append, wired.written]
    by_cases same : other = port
    · rw [same, onPort, written]
      cases answer <;> simp [ProxyCall.answered?, setUp, Except.toBool]
    · rw [offPort same]
      cases answer <;> simp [ProxyCall.answered?, setUp, Ne.symm same]

theorem reaches (wired : Wired ports calls l) :
    ∀ port ∈ l.connections, ∃ k, ports.port? k = some port := by
  -- An open connection leaves at least its opening on the wire, and nothing else is there.
  intro port held
  have line := wired.line port
  rw [decide_eq_true held] at line
  cases on : l.eventsOn port with
  | nil =>
    rw [on] at line
    exact nomatch line
  | cons e rest =>
    have first : e ∈ l.eventsOn port := by
      rw [on]
      exact List.mem_cons_self
    obtain ⟨member, own⟩ := List.mem_filter.mp first
    rw [← of_decide_eq_true own]
    exact wired.setUp e member

private theorem filter_closed {ports : List Nat} (single : ports.Nodup) (port : Nat) :
    (ports.map WireEvent.closed).filter (fun e => e.port = port) =
      if port ∈ ports then [.closed port] else [] := by
  induction ports with
  | nil => rfl
  | cons first rest ih =>
    obtain ⟨once, single⟩ := List.nodup_cons.mp single
    rw [List.map_cons, List.filter_cons, ih single]
    by_cases same : first = port
    · subst same
      simp [WireEvent.port, once]
    · simp [WireEvent.port, same, Ne.symm same]

private theorem closes (wired : Wired ports calls l) {l' : ProxyLink ν} (closes : Closes l l')
    (answer : Except Fault Unit) : Wired ports (calls ++ [.closed answer]) l' := by
  constructor
  · rw [closes.none]
    exact List.nodup_nil
  · intro e member
    rw [closes.events, List.mem_append] at member
    rcases member with old | new
    · exact wired.setUp e old
    · obtain ⟨port, held, rfl⟩ := List.mem_map.mp new
      exact wired.reaches port held
  · intro port
    rw [eventsOn_append closes.events, filter_closed wired.single, closes.none]
    have line := wired.line port
    by_cases held : port ∈ l.connections
    · rw [decide_eq_true held] at line
      rw [if_pos held]
      exact line.snoc .closed
    · rw [decide_eq_false held] at line
      rw [if_neg held, List.append_nil]
      exact line
  · intro port
    rw [eventsOn_append closes.events, filter_closed wired.single, List.filterMap_append,
      List.filterMap_append, wired.written]
    split_ifs <;> rfl

private theorem reorder (wired : Wired ports calls l) {order : List Nat}
    (perm : order.Perm l.connections) :
    Wired ports calls { l with connections := order } where
  single := perm.nodup_iff.mpr wired.single
  setUp := wired.setUp
  line port := by
    have same : decide (port ∈ order) = decide (port ∈ l.connections) :=
      decide_eq_decide.mpr perm.mem_iff
    change PortLine port false (l.eventsOn port) (decide (port ∈ order))
    rw [same]
    exact wired.line port
  written := wired.written

theorem run {network : ν} (run : ProxyRun net ports (.new network) calls l) :
    Wired ports calls l := by
  induction run with
  | none => exact .new ports network
  | @report calls l l' answer k payload _ reported ih =>
    cases setUp : ports.port? k with
    | none =>
      have refused := l.report_of_none net payload setUp
      obtain ⟨rfl, rfl⟩ := Prod.mk.inj (refused.symm.trans reported)
      exact ih.refused k payload _
    | some port =>
      have reports : Reported net port payload l _ _ := report_reported setUp
      change l.report net ports k payload = (answer, l') at reported
      rw [reported] at reports
      exact ih.delivers setUp reports.delivers
  | @close calls l l' answer _ closed ih =>
    have closes := l.close_closes net
    change l.close net = (answer, l') at closed
    rw [closed] at closes
    exact ih.closes closes answer
  | reorder _ perm ih => exact ih.reorder perm

end Wired

/-- What holds of the connections of a proxy transport at any time. -/
structure Connected (net : Network ν) (ports : ProxyPorts) (calls : List ProxyCall)
    (l : ProxyLink ν) : Prop where
  wired : Wired ports calls l
  reaches : ∀ port ∈ l.connections, ∃ k, ports.port? k = some port
  fresh : ∀ port before e next after, l.eventsOn port = before ++ e :: next :: after →
    ((∃ payload, e = .torn port payload) ∨ e = .closed port) → next = .opened port
  refuses : ∀ k payload, ports.port? k = none → (Transport.proxy net ports).report k payload l =
    (.error ⟨"Unsupported", "no proxy port configured for format `" ++ k.format ++ "`"⟩, l)
  delivers : ∀ k payload port, ports.port? k = some port →
    l.Delivers net port payload ((Transport.proxy net ports).report k payload l).1
      ((Transport.proxy net ports).report k payload l).2
  tracing : ports.port? .spanLogs = ports.port? .spans
  closes : l.Closes ((Transport.proxy net ports).close l).2

/-- So it is after any calls, whatever the network does. -/
theorem ProxyRun.connected {net : Network ν} {ports : ProxyPorts} {network : ν}
    {calls : List ProxyCall} {l : ProxyLink ν}
    (run : ProxyRun net ports (.new network) calls l) : Connected net ports calls l := by
  have wired := Wired.run run
  constructor
  · exact wired
  · exact wired.reaches
  · intro port before e next after events ended
    have line := wired.line port
    rw [events] at line
    exact line.fresh ended
  · intro k payload none
    exact l.report_of_none net payload none
  · intro k payload port setUp
    exact (ProxyLink.report_reported setUp).delivers
  · rfl
  · exact l.close_closes net

/-- A network on which every second write fails, and on which nothing can be shut down; it counts the
writes. -/
def Network.faltering : Network Nat where
  connect _ n := (.ok (), n)
  write _ _ n := (if n % 2 = 0 then .ok () else .error ⟨"BrokenPipe", "broken pipe"⟩, n + 1)
  flush _ n := (.ok (), n)
  shutdown _ n := (.error ⟨"NotConnected", "not connected"⟩, n)

def ProxyCall.faltering : List ProxyCall :=
  [.reported .points "a 1\n" (.ok 202), .reported .spans "b\n" (.error ⟨"BrokenPipe", "broken pipe"⟩),
    .reported .spanLogs "c\n" (.ok 202), .closed (.error ⟨"NotConnected", "not connected"⟩)]

def ProxyLink.faltering : ProxyLink Nat where
  connections := []
  network := 3
  wire := [.closed 2878, .wrote 2878 "c\n", .opened 2878, .torn 2878 "b\n", .wrote 2878 "a 1\n",
    .opened 2878]

private theorem faltering_run : ProxyRun .faltering ⟨some 2878, none, some 2878⟩ (.new 0)
    ProxyCall.faltering ProxyLink.faltering := by
  have points : ProxyRun .faltering ⟨some 2878, none, some 2878⟩ (.new 0) _ _ :=
    .report .points "a 1\n" .none rfl
  have spans := ProxyRun.report .spans "b\n" points rfl
  have spanLogs := ProxyRun.report .spanLogs "c\n" spans rfl
  exact .close spanLogs rfl

theorem faltering_connected :
    ProxyRun .faltering ⟨some 2878, none, some 2878⟩ (.new 0) ProxyCall.faltering
        ProxyLink.faltering ∧
      Connected .faltering ⟨some 2878, none, some 2878⟩ ProxyCall.faltering ProxyLink.faltering :=
  ⟨faltering_run, faltering_run.connected⟩

end TelemetrySender
