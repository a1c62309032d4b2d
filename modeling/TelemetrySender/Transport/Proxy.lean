import TelemetrySender.Transport.Basic

/-!
Delivery through a proxy over plain connections, one for each port.  A connection is opened when
the first payload for its port comes, and given up when a write on it fails, so that nothing ever
follows a torn payload; the next payload opens a new one.
-/

set_option autoImplicit false
set_option relaxedAutoImplicit false

namespace TelemetrySender

structure ProxyPorts where
  metrics : Option Nat
  distribution : Option Nat
  tracing : Option Nat
  deriving DecidableEq

def ProxyPorts.port? (p : ProxyPorts) : Kind → Option Nat
  | .points => p.metrics
  | .histograms => p.distribution
  | .spans => p.tracing
  | .spanLogs => p.tracing

/-- What a proxy's connections ask of the network; `ν` is the network's own state. -/
structure Network (ν : Type) where
  connect : Nat → ν → Except Fault Unit × ν
  write : Nat → String → ν → Except Fault Unit × ν
  flush : Nat → ν → Except Fault Unit × ν
  shutdown : Nat → ν → Except Fault Unit × ν

/-- What happened on the wire.  A payload is torn if it was written in part or not at all, and its
connection given up. -/
inductive WireEvent where
  | opened (port : Nat)
  | wrote (port : Nat) (payload : String)
  | torn (port : Nat) (payload : String)
  | closed (port : Nat)
  deriving DecidableEq

/-- The ports with an open connection, and what happened on the wire, the latest first. -/
structure ProxyLink (ν : Type) where
  connections : List Nat
  network : ν
  wire : List WireEvent

namespace ProxyLink

variable {ν : Type}

def new (network : ν) : ProxyLink ν := ⟨[], network, []⟩

def mark (l : ProxyLink ν) (e : WireEvent) : ProxyLink ν := { l with wire := e :: l.wire }

def connect (net : Network ν) (port : Nat) (l : ProxyLink ν) : Except Fault Unit × ProxyLink ν :=
  if port ∈ l.connections then (.ok (), l)
  else
    match net.connect port l.network with
    | (.error fault, n) => (.error fault, { l with network := n })
    | (.ok (), n) =>
      (.ok (), { l with network := n, connections := l.connections ++ [port] }.mark (.opened port))

/-- Writes a payload on the connection of a port, which is given up if that fails. -/
def write (net : Network ν) (port : Nat) (payload : String) (l : ProxyLink ν) :
    Outcome × ProxyLink ν :=
  let written := match net.write port payload l.network with
    | (.ok (), n) => net.flush port n
    | failed => failed
  let l := { l with network := written.2 }
  match written.1 with
  | .ok () => (.ok Transport.accepted, l.mark (.wrote port payload))
  | .error fault =>
    (.error fault,
      { l with connections := l.connections.filter (· ≠ port) }.mark (.torn port payload))

def report (net : Network ν) (ports : ProxyPorts) (k : Kind) (payload : String)
    (l : ProxyLink ν) : Outcome × ProxyLink ν :=
  match ports.port? k with
  | none =>
    (.error ⟨"Unsupported", "no proxy port configured for format `" ++ k.format ++ "`"⟩, l)
  | some port =>
    match l.connect net port with
    | (.error fault, l) => (.error fault, l)
    | (.ok (), l) => l.write net port payload

def shutdownAll (net : Network ν) : List Nat → ν → Except Fault Unit × ν
  | [], n => (.ok (), n)
  | port :: rest, n =>
    match net.shutdown port n with
    | (.ok (), n) => shutdownAll net rest n
    | failed => failed

/-- Gives up every connection, whether or not it could be shut down. -/
def close (net : Network ν) (l : ProxyLink ν) : Except Fault Unit × ProxyLink ν :=
  let down := shutdownAll net l.connections l.network
  (down.1, l.connections.foldl (fun l port => l.mark (.closed port))
    { l with network := down.2, connections := [] })

end ProxyLink

namespace Transport

def proxy {ν : Type} (net : Network ν) (ports : ProxyPorts) : Transport (ProxyLink ν) :=
  ⟨"proxy", fun k payload l => l.report net ports k payload, fun l => l.close net⟩

end Transport

end TelemetrySender
