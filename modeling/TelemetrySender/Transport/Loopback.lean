import TelemetrySender.Transport.Direct
import TelemetrySender.Transport.Proxy

/-!
Peers in memory: ports that listen for connections and keep what is written to them, and a server
that keeps the requests it gets and answers them by a script.  Either can be out of reach, in which
case no connection comes about and no request arrives.
-/

set_option autoImplicit false
set_option relaxedAutoImplicit false

namespace TelemetrySender

/-- A connection as its peer sees it.  A peer that reset it has lost what it had received. -/
structure PeerConnection where
  port : Nat
  text : String
  reset : Bool

structure Loopback where
  reachable : Bool
  listening : List Nat
  connections : List PeerConnection

namespace Loopback

def fault (label text : String) : Except Fault Unit := .error ⟨label, text⟩

def connect (port : Nat) (l : Loopback) : Except Fault Unit × Loopback :=
  if !l.reachable then
    (fault "NetworkUnreachable" "Network is unreachable (os error 101)", l)
  else if port ∉ l.listening then
    (fault "ConnectionRefused" "Connection refused (os error 111)", l)
  else (.ok (), { l with connections := l.connections ++ [⟨port, "", false⟩] })

/-- Writes on the first connection of a port. -/
def writeFirst (port : Nat) (payload : String) :
    List PeerConnection → Except Fault Unit × List PeerConnection
  | [] => (fault "NotConnected" "not connected", [])
  | c :: rest =>
    if c.port ≠ port then
      let written := writeFirst port payload rest
      (written.1, c :: written.2)
    else if c.reset then
      (fault "ConnectionReset" "Connection reset by peer (os error 104)", c :: rest)
    else (.ok (), { c with text := c.text ++ payload } :: rest)

def write (port : Nat) (payload : String) (l : Loopback) : Except Fault Unit × Loopback :=
  let written := writeFirst port payload l.connections.reverse
  (written.1, { l with connections := written.2.reverse })

def resetOldest (port : Nat) : List PeerConnection → List PeerConnection
  | [] => []
  | c :: rest =>
    if c.port = port ∧ c.reset = false then { c with reset := true } :: rest
    else c :: resetOldest port rest

def reset (l : Loopback) (port : Nat) : Loopback :=
  { l with connections := resetOldest port l.connections }

def received (l : Loopback) (port : Nat) : List String :=
  (l.connections.filter fun c => c.port = port ∧ c.reset = false).map (·.text)

def network : Network Loopback :=
  ⟨connect, write, fun _ l => (.ok (), l), fun _ l => (.ok (), l)⟩

end Loopback

/-- A server with the statuses that it is to answer with and the requests that arrived.  Zero hangs
up without an answer, and a script that is exhausted accepts. -/
structure LoopbackServer where
  reachable : Bool
  statuses : List Nat
  requests : List Request

namespace LoopbackServer

def exchange : Exchange LoopbackServer := fun r s =>
  let failed : Outcome :=
    .error (Request.fault ("error sending request for url (" ++ r.url ++ ")"))
  if !s.reachable then (failed, s)
  else
    let s' := { s with requests := s.requests ++ [r], statuses := s.statuses.drop 1 }
    match s.statuses.headD Transport.accepted with
    | 0 => (failed, s')
    | status => (.ok status, s')

end LoopbackServer

end TelemetrySender
