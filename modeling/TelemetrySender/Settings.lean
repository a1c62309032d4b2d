import TelemetrySender.Endpoint.Url
import TelemetrySender.Sender.Basic
import TelemetrySender.Transport.Proxy

/-!
Setting up a sender.  Settings are given one by one; a later destination replaces an earlier one,
and a limit of zero is refused at once.  Without a destination no sender can be built.
-/

set_option autoImplicit false
set_option relaxedAutoImplicit false

namespace TelemetrySender

/-- The limits that may not be zero. -/
inductive Setting where
  | queueSize
  | batchSize
  | messageSize
  | flushInterval
  deriving DecidableEq

def Setting.words : Setting → String
  | queueSize => "max queue size"
  | batchSize => "batch size"
  | messageSize => "message size"
  | flushInterval => "flush interval"

inductive SetupFault where
  | invalidServer (server : String)
  | missingProxyPort (host : String)
  | missingDestination
  | zeroLimit (setting : Setting)
  deriving DecidableEq

def SetupFault.message : SetupFault → String
  | invalidServer s =>
    "direct ingestion server `" ++ s ++ "` must be an http:// or https:// URL"
  | missingProxyPort h =>
    "proxy `" ++ h ++ "` must have at least one of the metrics, distribution or tracing ports set"
  | missingDestination =>
    "attempted to build exporter with no exporters enabled; did you configure a transport?"
  | zeroLimit s => s.words ++ " must be greater than zero"

/-- Where records are delivered; a custom transport is one that the caller brings along. -/
inductive Destination where
  | direct (server : String) (token : Option String)
  | proxy (host : String) (ports : ProxyPorts)
  | custom
  deriving DecidableEq

def Destination.clientId : Destination → String
  | direct server _ => server
  | proxy host _ => host
  | custom => "custom"

/-- What a sender is set up with.  The flush interval, between two cycles of an exporter, is in
nanoseconds. -/
structure Settings where
  destination : Option Destination
  limits : Limits
  flushInterval : Nat
  defaultSource : Option String

namespace Settings

def standard : Settings := ⟨none, Limits.standard, Nat.pow 10 9, none⟩

def withDirect (s : Settings) (server : String) (token : Option String) :
    Except SetupFault Settings :=
  if Endpoint.Url.isHttp server.toList then
    .ok { s with destination := some (.direct server token) }
  else .error (.invalidServer server)

def withProxy (s : Settings) (host : String) (ports : ProxyPorts) : Except SetupFault Settings :=
  if ports = ⟨none, none, none⟩ then .error (.missingProxyPort host)
  else .ok { s with destination := some (.proxy host ports) }

def withTransport (s : Settings) : Settings := { s with destination := some .custom }

def setQueueSize (s : Settings) (size : Nat) : Except SetupFault Settings :=
  if size = 0 then .error (.zeroLimit .queueSize)
  else .ok { s with limits := { s.limits with capacity := size } }

def setBatchSize (s : Settings) (size : Nat) : Except SetupFault Settings :=
  if size = 0 then .error (.zeroLimit .batchSize)
  else .ok { s with limits := { s.limits with batchSize := size } }

def setMessageSize (s : Settings) (size : Nat) : Except SetupFault Settings :=
  if size = 0 then .error (.zeroLimit .messageSize)
  else .ok { s with limits := { s.limits with messageSize := size } }

def setFlushInterval (s : Settings) (interval : Nat) : Except SetupFault Settings :=
  if interval = 0 then .error (.zeroLimit .flushInterval)
  else .ok { s with flushInterval := interval }

def setDefaultSource (s : Settings) (source : String) : Settings :=
  { s with defaultSource := some source }

def destination? (s : Settings) : Except SetupFault Destination :=
  match s.destination with
  | none => .error .missingDestination
  | some d => .ok d

/-- A sender over a transport, with the settings given; `hostSource` stands in where no default
source was set. -/
def sender {σ : Type} (s : Settings) (destination : Destination) (hostSource : String)
    (transport : Transport σ) (link : σ) : Sender σ :=
  Sender.new destination.clientId (s.defaultSource.getD hostSource) s.limits transport link

end Settings

end TelemetrySender
