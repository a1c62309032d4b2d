import TelemetrySender.Buffer
import TelemetrySender.Log.Notice
import TelemetrySender.Log.Window
import TelemetrySender.Sender.Event

/-!
The state of a sender: a buffer for each kind, the transport with its link, the log window with
its clock, and the journal of what happened.
-/

set_option autoImplicit false
set_option relaxedAutoImplicit false

namespace TelemetrySender

/-- How many records each kind may have queued, how many of them one cycle takes off the queue, and
how many bytes one delivery may have. -/
structure Limits where
  capacity : Nat
  batchSize : Nat
  messageSize : Nat

/-- The limits of a sender that was given none: there is none on the size of a delivery but what a
word can hold. -/
def Limits.standard : Limits := ⟨50000, 10000, Nat.pow 2 64 - 1⟩

structure Stats where
  valid : Nat
  invalid : Nat
  dropped : Nat
  reportErrors : Nat
  queueSize : Nat
  remaining : Nat
  deriving DecidableEq

/-- The log window goes by the time `now`, in nanoseconds; `closing` is set for good when the sender
is told to close; and the journal has the latest event first. -/
structure Sender (σ : Type) where
  clientId : String
  defaultSource : String
  limits : Limits
  transport : Transport σ
  link : σ
  buffers : PerKind Buffer
  window : LogWindow
  now : Nat
  closing : Bool
  journal : List Event

namespace Sender

variable {σ : Type}

def noticeWindow : Nat := 5 * Nat.pow 10 9

def new (clientId defaultSource : String) (limits : Limits) (transport : Transport σ) (link : σ) :
    Sender σ where
  clientId := clientId
  defaultSource := defaultSource
  limits := limits
  transport := transport
  link := link
  buffers := PerKind.const (Buffer.new limits.capacity)
  window := LogWindow.new noticeWindow
  now := 0
  closing := false
  journal := []

def buffer (s : Sender σ) (k : Kind) : Buffer := s.buffers.get k

def setBuffer (s : Sender σ) (k : Kind) (b : Buffer) : Sender σ :=
  { s with buffers := s.buffers.set k b }

def onBuffer (s : Sender σ) (k : Kind) (f : Buffer → Buffer) : Sender σ :=
  s.setBuffer k (f (s.buffer k))

def record (s : Sender σ) (e : Event) : Sender σ := { s with journal := e :: s.journal }

/-- Logs a line whether or not it repeats. -/
def log (s : Sender σ) (level : Level) (text : String) : Sender σ := s.record (.logged ⟨level, text⟩)

def say (s : Sender σ) (n : Notice) : Sender σ :=
  let admitted := s.window.letThrough s.now n.key
  let s := { s with window := admitted.2 }
  if admitted.1 then s.record (.logged n.line) else s

def lose (s : Sender σ) (k : Kind) (cause : Loss) (records : Chunk) : Sender σ :=
  (s.onBuffer k (·.drop records.length)).record (.lost k cause records)

def stats (s : Sender σ) (k : Kind) : Stats where
  valid := Tally.reading (s.buffer k).tally.valid
  invalid := Tally.reading (s.buffer k).tally.invalid
  dropped := Tally.reading (s.buffer k).tally.dropped
  reportErrors := Tally.reading (s.buffer k).tally.reportErrors
  queueSize := (s.buffer k).queue.size
  remaining := (s.buffer k).room

def failures (s : Sender σ) : Nat :=
  Kind.all.foldl (fun count k => count + Tally.reading (s.buffer k).tally.reportErrors) 0

def published (s : Sender σ) : List (String × Nat) :=
  Kind.all.flatMap fun k => (s.buffer k).tally.published s.transport.name k

@[simp] theorem buffer_setBuffer_self (s : Sender σ) (k : Kind) (b : Buffer) :
    (s.setBuffer k b).buffer k = b :=
  PerKind.get_set_self s.buffers k b

@[simp] theorem buffer_setBuffer_of_ne (s : Sender σ) {j k : Kind} (b : Buffer) (h : j ≠ k) :
    (s.setBuffer k b).buffer j = s.buffer j :=
  PerKind.get_set_of_ne s.buffers b h

@[simp] theorem buffer_onBuffer_self (s : Sender σ) (k : Kind) (f : Buffer → Buffer) :
    (s.onBuffer k f).buffer k = f (s.buffer k) :=
  buffer_setBuffer_self s k _

@[simp] theorem buffer_onBuffer_of_ne (s : Sender σ) {j k : Kind} (f : Buffer → Buffer)
    (h : j ≠ k) : (s.onBuffer k f).buffer j = s.buffer j :=
  buffer_setBuffer_of_ne s _ h

@[simp] theorem buffer_record (s : Sender σ) (e : Event) (k : Kind) :
    (s.record e).buffer k = s.buffer k := rfl

@[simp] theorem buffers_say (s : Sender σ) (n : Notice) : (s.say n).buffers = s.buffers := by
  cases admitted : (s.window.letThrough s.now n.key).1 <;> simp [say, admitted, record]

@[simp] theorem buffer_say (s : Sender σ) (n : Notice) (k : Kind) :
    (s.say n).buffer k = s.buffer k := by
  rw [buffer, buffers_say, buffer]

end Sender

end TelemetrySender
