import TelemetrySender.Batch
import TelemetrySender.Log.Basic
import TelemetrySender.Transport.Basic

/-!
What happens in a sender, as its journal tells it.
-/

set_option autoImplicit false
set_option relaxedAutoImplicit false

namespace TelemetrySender

/-- A chunk that was handed to the transport, whether the sender had been told to close by then, and
how it ended. -/
structure Delivery where
  kind : Kind
  records : Chunk
  closing : Bool
  outcome : Outcome

def Delivery.payload (d : Delivery) : String := String.join d.records

/-- Why records that had been queued were given up: too long for any delivery, taken off the queue
after their kind was switched off, part of the chunk that switched it off, in a chunk that could not
be handed over or behind one in its batch, or rejected without room to put them back. -/
inductive Loss where
  | oversize
  | discarded
  | disabled
  | broken
  | overflow
  deriving DecidableEq

inductive Event where
  | queued (kind : Kind) (record : String)
  | lost (kind : Kind) (cause : Loss) (records : Chunk)
  | reported (delivery : Delivery)
  | logged (line : LogLine)
  | closed (outcome : Except Fault Unit)

end TelemetrySender
