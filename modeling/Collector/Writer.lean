import Collector.Envelope
import Collector.Failure

/-!
# A writer that keeps what it is given

The memory writer of `harvest-core` keeps every envelope in order.  It may pass each one on
to a receiver; once that receiver is gone, writing fails and nothing is kept.
-/

namespace Collector

/-- Who else gets the envelopes of a writer. -/
inductive Receiver where
  /-- Nobody else gets the envelopes. -/
  | absent
  /-- There is a receiver, with the envelopes that it has still to take. -/
  | listening (unread : List Envelope)
  /-- There was a receiver that went away. -/
  | gone
  deriving DecidableEq

/-- A writer that keeps what it is given. -/
structure Writer where
  /-- Whether the writer was started, and not stopped since. -/
  started : Bool := false
  /-- The envelopes that the writer was given, in order. -/
  envelopes : List Envelope := []
  /-- Who else gets the envelopes. -/
  receiver : Receiver := .absent

namespace Writer

/-- Starts the writer. -/
def start (w : Writer) : Writer := { w with started := true }

/-- Stops the writer; it keeps what it has. -/
def stop (w : Writer) : Writer := { w with started := false }

/-- Takes an envelope. -/
def write (w : Writer) (e : Envelope) : Except ClientError Writer :=
  match w.receiver with
  | .absent => .ok { w with envelopes := w.envelopes ++ [e] }
  | .listening unread =>
    .ok { w with envelopes := w.envelopes ++ [e], receiver := .listening (unread ++ [e]) }
  | .gone => .error .closed

/-- All records that were written, in order. -/
def records (w : Writer) : List Bytes := w.envelopes.flatMap Envelope.records

/-- What a receiver gets. -/
inductive Received where
  /-- The receiver gets the oldest envelope that it has not taken. -/
  | envelope (e : Envelope)
  /-- There is nothing new for the receiver. -/
  | nothing
  /-- There is no receiver. -/
  | noReceiver

/-- The receiver takes one envelope. -/
def receive (w : Writer) : Received × Writer :=
  match w.receiver with
  | .listening (e :: unread) => (.envelope e, { w with receiver := .listening unread })
  | .listening [] => (.nothing, w)
  | _ => (.noReceiver, w)

/-- The receiver goes away. -/
def dropReceiver (w : Writer) : Writer :=
  match w.receiver with
  | .absent => w
  | _ => { w with receiver := .gone }

end Writer

end Collector
