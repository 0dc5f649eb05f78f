import Collector.Broker
import Collector.Dispatch

/-!
# Listening to a partition

A partition listener of `harvest-core` opens one partition at its newest end and hands
every envelope to the dispatcher, in order.  A failed read is tried again after a while;
the end of the partition ends the listener.

* `Listener.Step` is one step of a listener: the partition may fail to open, a read may fail,
  and the listener may be cancelled at any moment.
* `Listener.consume` takes in what there is to read.
-/

namespace Collector.Listener

/-- What a listener is called. -/
def name : String := "harvest-partition-listener"

/-- How long a listener waits after a failed read, in milliseconds. -/
def retryMs : Nat := 1000

/-- The exit of a listener that could not open its partition. -/
def openFailed (topic : String) (partition : Int) (e : ClientError) : Exit :=
  Exit.ofClient ("failed to open partition " ++ Decimal.ofInt partition ++ " of " ++ topic ++
    ": " ++ e.message) e

/-! ## Steps -/

/-- Where a listener stands. -/
inductive Stage where
  /-- The listener has not begun. -/
  | fresh
  /-- The listener has asked the broker for its partition. -/
  | opening
  /-- The listener waits for something to read, or to be cancelled. -/
  | reading
  /-- The listener dispatches an envelope; the records that are left. -/
  | dispatching (left : List Bytes)
  /-- The listener waits after a failed read, or to be cancelled. -/
  | retrying
  /-- The listener has ended. -/
  | finished (result : Except Exit Unit)

/-- A listener and what it works on; `J` is what a job is. -/
structure Listening (J : Type) where
  /-- Where the listener stands. -/
  stage : Stage := .fresh
  /-- Whether the listener was cancelled. -/
  cancelled : Bool := false
  /-- What the listener has not read yet. -/
  reads : List Read
  /-- The jobs, and the rest of what dispatches. -/
  dispatcher : Dispatcher J
  /-- The envelopes that the listener has handed to the dispatcher. -/
  handed : List Envelope := []
  /-- What the listener has done, in order. -/
  events : List (Event J) := []

/-- One step of a listener. -/
inductive Step {J : Type} (topic : String) (partition : Int) (s : Listening J) :
    Listening J → Prop
  /-- The listener may be cancelled at any moment. -/
  | cancel : Step topic partition s { s with cancelled := true }
  /-- The listener was cancelled before it began. -/
  | refuse (hstage : s.stage = .fresh) (hcancelled : s.cancelled = true) :
      Step topic partition s { s with stage := .finished (.error .canceled) }
  /-- The listener asks for its partition. -/
  | ask (hstage : s.stage = .fresh) (hcancelled : s.cancelled = false) :
      Step topic partition s
        { s with stage := .opening, events := s.events ++ [.opened topic partition] }
  /-- The partition cannot be opened. -/
  | openFailed (e : ClientError) (hstage : s.stage = .opening) :
      Step topic partition s
        { s with stage := .finished (.error (openFailed topic partition e)) }
  /-- The partition is open. -/
  | opened (hstage : s.stage = .opening) : Step topic partition s { s with stage := .reading }
  /-- The listener reads an envelope, and hands it to the dispatcher. -/
  | envelope {e : Envelope} {reads : List Read} (hstage : s.stage = .reading)
      (hreads : s.reads = .envelope e :: reads) :
      Step topic partition s
        { s with
          stage := .dispatching (if s.dispatcher.accepts e then e.records else [])
          reads
          handed := s.handed ++ [e] }
  /-- A record of the envelope is handled. -/
  | sight {record : Bytes} {left : List Bytes} (hstage : s.stage = .dispatching (record :: left)) :
      Step topic partition s
        { s with
          stage := .dispatching left
          dispatcher := (s.dispatcher.sight record).1
          events := s.events ++ (s.dispatcher.sight record).2 }
  /-- The envelope is dispatched. -/
  | dispatched (hstage : s.stage = .dispatching []) :
      Step topic partition s { s with stage := .reading }
  /-- A read fails. -/
  | failed {cause : ClientError} {reads : List Read} (hstage : s.stage = .reading)
      (hreads : s.reads = .failed cause :: reads) :
      Step topic partition s { s with stage := .retrying, reads }
  /-- The listener reads on after a failed read. -/
  | again (hstage : s.stage = .retrying) : Step topic partition s { s with stage := .reading }
  /-- The partition has ended. -/
  | ended {reads : List Read} (hstage : s.stage = .reading) (hreads : s.reads = .ended :: reads) :
      Step topic partition s { s with stage := .finished (.ok ()), reads }
  /-- The listener was cancelled while it waited. -/
  | stopped (hstage : s.stage = .reading ∨ s.stage = .retrying) (hcancelled : s.cancelled = true) :
      Step topic partition s { s with stage := .finished (.ok ()) }

/-! ## Reading what there is -/

/-- What a listener does when it has taken in what there was to read. -/
inductive Next where
  /-- The listener waits for more. -/
  | waits
  /-- The listener waits for a while and then reads what is left. -/
  | retries (left : List Read)
  /-- The partition has ended, and the listener with it. -/
  | ends

variable {J : Type}

/-- Takes in what there is to read. -/
def consume (d : Dispatcher J) : List Read → Dispatcher J × List (Event J) × Next
  | [] => (d, [], .waits)
  | .envelope e :: reads =>
    let (d, events) := d.dispatch e
    let (d, more, next) := consume d reads
    (d, events ++ more, next)
  | .failed _ :: reads => (d, [], .retries reads)
  | .ended :: _ => (d, [], .ends)

end Collector.Listener
