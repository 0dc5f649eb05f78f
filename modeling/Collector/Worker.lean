import Collector.Heartbeat.Reporter
import Collector.Listener
import Collector.Supervision

/-!
# The loops of a worker

A worker of `harvest-service` runs one listener for each partition of the task topic, and
one reporter.  All of them share the jobs, the broker and the coordination service.  Time
stands still while a loop does something; it moves on to the next moment at which a loop
has something to do.

* `Crew.begin` starts loops, `Crew.cancel` ends them.
* `Crew.settle` does everything that can be done now.
* `Crew.advance` lets time pass.
-/

namespace Collector

/-! ## What loops share -/

/-- What is out of order in the world of a worker. -/
structure Outage where
  /-- What the next attempts to open a partition fail with. -/
  opens : List ClientError := []
  /-- What asking for a writer fails with. -/
  writer : Option ClientError := none
  /-- Whether the broker knows no partitions. -/
  noPartitions : Bool := false
  /-- What a partition gives to read, in place of what was published. -/
  reads : Option (List Read) := none

/-- Where a listener reads. -/
inductive Stream where
  /-- A partition, through the reader at this place. -/
  | partition (reader : Nat)
  /-- What was laid out beforehand. -/
  | given
  deriving DecidableEq, Repr

/-- What the loops of a worker share. -/
structure Worker (J : Type) where
  /-- The jobs. -/
  dispatcher : Dispatcher J
  /-- The broker. -/
  broker : Broker
  /-- The coordination service. -/
  coordination : Coordination := {}
  /-- What the worker runs on. -/
  machine : Heartbeat.Machine
  /-- What is out of order. -/
  outage : Outage := {}
  /-- Milliseconds since the beginning. -/
  now : Nat := 0
  /-- The effects so far, in order. -/
  trace : List (Event J) := []

namespace Worker

variable {J : Type}

/-- The worker with more effects. -/
def log (w : Worker J) (events : List (Event J)) : Worker J :=
  { w with trace := w.trace ++ events }

/-- Opens a partition. -/
def openPartition (w : Worker J) (topic : String) (partition : Int) :
    Except ClientError Stream × Worker J :=
  let w := w.log [.opened topic partition]
  match w.outage.opens, w.outage.reads with
  | e :: opens, _ => (.error e, { w with outage := { w.outage with opens } })
  | [], some _ => (.ok .given, w)
  | [], none =>
    match w.broker.openReader topic partition with
    | .error e => (.error e, w)
    | .ok (reader, broker) => (.ok (.partition reader), { w with broker })

/-- Asks for a writer. -/
def makeWriter (w : Worker J) (topic key : String) : Except ClientError Nat × Worker J :=
  let w := w.log [.writerMade topic key]
  match w.outage.writer with
  | some e => (.error e, w)
  | none =>
    let (result, broker) := w.broker.makeWriter topic key
    (result, { w with broker })

/-- What the broker answers when it is asked for the partitions of a topic: the
partitions of topics that it knows. -/
def partitions (w : Worker J) (topic : String) : Except ClientError (KeyMap (List Int)) :=
  if w.outage.noPartitions then .ok KeyMap.empty
  else (w.broker.partitions topic).map fun ps => KeyMap.empty.insert topic (ps.map Int.ofNat)

/-- The heartbeats of this moment; the clock of the worker counts in
milliseconds. -/
def heartbeats (w : Worker J) (host : String) : List Heartbeat :=
  Heartbeat.ofApps w.machine host w.dispatcher.factory.apps (w.now * 1000000)

end Worker

/-! ## Loops -/

/-- What a loop is for. -/
inductive Duty where
  /-- Listening to a partition. -/
  | listen (topic : String) (partition : Int)
  /-- Reporting heartbeats. -/
  | report (config : HeartbeatConfig)

/-- What an attempt of a loop is doing. -/
inductive Activity where
  /-- Waiting for something to read. -/
  | reading (stream : Stream)
  /-- Waiting for the moment to read on, after a failed read. -/
  | retrying (stream : Stream) (due : Nat)
  /-- Waiting for the next tick. -/
  | ticking (writer : Option Nat) (tick : Nat)

/-- Where a loop stands. -/
inductive LoopState where
  /-- An attempt is on its way; the delay before it. -/
  | active (activity : Activity) (previous : Option Nat)
  /-- The loop waits for the moment of its next attempt; the length of that
  delay. -/
  | resting (due : Nat) (ms : Nat)
  /-- The loop has ended. -/
  | finished (result : Except Exit Unit)

/-- A loop of a worker. -/
structure Loop where
  /-- What the loop is for. -/
  duty : Duty
  /-- The delays between the attempts of the loop; none if it makes only one attempt. -/
  backoff : Option Backoff
  /-- Where the loop stands. -/
  state : LoopState

namespace Loop

variable {J : Type}

/-! ## Attempts -/

/-- Where a loop stands after an attempt that was not cancelled has ended. -/
def afterAttempt (l : Loop) (now : Nat) (previous : Option Nat) (result : Except Exit Unit) :
    Loop :=
  match l.backoff with
  | none => { l with state := .finished result }
  | some b =>
    match Supervision.verdict b previous false result with
    | .finished result => { l with state := .finished result }
    | .rest ms => { l with state := .resting (now + ms) ms }

/-- Publishes the heartbeats of one tick. -/
def tick (config : HeartbeatConfig) (writer : Option Nat) (w : Worker J) : Worker J :=
  let beats := w.heartbeats config.host
  match writer with
  | none =>
    { w.log (Reporter.nodeEvents config.root beats) with
      coordination :=
        Reporter.publishAll (Reporter.publishNode config.root) w.coordination beats }
  | some place =>
    match w.broker.writer? place with
    | none => w
    | some cw =>
      { w with broker := Reporter.publishAll (Reporter.publishMessage cw) w.broker beats }

/-- Begins to report: the first tick comes at once. -/
def beginReport (config : HeartbeatConfig) (w : Worker J) :
    Except Exit Activity × Worker J :=
  match config.transport with
  | .coordination => (.ok (.ticking none (w.now + config.intervalMs)), tick config none w)
  | .eventLog =>
    match w.makeWriter config.topic config.topic with
    | (.error e, w) => (.error (Reporter.writerFailed e), w)
    | (.ok place, w) =>
      (.ok (.ticking (some place) (w.now + config.intervalMs)),
        tick config (some place) (w.log [.writerStarted]))

/-- Begins to listen. -/
def beginListen (topic : String) (partition : Int) (w : Worker J) :
    Except Exit Activity × Worker J :=
  match w.openPartition topic partition with
  | (.error e, w) => (.error (Listener.openFailed topic partition e), w)
  | (.ok stream, w) => (.ok (.reading stream), w)

/-- Begins one attempt, after the given delay. -/
def attemptOnce (l : Loop) (previous : Option Nat) (w : Worker J) : Loop × Worker J :=
  let (started, w) :=
    match l.duty with
    | .listen topic partition => beginListen topic partition w
    | .report config => beginReport config w
  match started with
  | .ok activity => ({ l with state := .active activity previous }, w)
  | .error e => (l.afterAttempt w.now previous (.error e), w)

/-- Begins an attempt and, as long as no time has to pass before the next one,
at most `more` further ones. -/
def attemptUpTo (previous : Option Nat) : (more : Nat) → Loop → Worker J → Loop × Worker J
  | 0, l, w => l.attemptOnce previous w
  | more + 1, l, w =>
    match l.attemptOnce previous w with
    | (⟨duty, backoff, .resting _ 0⟩, w) =>
      attemptUpTo (some 0) more ⟨duty, backoff, .resting w.now 0⟩ w
    | result => result

/-- Begins an attempt, after the given delay.  If no delay follows a failure, the
next attempt begins at once; as many may fail so as are known to. -/
def attempt (l : Loop) (previous : Option Nat) (w : Worker J) : Loop × Worker J :=
  attemptUpTo previous w.outage.opens.length l w

/-- Begins a loop; one that was cancelled before does nothing. -/
def begin (duty : Duty) (backoff : Option Backoff) (cancelled : Bool) (w : Worker J) :
    Loop × Worker J :=
  let l : Loop := ⟨duty, backoff, .finished (.error .canceled)⟩
  if cancelled then (l, w) else l.attempt none w

/-! ## Reading -/

/-- What there is to read. -/
def pending (stream : Stream) (w : Worker J) : List Read × Worker J :=
  match stream with
  | .given => (w.outage.reads.getD [], { w with outage := { w.outage with reads := some [] } })
  | .partition reader =>
    let (reads, broker) := w.broker.readAll reader
    (reads, { w with broker })

/-- Puts reads back that a listener did not take. -/
def putBack (stream : Stream) (left : List Read) (w : Worker J) : Worker J :=
  match stream with
  | .given => { w with outage := { w.outage with reads := some left } }
  | .partition _ => w

/-- Drops what an attempt holds. -/
def letGo (activity : Activity) (w : Worker J) : Worker J :=
  match activity with
  | .reading (.partition reader) => { w with broker := w.broker.dropReader reader }
  | .retrying (.partition reader) _ => { w with broker := w.broker.dropReader reader }
  | .ticking (some writer) _ => { w with broker := w.broker.dropWriter writer }
  | _ => w

/-- A listener takes in what there is to read. -/
def read (l : Loop) (stream : Stream) (previous : Option Nat) (w : Worker J) : Loop × Worker J :=
  let (reads, w) := pending stream w
  let (dispatcher, events, next) := Listener.consume w.dispatcher reads
  let w := { w with dispatcher }.log events
  match next with
  | .waits => ({ l with state := .active (.reading stream) previous }, w)
  | .retries left =>
    ({ l with state := .active (.retrying stream (w.now + Listener.retryMs)) previous },
      putBack stream left w)
  | .ends => (l.afterAttempt w.now previous (.ok ()), letGo (.reading stream) w)

/-- Does what the loop can do now. -/
def settle (l : Loop) (w : Worker J) : Loop × Worker J :=
  match l.state with
  | .active (.reading stream) previous => l.read stream previous w
  | _ => (l, w)

/-! ## Time -/

/-- The moment at which the loop has something to do. -/
def due? (l : Loop) : Option Nat :=
  match l.state with
  | .active (.retrying _ t) _ => some t
  | .active (.ticking _ t) _ => some t
  | .resting t _ => some t
  | _ => none

/-- Does what the loop has to do at this moment. -/
def fire (l : Loop) (w : Worker J) : Loop × Worker J :=
  if l.due? ≠ some w.now then (l, w)
  else
    match l.state, l.duty with
    | .active (.retrying stream _) previous, _ => l.read stream previous w
    | .active (.ticking writer t) previous, .report config =>
      ({ l with state := .active (.ticking writer (t + config.intervalMs)) previous },
        tick config writer w)
    | .resting _ ms, _ => l.attempt (some ms) w
    | _, _ => (l, w)

/-! ## Ending -/

/-- Cancels the loop: an attempt ends well, a delay does not. -/
def cancel (l : Loop) (w : Worker J) : Loop × Worker J :=
  match l.state with
  | .active (.ticking (some writer) t) _ =>
    ({ l with state := .finished (.ok ()) },
      letGo (.ticking (some writer) t) (w.log [.writerStopped]))
  | .active activity _ => ({ l with state := .finished (.ok ()) }, letGo activity w)
  | .resting _ _ => ({ l with state := .finished (.error .canceled) }, w)
  | .finished _ => (l, w)

end Loop

/-! ## Crews -/

/-- A worker and its loops. -/
structure Crew (J : Type) where
  /-- What the loops share. -/
  worker : Worker J
  /-- The loops. -/
  loops : List Loop := []

namespace Crew

variable {J : Type}

/-- Has every loop do something, one after another. -/
def eachLoop (act : Loop → Worker J → Loop × Worker J) :
    List Loop → Worker J → List Loop × Worker J
  | [], w => ([], w)
  | l :: ls, w =>
    let (l, w) := act l w
    let (ls, w) := eachLoop act ls w
    (l :: ls, w)

/-- Has every loop of the crew do something. -/
def each (c : Crew J) (act : Loop → Worker J → Loop × Worker J) : Crew J :=
  let (loops, worker) := eachLoop act c.loops c.worker
  ⟨worker, loops⟩

/-- Does everything that can be done now. -/
def settle (c : Crew J) : Crew J := c.each Loop.settle

/-- The crew with one more loop. -/
def begin (c : Crew J) (duty : Duty) (backoff : Option Backoff) (cancelled : Bool) : Crew J :=
  let (l, worker) := Loop.begin duty backoff cancelled c.worker
  ⟨worker, c.loops ++ [l]⟩

/-- Cancels all loops. -/
def cancel (c : Crew J) : Crew J := c.each Loop.cancel

/-- The next moment at which a loop has something to do. -/
def nextDue? (c : Crew J) : Option Nat := (c.loops.filterMap Loop.due?).min?

/-- The crew at a moment. -/
def atTime (c : Crew J) (now : Nat) : Crew J := { c with worker := { c.worker with now } }

/-- Does what is to be done at a moment, and what follows from it. -/
def fireAt (c : Crew J) (now : Nat) : Crew J := ((c.atTime now).each Loop.fire).settle

/-- Lets time pass from one moment to another, doing what is to be done on the
way. -/
def advanceTo (target now : Nat) (c : Crew J) : Crew J :=
  match c.nextDue? with
  | none => c.atTime target
  | some t =>
    if h : now < t ∧ t ≤ target then
      have : target - t < target - now := by omega
      advanceTo target t (c.fireAt t)
    else c.atTime target
termination_by target - now

/-- Lets time pass. -/
def advance (c : Crew J) (ms : Nat) : Crew J :=
  advanceTo (c.worker.now + ms) c.worker.now c

end Crew

end Collector
