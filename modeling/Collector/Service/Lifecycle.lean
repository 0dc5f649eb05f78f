import Collector.Service.Config
import Collector.Worker

/-!
# The service

The service that `harvest-service` runs on one host is idle, then runs, then is stopped;
it never goes back.  Starting it asks the broker for the partitions of the task topic and
begins one listener for each of them and a reporter.  Stopping it ends the loops, stops all
jobs, has the builders release what jobs share, and closes the broker and then the
coordination service.

* `Service.start`, `Service.stop` move the service on.
* `Service.startWith`, `Service.deliver`, `Service.endCallback` and `Service.stopAfter` are
  what can happen to it, whatever the broker answers and whenever callbacks return.

Main statements:

* `Service.stop_stop`: a second stop does nothing.
* `Service.start_of_stopped`: a stopped service does not start.
-/

namespace Collector

/-- Where a service is in its life. -/
inductive ServiceState where
  /-- The service was not started yet. -/
  | idle
  /-- The service was started, and not stopped since. -/
  | running
  /-- The service was stopped for good. -/
  | stopped
  deriving DecidableEq, Repr

/-- The service of one host. -/
structure Service (J : Type) where
  /-- The settings of the service. -/
  config : ServiceConfig
  /-- Where the service is in its life. -/
  state : ServiceState := .idle
  /-- The loops, and what they work on. -/
  crew : Crew J

/-- What connecting to the external clients gives. -/
structure Connection where
  /-- The broker, or why there is none. -/
  broker : Except ClientError Broker
  /-- The coordination service, or why there is none. -/
  coordination : Except ClientError Coordination

namespace Service

variable {J : Type}

/-! ## Building -/

/-- The name that a service goes by: the given one without blanks at its ends, or
that of the system. -/
def hostOf (c : ServiceConfig) (system : Except JobError String) : Except ServiceError String :=
  match c.host with
  | some name => .ok (Text.trim name)
  | none =>
    match system with
    | .ok name => .ok name
    | .error e => .error (.host e)

/-- The service over a worker, once its settings are checked and its name is
known. -/
def ofWorker (c : ServiceConfig) (system : Except JobError String) (w : Worker J) :
    Except ServiceError (Service J) :=
  match c.validate with
  | .error e => .error e
  | .ok () =>
    match hostOf c system with
    | .error e => .error e
    | .ok host =>
      let dispatcher : Dispatcher J := { host, factory := w.dispatcher.factory }
      .ok { config := c, crew := ⟨{ w with dispatcher }, []⟩ }

/-- The service over clients that are connected now: the broker first, which is
closed again if the coordination service cannot be reached.  Gives the effects
besides. -/
def connect (c : ServiceConfig) (system : Except JobError String) (connection : Connection)
    (w : Worker J) : Except ServiceError (Service J) × List (Event J) :=
  match c.validate with
  | .error e => (.error e, [])
  | .ok () =>
    match connection.broker with
    | .error e => (.error (.client e), [])
    | .ok broker =>
      match connection.coordination with
      | .error e => (.error (.client e), [.brokerClosed])
      | .ok coordination => (ofWorker c system { w with broker, coordination }, [])

/-- The worker of the service. -/
def worker (s : Service J) : Worker J := s.crew.worker

/-- The name of the host. -/
def host (s : Service J) : String := s.worker.dispatcher.host

/-- The service with something done to its worker. -/
def mapWorker (s : Service J) (f : Worker J → Worker J) : Service J :=
  { s with crew := { s.crew with worker := f s.crew.worker } }

/-! ## Starting -/

/-- What the broker answers when it is asked for the partitions of topics. -/
abbrev PartitionAnswer := Except ClientError (KeyMap (List Int))

/-- The partitions to listen to, given the broker's answer. -/
def taskPartitions (s : Service J) (answer : PartitionAnswer) : Except ServiceError (List Int) :=
  match answer with
  | .error e => .error (.client e)
  | .ok topics =>
    match (topics.get? s.config.taskTopic).getD [] with
    | [] => .error (.noPartitions s.config.taskTopic)
    | ps => .ok ps

/-- The settings of the reporter. -/
def reporterConfig (s : Service J) : Except ServiceError HeartbeatConfig :=
  let config := s.config.heartbeatConfig s.host
  match config.validate with
  | .error e => .error (.heartbeat e)
  | .ok () => .ok config

/-- The loops of a service. -/
def duties (s : Service J) (partitions : List Int) (reporter : HeartbeatConfig) : List Duty :=
  partitions.map (Duty.listen s.config.taskTopic) ++ [.report reporter]

/-- Begins loops one after another. -/
def beginAll (c : Crew J) (backoff : Backoff) (duties : List Duty) : Crew J :=
  duties.foldl (fun c duty => c.begin duty (some backoff) false) c

/-- The service has asked the broker for the partitions of its topic. -/
def asked (s : Service J) : Service J :=
  s.mapWorker fun w => w.log [.partitionsAsked s.config.taskTopic]

/-- Starts an idle service, given the broker's answer. -/
def startIdle (s : Service J) (answer : PartitionAnswer) : Except ServiceError Unit × Service J :=
  let s := s.asked
  match s.taskPartitions answer with
  | .error e => (.error e, s)
  | .ok partitions =>
    match s.reporterConfig with
    | .error e => (.error e, s)
    | .ok reporter =>
      (.ok (), { s with
        state := .running
        crew := beginAll s.crew s.config.backoff (s.duties partitions reporter) })

/-- Starts the service, given what the broker answers if it is asked; a service that
runs is left alone. -/
def startWith (s : Service J) (answer : PartitionAnswer) : Except ServiceError Unit × Service J :=
  match s.state with
  | .running => (.ok (), s)
  | .stopped => (.error .closed, s)
  | .idle => s.startIdle answer

/-- Starts the service. -/
def start (s : Service J) : Except ServiceError Unit × Service J :=
  s.startWith (s.worker.partitions s.config.taskTopic)

/-! ## Running -/

/-- A listener takes an envelope in; only a service that runs has listeners. -/
def deliver (s : Service J) (e : Envelope) : Service J :=
  match s.state with
  | .running => s.mapWorker fun w =>
      let (dispatcher, events) := w.dispatcher.dispatch e
      { w with dispatcher }.log events
  | _ => s

/-- The callback with this number among those that are on their way returns. -/
def endCallback (i : Nat) (w : Worker J) : Worker J :=
  match w.dispatcher.callbacks[i]? with
  | none => w
  | some job =>
    let callbacks := w.dispatcher.callbacks.eraseIdx i
    { w with dispatcher := { w.dispatcher with callbacks } }.log [.returned job]

/-- Callbacks return one after another. -/
def endCallbacks (order : List Nat) (w : Worker J) : Worker J :=
  order.foldl (fun w i => endCallback i w) w

/-! ## Stopping -/

/-- Waits for all callbacks: some return in the given order, and the rest in the order
in which they began. -/
def awaitCallbacks (order : List Nat) (w : Worker J) : Worker J :=
  let w := endCallbacks order w
  endCallbacks (List.replicate w.dispatcher.callbacks.length 0) w

/-- Stops all jobs and forgets them. -/
def stopJobs (w : Worker J) : Worker J :=
  let (jobs, cache) := w.dispatcher.cache.drain
  { w with dispatcher := { w.dispatcher with cache } }.log (jobs.map .stopped)

/-- Has the builders release what jobs share. -/
def closeBuilders (w : Worker J) : Worker J :=
  let factory := w.dispatcher.factory
  { w with dispatcher := { w.dispatcher with factory := factory.close } }.log factory.closing

/-- Closes the broker. -/
def closeBroker (w : Worker J) : Worker J :=
  { w with broker := w.broker.close }.log [.brokerClosed]

/-- Closes the coordination service. -/
def closeCoordination (w : Worker J) : Worker J :=
  { w with coordination := w.coordination.close }.log [.coordinationClosed]

/-- Stops jobs, builders and clients, in this order. -/
def shutDown (w : Worker J) : Worker J :=
  closeCoordination (closeBroker (closeBuilders (stopJobs w)))

/-- Stops the service, unless that was done: its loops end, the callbacks return in
the given order, and then it shuts down. -/
def stopAfter (order : List Nat) (s : Service J) : Service J :=
  match s.state with
  | .stopped => s
  | _ =>
    let crew := s.crew.cancel
    { s with
      state := .stopped
      crew := { crew with worker := shutDown (awaitCallbacks order crew.worker) } }

/-- Stops the service, unless that was done. -/
def stop (s : Service J) : Service J := s.stopAfter []

theorem state_stopAfter (order : List Nat) (s : Service J) :
    (s.stopAfter order).state = .stopped := by
  unfold stopAfter
  split <;> simp_all

theorem stopAfter_of_stopped {s : Service J} (h : s.state = .stopped) (order : List Nat) :
    s.stopAfter order = s := by
  unfold stopAfter
  simp [h]

theorem state_stop (s : Service J) : s.stop.state = .stopped := state_stopAfter [] s

theorem stop_of_stopped {s : Service J} (h : s.state = .stopped) : s.stop = s :=
  stopAfter_of_stopped h []

theorem stop_stop (s : Service J) : s.stop.stop = s.stop := stop_of_stopped (state_stop s)

theorem startWith_of_stopped {s : Service J} (h : s.state = .stopped) (answer : PartitionAnswer) :
    s.startWith answer = (.error .closed, s) := by
  unfold startWith
  simp [h]

theorem start_of_stopped {s : Service J} (h : s.state = .stopped) :
    s.start = (.error .closed, s) := startWith_of_stopped h _

end Service

end Collector
