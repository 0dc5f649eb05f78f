import Collector.Job.Cache
import Collector.Job.Factory

/-!
# Dispatching tasks

The task dispatcher of `harvest-core` takes envelopes of task records that are meant for
its host.  Each record that is a task is a sighting of it: the job of the task is called
back, and is made and started first if there is none.  A record that is not a task, or
whose job cannot be made, changes nothing.

* `Dispatcher.sight` handles one record.
* `Dispatcher.dispatch` handles one envelope.

Main statements:

* `Dispatcher.dispatch_foreign`: an envelope for another host changes nothing.
-/

namespace Collector

/-- The jobs of one worker. -/
structure Dispatcher (J : Type) where
  /-- The worker's host. -/
  host : String
  /-- The builders of jobs. -/
  factory : Factory J := {}
  /-- The jobs. -/
  cache : JobCache J := {}
  /-- The jobs that are called back and have not returned yet, once for each callback. -/
  callbacks : List J := []

namespace Dispatcher

variable {J : Type}

/-- The effects of finding a job: it is started if it was made. -/
def effects : Option (Found J) → List (Event J)
  | none => []
  | some (.created job) => [.started job, .called job]
  | some (.cached job) => [.called job]

/-- Makes the job of a task, noting who was asked. -/
def create (t : Task) (s : Factory J × List (Event J)) : Option J × Factory J × List (Event J) :=
  let (factory, events) := s
  let (job, after) := factory.create t.app t
  (job, after, events ++ factory.asks t.app t)

/-- Handles one sighting of a task. -/
def sightTask (d : Dispatcher J) (t : Task) : Dispatcher J × List (Event J) :=
  let (found, cache, factory, asked) := d.cache.getOrCreate t.identity (create t) (d.factory, [])
  let callbacks := d.callbacks ++ (found.map Found.job).toList
  ({ d with factory, cache, callbacks }, asked ++ effects found)

/-- Handles one record. -/
def sight (d : Dispatcher J) (record : Bytes) : Dispatcher J × List (Event J) :=
  match Task.ofBytes record with
  | .error _ => (d, [])
  | .ok t => d.sightTask t

/-- Handles records one after another. -/
def sightAll (d : Dispatcher J) : List Bytes → Dispatcher J × List (Event J)
  | [] => (d, [])
  | record :: records =>
    let (d, events) := d.sight record
    let (d, more) := d.sightAll records
    (d, events ++ more)

/-- Whether an envelope is meant for this worker. -/
def accepts (d : Dispatcher J) (e : Envelope) : Bool := e.meta? Setting.host = some d.host

/-- Handles one envelope. -/
def dispatch (d : Dispatcher J) (e : Envelope) : Dispatcher J × List (Event J) :=
  if d.accepts e then d.sightAll e.records else (d, [])

/-- The number of callbacks among effects. -/
def scheduled (events : List (Event J)) : Nat :=
  events.countP fun
    | .called _ => true
    | _ => false

theorem dispatch_foreign {d : Dispatcher J} {e : Envelope}
    (h : e.meta? Setting.host ≠ some d.host) :
    d.dispatch e = (d, []) := by
  simp [dispatch, accepts, h]

end Dispatcher

end Collector
