import Collector.Checkpoint.Store
import Collector.Writer

/-!
# What jobs work on

The jobs of a worker of `harvest-core` share a writer for what they collect and a store
for how far they got.  The backend holds the two, and the calls that were made to them, in
order.
-/

namespace Collector

/-- A call to the writer or to the store. -/
inductive BackendCall where
  /-- The writer was started. -/
  | writerStart
  /-- The writer was stopped. -/
  | writerStop
  /-- The store was started. -/
  | storeStart
  /-- The store was stopped. -/
  | storeStop
  /-- A blob was asked for. -/
  | storeRead
  /-- A blob was to be stored. -/
  | storeWrite
  deriving DecidableEq, Repr

/-- The name of a call. -/
def BackendCall.name : BackendCall → String
  | writerStart => "writer.start"
  | writerStop => "writer.stop"
  | storeStart => "store.start"
  | storeStop => "store.stop"
  | storeRead => "store.get"
  | storeWrite => "store.write"

/-- A writer and a store. -/
structure Backend where
  /-- Where records go. -/
  writer : Writer := {}
  /-- What writing records fails with. -/
  writeFault : Option ClientError := none
  /-- Where checkpoints go. -/
  store : CheckpointStore := {}
  /-- The calls so far. -/
  calls : List BackendCall := []

namespace Backend

/-- The backend with one more call. -/
def log (b : Backend) (c : BackendCall) : Backend := { b with calls := b.calls ++ [c] }

/-- Starts the writer, then the store. -/
def start (b : Backend) : Backend :=
  ({ b with writer := b.writer.start }.log .writerStart).log .storeStart

/-- Stops the store, then the writer. -/
def stop (b : Backend) : Backend :=
  { b.log .storeStop with writer := b.writer.stop }.log .writerStop

/-- Asks the store for the blob of a task. -/
def readBlob (b : Backend) (t : Task) : Except ClientError (Option Bytes) × Backend :=
  (b.store.read t, b.log .storeRead)

/-- Stores the blob of a task; a store that fails is left as it was. -/
def writeBlob (b : Backend) (t : Task) (blob : Bytes) : Except ClientError Unit × Backend :=
  let b := b.log .storeWrite
  match b.store.write t blob with
  | .ok store => (.ok (), { b with store })
  | .error e => (.error e, b)

/-- Writes an envelope; a writer that fails keeps nothing of it. -/
def deliver (b : Backend) (e : Envelope) : Except ClientError Unit × Backend :=
  match b.writeFault with
  | some fault => (.error fault, b)
  | none =>
    match b.writer.write e with
    | .ok writer => (.ok (), { b with writer })
    | .error fault => (.error fault, b)

end Backend

end Collector
