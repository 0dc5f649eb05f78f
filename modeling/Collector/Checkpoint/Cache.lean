import Collector.Backend
import Collector.Checkpoint.Basic

/-!
# The checkpoint of a job in memory

A job of `harvest-source` trusts the checkpoint it holds and asks the store only while it
holds none.  A blob that is missing or unreadable, or that names no cursor, counts as the
configured start time.

* `CheckpointCache.load` gives the checkpoint to go on from.
* `CheckpointCache.commit` stores a checkpoint and then holds it.
-/

namespace Collector

/-- The checkpoint of one job, in front of the store. -/
structure CheckpointCache where
  /-- The cursor to begin from when the store has none. -/
  initial : String
  /-- The checkpoint that is held. -/
  held : Option Checkpoint := none
  deriving DecidableEq

namespace CheckpointCache

/-- The checkpoint that is held, if it names a cursor. -/
def trusted? (c : CheckpointCache) : Option Checkpoint := c.held.filter fun s => !s.isEmpty

/-- The checkpoint that a stored blob stands for, with the given start time. -/
def resume (initial : String) (blob : Option Bytes) : Checkpoint :=
  match blob with
  | none => Checkpoint.initial initial
  | some bytes =>
    match Checkpoint.decode? bytes with
    | some state => if state.isEmpty then Checkpoint.initial initial else state
    | none => Checkpoint.initial initial

/-- Holds a checkpoint without storing it. -/
def apply (c : CheckpointCache) (state : Checkpoint) : CheckpointCache :=
  { c with held := some state }

/-- The checkpoint to go on from: the one that is held, else the stored one, which
is then held. -/
def load (c : CheckpointCache) (t : Task) (b : Backend) :
    Except PollError Checkpoint × CheckpointCache × Backend :=
  match c.trusted? with
  | some state => (.ok state, c, b)
  | none =>
    match b.readBlob t with
    | (.error e, b) => (.error (.checkpoint e), c, b)
    | (.ok blob, b) =>
      let state := resume c.initial blob
      (.ok state, c.apply state, b)

/-- Stores a checkpoint. -/
def persist (t : Task) (state : Checkpoint) (b : Backend) : Except PollError Unit × Backend :=
  match b.writeBlob t state.encode with
  | (.ok (), b) => (.ok (), b)
  | (.error e, b) => (.error (.checkpoint e), b)

/-- Stores a checkpoint, then holds it. -/
def commit (c : CheckpointCache) (t : Task) (state : Checkpoint) (b : Backend) :
    Except PollError Unit × CheckpointCache × Backend :=
  match persist t state b with
  | (.ok (), b) => (.ok (), c.apply state, b)
  | (.error e, b) => (.error e, c, b)

end CheckpointCache

end Collector
