import Collector.Task

/-!
# Checkpoint stores

A checkpointer of `harvest-core` is a store: it keeps one blob for each task identity, or
forgets everything at once.  A store that keeps blobs can be out of order: reading, writing
or both then fail and change nothing.
-/

namespace Collector

/-- A store of blobs, by task identity. -/
structure CheckpointStore where
  /-- The blobs. -/
  blobs : KeyMap Bytes := KeyMap.empty
  /-- What reading fails with. -/
  readFault : Option ClientError := none
  /-- What writing fails with. -/
  writeFault : Option ClientError := none
  /-- Whether the store remembers nothing. -/
  forgetful : Bool := false

namespace CheckpointStore

/-- The blob of a task. -/
def read (s : CheckpointStore) (t : Task) : Except ClientError (Option Bytes) :=
  if s.forgetful then .ok none
  else
    match s.readFault with
    | some e => .error e
    | none => .ok (s.blobs.get? t.identity)

/-- The store with a new blob of a task. -/
def write (s : CheckpointStore) (t : Task) (blob : Bytes) : Except ClientError CheckpointStore :=
  if s.forgetful then .ok s
  else
    match s.writeFault with
    | some e => .error e
    | none => .ok { s with blobs := s.blobs.insert t.identity blob }

/-- The store with a blob that was put there from outside. -/
def put (s : CheckpointStore) (identity : String) (blob : Bytes) : CheckpointStore :=
  { s with blobs := s.blobs.insert identity blob }

end CheckpointStore

end Collector
