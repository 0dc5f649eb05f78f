import Collector.Failure
import Collector.Json.Fields
import Collector.Json.Printer

/-!
# Checkpoints

The collection state of `harvest-model` says how far a task has collected its source: the
cursor to ask from next, and the identifiers of the records at exactly that timestamp that
were already delivered.  A checkpoint is stored as a JSON object, and an array of its three
values is read as well.
-/

namespace Collector

/-- How far a source has been collected. -/
structure Checkpoint where
  /-- The version of the stored form. -/
  version : String
  /-- The timestamp to ask from next. -/
  cursor : String
  /-- The records at the cursor that were delivered before. -/
  delivered : List String
  deriving DecidableEq, Repr

namespace Checkpoint

/-- The version that is written. -/
def currentVersion : String := "1"

/-- A checkpoint of the current version. -/
def ofCursor (cursor : String) (delivered : List String) : Checkpoint :=
  ⟨currentVersion, cursor, delivered⟩

/-- The checkpoint of a start time: nothing delivered yet. -/
def initial (cursor : String) : Checkpoint := ofCursor cursor []

/-- Whether no cursor is known. -/
def isEmpty (c : Checkpoint) : Bool := c.cursor = ""

/-- Whether records at the cursor were delivered before. -/
def hasBoundary (c : Checkpoint) : Bool := !c.delivered.isEmpty

/-! ## Stored form -/

/-- The names of the stored fields, in their order. -/
def fieldNames : List String := ["Version", "NextRecordTime", "LastTimeRecords"]

/-- The stored form as a JSON value. -/
def toJson (c : Checkpoint) : Json :=
  .object [("Version", .string c.version), ("NextRecordTime", .string c.cursor),
    ("LastTimeRecords", .array (c.delivered.map .string))]

/-- The stored form. -/
def encode (c : Checkpoint) : Bytes := c.toJson.toBytes

/-- Reads the tree of a stored form; the list of identifiers may be missing. -/
def ofNode? (node : Json.Node) : Option Checkpoint :=
  match node.slots? fieldNames with
  | some [version, cursor, delivered] =>
    match Json.Node.required? Json.Node.string? version,
        Json.Node.required? Json.Node.string? cursor,
        Json.Node.optional? [] Json.Node.strings? delivered with
    | some v, some c, some ids => some ⟨v, c, ids⟩
    | _, _, _ => none
  | _ => none

/-- Reads a stored form. -/
def decode? (bytes : Bytes) : Option Checkpoint := (Json.Node.ofBytes? bytes).bind ofNode?

end Checkpoint

end Collector
