import Collector.KeyMap
import Collector.Text.Utf8

/-!
# Envelopes

The envelope of `harvest-model`, the unit that writers take and readers give: raw records,
with meta information that says where they came from.
-/

namespace Collector

/-- Raw records with their meta information. -/
structure Envelope where
  /-- Where the records came from. -/
  metaInfo : KeyMap String := KeyMap.empty
  /-- The records, one blob each. -/
  records : List Bytes := []
  deriving DecidableEq

namespace Envelope

instance : Inhabited Envelope := ⟨{}⟩

/-- An envelope of one record without meta information. -/
def single (record : Bytes) : Envelope := { records := [record] }

/-- The envelope with one more piece of meta information. -/
def withMeta (e : Envelope) (key value : String) : Envelope :=
  { e with metaInfo := e.metaInfo.insert key value }

/-- A piece of meta information. -/
def meta? (e : Envelope) (key : String) : Option String := e.metaInfo.get? key

/-- The envelope with one more record at the end. -/
def push (e : Envelope) (record : Bytes) : Envelope :=
  { e with records := e.records ++ [record] }

/-- The number of records. -/
def size (e : Envelope) : Nat := e.records.length

/-- Whether there are no records. -/
def isEmpty (e : Envelope) : Bool := e.records.isEmpty

end Envelope

end Collector
