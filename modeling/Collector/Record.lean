import Collector.Failure
import Collector.Json.Printer

/-!
# Source records and pages

A record of `harvest-model` is one entry of a source: a JSON object with two string fields
that identify it and place it in time.  A page is the part of a feed that one request
returned, in feed order; it remembers how many entries the source sent, because entries
that cannot be used are dropped and still count.

Main statements:

* `Page.length_le_fetched`: a page never holds more records than were sent.
-/

namespace Collector

/-! ## Records -/

/-- One entry of a source. -/
structure Record where
  /-- What identifies the record. -/
  id : String
  /-- What places the record in time. -/
  timestamp : String
  /-- All fields of the record, in key order. -/
  fields : List (String × Json)

namespace Record

/-- A record that has nothing but its two identifying values. -/
def plain (id timestamp : String) : Record := ⟨id, timestamp, []⟩

/-- The text of a string field. -/
def textField (fields : List (String × Json)) (name : String) : Except DataError String :=
  match (Entries.get? name fields).bind Json.string? with
  | some s => .ok s
  | none => .error (.missingField name)

/-- Reads an entry; the field named `idField` is looked at first. -/
def ofJson (idField timestampField : String) : Json → Except DataError Record
  | .object fields =>
    match textField fields idField with
    | .error e => .error e
    | .ok id =>
      match textField fields timestampField with
      | .error e => .error e
      | .ok timestamp => .ok ⟨id, timestamp, fields⟩
  | _ => .error .notAnObject

/-- A field in the delivered line: a string as it is, any other value as compact
JSON. -/
def renderField (name : String) (value : Json) : List Char :=
  let text :=
    match value with
    | .string s => s.toList
    | v => v.chars
  name.toList ++ '=' :: '"' :: (text ++ ['"'])

/-- The delivered line: `name="value"` for each field, joined by commas. -/
def render (r : Record) : String :=
  String.ofList ((r.fields.map fun f => renderField f.1 f.2).intersperse [','] |>.flatten)

end Record

/-! ## Pages -/

/-- The records that one request returned. -/
structure Page where
  /-- The records that could be used, in feed order. -/
  records : List Record
  /-- The number of entries that the source sent. -/
  fetched : Nat
  /-- Every record was sent. -/
  length_le_fetched : records.length ≤ fetched

namespace Page

/-- A page of entries that could all be used. -/
def ofRecords (records : List Record) : Page := ⟨records, records.length, Nat.le_refl _⟩

/-- A page of which the source sent `fetched` entries; the count is raised to the
number of records if it is less. -/
def withFetched (records : List Record) (fetched : Nat) : Page :=
  ⟨records, max fetched records.length, Nat.le_max_right _ _⟩

/-- A page without entries. -/
def empty : Page := ofRecords []

/-- The number of records. -/
def size (p : Page) : Nat := p.records.length

/-- Whether there are no records. -/
def isEmpty (p : Page) : Bool := p.records.isEmpty

/-- The usable ones among the entries of a source. -/
def usable (idField timestampField : String) (entries : List Json) : List Record :=
  entries.filterMap fun e => (Record.ofJson idField timestampField e).toOption

/-- Reads the answer of a source: the entries under `records` if that is an
array, else the error it reports under `error`, else nothing. -/
def ofJson (idField timestampField : String) (answer : Json) : Except PollError Page :=
  match answer.member? "records" with
  | some (.array entries) =>
    .ok (withFetched (usable idField timestampField entries) entries.length)
  | _ =>
    match answer.member? "error" with
    | some (.string reason) => .error (.rejected reason)
    | some reason => .error (.rejected reason.render)
    | none => .ok empty

/-- Reads the body of an answer. -/
def ofBytes (idField timestampField : String) (body : Bytes) : Except PollError Page :=
  match Json.ofBytes? body with
  | some answer => ofJson idField timestampField answer
  | none => .error .unparsable

end Page

end Collector
