import Collector.Record
import Collector.Source.Response

/-!
# Feeds

A feed is what a source has that `harvest-source` polls: records in ascending order of
their timestamps.  A page is the beginning of what is at or after a cursor.
-/

namespace Collector

/-- The records of a source, in its order. -/
abbrev Feed := List Record

namespace Feed

/-- The records at or after a cursor; timestamps are compared as texts. -/
def since (feed : Feed) (cursor : String) : Feed :=
  feed.filter fun r => decide (¬ r.timestamp < cursor)

/-- The first records at or after a cursor. -/
def page (feed : Feed) (pageSize : Nat) (cursor : String) : Page :=
  Page.ofRecords ((feed.since cursor).take pageSize)

/-- A record as its source sends it. -/
def recordJson (idField timestampField : String) (r : Record) : Json :=
  .object (KeyMap.ofList
    [(idField, Json.string r.id), (timestampField, .string r.timestamp)]).entries

/-- The answer of a source that has this feed. -/
def reply (feed : Feed) (idField timestampField : String) (pageSize : Nat) (cursor : String) :
    SourceReply :=
  let entries := (feed.page pageSize cursor).records.map (recordJson idField timestampField)
  { status := 200, body := (Json.object [("records", .array entries)]).toBytes }

end Feed

end Collector
