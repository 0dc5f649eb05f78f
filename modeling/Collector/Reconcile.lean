import Collector.Checkpoint.Basic
import Collector.Record
import Collector.Timestamp

/-!
# Reconciling a page with the checkpoint before it

The timestamps of a source of `harvest-source` have a resolution of one second and a page
holds a bounded number of records, so the end of a page can fall between two records of
one timestamp.  The checkpoint names the records at its cursor that were delivered before,
and the next page, which begins at the cursor, is freed of them.  A full page of one single
timestamp would be answered by itself for ever; the cursor is then moved past that
timestamp.
-/

namespace Collector

/-- What becomes of a page. -/
structure Reconciled where
  /-- The records to deliver, in page order. -/
  emit : List Record
  /-- The checkpoint to keep once they are delivered; none leaves the old one. -/
  checkpoint : Option Checkpoint
  /-- Whether the cursor was moved past a timestamp that fills a whole page. -/
  refreshed : Bool

namespace Reconciled

/-- Whether a record was delivered before the checkpoint was kept. -/
def committed (previous : Checkpoint) (r : Record) : Bool :=
  r.timestamp = previous.cursor && previous.delivered.contains r.id

/-- The records that were not delivered before. -/
def fresh (previous : Checkpoint) (records : List Record) : List Record :=
  records.filter fun r => !committed previous r

/-- The checkpoint after a page: its last timestamp, and the records of that
timestamp at its end, last one first. -/
def checkpointAfter (records : List Record) : Option Checkpoint :=
  match records.reverse with
  | [] => none
  | last :: before =>
    some (Checkpoint.ofCursor last.timestamp
      (((last :: before).takeWhile fun r => r.timestamp = last.timestamp).map Record.id))

/-- The timestamp that the first and the last record of a full page share. -/
def saturated? (page : Page) (pageSize : Nat) : Option String :=
  if pageSize = 0 ∨ page.fetched ≠ pageSize then none
  else
    match page.records.head?, page.records.getLast? with
    | some first, some last =>
      if first.timestamp = last.timestamp then some first.timestamp else none
    | _, _ => none

/-- A page that no checkpoint says anything about: all of it is delivered. -/
def passed (page : Page) : Reconciled :=
  ⟨page.records, checkpointAfter page.records, false⟩

/-- A page that begins at a cursor where records were delivered before. -/
def filtered (previous : Checkpoint) (page : Page) (pageSize : Nat) :
    Except CursorError Reconciled :=
  let emit := fresh previous page.records
  match saturated? page pageSize with
  | some timestamp =>
    match Timestamp.nextSecond timestamp with
    | .error e => .error e
    | .ok next => .ok ⟨emit, some (Checkpoint.initial next), true⟩
  | none => .ok ⟨emit, if emit.isEmpty then none else checkpointAfter page.records, false⟩

end Reconciled

/-- Reconciles a page with the checkpoint that it was asked from. -/
def reconcile (previous : Option Checkpoint) (page : Page) (pageSize : Nat) :
    Except CursorError Reconciled :=
  match previous with
  | none => .ok (Reconciled.passed page)
  | some previous =>
    if previous.hasBoundary && !page.isEmpty then Reconciled.filtered previous page pageSize
    else .ok (Reconciled.passed page)

end Collector
