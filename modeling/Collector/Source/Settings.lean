import Collector.Task
import Collector.Text.Base64
import Collector.Text.Slashes

/-!
# Poll settings

The poll settings of `harvest-source` are what a task says about its source, and the
request for the page at a cursor: records at or after the cursor, ascending, one page of
them.
-/

namespace Collector

/-- How the source of a task is polled. -/
structure PollSettings where
  /-- The base address, without slashes at its end. -/
  serverUrl : String
  /-- The table to read. -/
  endpoint : String
  /-- The record field that orders the feed. -/
  timestampField : String
  /-- The record field that identifies a record. -/
  idField : String
  /-- The cursor to begin from when there is no checkpoint. -/
  nextRecordTime : String
  /-- The number of records of a page. -/
  pageSize : Nat
  /-- The user to log in as. -/
  username : Option String
  /-- The password of that user. -/
  password : Option String
  deriving DecidableEq, Repr

/-- One request to a source. -/
structure SourceRequest where
  /-- The address, before percent-encoding. -/
  url : String
  /-- The form of answer asked for. -/
  accept : String
  /-- The compression that is understood. -/
  acceptEncoding : String
  /-- The credentials. -/
  authorization : Option String
  deriving DecidableEq, Repr

namespace PollSettings

/-- How long a request may take, in milliseconds. -/
def requestTimeoutMs : Nat := 120000

/-- Reads a page size: a positive number of 64 bits, between blanks. -/
def pageSize? (text : String) : Option Nat :=
  match Decimal.read? 64 (Text.trim text) with
  | some n => if n = 0 then none else some n
  | none => none

/-- The identifying field: the one that the task names, unless that is blank. -/
def idFieldOf (t : Task) : String :=
  match t.get? Setting.idField with
  | some v => if Text.isBlank v then Setting.defaultIdField else v
  | none => Setting.defaultIdField

/-- Reads the page size of a task. -/
def pageSizeOf (t : Task) : Except DataError Nat :=
  match t.require Setting.recordCount with
  | .error e => .error e
  | .ok raw =>
    match pageSize? raw with
    | some n => .ok n
    | none => .error (.invalidValue Setting.recordCount
        ("expected a positive integer, got " ++ Text.quoted raw))

/-- The poll settings of a task.  The page size is looked at first, then the
address, the table, the ordering field and the start time. -/
def ofTask (t : Task) : Except DataError PollSettings :=
  match pageSizeOf t with
  | .error e => .error e
  | .ok pageSize =>
    match t.require Setting.serverUrl with
    | .error e => .error e
    | .ok serverUrl =>
      match t.require Setting.endpoint with
      | .error e => .error e
      | .ok endpoint =>
        match t.require Setting.timestampField with
        | .error e => .error e
        | .ok timestampField =>
          match t.require Setting.nextRecordTime with
          | .error e => .error e
          | .ok nextRecordTime => .ok
            { serverUrl := Text.trimSlashes serverUrl
              endpoint := endpoint
              timestampField := timestampField
              idField := idFieldOf t
              nextRecordTime := nextRecordTime
              pageSize := pageSize
              username := t.get? Setting.username
              password := t.get? Setting.password }

/-! ## Requests -/

/-- A text with its first space written as a plus sign. -/
def plusForSpace : List Char → List Char
  | [] => []
  | c :: cs => if c = ' ' then '+' :: cs else c :: plusForSpace cs

/-- The address of the page at a cursor. -/
def requestUrl (s : PollSettings) (cursor : String) : String :=
  s.serverUrl ++ "/" ++ s.endpoint ++ ".do?JSONv2&sysparm_query=" ++ s.timestampField ++ ">=" ++
    String.ofList (plusForSpace cursor.toList) ++ "^ORDERBY" ++ s.timestampField ++
    "&sysparm_record_count=" ++ Decimal.ofNat s.pageSize

/-- Basic credentials, if the task names a user; a missing password is empty. -/
def authorization (s : PollSettings) : Option String :=
  s.username.map fun user =>
    let login := user ++ ":" ++ s.password.getD ""
    "Basic " ++ String.ofList (Base64.encode (bytesOf login))

/-- The request for the page at a cursor. -/
def request (s : PollSettings) (cursor : String) : SourceRequest :=
  { url := s.requestUrl cursor
    accept := "application/json"
    acceptEncoding := "gzip"
    authorization := s.authorization }

end PollSettings

end Collector
