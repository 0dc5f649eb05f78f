import Collector.Gzip.Member
import Collector.Record
import Collector.Source.Settings

/-!
# What a source answers

A source answers a request of `harvest-source` with a status, a body and perhaps a word on
how the body is compressed, or not at all.  Only a status that means success is read on.
-/

namespace Collector

/-- The answer of a source. -/
structure SourceReply where
  /-- The status. -/
  status : Nat
  /-- How the body is announced to be compressed. -/
  encoding : Option String := none
  /-- The body. -/
  body : Bytes := []

namespace SourceReply

/-- Whether the status means success. -/
def isSuccess (r : SourceReply) : Bool := 200 ≤ r.status && r.status ≤ 299

/-- Whether the body is announced to be compressed. -/
def announcesGzip (r : SourceReply) : Bool := r.encoding.any fun e => Text.lower e = "gzip"

end SourceReply

/-- The page that a source answers a cursor with; no answer is a failure. -/
def PollSettings.page (s : PollSettings) (cursor : String) (reply : Option SourceReply) :
    Except PollError Page :=
  match reply with
  | none => .error .transport
  | some r =>
    if !r.isSuccess then .error (.status r.status (s.requestUrl cursor))
    else
      match Gzip.decodeBody r.announcesGzip r.body with
      | .error e => .error e
      | .ok body => Page.ofBytes s.idField s.timestampField body

end Collector
