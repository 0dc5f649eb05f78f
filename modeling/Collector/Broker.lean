import Collector.Envelope
import Collector.Failure
import Collector.Setting
import Collector.SipHash

/-!
# A broker in memory

The memory broker of `harvest-core`.  Topics have partitions, and each partition is a
channel.  A channel keeps what was sent while somebody read it; a reader sees what is sent
after it was opened, and one that falls behind by more than the capacity goes on with the
oldest envelope that is still kept.  Closing the broker forgets its topics; a channel is at
its end once neither a topic nor a writer holds it any more.

* `Broker.publish`, `Broker.write` send; `Broker.next` reads.
-/

namespace Collector

/-- What a reader gets. -/
inductive Read where
  /-- An envelope. -/
  | envelope (e : Envelope)
  /-- A failure; reading may be tried again. -/
  | failed (cause : ClientError)
  /-- There will never be anything more. -/
  | ended

/-- A place in what was sent to a channel. -/
structure ChannelReader where
  /-- The channel. -/
  channel : Nat
  /-- How many envelopes were sent before the next one to be read. -/
  position : Nat
  deriving DecidableEq, Repr

/-- A writer that sends everything to one channel. -/
structure ChannelWriter where
  /-- The channel. -/
  channel : Nat
  /-- The text by which the writer finds its partition, and which it adds to what it sends. -/
  key : String
  deriving DecidableEq, Repr

/-- Topics, and who reads and writes them. -/
structure Broker where
  /-- How many unread envelopes a channel keeps. -/
  capacity : Nat
  /-- The channels of each topic, by partition. -/
  topics : KeyMap (List Nat) := KeyMap.empty
  /-- What was sent to each channel while somebody read it. -/
  sent : List (List Envelope) := []
  /-- The readers; one that was dropped leaves its place empty. -/
  readers : List (Option ChannelReader) := []
  /-- The writers; one that was dropped leaves its place empty. -/
  writers : List (Option ChannelWriter) := []
  /-- Whether the broker was closed. -/
  closed : Bool := false

namespace Broker

/-! ## Capacity -/

/-- The least power of two that is at least `n`, from `p` on, if `fuel` doublings
are enough. -/
def roundUp (n : Nat) : Nat → Nat → Nat
  | 0, p => p
  | fuel + 1, p => if n ≤ p then p else roundUp n fuel (2 * p)

/-- The capacity that is used when `n` is asked for: at least one, and a power of
two. -/
def capacityFor (n : Nat) : Nat := roundUp n n 1

/-- The capacity if none is asked for. -/
def defaultCapacity : Nat := 1024

/-- A broker without topics. -/
def ofCapacity (n : Nat) : Broker := { capacity := capacityFor n }

/-! ## Topics -/

/-- The broker with a topic of so many partitions, at least one, unless the topic
exists. -/
def createTopic (b : Broker) (topic : String) (partitions : Nat) : Broker :=
  if b.topics.contains topic then b
  else
    let count := max partitions 1
    { b with
      topics := b.topics.insert topic ((List.range count).map (b.sent.length + ·))
      sent := b.sent ++ List.replicate count [] }

/-- The channels of a topic. -/
def channels (b : Broker) (topic : String) : Except ClientError (List Nat) :=
  if b.closed then .error .closed
  else
    match b.topics.get? topic with
    | none => .error (.notFound ("topic " ++ topic))
    | some cs => .ok cs

/-- The partitions of a topic. -/
def partitions (b : Broker) (topic : String) : Except ClientError (List Nat) :=
  (b.channels topic).map fun cs => List.range cs.length

/-- What an error calls a partition. -/
def partitionName (topic : String) (partition : Int) : String :=
  "partition " ++ Decimal.ofInt partition ++ " of " ++ topic

/-- The channel of a partition; partitions are counted from zero. -/
def channel (b : Broker) (topic : String) (partition : Int) : Except ClientError Nat :=
  match b.channels topic with
  | .error e => .error e
  | .ok cs =>
    match (if 0 ≤ partition then cs[partition.toNat]? else none) with
    | some c => .ok c
    | none => .error (.notFound (partitionName topic partition))

/-! ## Sending -/

/-- The number of readers of a channel. -/
def readerCount (b : Broker) (channel : Nat) : Nat :=
  b.readers.countP fun r => r.any fun r => r.channel = channel

/-- What was sent to a channel. -/
def sentTo (b : Broker) (channel : Nat) : List Envelope := (b.sent[channel]?).getD []

/-- Sends an envelope to a channel, which keeps it only if somebody reads. -/
def send (b : Broker) (channel : Nat) (e : Envelope) : Broker :=
  if b.readerCount channel = 0 then b
  else { b with sent := b.sent.set channel (b.sentTo channel ++ [e]) }

/-- Sends an envelope to a partition; gives the number of its readers. -/
def publish (b : Broker) (topic : String) (partition : Int) (e : Envelope) :
    Except ClientError (Nat × Broker) :=
  match b.channel topic partition with
  | .error e => .error e
  | .ok c => .ok (b.readerCount c, b.send c e)

/-! ## Reading -/

/-- Opens a partition at its newest end; gives the place of the reader. -/
def openReader (b : Broker) (topic : String) (partition : Int) :
    Except ClientError (Nat × Broker) :=
  match b.channel topic partition with
  | .error e => .error e
  | .ok c =>
    let reader : ChannelReader := ⟨c, (b.sentTo c).length⟩
    .ok (b.readers.length, { b with readers := b.readers ++ [some reader] })

/-- The reader at a place, unless it was dropped. -/
def reader? (b : Broker) (place : Nat) : Option ChannelReader := (b.readers[place]?).join

/-- The position from which a reader goes on: its own, or that of the oldest
envelope that is still kept. -/
def resume (b : Broker) (r : ChannelReader) : Nat :=
  max r.position ((b.sentTo r.channel).length - b.capacity)

/-- Whether more can come to a channel: a topic or a writer holds it. -/
def isLive (b : Broker) (channel : Nat) : Bool :=
  b.topics.values.any (·.contains channel) ||
    b.writers.any fun w => w.any fun w => w.channel = channel

/-- The broker with the reader at a place moved. -/
def moveReader (b : Broker) (place : Nat) (r : ChannelReader) : Broker :=
  { b with readers := b.readers.set place (some r) }

/-- What a reader has to read now, all of it in order. -/
def unread (b : Broker) (r : ChannelReader) : List Envelope :=
  (b.sentTo r.channel).drop (b.resume r)

/-- Reads one envelope; none if a reader would have to wait. -/
def next (b : Broker) (place : Nat) : Option (Read × Broker) :=
  match b.reader? place with
  | none => none
  | some r =>
    match b.unread r with
    | e :: _ => some (.envelope e, b.moveReader place { r with position := b.resume r + 1 })
    | [] => if b.isLive r.channel then none else some (.ended, b)

/-- Reads everything that there is to read now. -/
def readAll (b : Broker) (place : Nat) : List Read × Broker :=
  match b.reader? place with
  | none => ([], b)
  | some r =>
    let waiting := (b.unread r).map Read.envelope
    let reads := if b.isLive r.channel then waiting else waiting ++ [.ended]
    (reads, b.moveReader place { r with position := (b.sentTo r.channel).length })

/-- Drops the reader at a place. -/
def dropReader (b : Broker) (place : Nat) : Broker :=
  { b with readers := b.readers.set place none }

/-! ## Writers -/

/-- The partition that a key belongs to. -/
def partitionOf (key : String) (partitions : Nat) : Nat :=
  (SipHash.ofString key).toNat % partitions

/-- Makes a writer that sends everything to the partition of its key; a topic that
does not exist is created with one partition.  Gives the place of the writer. -/
def makeWriter (b : Broker) (topic key : String) : Except ClientError Nat × Broker :=
  let b := b.createTopic topic 1
  match b.channels topic with
  | .error e => (.error e, b)
  | .ok cs =>
    match b.channel topic (partitionOf key cs.length) with
    | .error e => (.error e, b)
    | .ok c => (.ok b.writers.length, { b with writers := b.writers ++ [some ⟨c, key⟩] })

/-- The writer at a place, unless it was dropped. -/
def writer? (b : Broker) (place : Nat) : Option ChannelWriter := (b.writers[place]?).join

/-- Sends an envelope through a writer, which adds its key. -/
def write (b : Broker) (w : ChannelWriter) (e : Envelope) : Broker :=
  b.send w.channel (e.withMeta Setting.writerKey w.key)

/-- Drops the writer at a place. -/
def dropWriter (b : Broker) (place : Nat) : Broker :=
  { b with writers := b.writers.set place none }

/-- Drops all writers, and gives their places away again. -/
def dropWriters (b : Broker) : Broker := { b with writers := [] }

/-! ## Closing -/

/-- Closes the broker and forgets its topics. -/
def close (b : Broker) : Broker :=
  if b.closed then b else { b with closed := true, topics := KeyMap.empty }

end Broker

end Collector
