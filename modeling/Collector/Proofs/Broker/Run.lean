import Collector.Broker
import Collector.Proofs.Broker.Mailbox

/-!
# What is done with a broker

Anything may be done with a memory broker of `harvest-core`, in any order
(`BrokerOp`).  Beside the broker it is written down for each reader what was sent to its
partition while it was open and when it asked (`Seat`), and for each writer to which
partition it sends.

Which partitions can be sent to and opened shows from what was done (`BrokerOp.refusal`):
the first one who names a topic says how many it has, until the broker is closed.

Main statements:

* `Broker.channel_cases`: which partitions a broker has.
* `BrokerRun.act_cases`: what each operation does.
* `BrokerRun.refusal_follow`: what was done tells which partitions there are.
-/

namespace Collector

/-- One thing that is done with a broker. -/
inductive BrokerOp where
  /-- A topic is to be there. -/
  | createTopic (topic : String) (partitions : ℕ)
  /-- An envelope is sent to a partition. -/
  | publish (topic : String) (partition : ℤ) (envelope : Envelope)
  /-- A partition is opened. -/
  | openReader (topic : String) (partition : ℤ)
  /-- A writer is made. -/
  | makeWriter (topic key : String)
  /-- An envelope is sent through the writer at a place. -/
  | write (place : ℕ) (envelope : Envelope)
  /-- The reader at a place asks for the next envelope. -/
  | next (place : ℕ)
  /-- The reader at a place is dropped. -/
  | dropReader (place : ℕ)
  /-- The writer at a place is dropped. -/
  | dropWriter (place : ℕ)
  /-- All writers are dropped. -/
  | dropWriters
  /-- The broker is closed. -/
  | close

namespace BrokerOp

/-- Whether the broker is closed. -/
def isClose : BrokerOp → Bool
  | close => true
  | _ => false

/-- How many partitions a topic is to have, if it is not there yet. -/
def size? (topic : String) : BrokerOp → Option ℕ
  | createTopic name partitions => if name = topic then some (max partitions 1) else none
  | makeWriter name _ => if name = topic then some 1 else none
  | _ => none

end BrokerOp

/-- A reader, seen from outside. -/
structure Seat where
  /-- The topic that was opened. -/
  topic : String
  /-- The partition. -/
  partition : ℤ
  /-- Whether the reader is there. -/
  isOpen : Bool := true
  /-- What was sent to the partition since it was opened, and when the reader asked. -/
  mail : List (Mail Envelope) := []
  /-- What the reader got each time that it asked; nothing if it would have to wait, or if
  there will never be anything more. -/
  replies : List (Option Envelope) := []

namespace Seat

/-- Whether the reader is open at a partition. -/
def isAt (seat : Seat) (topic : String) (partition : ℤ) : Bool :=
  seat.isOpen && seat.topic = topic && seat.partition = partition

/-- An envelope is sent to a partition. -/
def hear (topic : String) (partition : ℤ) (e : Envelope) (seat : Seat) : Seat :=
  if seat.isAt topic partition then { seat with mail := seat.mail ++ [.sent e] } else seat

/-- The reader asks. -/
def ask (reply : Option Envelope) (seat : Seat) : Seat :=
  { seat with mail := seat.mail ++ [.asked], replies := seat.replies ++ [reply] }

/-- The reader is dropped. -/
def leave (seat : Seat) : Seat := { seat with isOpen := false }

end Seat

namespace Broker

/-- What the reader at a place gets when it asks. -/
def ask (b : Broker) (place : ℕ) : Option Envelope × Broker :=
  match b.next place with
  | some (.envelope e, b) => (some e, b)
  | some (_, b) => (none, b)
  | none => (none, b)

/-- The broker gets a writer. -/
def addWriter (b : Broker) (c : ℕ) (key : String) : Broker :=
  { b with writers := b.writers ++ [some ⟨c, key⟩] }

/-- The broker gets a reader at the newest end of a channel. -/
def addReader (b : Broker) (c : ℕ) : Broker :=
  { b with readers := b.readers ++ [some ⟨c, (b.sentTo c).length⟩] }

/-- The number of partitions of a topic; none if there is no such topic. -/
def size? (b : Broker) (topic : String) : Option ℕ := (b.topics.get? topic).map List.length

/-- From a power of two on, doubling ends at the least one that is large enough. -/
theorem roundUp_spec {n : ℕ} : ∀ (fuel k : ℕ), n ≤ 2 ^ (k + fuel) → (∀ i < k, 2 ^ i < n) →
    ∃ j, roundUp n fuel (2 ^ k) = 2 ^ j ∧ n ≤ 2 ^ j ∧ ∀ i < j, 2 ^ i < n := by
  intro fuel
  induction fuel with
  | zero =>
    intro k hle hless
    exact ⟨k, rfl, hle, hless⟩
  | succ fuel ih =>
    intro k hle hless
    rw [roundUp]
    split_ifs with henough
    · exact ⟨k, rfl, henough, hless⟩
    · rw [← pow_succ']
      refine ih (k + 1) (by rwa [Nat.add_right_comm]) ?_
      intro i hi
      rcases Nat.lt_succ_iff_lt_or_eq.1 hi with hi | rfl
      · exact hless i hi
      · exact not_le.1 henough

/-- The capacity is the least power of two that is at least what was asked for. -/
theorem capacityFor_spec (n : ℕ) :
    ∃ j, capacityFor n = 2 ^ j ∧ n ≤ 2 ^ j ∧ ∀ i < j, 2 ^ i < n :=
  roundUp_spec n 0 (by simpa using Nat.lt_two_pow_self.le) nofun

section Fields

variable (b : Broker) (c : ℕ) (e : Envelope) (topic : String) (partitions : ℕ)

@[simp] theorem capacity_send : (b.send c e).capacity = b.capacity := by unfold send; split <;> rfl

@[simp] theorem topics_send : (b.send c e).topics = b.topics := by unfold send; split <;> rfl

@[simp] theorem readers_send : (b.send c e).readers = b.readers := by unfold send; split <;> rfl

@[simp] theorem writers_send : (b.send c e).writers = b.writers := by unfold send; split <;> rfl

@[simp] theorem closed_send : (b.send c e).closed = b.closed := by unfold send; split <;> rfl

@[simp] theorem capacity_createTopic : (b.createTopic topic partitions).capacity = b.capacity := by
  unfold createTopic; split <;> rfl

@[simp] theorem readers_createTopic : (b.createTopic topic partitions).readers = b.readers := by
  unfold createTopic; split <;> rfl

@[simp] theorem writers_createTopic : (b.createTopic topic partitions).writers = b.writers := by
  unfold createTopic; split <;> rfl

@[simp] theorem closed_createTopic : (b.createTopic topic partitions).closed = b.closed := by
  unfold createTopic; split <;> rfl

@[simp] theorem closed_close : b.close.closed = true := by
  unfold close
  split_ifs with hclosed
  · exact hclosed
  · rfl

end Fields

/-- A topic that is to be there has as many partitions as it had, or else those that are
asked for. -/
theorem size?_createTopic (b : Broker) (name topic : String) (partitions : ℕ) :
    (b.createTopic name partitions).size? topic =
      (b.size? topic).or (if name = topic then some (max partitions 1) else none) := by
  unfold createTopic
  split_ifs with hthere hname hname
  · subst hname
    obtain ⟨cs, hcs⟩ := Option.isSome_iff_exists.1 hthere
    simp [size?, hcs]
  · simp
  · subst hname
    have hnone : b.topics.get? name = none := by simpa [KeyMap.contains] using hthere
    simp [size?, hnone]
  · simp [size?, KeyMap.get?_insert, Ne.symm hname]

/-- A reader that has something to read gets the first of it. -/
theorem ask_of_unread {b : Broker} {place : ℕ} {r : ChannelReader}
    (hr : b.readers[place]? = some (some r)) {e : Envelope} {rest : List Envelope}
    (hunread : b.unread r = e :: rest) :
    b.ask place = (some e, b.moveReader place { r with position := b.resume r + 1 }) := by
  have hreader : b.reader? place = some r := Option.join_eq_some_iff.2 hr
  simp only [ask, next, hreader, hunread]

/-- A reader that has nothing to read gets nothing. -/
theorem ask_of_unread_nil {b : Broker} {place : ℕ} {r : ChannelReader}
    (hr : b.readers[place]? = some (some r)) (hunread : b.unread r = []) :
    b.ask place = (none, b) := by
  have hreader : b.reader? place = some r := Option.join_eq_some_iff.2 hr
  simp only [ask, next, hreader, hunread]
  split_ifs
  · rfl
  · rfl

end Broker

/-- A broker, its readers seen from outside, and where its writers send to. -/
structure BrokerRun where
  /-- The broker. -/
  broker : Broker
  /-- The readers, by their places. -/
  seats : List Seat := []
  /-- The topics and partitions of the writers, by their places. -/
  desks : List (String × ℤ) := []

namespace BrokerRun

/-- The run after one more operation. -/
def act (s : BrokerRun) : BrokerOp → BrokerRun
  | .createTopic topic partitions => { s with broker := s.broker.createTopic topic partitions }
  | .publish topic partition e =>
    match s.broker.publish topic partition e with
    | .error _ => s
    | .ok (_, broker) => { s with broker, seats := s.seats.map (Seat.hear topic partition e) }
  | .openReader topic partition =>
    match s.broker.openReader topic partition with
    | .error _ => s
    | .ok (_, broker) => { s with broker, seats := s.seats ++ [{ topic, partition }] }
  | .makeWriter topic key =>
    match s.broker.makeWriter topic key with
    | (.error _, broker) => { s with broker }
    | (.ok _, broker) =>
      { s with
        broker
        desks := s.desks ++ [(topic, (Broker.partitionOf key ((broker.size? topic).getD 0) : ℤ))] }
  | .write place e =>
    match s.broker.writer? place, s.desks[place]? with
    | some w, some (topic, partition) =>
      { s with
        broker := s.broker.write w e
        seats := s.seats.map (Seat.hear topic partition (e.withMeta Setting.writerKey w.key)) }
    | _, _ => s
  | .next place =>
    match s.broker.reader? place with
    | none => s
    | some _ =>
      { s with
        broker := (s.broker.ask place).2
        seats := s.seats.modify place (Seat.ask (s.broker.ask place).1) }
  | .dropReader place =>
    { s with broker := s.broker.dropReader place, seats := s.seats.modify place Seat.leave }
  | .dropWriter place => { s with broker := s.broker.dropWriter place }
  | .dropWriters => { s with broker := s.broker.dropWriters, desks := [] }
  | .close => { s with broker := s.broker.close }

/-- Things are done one after another. -/
def follow (ops : List BrokerOp) (s : BrokerRun) : BrokerRun := ops.foldl act s

/-- A broker with which nothing was done yet. -/
def ofCapacity (n : ℕ) : BrokerRun := { broker := Broker.ofCapacity n }

theorem follow_concat (ops : List BrokerOp) (op : BrokerOp) (s : BrokerRun) :
    follow (ops ++ [op]) s = (follow ops s).act op := List.foldl_concat ..

end BrokerRun

/-! ## Partitions -/

/-- Why a partition cannot be sent to or opened, by whether the broker is closed and the
number of partitions of the topic. -/
def BrokerOp.refusal (closed : Bool) (size : Option ℕ) (topic : String) (partition : ℤ) :
    Option ClientError :=
  if closed then some .closed
  else
    match size with
    | none => some (.notFound ("topic " ++ topic))
    | some size =>
      if 0 ≤ partition ∧ partition < size then none
      else some (.notFound (Broker.partitionName topic partition))

namespace Broker

/-- The channel of a partition of a broker that is not closed. -/
structure HasChannel (b : Broker) (topic : String) (partition : ℤ) (c : ℕ) : Prop where
  /-- The broker is not closed. -/
  isOpen : b.closed = false
  /-- The topic has such a partition. -/
  place : ∃ (cs : List ℕ) (p : ℕ), b.topics.get? topic = some cs ∧ partition = p ∧ cs[p]? = some c

/-- A partition has a channel, unless it is refused. -/
theorem channel_cases (b : Broker) (topic : String) (partition : ℤ) :
    (∃ e, BrokerOp.refusal b.closed (b.size? topic) topic partition = some e ∧
      b.channel topic partition = .error e) ∨
    BrokerOp.refusal b.closed (b.size? topic) topic partition = none ∧
      ∃ c, b.channel topic partition = .ok c ∧ b.HasChannel topic partition c := by
  cases hclosed : b.closed with
  | true => exact .inl ⟨.closed, by simp [BrokerOp.refusal], by simp [channel, channels, hclosed]⟩
  | false =>
    cases htopic : b.topics.get? topic with
    | none =>
      refine .inl ⟨.notFound ("topic " ++ topic), ?_, ?_⟩
      · simp [BrokerOp.refusal, size?, htopic]
      · simp [channel, channels, hclosed, htopic]
    | some cs =>
      by_cases hplace : 0 ≤ partition ∧ partition < cs.length
      · obtain ⟨p, rfl⟩ := Int.eq_ofNat_of_zero_le hplace.1
        have hlt : p < cs.length := Int.ofNat_lt.1 hplace.2
        refine .inr ⟨?_, cs[p], ?_, hclosed, cs, p, htopic, rfl, List.getElem?_eq_getElem hlt⟩
        · simp [BrokerOp.refusal, size?, htopic, hlt]
        · simp [channel, channels, hclosed, htopic, hlt]
      · have hnone : (if 0 ≤ partition then cs[partition.toNat]? else none) = none := by
          split_ifs with hnonneg
          · exact List.getElem?_eq_none (by omega)
          · rfl
        refine .inl ⟨.notFound (partitionName topic partition), ?_, ?_⟩
        · simp [BrokerOp.refusal, size?, htopic, hplace]
        · simp only [channel, channels, hclosed, Bool.false_eq_true, if_false, htopic, hnone]

theorem size?_of_channels {b : Broker} {topic : String} {cs : List ℕ}
    (h : b.channels topic = .ok cs) : b.size? topic = some cs.length := by
  unfold channels at h
  split at h
  · cases h
  · split at h
    · cases h
    · next htopic =>
      cases h
      rw [size?, htopic, Option.map_some]

theorem hasChannel_of_channel {b : Broker} {topic : String} {partition : ℤ} {c : ℕ}
    (h : b.channel topic partition = .ok c) : b.HasChannel topic partition c := by
  rcases b.channel_cases topic partition with ⟨e, -, herror⟩ | ⟨-, c', hok, hchannel⟩
  · rw [h] at herror
    cases herror
  · obtain rfl : c = c' := Except.ok.inj (h.symm.trans hok)
    exact hchannel

end Broker

/-! ## What each operation does -/

namespace BrokerRun

/-- How one operation changes a run. -/
inductive Acted (s : BrokerRun) : BrokerOp → BrokerRun → Prop
  /-- The operation is refused, or there is no such reader or writer. -/
  | nothing (op : BrokerOp) (hsize : ∀ topic, BrokerOp.size? topic op = none)
      (hclose : op.isClose = false) : Acted s op s
  /-- A topic is there. -/
  | created (topic : String) (partitions : ℕ) :
      Acted s (.createTopic topic partitions)
        { s with broker := s.broker.createTopic topic partitions }
  /-- An envelope is sent to a partition. -/
  | published (topic : String) (partition : ℤ) (e : Envelope) (c : ℕ)
      (hchannel : s.broker.HasChannel topic partition c) :
      Acted s (.publish topic partition e)
        { s with
          broker := s.broker.send c e
          seats := s.seats.map (Seat.hear topic partition e) }
  /-- A reader sits down. -/
  | opened (topic : String) (partition : ℤ) (c : ℕ)
      (hchannel : s.broker.HasChannel topic partition c) :
      Acted s (.openReader topic partition)
        { s with broker := s.broker.addReader c, seats := s.seats ++ [{ topic, partition }] }
  /-- No writer is made, but its topic is there. -/
  | noWriter (topic key : String) :
      Acted s (.makeWriter topic key) { s with broker := s.broker.createTopic topic 1 }
  /-- A writer is made. -/
  | writer (topic key : String) (partition : ℤ) (c : ℕ)
      (hchannel : (s.broker.createTopic topic 1).HasChannel topic partition c) :
      Acted s (.makeWriter topic key)
        { s with
          broker := (s.broker.createTopic topic 1).addWriter c key
          desks := s.desks ++ [(topic, partition)] }
  /-- An envelope is sent through a writer, which adds its key. -/
  | wrote (place : ℕ) (e : Envelope) (w : ChannelWriter) (desk : String × ℤ)
      (hw : s.broker.writers[place]? = some (some w)) (hdesk : s.desks[place]? = some desk) :
      Acted s (.write place e)
        { s with
          broker := s.broker.send w.channel (e.withMeta Setting.writerKey w.key)
          seats := s.seats.map (Seat.hear desk.1 desk.2 (e.withMeta Setting.writerKey w.key)) }
  /-- A reader asks, and gets an envelope. -/
  | answered (place : ℕ) (r : ChannelReader) (e : Envelope) (rest : List Envelope)
      (hr : s.broker.readers[place]? = some (some r)) (hunread : s.broker.unread r = e :: rest) :
      Acted s (.next place)
        { s with
          broker := s.broker.moveReader place { r with position := s.broker.resume r + 1 }
          seats := s.seats.modify place (Seat.ask (some e)) }
  /-- A reader asks, and there is nothing to read. -/
  | unanswered (place : ℕ) (r : ChannelReader) (hr : s.broker.readers[place]? = some (some r))
      (hunread : s.broker.unread r = []) :
      Acted s (.next place) { s with seats := s.seats.modify place (Seat.ask none) }
  /-- A reader is dropped. -/
  | dropped (place : ℕ) :
      Acted s (.dropReader place)
        { s with broker := s.broker.dropReader place, seats := s.seats.modify place Seat.leave }
  /-- A writer is dropped. -/
  | droppedWriter (place : ℕ) :
      Acted s (.dropWriter place) { s with broker := s.broker.dropWriter place }
  /-- All writers are dropped. -/
  | droppedWriters : Acted s .dropWriters { s with broker := s.broker.dropWriters, desks := [] }
  /-- The broker is closed. -/
  | closed : Acted s .close { s with broker := s.broker.close }

theorem act_cases (s : BrokerRun) (op : BrokerOp) : Acted s op (s.act op) := by
  cases op with
  | createTopic topic partitions => exact .created topic partitions
  | publish topic partition e =>
    rcases s.broker.channel_cases topic partition with ⟨_, -, herror⟩ | ⟨-, c, hok, hchannel⟩
    · simp only [act, Broker.publish, herror]
      exact .nothing _ (fun _ => rfl) rfl
    · simp only [act, Broker.publish, hok]
      exact .published topic partition e c hchannel
  | openReader topic partition =>
    rcases s.broker.channel_cases topic partition with ⟨_, -, herror⟩ | ⟨-, c, hok, hchannel⟩
    · simp only [act, Broker.openReader, herror]
      exact .nothing _ (fun _ => rfl) rfl
    · simp only [act, Broker.openReader, hok]
      exact .opened topic partition c hchannel
  | makeWriter topic key =>
    cases hchannels : (s.broker.createTopic topic 1).channels topic with
    | error e =>
      simp only [act, Broker.makeWriter, hchannels]
      exact .noWriter topic key
    | ok cs =>
      cases hchannel : (s.broker.createTopic topic 1).channel topic
          (Broker.partitionOf key cs.length) with
      | error e =>
        simp only [act, Broker.makeWriter, hchannels, hchannel]
        exact .noWriter topic key
      | ok c =>
        have hsize := Broker.size?_of_channels hchannels
        have hacted := Acted.writer (s := s) topic key _ c (Broker.hasChannel_of_channel hchannel)
        simp only [act, Broker.makeWriter, hchannels, hchannel]
        rw [Broker.size?] at hsize ⊢
        rw [hsize]
        exact hacted
  | write place e =>
    cases hw : s.broker.writer? place with
    | none =>
      simp only [act, hw]
      exact .nothing _ (fun _ => rfl) rfl
    | some w =>
      cases hdesk : s.desks[place]? with
      | none =>
        simp only [act, hw, hdesk]
        exact .nothing _ (fun _ => rfl) rfl
      | some desk =>
        obtain ⟨topic, partition⟩ := desk
        simp only [act, hw, hdesk]
        exact .wrote place e w (topic, partition) (Option.join_eq_some_iff.1 hw) hdesk
  | next place =>
    cases hr : s.broker.reader? place with
    | none =>
      simp only [act, hr]
      exact .nothing _ (fun _ => rfl) rfl
    | some r =>
      have hplace := Option.join_eq_some_iff.1 hr
      cases hunread : s.broker.unread r with
      | nil =>
        simp only [act, hr, Broker.ask_of_unread_nil hplace hunread]
        exact .unanswered place r hplace hunread
      | cons e rest =>
        simp only [act, hr, Broker.ask_of_unread hplace hunread]
        exact .answered place r e rest hplace hunread
  | dropReader place => exact .dropped place
  | dropWriter place => exact .droppedWriter place
  | dropWriters => exact .droppedWriters
  | close => exact .closed

/-! ## What topics there are -/

section Topics

variable {s t : BrokerRun} {op : BrokerOp}

theorem Acted.closed_eq (h : Acted s op t) : t.broker.closed = (s.broker.closed || op.isClose) := by
  cases h with
  | nothing _ _ hclose => rw [hclose, Bool.or_false]
  | closed => simp [BrokerOp.isClose]
  | _ => simp [BrokerOp.isClose, Broker.addReader, Broker.addWriter, Broker.moveReader,
      Broker.dropReader, Broker.dropWriter, Broker.dropWriters]

theorem Acted.capacity_eq (h : Acted s op t) : t.broker.capacity = s.broker.capacity := by
  cases h with
  | closed =>
    show s.broker.close.capacity = s.broker.capacity
    unfold Broker.close
    split_ifs
    · rfl
    · rfl
  | _ => simp [Broker.addReader, Broker.addWriter, Broker.moveReader, Broker.dropReader,
      Broker.dropWriter, Broker.dropWriters]

theorem capacity_follow (ops : List BrokerOp) (s : BrokerRun) :
    (follow ops s).broker.capacity = s.broker.capacity := by
  induction ops using List.reverseRecOn with
  | nil => rfl
  | append_singleton ops op ih => rw [follow_concat, (act_cases _ op).capacity_eq, ih]

theorem Acted.size?_eq (h : Acted s op t) (hclose : op.isClose = false) (topic : String) :
    t.broker.size? topic = (s.broker.size? topic).or (op.size? topic) := by
  cases h with
  | nothing _ hsize => rw [hsize, Option.or_none]
  | created name partitions => exact s.broker.size?_createTopic name topic partitions
  | noWriter name key => exact s.broker.size?_createTopic name topic 1
  | writer name key => exact s.broker.size?_createTopic name topic 1
  | closed => cases hclose
  | _ => simp [BrokerOp.size?, Broker.size?, Broker.addReader, Broker.moveReader,
      Broker.dropReader, Broker.dropWriter, Broker.dropWriters]

/-- A broker is closed if it was ever closed; and one that is not has the topics that were
named, each with the partitions that it was first to have. -/
theorem topics_follow (n : ℕ) (ops : List BrokerOp) :
    (follow ops (ofCapacity n)).broker.closed = ops.any BrokerOp.isClose ∧
      (ops.any BrokerOp.isClose = false → ∀ topic,
        (follow ops (ofCapacity n)).broker.size? topic = ops.findSome? (BrokerOp.size? topic)) := by
  induction ops using List.reverseRecOn with
  | nil => exact ⟨rfl, fun _ _ => rfl⟩
  | append_singleton ops op ih =>
    obtain ⟨hclosed, hsize⟩ := ih
    have hacted := act_cases (follow ops (ofCapacity n)) op
    rw [follow_concat]
    refine ⟨?_, ?_⟩
    · rw [hacted.closed_eq, hclosed]
      simp
    · intro hany topic
      obtain ⟨hbefore, hop⟩ : ops.any BrokerOp.isClose = false ∧ op.isClose = false := by
        simpa [-List.any_eq_false] using hany
      rw [hacted.size?_eq hop, hsize hbefore]
      simp [List.findSome?_append]

/-- What was done tells which partitions are refused, and why. -/
theorem refusal_follow (n : ℕ) (ops : List BrokerOp) (topic : String) (partition : ℤ) :
    BrokerOp.refusal (follow ops (ofCapacity n)).broker.closed
        ((follow ops (ofCapacity n)).broker.size? topic) topic partition =
      BrokerOp.refusal (ops.any BrokerOp.isClose) (ops.findSome? (BrokerOp.size? topic)) topic
        partition := by
  obtain ⟨hclosed, hsize⟩ := topics_follow n ops
  rw [hclosed]
  cases hany : ops.any BrokerOp.isClose with
  | true => rfl
  | false => rw [hsize hany]

end Topics

end BrokerRun

end Collector
