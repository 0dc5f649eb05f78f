import Collector.Proofs.Broker.Seats

/-!
# What readers of a broker get

Whatever is done with a memory broker of `harvest-core`, and in whatever order: a reader
gets what was sent to its partition while it was open, in that order, but for the
envelopes that newer ones have displaced before it asked; and what cannot be sent to or
opened reaches nobody.

Main statements:

* `BrokerRun.Acted.felt`: what an operation does to a reader.
* `BrokerRun.delivery`: what readers get, what is lost, who is counted and who is refused.
-/

namespace Collector.BrokerRun

/-! ## What readers and senders see -/

/-- What a reader has, by what was sent to its partition and when it asked. -/
def box (s : BrokerRun) (seat : Seat) : Mailbox Envelope :=
  Mailbox.follow s.broker.capacity seat.mail

/-- The envelope that an operation sends to a partition. -/
inductive Sends (s : BrokerRun) (topic : String) (partition : ℤ) : BrokerOp → Envelope → Prop
  /-- The envelope is sent to the partition. -/
  | publish (e : Envelope) : Sends s topic partition (.publish topic partition e) e
  /-- The envelope is sent through a writer of the partition, which adds its key. -/
  | write (place : ℕ) (w : ChannelWriter) (e : Envelope)
      (hw : s.broker.writers[place]? = some (some w))
      (hdesk : s.desks[place]? = some (topic, partition)) :
      Sends s topic partition (.write place e) (e.withMeta Setting.writerKey w.key)

/-- What an operation does to a reader: nothing, unless it asks, is dropped, or something
is sent to its partition. -/
inductive Felt (s : BrokerRun) (op : BrokerOp) (k : ℕ) (seat : Seat) : Seat → Prop
  /-- The operation does nothing to the reader. -/
  | nothing : Felt s op k seat seat
  /-- The reader asks. -/
  | asked (reply : Option Envelope) (hop : op = .next k) : Felt s op k seat (seat.ask reply)
  /-- The reader is dropped. -/
  | dropped (hop : op = .dropReader k) : Felt s op k seat seat.leave
  /-- An envelope is sent to its partition. -/
  | sent (e : Envelope) (hsends : Sends s seat.topic seat.partition op e) :
      Felt s op k seat { seat with mail := seat.mail ++ [.sent e] }

/-- Readers get what was sent to their partitions, but for what newer envelopes have
displaced; and senders are told how many readers there are. -/
structure Delivers (n : ℕ) (ops : List BrokerOp) (s : BrokerRun) : Prop where
  /-- The capacity is the least power of two that is at least what was asked for. -/
  capacity : ∃ j, s.broker.capacity = 2 ^ j ∧ n ≤ 2 ^ j ∧ ∀ i < j, 2 ^ i < n
  /-- What a reader got depends on nothing but what was sent to its partition while it was
  open, and on when it asked. -/
  own : ∀ seat ∈ s.seats, seat.replies = (s.box seat).replies
  /-- What a reader got is a part of what was sent, in the same order. -/
  sublist : ∀ seat ∈ s.seats, seat.replies.reduceOption.Sublist (Mail.messages seat.mail)
  /-- What a reader got is what was sent at places that increase. -/
  places : ∀ seat ∈ s.seats, (s.box seat).read.Pairwise (· < ·) ∧
    seat.replies.reduceOption.map some = (s.box seat).read.map ((Mail.messages seat.mail)[·]?)
  /-- What a reader passed over was followed by as many newer envelopes as the capacity
  before it asked. -/
  lost : ∀ seat ∈ s.seats, ∀ i ∉ (s.box seat).read, (∃ j ∈ (s.box seat).read, i < j) →
    ∃ before after, seat.mail = before ++ .asked :: after ∧
      i + s.broker.capacity < (Mail.messages before).length
  /-- What a reader that is open has to read is what came after the last place, but only
  the newest envelopes, as many as the capacity. -/
  unread : ∀ (k : ℕ) (seat : Seat) (reader : ChannelReader), s.seats[k]? = some seat →
    s.broker.reader? k = some reader →
      s.broker.unread reader = (Mail.messages seat.mail).drop
        (max (((s.box seat).read.getLast?.map (· + 1)).getD 0)
          ((Mail.messages seat.mail).length - s.broker.capacity))
  /-- An open reader that asks gets the oldest of the envelopes that it has to read. -/
  asked : ∀ (k : ℕ) (seat : Seat) (reader : ChannelReader), s.seats[k]? = some seat →
    s.broker.reader? k = some reader →
      (s.act (.next k)).seats[k]? = some (seat.ask (s.broker.unread reader).head?)
  /-- An operation on other readers or other partitions does nothing to a reader. -/
  apart : ∀ (op : BrokerOp) (k : ℕ) (seat : Seat), s.seats[k]? = some seat →
    ∃ seat', (s.act op).seats[k]? = some seat' ∧ Felt s op k seat seat'
  /-- A partition can be sent to and opened unless it is refused; who sends to it is told
  how many readers are open there. -/
  counted : ∀ (topic : String) (partition : ℤ) (e : Envelope),
    BrokerOp.refusal (ops.any BrokerOp.isClose) (ops.findSome? (BrokerOp.size? topic)) topic
        partition = none →
      (∃ b, s.broker.publish topic partition e =
        .ok (s.seats.countP (·.isAt topic partition), b)) ∧
      ∃ b, s.broker.openReader topic partition = .ok (s.seats.length, b)
  /-- If the broker was closed, nobody has named the topic, or the partition is none of the
  first number that it was named with, this is an error, and nothing else happens. -/
  refused : ∀ (topic : String) (partition : ℤ) (e : Envelope) (error : ClientError),
    BrokerOp.refusal (ops.any BrokerOp.isClose) (ops.findSome? (BrokerOp.size? topic)) topic
        partition = some error →
      s.broker.publish topic partition e = .error error ∧
      s.broker.openReader topic partition = .error error ∧
      s.act (.publish topic partition e) = s ∧ s.act (.openReader topic partition) = s

namespace Sound

variable {addresses : List (String × ℤ)} {s : BrokerRun}

/-- What a reader got is what its mailbox had for it. -/
theorem own (h : Sound addresses s) {seat : Seat} (hseat : seat ∈ s.seats) :
    seat.replies = (s.box seat).replies := by
  obtain ⟨k, hk⟩ := List.getElem?_of_mem hseat
  have hlt : k < s.broker.readers.length := h.places ▸ (List.getElem?_eq_some_iff.1 hk).1
  exact (h.seats k seat _ hk (List.getElem?_eq_getElem hlt)).own

/-- What an open reader has to read is what its mailbox has. -/
theorem unread (h : Sound addresses s) {k : ℕ} {seat : Seat} {reader : ChannelReader}
    (hseat : s.seats[k]? = some seat) (hreader : s.broker.reader? k = some reader) :
    s.broker.unread reader = (s.box seat).unread s.broker.capacity :=
  (h.seats k seat _ hseat (Option.join_eq_some_iff.1 hreader)).unread

/-- A partition that is not refused can be sent to and opened. -/
theorem counted (h : Sound addresses s) {topic : String} {partition : ℤ}
    (hrefusal : BrokerOp.refusal s.broker.closed (s.broker.size? topic) topic partition = none)
    (e : Envelope) :
    (∃ b, s.broker.publish topic partition e =
      .ok (s.seats.countP (·.isAt topic partition), b)) ∧
    ∃ b, s.broker.openReader topic partition = .ok (s.seats.length, b) := by
  rcases s.broker.channel_cases topic partition with ⟨error, hrefused, -⟩ | ⟨-, c, hok, hchannel⟩
  · rw [hrefusal] at hrefused
    cases hrefused
  · refine ⟨⟨s.broker.send c e, ?_⟩, s.broker.addReader c, ?_⟩
    · rw [Broker.publish, hok, ← h.readerCount_eq (h.address hchannel)]
    · rw [Broker.openReader, hok, h.places]
      rfl

end Sound

/-- What is sent is sent to those who are open at the partition. -/
theorem Sends.felt {s : BrokerRun} {op : BrokerOp} {topic : String} {partition : ℤ}
    {e : Envelope} (h : Sends s topic partition op e) (k : ℕ) (seat : Seat) :
    Felt s op k seat (seat.hear topic partition e) := by
  rw [Seat.hear]
  split_ifs with hat
  · obtain ⟨⟨-, rfl⟩, rfl⟩ : (seat.isOpen = true ∧ seat.topic = topic) ∧
        seat.partition = partition := by simpa [Seat.isAt] using hat
    exact .sent e h
  · exact .nothing

/-- Only one seat is changed. -/
theorem felt_modify {s : BrokerRun} {op : BrokerOp} {place k : ℕ} {seat : Seat} {f : Seat → Seat}
    (hseat : s.seats[k]? = some seat) (hfelt : place = k → Felt s op k seat (f seat)) :
    ∃ seat', (s.seats.modify place f)[k]? = some seat' ∧ Felt s op k seat seat' := by
  by_cases hk : place = k
  · refine ⟨f seat, ?_, hfelt hk⟩
    rw [hk, List.getElem?_modify_eq, hseat]
    rfl
  · refine ⟨seat, ?_, .nothing⟩
    rw [List.getElem?_modify_ne _ _ hk, hseat]

/-- What an operation does to a reader. -/
theorem Acted.felt {s t : BrokerRun} {op : BrokerOp} (h : Acted s op t) {k : ℕ} {seat : Seat}
    (hseat : s.seats[k]? = some seat) :
    ∃ seat', t.seats[k]? = some seat' ∧ Felt s op k seat seat' := by
  cases h with
  | published topic partition e =>
    refine ⟨seat.hear topic partition e, ?_, (Sends.publish e).felt k seat⟩
    rw [List.getElem?_map, hseat, Option.map_some]
  | wrote place e w desk hw hdesk =>
    obtain ⟨topic, partition⟩ := desk
    refine ⟨seat.hear topic partition _, ?_, (Sends.write place w e hw hdesk).felt k seat⟩
    rw [List.getElem?_map, hseat, Option.map_some]
  | opened =>
    refine ⟨seat, ?_, .nothing⟩
    rw [List.getElem?_append_left (List.getElem?_eq_some_iff.1 hseat).1, hseat]
  | answered place r e =>
    exact felt_modify hseat fun hk => .asked (some e) (congrArg BrokerOp.next hk)
  | unanswered place =>
    exact felt_modify hseat fun hk => .asked none (congrArg BrokerOp.next hk)
  | dropped place => exact felt_modify hseat fun hk => .dropped (congrArg BrokerOp.dropReader hk)
  | _ => exact ⟨seat, hseat, .nothing⟩

/-- A partition that is refused is so to all, and nothing happens. -/
theorem act_refused {s : BrokerRun} {topic : String} {partition : ℤ} {error : ClientError}
    (hrefusal : BrokerOp.refusal s.broker.closed (s.broker.size? topic) topic partition =
      some error) (e : Envelope) :
    s.broker.publish topic partition e = .error error ∧
      s.broker.openReader topic partition = .error error ∧
      s.act (.publish topic partition e) = s ∧ s.act (.openReader topic partition) = s := by
  rcases s.broker.channel_cases topic partition with ⟨error', hrefused, herror⟩ | ⟨hnone, -⟩
  · obtain rfl : error = error' := Option.some.inj (hrefusal.symm.trans hrefused)
    have hpublish : s.broker.publish topic partition e = .error error := by
      rw [Broker.publish, herror]
    have hopen : s.broker.openReader topic partition = .error error := by
      rw [Broker.openReader, herror]
    refine ⟨hpublish, hopen, ?_, ?_⟩
    · simp only [act, hpublish]
    · simp only [act, hopen]
  · rw [hrefusal] at hnone
    cases hnone

/-- A reader that is open gets the first envelope that it has to read. -/
theorem act_next {s : BrokerRun} {k : ℕ} {seat : Seat} {reader : ChannelReader}
    (hseat : s.seats[k]? = some seat) (hreader : s.broker.reader? k = some reader) :
    (s.act (.next k)).seats[k]? = some (seat.ask (s.broker.unread reader).head?) := by
  have hplace := Option.join_eq_some_iff.1 hreader
  have hask : (s.broker.ask k).1 = (s.broker.unread reader).head? := by
    cases hunread : s.broker.unread reader with
    | nil => rw [Broker.ask_of_unread_nil hplace hunread]; rfl
    | cons e rest => rw [Broker.ask_of_unread hplace hunread]; rfl
  simp only [act, hreader, hask]
  rw [List.getElem?_modify_eq, hseat]
  rfl

/-- Whatever is done with a broker of any capacity. -/
theorem delivery (n : ℕ) (ops : List BrokerOp) : Delivers n ops (follow ops (ofCapacity n)) := by
  obtain ⟨addresses, hsound⟩ := exists_sound n ops
  have hexact : ∀ seat : Seat, Mailbox.Exact (follow ops (ofCapacity n)).broker.capacity seat.mail
      ((follow ops (ofCapacity n)).box seat) := fun seat => Mailbox.exact_follow _ _
  refine ⟨?_, fun seat hseat => hsound.own hseat, ?_, ?_, ?_, ?_,
    fun k seat reader hseat hreader => act_next hseat hreader,
    fun op k seat hseat => (act_cases _ op).felt hseat, ?_, ?_⟩
  · rw [capacity_follow]
    exact Broker.capacityFor_spec n
  · intro seat hseat
    rw [hsound.own hseat, ← (hexact seat).sent]
    exact (hexact seat).sublist.trans (List.take_sublist _ _)
  · intro seat hseat
    rw [hsound.own hseat, ← (hexact seat).sent]
    exact ⟨(hexact seat).increasing, (hexact seat).places⟩
  · rintro seat - i hread ⟨j, hj, hij⟩
    exact (hexact seat).lost i (hij.trans ((hexact seat).below j hj)) hread
  · intro k seat reader hseat hreader
    rw [hsound.unread hseat hreader, Mailbox.unread, Mailbox.place, (hexact seat).sent,
      (hexact seat).next_eq]
  · intro topic partition e hrefusal
    rw [← refusal_follow n ops] at hrefusal
    exact hsound.counted hrefusal e
  · intro topic partition e error hrefusal
    rw [← refusal_follow n ops] at hrefusal
    exact act_refused hrefusal e

/-- A channel of two envelopes: the reader passes over the first one of three, and the
count is that of the readers that are open. -/
example :
    let e (n : UInt8) : Envelope := .single [n]
    let s := follow [.createTopic "t" 2, .publish "t" 1 (e 0), .openReader "t" 1,
      .openReader "t" 0, .publish "t" 1 (e 1), .publish "t" 1 (e 2), .publish "t" 0 (e 9),
      .publish "t" 1 (e 3), .next 0, .close, .publish "t" 1 (e 4), .next 0, .next 0]
      (ofCapacity 2)
    s.seats.map Seat.replies = [[some (e 2), some (e 3), none], []] := by
  decide +kernel

end Collector.BrokerRun
