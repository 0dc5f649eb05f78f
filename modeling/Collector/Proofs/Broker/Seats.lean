import Collector.Proofs.Broker.Run

/-!
# Readers and their channels

A channel of the memory broker of `harvest-core` belongs to one partition of one topic for
good, even after the broker is closed and forgets its topics (`BrokerRun.Sound.nodup`).  So
the channel of a reader holds what was sent to its partition since it was opened, and the
reader has to read what its mailbox has (`Seated`), whatever is done with the broker.

Main statements:

* `BrokerRun.Sound.send`: an envelope is sent to those who are open at the partition.
* `BrokerRun.Sound.acted`: what one operation preserves.
* `BrokerRun.exists_sound`: what holds after any operations.
-/

namespace Collector

/-! ## Channels after an operation -/

namespace Broker

variable {b : Broker} {c : ℕ} {e : Envelope}

theorem length_sent_send (b : Broker) (c : ℕ) (e : Envelope) :
    (b.send c e).sent.length = b.sent.length := by
  unfold send
  split_ifs
  · rfl
  · exact List.length_set

/-- A channel that is read keeps what is sent to it. -/
theorem sentTo_send_self (hcount : b.readerCount c ≠ 0) (hlt : c < b.sent.length) (e : Envelope) :
    (b.send c e).sentTo c = b.sentTo c ++ [e] := by
  rw [send, if_neg hcount]
  simp [sentTo, hlt]

theorem sentTo_send_of_ne {other : ℕ} (hne : c ≠ other) (e : Envelope) :
    (b.send c e).sentTo other = b.sentTo other := by
  unfold send
  split_ifs
  · rfl
  · simp [sentTo, List.getElem?_set_ne hne]

theorem sentTo_createTopic {other : ℕ} (hlt : other < b.sent.length) (topic : String)
    (partitions : ℕ) : (b.createTopic topic partitions).sentTo other = b.sentTo other := by
  unfold createTopic
  split_ifs
  · rfl
  · simp [sentTo, List.getElem?_append_left hlt]

theorem createTopic_of_not_contains {topic : String} (h : ¬ b.topics.contains topic = true)
    (partitions : ℕ) : b.createTopic topic partitions = { b with
      topics := b.topics.insert topic
        ((List.range (max partitions 1)).map (b.sent.length + ·))
      sent := b.sent ++ List.replicate (max partitions 1) [] } := if_neg h

theorem readerCount_ne_zero {place : ℕ} {r : ChannelReader}
    (hr : b.readers[place]? = some (some r)) : b.readerCount r.channel ≠ 0 := by
  refine (List.countP_pos_iff.2 ⟨some r, List.mem_of_getElem? hr, ?_⟩).ne'
  simp

end Broker

/-! ## Readers and their seats -/

/-- A reader has to read what its mailbox has. -/
structure Seated (addresses : List (String × ℤ)) (b : Broker) (r : Option ChannelReader)
    (seat : Seat) : Prop where
  /-- What the reader got is what its mailbox had for it. -/
  own : seat.replies = (Mailbox.follow b.capacity seat.mail).replies
  /-- The reader is there unless it was dropped. -/
  isOpen : seat.isOpen = r.isSome
  /-- The channel of the reader belongs to the partition, and holds what was sent since the reader
  was opened. -/
  reader : ∀ reader, r = some reader →
    addresses[reader.channel]? = some (seat.topic, seat.partition) ∧
      ∃ before, b.sentTo reader.channel =
          before ++ (Mailbox.follow b.capacity seat.mail).sent ∧
        reader.position = before.length + (Mailbox.follow b.capacity seat.mail).next

namespace Seated

variable {addresses addresses' : List (String × ℤ)} {b b' : Broker} {r : Option ChannelReader}
  {reader : ChannelReader} {seat : Seat}

/-- A reader goes on where its mailbox does. -/
theorem resume_eq {before : List Envelope} {m : Mailbox Envelope}
    (hsent : b.sentTo reader.channel = before ++ m.sent)
    (hposition : reader.position = before.length + m.next) :
    b.resume reader = before.length + m.place b.capacity := by
  rw [Broker.resume, hsent, hposition, List.length_append, Mailbox.place]
  omega

/-- What the reader has to read is what its mailbox has. -/
theorem unread (h : Seated addresses b (some reader) seat) :
    b.unread reader = (Mailbox.follow b.capacity seat.mail).unread b.capacity := by
  obtain ⟨-, before, hsent, hposition⟩ := h.reader reader rfl
  rw [Broker.unread, resume_eq hsent hposition, hsent, List.drop_length_add_append]
  rfl

/-- A reader is seated as it was if nothing is done with its channel. -/
theorem of_sentTo (h : Seated addresses b r seat) (hcapacity : b'.capacity = b.capacity)
    (haddresses : ∀ (c : ℕ) (a : String × ℤ), addresses[c]? = some a → addresses'[c]? = some a)
    (hsent : ∀ reader, r = some reader → b'.sentTo reader.channel = b.sentTo reader.channel) :
    Seated addresses' b' r seat := by
  refine ⟨by rw [hcapacity]; exact h.own, h.isOpen, ?_⟩
  intro reader hreader
  obtain ⟨haddress, before, hbefore⟩ := h.reader reader hreader
  rw [hcapacity, hsent reader hreader]
  exact ⟨haddresses _ _ haddress, before, hbefore⟩

/-- The reader is dropped. -/
theorem leave (h : Seated addresses b r seat) : Seated addresses b none seat.leave :=
  ⟨h.own, rfl, nofun⟩

/-- The reader asks, and there is nothing. -/
theorem ask_none (h : Seated addresses b (some reader) seat) (hunread : b.unread reader = []) :
    Seated addresses b (some reader) (seat.ask none) := by
  have hmail : Mailbox.follow b.capacity (seat.ask none).mail =
      { Mailbox.follow b.capacity seat.mail with
        replies := (Mailbox.follow b.capacity seat.mail).replies ++ [none] } := by
    rw [Seat.ask, Mailbox.follow_concat, Mailbox.act, ← h.unread, hunread]
  refine ⟨?_, h.isOpen, ?_⟩
  · rw [hmail, ← h.own]
    rfl
  · rw [hmail]
    exact h.reader

/-- The reader asks, and gets the first envelope that it has to read. -/
theorem ask_some (h : Seated addresses b (some reader) seat) {e : Envelope} {rest : List Envelope}
    (hunread : b.unread reader = e :: rest) {place : ℕ} :
    Seated addresses (b.moveReader place { reader with position := b.resume reader + 1 })
      (some { reader with position := b.resume reader + 1 }) (seat.ask (some e)) := by
  have hmail : Mailbox.follow b.capacity (seat.ask (some e)).mail =
      { Mailbox.follow b.capacity seat.mail with
        next := (Mailbox.follow b.capacity seat.mail).place b.capacity + 1
        read := (Mailbox.follow b.capacity seat.mail).read ++
          [(Mailbox.follow b.capacity seat.mail).place b.capacity]
        replies := (Mailbox.follow b.capacity seat.mail).replies ++ [some e] } := by
    rw [Seat.ask, Mailbox.follow_concat, Mailbox.act, ← h.unread, hunread]
  obtain ⟨haddress, before, hsent, hposition⟩ := h.reader reader rfl
  refine ⟨?_, h.isOpen, ?_⟩
  · show seat.replies ++ [some e] = (Mailbox.follow b.capacity (seat.ask (some e)).mail).replies
    rw [hmail, ← h.own]
  · rintro _ ⟨⟩
    refine ⟨haddress, before, ?_, ?_⟩
    · show b.sentTo reader.channel =
        before ++ (Mailbox.follow b.capacity (seat.ask (some e)).mail).sent
      rw [hmail]
      exact hsent
    · show b.resume reader + 1 =
        before.length + (Mailbox.follow b.capacity (seat.ask (some e)).mail).next
      rw [hmail, resume_eq hsent hposition]
      rfl

/-- An envelope is sent to the channel. -/
theorem hear (h : Seated addresses b (some reader) seat) {e : Envelope}
    (hcapacity : b'.capacity = b.capacity)
    (hsent : b'.sentTo reader.channel = b.sentTo reader.channel ++ [e]) :
    Seated addresses b' (some reader) { seat with mail := seat.mail ++ [.sent e] } := by
  have hmail : Mailbox.follow b.capacity (seat.mail ++ [.sent e]) =
      { Mailbox.follow b.capacity seat.mail with
        sent := (Mailbox.follow b.capacity seat.mail).sent ++ [e] } := by
    rw [Mailbox.follow_concat, Mailbox.act]
  obtain ⟨haddress, before, hbefore, hposition⟩ := h.reader reader rfl
  refine ⟨?_, h.isOpen, ?_⟩
  · rw [hcapacity, hmail]
    exact h.own
  · rintro _ ⟨⟩
    rw [hcapacity, hmail]
    exact ⟨haddress, before, by rw [hsent, hbefore, List.append_assoc], hposition⟩

end Seated

/-! ## What every operation keeps -/

namespace BrokerRun

/-- The partitions of a topic. -/
def partitionsOf (topic : String) (count : ℕ) : List (String × ℤ) :=
  (List.range count).map fun p : ℕ => (topic, (p : ℤ))

theorem getElem?_partitionsOf (topic : String) {count p : ℕ} (hp : p < count) :
    (partitionsOf topic count)[p]? = some (topic, (p : ℤ)) := by
  rw [partitionsOf, List.getElem?_map, List.getElem?_range hp, Option.map_some]

theorem fst_eq_of_mem_partitionsOf {topic : String} {count : ℕ} {a : String × ℤ}
    (ha : a ∈ partitionsOf topic count) : a.1 = topic := by
  obtain ⟨p, -, rfl⟩ := List.mem_map.1 ha
  rfl

theorem nodup_partitionsOf (topic : String) (count : ℕ) : (partitionsOf topic count).Nodup := by
  refine List.Nodup.map ?_ List.nodup_range
  intro p q hpq
  exact Int.ofNat_inj.1 (Prod.mk.inj hpq).2

/-- Channels belong to different partitions, and readers and writers have the channels of
theirs. -/
structure Sound (addresses : List (String × ℤ)) (s : BrokerRun) : Prop where
  /-- No partition has two channels. -/
  nodup : addresses.Nodup
  /-- The channels are there. -/
  length : addresses.length ≤ s.broker.sent.length
  /-- No channel is without an address, until the broker is closed. -/
  full : s.broker.closed = false → addresses.length = s.broker.sent.length
  /-- The topics look up their own channels. -/
  topics : s.broker.closed = false → ∀ (topic : String) (cs : List ℕ) (p c : ℕ),
    s.broker.topics.get? topic = some cs → cs[p]? = some c → addresses[c]? = some (topic, (p : ℤ))
  /-- Only topics that are there have channels. -/
  known : s.broker.closed = false → ∀ a ∈ addresses, s.broker.topics.contains a.1 = true
  /-- The readers are those that are seen. -/
  places : s.seats.length = s.broker.readers.length
  /-- Readers have to read what is written down for them. -/
  seats : ∀ (k : ℕ) (seat : Seat) (r : Option ChannelReader), s.seats[k]? = some seat →
    s.broker.readers[k]? = some r → Seated addresses s.broker r seat
  /-- The writers are those that are seen. -/
  desks : s.desks.length = s.broker.writers.length
  /-- Writers send to their partitions. -/
  writers : ∀ (k : ℕ) (w : ChannelWriter) (desk : String × ℤ),
    s.broker.writers[k]? = some (some w) → s.desks[k]? = some desk →
      addresses[w.channel]? = some desk

namespace Sound

variable {addresses : List (String × ℤ)} {s t : BrokerRun} {op : BrokerOp}

theorem address (h : Sound addresses s) {topic : String} {partition : ℤ} {c : ℕ}
    (hchannel : s.broker.HasChannel topic partition c) :
    addresses[c]? = some (topic, partition) := by
  obtain ⟨cs, p, htopic, rfl, hc⟩ := hchannel.place
  exact h.topics hchannel.isOpen topic cs p c htopic hc

theorem channel_lt (h : Sound addresses s) {c : ℕ} {a : String × ℤ} (hc : addresses[c]? = some a) :
    c < s.broker.sent.length :=
  (List.getElem?_eq_some_iff.1 hc).1.trans_le h.length

/-- One partition has one channel. -/
theorem channel_inj (h : Sound addresses s) {c d : ℕ} {a : String × ℤ}
    (hc : addresses[c]? = some a) (hd : addresses[d]? = some a) : c = d :=
  (List.getElem?_inj (List.getElem?_eq_some_iff.1 hc).1 h.nodup).1 (hc.trans hd.symm)

/-- A seat at a partition is the one of a reader of its channel. -/
theorem isAt_iff (h : Sound addresses s) {c : ℕ} {topic : String} {partition : ℤ}
    (hc : addresses[c]? = some (topic, partition)) {r : Option ChannelReader} {seat : Seat}
    (hseated : Seated addresses s.broker r seat) :
    seat.isAt topic partition = true ↔ ∃ reader, r = some reader ∧ reader.channel = c := by
  cases r with
  | none => simp [Seat.isAt, hseated.isOpen]
  | some reader =>
    obtain ⟨haddress, -⟩ := hseated.reader reader rfl
    have hopen : seat.isOpen = true := hseated.isOpen
    constructor
    · intro hat
      obtain ⟨htopic, hpartition⟩ : seat.topic = topic ∧ seat.partition = partition := by
        simpa [Seat.isAt, hopen] using hat
      rw [htopic, hpartition] at haddress
      exact ⟨reader, rfl, h.channel_inj haddress hc⟩
    · rintro ⟨_, ⟨⟩, rfl⟩
      obtain ⟨htopic, hpartition⟩ := Prod.mk.inj (Option.some.inj (hc.symm.trans haddress))
      simp [Seat.isAt, hopen, htopic, hpartition]

/-- As many readers are counted as are open at the partition. -/
theorem readerCount_eq (h : Sound addresses s) {c : ℕ} {topic : String} {partition : ℤ}
    (hc : addresses[c]? = some (topic, partition)) :
    s.broker.readerCount c = s.seats.countP (·.isAt topic partition) := by
  have hmap : s.seats.map (·.isAt topic partition) =
      s.broker.readers.map fun r => r.any fun r => r.channel = c := by
    apply List.ext_getElem?
    intro k
    rw [List.getElem?_map, List.getElem?_map]
    cases hseat : s.seats[k]? with
    | none =>
      rw [List.getElem?_eq_none (h.places ▸ List.getElem?_eq_none_iff.1 hseat)]
      rfl
    | some seat =>
      have hlt : k < s.broker.readers.length :=
        h.places ▸ (List.getElem?_eq_some_iff.1 hseat).1
      have hr := List.getElem?_eq_getElem hlt
      have hiff := h.isAt_iff hc (h.seats k seat _ hseat hr)
      rw [hr, Option.map_some, Option.map_some, Option.some.injEq, Bool.eq_iff_iff, hiff]
      simp only [Option.any_eq_true, decide_eq_true_eq]
  have hcount := congrArg (List.countP id) hmap
  rw [List.countP_map, List.countP_map] at hcount
  exact hcount.symm

/-- An envelope is sent to the channel of a partition. -/
theorem send (h : Sound addresses s) {c : ℕ} {topic : String} {partition : ℤ}
    (hc : addresses[c]? = some (topic, partition)) (e : Envelope) :
    Sound addresses { s with
      broker := s.broker.send c e
      seats := s.seats.map (Seat.hear topic partition e) } where
  nodup := h.nodup
  length := by rw [Broker.length_sent_send]; exact h.length
  full hclosed := by
    rw [Broker.closed_send] at hclosed
    rw [Broker.length_sent_send]
    exact h.full hclosed
  topics hclosed := by
    rw [Broker.closed_send] at hclosed
    rw [Broker.topics_send]
    exact h.topics hclosed
  known hclosed := by
    rw [Broker.closed_send] at hclosed
    rw [Broker.topics_send]
    exact h.known hclosed
  places := by rw [List.length_map, Broker.readers_send]; exact h.places
  seats k seat' r hseat' hr := by
    rw [List.getElem?_map] at hseat'
    obtain ⟨seat, hseat, rfl⟩ := Option.map_eq_some_iff.1 hseat'
    rw [Broker.readers_send] at hr
    have hseated := h.seats k seat r hseat hr
    have hiff := h.isAt_iff hc hseated
    by_cases hat : seat.isAt topic partition = true
    · obtain ⟨reader, rfl, rfl⟩ := hiff.1 hat
      rw [Seat.hear, if_pos hat]
      exact hseated.hear (Broker.capacity_send ..)
        (Broker.sentTo_send_self (Broker.readerCount_ne_zero hr) (h.channel_lt hc) e)
    · rw [Seat.hear, if_neg hat]
      refine hseated.of_sentTo (Broker.capacity_send ..) (fun _ _ ha => ha) ?_
      intro reader hreader
      exact Broker.sentTo_send_of_ne (fun heq => hat (hiff.2 ⟨reader, hreader, heq.symm⟩)) e
  desks := by rw [Broker.writers_send]; exact h.desks
  writers k w desk hw hdesk := by
    rw [Broker.writers_send] at hw
    exact h.writers k w desk hw hdesk

/-- A topic is there, and maybe new channels for it. -/
theorem extend (h : Sound addresses s) (topic : String) (partitions : ℕ)
    (new : List (String × ℤ)) (hnodup : (addresses ++ new).Nodup)
    (hlength : (addresses ++ new).length ≤ (s.broker.createTopic topic partitions).sent.length)
    (hfull : s.broker.closed = false →
      (addresses ++ new).length = (s.broker.createTopic topic partitions).sent.length)
    (htopics : s.broker.closed = false → ∀ (name : String) (cs : List ℕ) (p c : ℕ),
      (s.broker.createTopic topic partitions).topics.get? name = some cs → cs[p]? = some c →
        (addresses ++ new)[c]? = some (name, (p : ℤ)))
    (hknown : s.broker.closed = false → ∀ a ∈ addresses ++ new,
      (s.broker.createTopic topic partitions).topics.contains a.1 = true) :
    Sound (addresses ++ new) { s with broker := s.broker.createTopic topic partitions } := by
  have hold : ∀ (c : ℕ) (a : String × ℤ), addresses[c]? = some a →
      (addresses ++ new)[c]? = some a := by
    intro c a hc
    rw [List.getElem?_append_left (List.getElem?_eq_some_iff.1 hc).1, hc]
  refine ⟨hnodup, hlength, ?_, ?_, ?_, ?_, ?_, ?_, ?_⟩
  · intro hclosed
    exact hfull (by simpa using hclosed)
  · intro hclosed
    exact htopics (by simpa using hclosed)
  · intro hclosed
    exact hknown (by simpa using hclosed)
  · rw [Broker.readers_createTopic]
    exact h.places
  · intro k seat r hseat hr
    rw [Broker.readers_createTopic] at hr
    have hseated := h.seats k seat r hseat hr
    refine hseated.of_sentTo (Broker.capacity_createTopic ..) hold ?_
    intro reader hreader
    exact Broker.sentTo_createTopic (h.channel_lt (hseated.reader reader hreader).1) _ _
  · rw [Broker.writers_createTopic]
    exact h.desks
  · intro k w desk hw hdesk
    rw [Broker.writers_createTopic] at hw
    exact hold _ _ (h.writers k w desk hw hdesk)

/-- A topic that nobody has named gets new channels, all of its own. -/
theorem createTopic_new (h : Sound addresses s) (hclosed : s.broker.closed = false)
    {topic : String} (hthere : ¬ s.broker.topics.contains topic = true) (partitions : ℕ) :
    Sound (addresses ++ partitionsOf topic (max partitions 1))
      { s with broker := s.broker.createTopic topic partitions } := by
  have hlength := h.full hclosed
  have hbroker := Broker.createTopic_of_not_contains hthere partitions
  have hsame : (addresses ++ partitionsOf topic (max partitions 1)).length =
      (s.broker.createTopic topic partitions).sent.length := by
    rw [hbroker]
    simp [hlength, partitionsOf]
  refine h.extend topic partitions _ ?_ hsame.le (fun _ => hsame) ?_ ?_
  · refine List.nodup_append.2 ⟨h.nodup, nodup_partitionsOf _ _, ?_⟩
    rintro a ha _ hb rfl
    exact hthere (fst_eq_of_mem_partitionsOf hb ▸ h.known hclosed _ ha)
  · intro _ name cs p c hname hc
    rw [hbroker, KeyMap.get?_insert] at hname
    split_ifs at hname with heq
    · subst heq
      cases hname
      rw [List.getElem?_map] at hc
      obtain ⟨q, hq, rfl⟩ := Option.map_eq_some_iff.1 hc
      obtain ⟨hlt, hpq⟩ := List.getElem?_eq_some_iff.1 hq
      rw [List.getElem_range] at hpq
      subst hpq
      rw [List.length_range] at hlt
      rw [List.getElem?_append_right (by omega), hlength, Nat.add_sub_cancel_left]
      exact getElem?_partitionsOf _ hlt
    · have hold := h.topics hclosed name cs p c hname hc
      rw [List.getElem?_append_left (List.getElem?_eq_some_iff.1 hold).1]
      exact hold
  · intro _ a ha
    rw [hbroker, KeyMap.contains, KeyMap.get?_insert]
    split_ifs with heq
    · rfl
    · rcases List.mem_append.1 ha with hold | hnew
      · exact h.known hclosed a hold
      · exact absurd (fst_eq_of_mem_partitionsOf hnew) heq

/-- A topic is there. -/
theorem createTopic (h : Sound addresses s) (topic : String) (partitions : ℕ) :
    ∃ addresses', Sound addresses' { s with broker := s.broker.createTopic topic partitions } := by
  by_cases hthere : s.broker.topics.contains topic = true
  · rw [show s.broker.createTopic topic partitions = s.broker from if_pos hthere]
    exact ⟨addresses, h⟩
  cases hclosed : s.broker.closed with
  | false => exact ⟨_, h.createTopic_new hclosed hthere partitions⟩
  | true =>
    -- nobody will ever send to the new channels, or read them
    refine ⟨addresses ++ [], h.extend topic partitions [] ?_ ?_ ?_ ?_ ?_⟩
    · rw [List.append_nil]
      exact h.nodup
    · rw [Broker.createTopic_of_not_contains hthere, List.append_nil, List.length_append]
      exact h.length.trans (Nat.le_add_right _ _)
    all_goals
      intro hopen
      rw [hclosed] at hopen
      cases hopen

/-- A reader sits down at the newest end of its channel. -/
theorem openReader (h : Sound addresses s) {c : ℕ} {topic : String} {partition : ℤ}
    (hc : addresses[c]? = some (topic, partition)) :
    Sound addresses { s with
      broker := s.broker.addReader c
      seats := s.seats ++ [{ topic, partition }] } := by
  refine ⟨h.nodup, h.length, h.full, h.topics, h.known, ?_, ?_, h.desks, h.writers⟩
  · show (s.seats ++ [_]).length = (s.broker.readers ++ [_]).length
    simp [h.places]
  · intro k seat r hseat hr
    rcases Nat.lt_or_ge k s.seats.length with hlt | hge
    · rw [List.getElem?_append_left hlt] at hseat
      have hr' : s.broker.readers[k]? = some r := by
        rw [← hr]
        exact (List.getElem?_append_left (h.places ▸ hlt)).symm
      exact (h.seats k seat r hseat hr').of_sentTo rfl (fun _ _ ha => ha) fun _ _ => rfl
    · rw [List.getElem?_append_right hge, List.getElem?_singleton] at hseat
      have hr' : (if k - s.broker.readers.length = 0 then
          some (some (⟨c, (s.broker.sentTo c).length⟩ : ChannelReader)) else none) = some r := by
        rw [← List.getElem?_singleton, ← hr]
        exact (List.getElem?_append_right (h.places ▸ hge)).symm
      split_ifs at hseat hr'
      cases hseat
      cases hr'
      refine ⟨rfl, rfl, ?_⟩
      rintro _ ⟨⟩
      exact ⟨hc, s.broker.sentTo c, (List.append_nil _).symm, rfl⟩

/-- One reader is replaced, and its seat with it. -/
theorem replace (h : Sound addresses s) {place : ℕ} {r' : Option ChannelReader} {f : Seat → Seat}
    (hnew : ∀ seat r, s.seats[place]? = some seat → s.broker.readers[place]? = some r →
      Seated addresses { s.broker with readers := s.broker.readers.set place r' } r' (f seat)) :
    Sound addresses { s with
      broker := { s.broker with readers := s.broker.readers.set place r' }
      seats := s.seats.modify place f } := by
  refine ⟨h.nodup, h.length, h.full, h.topics, h.known, ?_, ?_, h.desks, h.writers⟩
  · show (s.seats.modify place f).length = (s.broker.readers.set place r').length
    rw [List.length_modify, List.length_set]
    exact h.places
  · intro k seat' r hseat' hr
    rw [List.getElem?_modify] at hseat'
    obtain ⟨seat, hseat, rfl⟩ := Option.map_eq_some_iff.1 hseat'
    have hr : (s.broker.readers.set place r')[k]? = some r := hr
    rw [List.getElem?_set] at hr
    by_cases hk : place = k
    · subst hk
      rw [if_pos rfl] at hr
      split_ifs at hr with hlt
      obtain rfl : r' = r := Option.some.inj hr
      rw [if_pos rfl]
      exact hnew seat _ hseat (List.getElem?_eq_getElem hlt)
    · rw [if_neg hk] at hr
      rw [if_neg hk]
      exact (h.seats k seat r hseat hr).of_sentTo rfl (fun _ _ ha => ha) fun _ _ => rfl

/-- A writer is made for a channel. -/
theorem addWriter (h : Sound addresses s) {c : ℕ} {desk : String × ℤ}
    (hc : addresses[c]? = some desk) (key : String) :
    Sound addresses { s with
      broker := s.broker.addWriter c key
      desks := s.desks ++ [desk] } := by
  refine ⟨h.nodup, h.length, h.full, h.topics, h.known, h.places, ?_, ?_, ?_⟩
  · intro k seat r hseat hr
    exact (h.seats k seat r hseat hr).of_sentTo rfl (fun _ _ ha => ha) fun _ _ => rfl
  · show (s.desks ++ [desk]).length = (s.broker.writers ++ [_]).length
    simp [h.desks]
  · intro k w desk' hw hdesk
    have hw : (s.broker.writers ++ [some ⟨c, key⟩])[k]? = some (some w) := hw
    rcases Nat.lt_or_ge k s.desks.length with hlt | hge
    · rw [List.getElem?_append_left hlt] at hdesk
      rw [List.getElem?_append_left (h.desks ▸ hlt)] at hw
      exact h.writers k w desk' hw hdesk
    · rw [List.getElem?_append_right hge, List.getElem?_singleton] at hdesk
      rw [List.getElem?_append_right (h.desks ▸ hge), List.getElem?_singleton] at hw
      split_ifs at hdesk hw
      cases hdesk
      cases hw
      exact hc

theorem dropWriter (h : Sound addresses s) (place : ℕ) :
    Sound addresses { s with broker := s.broker.dropWriter place } := by
  refine ⟨h.nodup, h.length, h.full, h.topics, h.known, h.places, ?_, ?_, ?_⟩
  · intro k seat r hseat hr
    exact (h.seats k seat r hseat hr).of_sentTo rfl (fun _ _ ha => ha) fun _ _ => rfl
  · show s.desks.length = (s.broker.writers.set place none).length
    rw [List.length_set]
    exact h.desks
  · intro k w desk hw hdesk
    have hw : (s.broker.writers.set place none)[k]? = some (some w) := hw
    rw [List.getElem?_set] at hw
    split_ifs at hw
    · cases hw
    · exact h.writers k w desk hw hdesk

theorem dropWriters (h : Sound addresses s) :
    Sound addresses { s with broker := s.broker.dropWriters, desks := [] } := by
  refine ⟨h.nodup, h.length, h.full, h.topics, h.known, h.places, ?_, rfl, nofun⟩
  intro k seat r hseat hr
  exact (h.seats k seat r hseat hr).of_sentTo rfl (fun _ _ ha => ha) fun _ _ => rfl

theorem close (h : Sound addresses s) : Sound addresses { s with broker := s.broker.close } := by
  cases hclosed : s.broker.closed with
  | true =>
    rw [show s.broker.close = s.broker from if_pos hclosed]
    exact h
  | false =>
    rw [show s.broker.close = { s.broker with closed := true, topics := KeyMap.empty } from
      if_neg (by simp [hclosed])]
    refine ⟨h.nodup, h.length, nofun, nofun, nofun, h.places, ?_, h.desks, h.writers⟩
    intro k seat r hseat hr
    exact (h.seats k seat r hseat hr).of_sentTo rfl (fun _ _ ha => ha) fun _ _ => rfl

/-- One operation leaves a sound broker sound. -/
theorem acted (h : Sound addresses s) (hacted : Acted s op t) :
    ∃ addresses', Sound addresses' t := by
  cases hacted with
  | nothing => exact ⟨addresses, h⟩
  | created topic partitions => exact h.createTopic topic partitions
  | published topic partition e c hchannel => exact ⟨addresses, h.send (h.address hchannel) e⟩
  | opened topic partition c hchannel => exact ⟨addresses, h.openReader (h.address hchannel)⟩
  | noWriter topic key => exact h.createTopic topic 1
  | writer topic key partition c hchannel =>
    obtain ⟨addresses', h'⟩ := h.createTopic topic 1
    exact ⟨addresses', h'.addWriter (h'.address hchannel) key⟩
  | wrote place e w desk hw hdesk =>
    exact ⟨addresses, h.send (h.writers place w desk hw hdesk) _⟩
  | answered place r e rest hr hunread =>
    refine ⟨addresses, h.replace ?_⟩
    intro seat r' hseat hr'
    obtain rfl : some r = r' := Option.some.inj (hr.symm.trans hr')
    exact (h.seats place seat _ hseat hr).ask_some hunread
  | unanswered place r hr hunread =>
    have hlt : place < s.broker.readers.length := (List.getElem?_eq_some_iff.1 hr).1
    have hsame : s.broker.readers.set place (some r) = s.broker.readers := by
      rw [← (List.getElem?_eq_some_iff.1 hr).2, List.set_getElem_self hlt]
    have hreplaced : Sound addresses { s with
        broker := { s.broker with readers := s.broker.readers.set place (some r) }
        seats := s.seats.modify place (Seat.ask none) } := by
      refine h.replace ?_
      intro seat r' hseat hr'
      rw [hsame]
      exact (h.seats place seat _ hseat hr).ask_none hunread
    rw [hsame] at hreplaced
    exact ⟨addresses, hreplaced⟩
  | dropped place =>
    refine ⟨addresses, h.replace ?_⟩
    intro seat r' hseat hr'
    have hleft := (h.seats place seat r' hseat hr').leave
    exact hleft.of_sentTo rfl (fun _ _ ha => ha) fun _ _ => rfl
  | droppedWriter place => exact ⟨addresses, h.dropWriter place⟩
  | droppedWriters => exact ⟨addresses, h.dropWriters⟩
  | closed => exact ⟨addresses, h.close⟩

end Sound

/-- Whatever was done with a broker, it is sound. -/
theorem exists_sound (n : ℕ) (ops : List BrokerOp) :
    ∃ addresses, Sound addresses (follow ops (ofCapacity n)) := by
  induction ops using List.reverseRecOn with
  | nil => exact ⟨[], List.nodup_nil, le_rfl, fun _ => rfl, nofun, nofun, rfl, nofun, rfl, nofun⟩
  | append_singleton ops op ih =>
    obtain ⟨addresses, hsound⟩ := ih
    rw [follow_concat]
    exact hsound.acted (act_cases _ op)

end BrokerRun

end Collector
