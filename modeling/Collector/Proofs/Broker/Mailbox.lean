import Mathlib.Data.List.ReduceOption
import Mathlib.Tactic

/-!
# What one reader gets

A reader of the memory broker of `harvest-core` sees what is sent while it is open, and
asks for one message at a time.  Of what it has not read only the newest messages are kept,
as many as the capacity; a reader that fell behind goes on with the oldest one that is
kept.  Nothing else plays a part: what a reader gets is a function of what was sent to it
and of when it asked (`Mailbox.follow`).

Main statements:

* `Mailbox.Exact.act`: what is sent or asked keeps the account of what was read.
* `Mailbox.exact_follow`: what is read lies at increasing places of what was sent, and a
  message is lost only to newer ones.
-/

namespace Collector

/-- What happens to one reader; `α` is what a message is. -/
inductive Mail (α : Type) where
  /-- A message is sent to the reader. -/
  | sent (message : α)
  /-- The reader asks for the next message. -/
  | asked

/-- The messages, in the order in which they were sent. -/
def Mail.messages {α : Type} (mail : List (Mail α)) : List α :=
  mail.filterMap fun
    | .sent message => some message
    | .asked => none

/-- What was sent to a reader, and what it has read of it. -/
structure Mailbox (α : Type) where
  /-- All messages, oldest first. -/
  sent : List α := []
  /-- The place after the last message that was read. -/
  next : ℕ := 0
  /-- The places of the messages that were read, oldest first. -/
  read : List ℕ := []
  /-- What the reader got each time that it asked. -/
  replies : List (Option α) := []

namespace Mailbox

variable {α : Type} {capacity : ℕ} {mail : List (Mail α)} {m : Mailbox α}

/-- The place of the message to be read next; only the newest ones are kept. -/
def place (capacity : ℕ) (m : Mailbox α) : ℕ := max m.next (m.sent.length - capacity)

/-- What there is to read, oldest first. -/
def unread (capacity : ℕ) (m : Mailbox α) : List α := m.sent.drop (m.place capacity)

/-- The mailbox after one event. -/
def act (capacity : ℕ) (m : Mailbox α) : Mail α → Mailbox α
  | .sent message => { m with sent := m.sent ++ [message] }
  | .asked =>
    match m.unread capacity with
    | [] => { m with replies := m.replies ++ [none] }
    | message :: _ =>
      { m with
        next := m.place capacity + 1
        read := m.read ++ [m.place capacity]
        replies := m.replies ++ [some message] }

/-- What a reader has that was opened before all of this. -/
def follow (capacity : ℕ) (mail : List (Mail α)) : Mailbox α := mail.foldl (act capacity) {}

theorem follow_concat (capacity : ℕ) (mail : List (Mail α)) (event : Mail α) :
    follow capacity (mail ++ [event]) = (follow capacity mail).act capacity event :=
  List.foldl_concat ..

/-- The account of what a reader has read. -/
structure Exact (capacity : ℕ) (mail : List (Mail α)) (m : Mailbox α) : Prop where
  /-- Everything that was sent is there. -/
  sent : m.sent = Mail.messages mail
  /-- What was read is part of what was sent up to the last message that was read. -/
  sublist : m.replies.reduceOption.Sublist (m.sent.take m.next)
  /-- The places of what was read. -/
  places : m.replies.reduceOption.map some = m.read.map (m.sent[·]?)
  /-- The places increase. -/
  increasing : m.read.Pairwise (· < ·)
  /-- The last place is the latest. -/
  below : ∀ i ∈ m.read, i < m.next
  /-- The reader goes on after the last place. -/
  next_eq : m.next = (m.read.getLast?.map (· + 1)).getD 0
  /-- The last place is one of a message. -/
  next_le : m.next ≤ m.sent.length
  /-- A message that was passed over was followed by as many newer ones as are kept,
  before the reader asked. -/
  lost : ∀ i < m.next, i ∉ m.read → ∃ before after, mail = before ++ .asked :: after ∧
    i + capacity < (Mail.messages before).length

theorem messages_concat_sent (mail : List (Mail α)) (message : α) :
    Mail.messages (mail ++ [.sent message]) = Mail.messages mail ++ [message] := by
  simp [Mail.messages]

theorem messages_concat_asked (mail : List (Mail α)) :
    Mail.messages (mail ++ [.asked]) = Mail.messages mail := by
  simp [Mail.messages]

/-- What was passed over before is so afterwards. -/
theorem Exact.lost_concat (h : Exact capacity mail m) (event : Mail α) {i : ℕ} (hi : i < m.next)
    (hread : i ∉ m.read) : ∃ before after, mail ++ [event] = before ++ .asked :: after ∧
      i + capacity < (Mail.messages before).length := by
  obtain ⟨before, after, rfl, hlt⟩ := h.lost i hi hread
  exact ⟨before, after ++ [event], by simp, hlt⟩

/-- A message is sent. -/
theorem Exact.sent_act (h : Exact capacity mail m) (message : α) :
    Exact capacity (mail ++ [.sent message]) (m.act capacity (.sent message)) where
  sent := by rw [messages_concat_sent, ← h.sent]; rfl
  sublist := by
    show m.replies.reduceOption.Sublist ((m.sent ++ [message]).take m.next)
    rw [List.take_append_of_le_length h.next_le]
    exact h.sublist
  places := by
    refine h.places.trans (List.map_congr_left fun i hi => ?_)
    exact (List.getElem?_append_left ((h.below i hi).trans_le h.next_le)).symm
  increasing := h.increasing
  below := h.below
  next_eq := h.next_eq
  next_le := by
    show m.next ≤ (m.sent ++ [message]).length
    rw [List.length_append]
    exact h.next_le.trans (Nat.le_add_right _ _)
  lost i hi hread := h.lost_concat _ hi hread

/-- A message is read: the one at its place, after the last one that was read. -/
theorem Exact.read_act (h : Exact capacity mail m) {message : α}
    (hmessage : m.sent[m.place capacity]? = some message) :
    Exact capacity (mail ++ [.asked])
      { m with
        next := m.place capacity + 1
        read := m.read ++ [m.place capacity]
        replies := m.replies ++ [some message] } := by
  obtain ⟨hlt, hget⟩ := List.getElem?_eq_some_iff.1 hmessage
  have hnext : m.next ≤ m.place capacity := le_max_left _ _
  refine ⟨?_, ?_, ?_, ?_, ?_, by simp, hlt, ?_⟩
  · rw [messages_concat_asked, ← h.sent]
  · have htake : m.sent.take (m.place capacity + 1) =
        m.sent.take (m.place capacity) ++ [message] := by
      rw [List.take_add_one, hmessage]
      rfl
    simp only [List.reduceOption_append, htake]
    exact (h.sublist.trans (List.take_sublist_take_left hnext)).append (List.Sublist.refl _)
  · simp [List.reduceOption_append, h.places, hmessage]
  · refine List.pairwise_append.2 ⟨h.increasing, List.pairwise_singleton _ _, ?_⟩
    intro i hi j hj
    rw [List.mem_singleton.1 hj]
    exact (h.below i hi).trans_le hnext
  · intro i hi
    rcases List.mem_append.1 hi with hi | hi
    · exact ((h.below i hi).trans_le hnext).trans (Nat.lt_succ_self _)
    · rw [List.mem_singleton.1 hi]
      exact Nat.lt_succ_self _
  · intro i hi hread
    obtain ⟨hold, hne⟩ : i ∉ m.read ∧ i ≠ m.place capacity := by
      simpa [not_or] using hread
    rcases Nat.lt_or_ge i m.next with hi' | hi'
    · exact h.lost_concat _ hi' hold
    · -- it was passed over just now: the place is the oldest one that is kept
      refine ⟨mail, [], rfl, ?_⟩
      rw [← h.sent]
      have hplace : m.place capacity = max m.next (m.sent.length - capacity) := rfl
      have hbefore : i < m.place capacity + 1 := hi
      omega

theorem Exact.act (h : Exact capacity mail m) (event : Mail α) :
    Exact capacity (mail ++ [event]) (m.act capacity event) := by
  cases event with
  | sent message => exact h.sent_act message
  | asked =>
    rw [Mailbox.act]
    cases hunread : m.unread capacity with
    | nil =>
      have hreplies : (m.replies ++ [none]).reduceOption = m.replies.reduceOption := by
        simp [List.reduceOption_append]
      refine ⟨?_, hreplies ▸ h.sublist, hreplies ▸ h.places, h.increasing, h.below, h.next_eq,
        h.next_le, ?_⟩
      · rw [messages_concat_asked, ← h.sent]
      · intro i hi hread
        exact h.lost_concat _ hi hread
    | cons message rest =>
      refine h.read_act ?_
      rw [← List.head?_drop]
      exact congrArg List.head? hunread

/-- What a reader has read is accounted for. -/
theorem exact_follow (capacity : ℕ) (mail : List (Mail α)) :
    Exact capacity mail (follow capacity mail) := by
  induction mail using List.reverseRecOn with
  | nil => exact ⟨rfl, List.nil_sublist _, rfl, List.Pairwise.nil, nofun, rfl, le_rfl, nofun⟩
  | append_singleton mail event ih =>
    rw [follow_concat]
    exact ih.act event

end Mailbox

end Collector
