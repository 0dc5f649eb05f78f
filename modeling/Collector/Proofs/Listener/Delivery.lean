import Mathlib.Tactic
import Collector.Proofs.Listener.Steps
import Collector.Worker

/-!
# What a listener delivers

A partition listener of `harvest-core` hands the envelopes of its partition to the
dispatcher, in order and each once, up to the end of the partition or to where it takes
notice that it was cancelled (`Listener.Delivered`).  A loop of a worker that makes one
attempt at listening is such a listener (`Listener.Plays`).

Main statements:

* `Listener.exists_plays_begin`, `Listener.exists_plays_read`, `Listener.exists_plays_cancel`:
  a loop does what a listener does.
* `Listener.delivers`: what a listener hands to the dispatcher, and how it ends.
-/

namespace Collector

namespace Broker

variable {b : Broker} {place : ℕ} {r : ChannelReader}

theorem reader?_moveReader (hreader : b.reader? place = some r) (r' : ChannelReader) :
    (b.moveReader place r').reader? place = some r' := by
  have hlt : place < b.readers.length := by
    by_contra hge
    rw [reader?, List.getElem?_eq_none (Nat.le_of_not_lt hge)] at hreader
    cases hreader
  rw [reader?, moveReader, List.getElem?_set_self hlt]
  rfl

/-- A reader that has read everything has nothing to read. -/
theorem unread_newest (b : Broker) (channel : ℕ) :
    b.unread ⟨channel, (b.sentTo channel).length⟩ = [] :=
  List.drop_eq_nil_of_le (le_max_left _ _)

/-- A partition gives envelopes and perhaps its end; if it has not ended, it has nothing more to
give for now. -/
theorem readAll_cases (b : Broker) (place : ℕ) :
    (∃ es : List Envelope, (b.readAll place).1 = es.map .envelope ∧
      ((b.readAll place).2.readAll place).1 = []) ∨
    ∃ es : List Envelope, (b.readAll place).1 = es.map .envelope ++ [.ended] := by
  cases hreader : b.reader? place with
  | none =>
    refine .inl ⟨[], ?_, ?_⟩ <;> simp [readAll, hreader]
  | some r =>
    cases hlive : b.isLive r.channel with
    | false => exact .inr ⟨b.unread r, by simp [readAll, hreader, hlive]⟩
    | true =>
      refine .inl ⟨b.unread r, by simp [readAll, hreader, hlive], ?_⟩
      obtain ⟨moved, hmoved⟩ : ∃ moved, moved =
          b.moveReader place { r with position := (b.sentTo r.channel).length } := ⟨_, rfl⟩
      have hplace := reader?_moveReader hreader { r with position := (b.sentTo r.channel).length }
      have hunread : moved.unread { r with position := (b.sentTo r.channel).length } = [] := by
        rw [hmoved]
        exact unread_newest b r.channel
      have hstill : moved.isLive r.channel = true := by rwa [hmoved]
      rw [← hmoved] at hplace
      simp only [readAll, hreader]
      rw [← hmoved, hplace]
      simp [hunread, hstill]

end Broker

namespace Listener

variable {J : Type} {topic : String} {partition : ℤ} {d : Dispatcher J} {reads taken : List Read}
  {s t : Listening J} {stage : Stage} {cancelled : Bool}

/-! ## The loops of a worker -/

/-- A loop of a worker stands where a listener stands. -/
inductive Shows : LoopState → Stage → Prop
  /-- A loop that waits for the next message is a listener that reads. -/
  | reading (stream : Stream) (previous : Option ℕ) :
      Shows (.active (.reading stream) previous) .reading
  /-- A loop that waits after a failed read is a listener that will read again. -/
  | retrying (stream : Stream) (due : ℕ) (previous : Option ℕ) :
      Shows (.active (.retrying stream due) previous) .retrying
  /-- A loop that has ended is a listener that has ended with the same result. -/
  | finished (result : Except Exit Unit) : Shows (.finished result) (.finished result)

/-- A loop of a worker that makes one attempt is a listener; `before` is what the worker had
done before the loop began. -/
structure Plays (before : List (Event J)) (l : Loop) (w : Worker J) (s : Listening J) : Prop where
  /-- The loop makes one attempt. -/
  backoff : l.backoff = none
  /-- The loop stands where the listener stands. -/
  state : Shows l.state s.stage
  /-- The worker and the listener have the same jobs. -/
  dispatcher : w.dispatcher = s.dispatcher
  /-- Since the loop began the worker has done what the listener has done. -/
  trace : w.trace = before ++ s.events

/-- Where a listener stands once it has begun, by whether it was cancelled before and by what
it gets if it asks for its partition. -/
def Stage.begun (topic : String) (partition : ℤ) : Bool → Except ClientError Stream → Stage
  | true, _ => finished (.error .canceled)
  | false, .ok _ => reading
  | false, .error e => finished (.error (openFailed topic partition e))

/-- A loop reads as soon as it can, and at the moment until which a failed read has put it off. -/
inductive Reads (l : Loop) (w : Worker J) (stream : Stream) : Loop × Worker J → Prop
  /-- The loop waits for something to read. -/
  | settle (previous : Option ℕ) (hstate : l.state = .active (.reading stream) previous) :
      Reads l w stream (l.settle w)
  /-- The loop has waited after a failed read. -/
  | fire (previous : Option ℕ) (hstate : l.state = .active (.retrying stream w.now) previous) :
      Reads l w stream (l.fire w)

/-- Whenever a loop reads it reads in one way, and the listener is ready to read. -/
theorem Reads.spec {l : Loop} {w : Worker J} {stream : Stream} {result : Loop × Worker J}
    (h : Reads l w stream result) (hstate : Shows l.state s.stage) :
    ∃ previous, result = l.read stream previous w ∧
      ∀ topic partition, Reaches topic partition s { s with stage := .reading } := by
  generalize hstage : s.stage = stage at hstate
  cases h with
  | settle previous hreading =>
    rw [hreading] at hstate
    cases hstate
    refine ⟨previous, by simp only [Loop.settle, hreading], fun topic partition => ?_⟩
    rw [← hstage]
  | fire previous hretrying =>
    rw [hretrying] at hstate
    cases hstate
    refine ⟨previous, ?_, fun topic partition => .single (.again hstage)⟩
    simp [Loop.fire, Loop.due?, hretrying]

theorem openPartition_spec (w : Worker J) (topic : String) (partition : ℤ) :
    (w.openPartition topic partition).2.dispatcher = w.dispatcher ∧
      (w.openPartition topic partition).2.trace = w.trace ++ [.opened topic partition] := by
  unfold Worker.openPartition
  dsimp only
  split
  · exact ⟨rfl, rfl⟩
  · exact ⟨rfl, rfl⟩
  · split <;> exact ⟨rfl, rfl⟩

variable {before : List (Event J)} {l : Loop} {w : Worker J} {stream : Stream}
  {previous : Option ℕ}

/-- An attempt to listen ends at once if the partition cannot be opened. -/
theorem attempt_listen (topic : String) (partition : ℤ) (state : LoopState) (w : Worker J) :
    ∃ state', (Loop.mk (.listen topic partition) none state).attempt none w =
        (⟨.listen topic partition, none, state'⟩, (w.openPartition topic partition).2) ∧
      Shows state' (.begun topic partition false (w.openPartition topic partition).1) := by
  have honce : ∃ state', (Loop.mk (.listen topic partition) none state).attemptOnce none w =
        (⟨.listen topic partition, none, state'⟩, (w.openPartition topic partition).2) ∧
      Shows state' (.begun topic partition false (w.openPartition topic partition).1) := by
    obtain ⟨opened, w', hopen⟩ : ∃ opened w', w.openPartition topic partition = (opened, w') :=
      ⟨_, _, rfl⟩
    rw [hopen]
    cases opened with
    | error e =>
      refine ⟨_, ?_, .finished _⟩
      simp only [Loop.attemptOnce, Loop.beginListen, hopen]
      rfl
    | ok stream =>
      refine ⟨_, ?_, .reading stream none⟩
      simp only [Loop.attemptOnce, Loop.beginListen, hopen]
  obtain ⟨state', heq, hstate⟩ := honce
  refine ⟨state', ?_, hstate⟩
  unfold Loop.attempt
  cases w.outage.opens.length with
  | zero => exact heq
  | succ more =>
    rw [Loop.attemptUpTo, heq]
    -- a loop without delays does not rest
    generalize
      Stage.begun topic partition false (w.openPartition topic partition).1 = begun at hstate
    cases hstate <;> rfl

/-- A loop begins as a listener does, and is cancelled only if it was before it began. -/
theorem exists_plays_begin (topic : String) (partition : ℤ) (w : Worker J) (reads : List Read)
    (cancelled : Bool) :
    ∃ s, Reaches topic partition { cancelled, reads, dispatcher := w.dispatcher } s ∧
      s.reads = reads ∧ s.cancelled = cancelled ∧
      s.stage = .begun topic partition cancelled (w.openPartition topic partition).1 ∧
      Plays w.trace (Loop.begin (.listen topic partition) none cancelled w).1
        (Loop.begin (.listen topic partition) none cancelled w).2 s := by
  cases cancelled with
  | true =>
    exact ⟨_, .single (.refuse rfl rfl), rfl, rfl, rfl, rfl, .finished _, rfl,
      (List.append_nil _).symm⟩
  | false =>
    obtain ⟨hdispatcher, htrace⟩ := openPartition_spec w topic partition
    obtain ⟨state, hattempt, hstate⟩ :=
      attempt_listen topic partition (.finished (.error .canceled)) w
    have hbegin : Loop.begin (.listen topic partition) none false w = _ := hattempt
    rw [hbegin]
    have hask : Reaches topic partition { reads, dispatcher := w.dispatcher } _ :=
      .single (.ask rfl rfl)
    cases hopen : (w.openPartition topic partition).1 with
    | error e =>
      rw [hopen] at hstate
      exact ⟨_, hask.tail (.openFailed e rfl), rfl, rfl, rfl, rfl, hstate, hdispatcher, htrace⟩
    | ok stream =>
      rw [hopen] at hstate
      exact ⟨_, hask.tail (.opened rfl), rfl, rfl, rfl, rfl, hstate, hdispatcher, htrace⟩

/-- The jobs are left alone, and nothing is done. -/
def Kept (w w' : Worker J) : Prop := w'.dispatcher = w.dispatcher ∧ w'.trace = w.trace

theorem kept_pending (stream : Stream) (w : Worker J) : Kept w (Loop.pending stream w).2 := by
  cases stream <;> exact ⟨rfl, rfl⟩

theorem kept_putBack (stream : Stream) (left : List Read) (w : Worker J) :
    Kept w (Loop.putBack stream left w) := by
  cases stream <;> exact ⟨rfl, rfl⟩

theorem kept_letGo_reading (stream : Stream) (w : Worker J) :
    Kept w (Loop.letGo (.reading stream) w) := by
  cases stream <;> exact ⟨rfl, rfl⟩

theorem kept_letGo_retrying (stream : Stream) (due : ℕ) (w : Worker J) :
    Kept w (Loop.letGo (.retrying stream due) w) := by
  cases stream <;> exact ⟨rfl, rfl⟩

/-- A loop that reads dispatches the envelopes that it takes in, one after another, and does
nothing else. -/
theorem read_worker (l : Loop) (stream : Stream) (previous : Option ℕ) (w : Worker J) :
    (l.read stream previous w).2.dispatcher =
        (w.dispatcher.dispatchAll (envelopes (stretch (Loop.pending stream w).1).1)).1 ∧
      (l.read stream previous w).2.trace = w.trace ++
        (w.dispatcher.dispatchAll (envelopes (stretch (Loop.pending stream w).1).1)).2.flatten := by
  obtain ⟨hdispatcher, htrace⟩ := kept_pending stream w
  rw [← hdispatcher, ← htrace]
  simp only [Loop.read, consume_eq]
  split
  · exact ⟨rfl, rfl⟩
  · exact kept_putBack ..
  · exact kept_letGo_reading ..

/-- A loop that makes one attempt stands behind what it has taken in, and after a failed read it
reads on when it has waited for a while. -/
theorem read_loop (hbackoff : l.backoff = none) (stream : Stream) (previous : Option ℕ)
    (w : Worker J) :
    (l.read stream previous w).1.backoff = none ∧
      Shows (l.read stream previous w).1.state
        (.behind (stretch (Loop.pending stream w).1).1) ∧
      (Stage.behind (stretch (Loop.pending stream w).1).1 = .retrying →
        (l.read stream previous w).1.due? = some (w.now + retryMs)) := by
  have hnow : (Loop.pending stream w).2.now = w.now := by
    cases stream <;> rfl
  simp only [Loop.read, consume_eq]
  rw [← standing_behind (stretch (Loop.pending stream w).1).2, ← hnow]
  generalize Next.behind (stretch (Loop.pending stream w).1).2
    (stretch (Loop.pending stream w).1).1 = next
  cases next with
  | waits => exact ⟨hbackoff, .reading stream previous, nofun⟩
  | retries left => exact ⟨hbackoff, .retrying stream _ previous, fun _ => rfl⟩
  | ends =>
    simp only [Loop.afterAttempt, hbackoff]
    exact ⟨trivial, .finished _, nofun⟩

/-- What a loop does not take in is still there to be read, unless the loop has ended. -/
theorem pending_read (l : Loop) (stream : Stream) (previous : Option ℕ) (w : Worker J)
    (hopen : ∀ exit, Stage.behind (stretch (Loop.pending stream w).1).1 ≠ .finished exit) :
    (Loop.pending stream (l.read stream previous w).2).1 =
      (stretch (Loop.pending stream w).1).2 := by
  have hstage := standing_behind (stretch (Loop.pending stream w).1).2
    (stretch (Loop.pending stream w).1).1
  simp only [Loop.read, consume_eq]
  cases stream with
  | given =>
    split
    · rename_i hwaits
      rw [hwaits] at hstage
      exact (left_of_waits hstage.symm).symm
    · rename_i hretries
      exact left_of_retries hretries
    · rename_i hends
      rw [hends] at hstage
      exact absurd hstage.symm (hopen _)
  | partition reader =>
    -- a partition gives envelopes and perhaps its end, and after that nothing
    obtain ⟨es, hread, hnone⟩ | ⟨es, hread⟩ := Broker.readAll_cases w.broker reader
    · obtain ⟨hstretch, hbehind⟩ := stretch_envelopes es []
      have hpending : (Loop.pending (.partition reader) w).1 = es.map .envelope ++ [] := by
        rw [List.append_nil]
        exact hread
      rw [hpending, hstretch, hbehind]
      exact hnone
    · obtain ⟨hstretch, hbehind⟩ := stretch_envelopes es [.ended]
      have hpending : (Loop.pending (.partition reader) w).1 = es.map .envelope ++ [.ended] := hread
      rw [hpending, hstretch, hbehind] at hstage
      rw [hpending, hstretch] at hopen
      exact absurd hstage.symm (hopen _)

/-- A loop reads as a listener does. -/
theorem exists_plays_read (topic : String) (partition : ℤ) (h : Plays before l w s)
    {result : Loop × Worker J} (hread : Reads l w stream result)
    (hreads : s.reads = (Loop.pending stream w).1) :
    ∃ t, Reaches topic partition s t ∧ Took s (stretch s.reads).1 (stretch s.reads).2 t ∧
      Plays before result.1 result.2 t ∧
      (t.stage = .retrying → result.1.due? = some (w.now + retryMs)) ∧
      ((∀ exit, t.stage ≠ .finished exit) → (Loop.pending stream result.2).1 = t.reads) := by
  obtain ⟨previous, rfl, hready⟩ := hread.spec h.state
  obtain ⟨t, hreaches, htook⟩ :=
    exists_took topic partition (s := { s with stage := .reading }) rfl
  have htaken : Took s (stretch s.reads).1 (stretch s.reads).2 t := ⟨htook.handed, htook.reads,
    htook.stage, htook.dispatcher, htook.events, htook.cancelled⟩
  obtain ⟨hdispatcher, htrace⟩ := read_worker l stream previous w
  obtain ⟨hbackoff, hshows, hdue⟩ := read_loop h.backoff stream previous w
  rw [← hreads] at hdispatcher htrace hshows hdue
  refine ⟨t, (hready topic partition).trans hreaches, htaken, ⟨hbackoff, ?_, ?_, ?_⟩, ?_, ?_⟩
  · rwa [htaken.stage]
  · rw [hdispatcher, htaken.dispatcher, h.dispatcher]
  · rw [htrace, htaken.events, h.trace, h.dispatcher, List.append_assoc]
  · rwa [htaken.stage]
  · intro hopen
    rw [htaken.stage, hreads] at hopen
    rw [htaken.reads, pending_read l stream previous w hopen, hreads]

/-- A cancelled loop ends as a listener does. -/
theorem exists_plays_cancel (topic : String) (partition : ℤ) (h : Plays before l w s) :
    ∃ t, Reaches topic partition s t ∧ t.handed = s.handed ∧ t.reads = s.reads ∧
      (∃ exit, t.stage = .finished exit) ∧ (s.stage.Open → t.stage = .finished (.ok ())) ∧
      Plays before (l.cancel w).1 (l.cancel w).2 t := by
  obtain ⟨hbackoff, hstate, hdispatcher, htrace⟩ := h
  obtain ⟨duty, backoff, state⟩ := l
  have hcancel : Reaches topic partition s _ := .single .cancel
  generalize hstage : s.stage = stage at hstate
  cases hstate with
  | reading stream previous =>
    obtain ⟨hkept, htraced⟩ := kept_letGo_reading stream w
    exact ⟨_, hcancel.tail (.stopped (.inl hstage) rfl), rfl, rfl, ⟨_, rfl⟩, fun _ => rfl, hbackoff,
      .finished _, hkept.trans hdispatcher, htraced.trans htrace⟩
  | retrying stream due previous =>
    obtain ⟨hkept, htraced⟩ := kept_letGo_retrying stream due w
    exact ⟨_, hcancel.tail (.stopped (.inr hstage) rfl), rfl, rfl, ⟨_, rfl⟩, fun _ => rfl, hbackoff,
      .finished _, hkept.trans hdispatcher, htraced.trans htrace⟩
  | finished result =>
    refine ⟨s, .refl, rfl, rfl, ⟨result, hstage⟩, nofun, hbackoff, ?_, hdispatcher, htrace⟩
    rw [hstage]
    exact .finished result

/-! ## What is delivered -/

/-- What is true of a listener that began with a dispatcher and something to read. -/
structure Delivered (topic : String) (partition : ℤ) (d : Dispatcher J) (reads : List Read)
    (s : Listening J) : Prop where
  /-- The listener has taken the beginning of what there was to read, has handed on the envelopes of
  that, and stands where that leads to. -/
  account : ∃ taken, Account topic partition d reads taken s
  /-- No envelope is dropped, repeated or handed on out of order, whatever reads fail, and none
  behind the end of the partition is handed on. -/
  in_order : s.handed <+: envelopes (untilEnd reads)
  /-- Except while one is being dispatched, all envelopes that were handed on are dispatched to
  their ends. -/
  dispatched : (∀ left, s.stage ≠ .dispatching left) →
    s.dispatcher = (d.dispatchAll s.handed).1 ∧
      s.events = s.stage.asked topic partition ++ (d.dispatchAll s.handed).2.flatten
  /-- A listener that was not cancelled ends well only at the end of its partition, and has
  handed on all envelopes before it. -/
  ended : s.stage = .finished (.ok ()) → s.cancelled = false →
    s.handed = envelopes (untilEnd reads) ∧ ∃ r ∈ reads, r.isEnd = true
  /-- A listener that does not end well has taken nothing: it was cancelled before it asked for
  its partition, or could not open it. -/
  unopened : ∀ e, s.stage = .finished (.error e) →
    s.handed = [] ∧ s.reads = reads ∧ s.dispatcher = d ∧
      (e = .canceled ∧ s.cancelled = true ∧ s.events = [] ∨
        ∃ cause, e = openFailed topic partition cause ∧ s.events = [.opened topic partition])
  /-- The listener goes on until it has ended, or waits for something to be sent; one that is
  cancelled need not read any further. -/
  onward : (∃ result, s.stage = .finished result) ∨
    (s.stage = .reading ∧ s.reads = [] ∧ s.cancelled = false) ∨
    ∃ t, Step topic partition s t ∧ t.cancelled = s.cancelled ∧
      (s.cancelled = true → t.reads = s.reads)
  /-- A listener that is cancelled can end well without handing on anything more, if its partition
  is open. -/
  stops : s.cancelled = true → s.stage.Open →
    ∃ t, Reaches topic partition s t ∧ t.stage = .finished (.ok ()) ∧ t.handed = s.handed
  /-- Every step but a cancellation takes the listener nearer to its end, so it does not go on for
  ever. -/
  nearer : ∀ t, Step topic partition s t → t = { s with cancelled := true } ∨ size t < size s

/-- The end of the partition is the last thing that is taken. -/
theorem Told.taken_cases (h : Told topic partition taken cancelled stage) :
    (∀ r ∈ taken, r.isEnd = false) ∨
      ∃ before, taken = before ++ [.ended] ∧ ∀ r ∈ before, r.isEnd = false := by
  cases h with
  | fresh htaken | refused htaken | opening htaken | unopened _ htaken =>
    rw [htaken]
    exact .inl nofun
  | «open» _ htaken | stopped _ htaken => exact .inl htaken
  | ended htaken hbefore => exact .inr ⟨_, htaken, hbefore⟩

/-- What was taken up to the end of the partition. -/
theorem envelopes_untilEnd_ended {before rest : List Read}
    (hbefore : ∀ r ∈ before, r.isEnd = false) :
    envelopes (untilEnd (before ++ [.ended] ++ rest)) = envelopes (before ++ [.ended]) := by
  have hend : untilEnd (.ended :: rest) = [] := rfl
  have hlast : envelopes [.ended] = [] := rfl
  rw [List.append_assoc, List.singleton_append, untilEnd_append hbefore, hend, envelopes_append,
    envelopes_append, hlast]
  rfl

theorem Account.in_order (h : Account topic partition d reads taken s) :
    s.handed <+: envelopes (untilEnd reads) := by
  rw [h.handed, h.reads_eq]
  rcases h.told.taken_cases with htaken | ⟨before, htaken, hbefore⟩
  · rw [untilEnd_append htaken, envelopes_append]
    exact List.prefix_append _ _
  · rw [htaken, envelopes_untilEnd_ended hbefore]

theorem Account.dispatched (h : Account topic partition d reads taken s)
    (hstage : ∀ left, s.stage ≠ .dispatching left) :
    s.dispatcher = (d.dispatchAll s.handed).1 ∧
      s.events = s.stage.asked topic partition ++ (d.dispatchAll s.handed).2.flatten := by
  obtain ⟨events, hevents, hworks⟩ := h.works
  have hleft : s.stage.left = [] := by
    unfold Stage.left
    split
    · rename_i left hdispatching
      exact absurd hdispatching (hstage left)
    · rfl
  rw [hleft] at hworks
  obtain ⟨hdispatcher, rfl⟩ := hworks.whole
  exact ⟨hdispatcher, hevents⟩

theorem Account.ended (h : Account topic partition d reads taken s)
    (hstage : s.stage = .finished (.ok ())) (hcancelled : s.cancelled = false) :
    s.handed = envelopes (untilEnd reads) ∧ ∃ r ∈ reads, r.isEnd = true := by
  have htold := h.told
  rw [hstage, hcancelled] at htold
  rw [h.handed, h.reads_eq]
  cases htold with
  | «open» hopen => cases hopen
  | stopped hstopped => cases hstopped
  | ended htaken hbefore =>
    rw [htaken]
    exact ⟨(envelopes_untilEnd_ended hbefore).symm, .ended, by simp, rfl⟩

theorem Account.unopened (h : Account topic partition d reads taken s) {e : Exit}
    (hstage : s.stage = .finished (.error e)) :
    s.handed = [] ∧ s.reads = reads ∧ s.dispatcher = d ∧
      (e = .canceled ∧ s.cancelled = true ∧ s.events = [] ∨
        ∃ cause, e = openFailed topic partition cause ∧ s.events = [.opened topic partition]) := by
  have hnone : taken = [] → s.handed = [] ∧ s.reads = reads ∧ s.dispatcher = d ∧
      s.events = (Stage.finished (.error e)).asked topic partition := by
    intro htaken
    have hhanded := h.handed
    have hreads := h.reads_eq
    obtain ⟨events, hevents, hworks⟩ := h.works
    rw [htaken] at hhanded hreads
    rw [hhanded] at hworks
    obtain ⟨-, hdispatcher, rfl⟩ := hworks.of_nil
    rw [List.append_nil, hstage] at hevents
    exact ⟨hhanded, hreads.symm, hdispatcher, hevents⟩
  have htold := h.told
  rw [hstage] at htold
  cases htold with
  | refused htaken hcancelled =>
    obtain ⟨hhanded, hreads, hdispatcher, hevents⟩ := hnone htaken
    exact ⟨hhanded, hreads, hdispatcher, .inl ⟨rfl, hcancelled, hevents⟩⟩
  | unopened cause htaken =>
    obtain ⟨hhanded, hreads, hdispatcher, hevents⟩ := hnone htaken
    rw [asked_openFailed] at hevents
    exact ⟨hhanded, hreads, hdispatcher, .inr ⟨cause, rfl, hevents⟩⟩
  | «open» hopen => cases hopen

theorem delivered_of_reaches
    (h : Reaches topic partition { cancelled, reads, dispatcher := d } s) :
    Delivered topic partition d reads s := by
  obtain ⟨taken, haccount⟩ := exists_account_of_reaches h
  exact ⟨⟨taken, haccount⟩, haccount.in_order, haccount.dispatched, haccount.ended,
    fun _ => haccount.unopened, exists_step topic partition s,
    exists_reaches_ok topic partition, fun _ => Step.size_lt⟩

/-- A closed broker stays closed, anything else may pass. -/
theorem openFailed_cases (topic : String) (partition : ℤ) (cause : ClientError) :
    (cause = .closed ∧ ∃ reason, openFailed topic partition cause = .fatal reason) ∨
      cause ≠ .closed ∧ ∃ reason, openFailed topic partition cause = .fail reason := by
  cases cause with
  | closed => exact .inl ⟨rfl, _, rfl⟩
  | connect _ | request _ | notFound _ | alreadyExists _ => exact .inr ⟨nofun, _, rfl⟩

/-- **Delivery.**  What is true of a listener wherever it stands, whatever there was to read and
whenever it was cancelled (`Delivered`).  If it was cancelled before it began it does not even
ask for its partition.  If the partition cannot be opened a restart may help unless the broker
is closed.

And a loop of a worker is such a listener.  It begins as the broker's answer lets it, and is
cancelled only if it was before.  Whenever it reads it takes in all there is, up to a failed read
or to the end of the partition: the envelopes are handed on in order, each once, and dispatched to
their ends, and what is behind a failed read is still there when the loop reads on.  A loop that
is cancelled ends without handing anything on. -/
theorem delivers (topic : String) (partition : ℤ) (d : Dispatcher J) (reads : List Read) :
    (∀ cancelled s, Reaches topic partition { cancelled, reads, dispatcher := d } s →
      Delivered topic partition d reads s ∧
        (cancelled = true → s.stage.Idle ∧ s.cancelled = true ∧ s.events = [] ∧
          s.dispatcher = d ∧ s.reads = reads)) ∧
    (∀ cause, (cause = .closed ∧ ∃ reason, openFailed topic partition cause = .fatal reason) ∨
      cause ≠ .closed ∧ ∃ reason, openFailed topic partition cause = .fail reason) ∧
    (∀ (w : Worker J) (cancelled : Bool), w.dispatcher = d →
      ∃ s, Reaches topic partition { cancelled, reads, dispatcher := d } s ∧ s.reads = reads ∧
        s.cancelled = cancelled ∧
        s.stage = .begun topic partition cancelled (w.openPartition topic partition).1 ∧
        Plays w.trace (Loop.begin (.listen topic partition) none cancelled w).1
          (Loop.begin (.listen topic partition) none cancelled w).2 s) ∧
    ∀ before l w (s : Listening J), Plays before l w s →
      (∀ stream (result : Loop × Worker J), Reads l w stream result →
        s.reads = (Loop.pending stream w).1 →
          ∃ t, Reaches topic partition s t ∧
            Took s (stretch s.reads).1 (stretch s.reads).2 t ∧ Plays before result.1 result.2 t ∧
            (t.stage = .retrying → result.1.due? = some (w.now + retryMs)) ∧
            ((∀ exit, t.stage ≠ .finished exit) → (Loop.pending stream result.2).1 = t.reads)) ∧
      ∃ t, Reaches topic partition s t ∧ t.handed = s.handed ∧ t.reads = s.reads ∧
        (∃ exit, t.stage = .finished exit) ∧ (s.stage.Open → t.stage = .finished (.ok ())) ∧
        Plays before (l.cancel w).1 (l.cancel w).2 t := by
  refine ⟨fun cancelled s h => ⟨delivered_of_reaches h, ?_⟩, openFailed_cases topic partition,
    fun w cancelled hw => ?_, fun before l w s h => ⟨fun stream result hread hreads => ?_, ?_⟩⟩
  · rintro rfl
    exact idle_of_reaches h
  · rw [← hw]
    exact exists_plays_begin topic partition w reads cancelled
  · exact exists_plays_read topic partition h hread hreads
  · exact exists_plays_cancel topic partition h

/-- A worker whose jobs are their identities. -/
def feeder : Dispatcher String where
  host := "h1"
  factory := .ofBuilders [{ name := "all", app := "feed", make := fun _ _ t => .ok t.identity }]

/-- An envelope with two tasks for it. -/
def feedEnvelope : Envelope where
  metaInfo := KeyMap.ofList [(Setting.host, "h1")]
  records := [Dispatcher.taskRecord "feed" "feed-1", Dispatcher.taskRecord "feed" "feed-2"]

/-- A listener reads past a failure, and is cancelled while it dispatches: the envelope is
dispatched to its end, and the next one is not handed on.  Another listener is cancelled before
it begins.  And the loop of a worker hands one envelope on before a read fails, and leaves the
other one for later. -/
theorem delivers_while_dispatching :
    let reads : List Read :=
      [.failed (.request "lag"), .envelope feedEnvelope, .envelope feedEnvelope, .ended]
    let troubled : List Read :=
      [.envelope feedEnvelope, .failed (.request "lag"), .envelope feedEnvelope]
    let w : Worker String :=
      { dispatcher := feeder, broker := { capacity := 1 }, machine := ⟨"os", 1⟩,
        outage := { reads := some troubled } }
    let begun := Loop.begin (.listen "tasks" 0) none false w
    let after := begun.1.settle begun.2
    (∃ s, Reaches "tasks" 0 { reads, dispatcher := feeder } s ∧
      s.stage = .finished (.ok ()) ∧ s.handed = [feedEnvelope] ∧
      s.dispatcher = (feeder.dispatchAll [feedEnvelope]).1 ∧
      s.events = [.opened "tasks" 0, .asked "feed" "feed-1", .started "feed-1", .called "feed-1",
        .asked "feed" "feed-2", .started "feed-2", .called "feed-2"]) ∧
    (∃ s, Reaches "tasks" 0 { cancelled := true, reads, dispatcher := feeder } s ∧
      s.stage = .finished (.error .canceled) ∧ s.events = []) ∧
    ∃ s, Reaches "tasks" 0 { reads := troubled, dispatcher := feeder } s ∧ s.stage = .retrying ∧
      s.handed = [feedEnvelope] ∧ s.reads = [.envelope feedEnvelope] ∧
      Plays [] after.1 after.2 s ∧ (Loop.pending .given after.2).1 = [.envelope feedEnvelope] := by
  intro reads troubled w begun after
  obtain ⟨hdelivered, -, -, -⟩ := delivers "tasks" 0 feeder reads
  refine ⟨?_, ?_, ?_⟩
  · have hread : Reaches "tasks" 0 { reads, dispatcher := feeder } _ :=
      .tail (.tail (.tail (.tail (.tail (.tail .refl (.ask rfl rfl)) (.opened rfl))
        (.failed rfl rfl)) (.again rfl)) (.envelope rfl rfl)) .cancel
    obtain ⟨s, hstop, hstage, hhanded⟩ := (hdelivered false _ hread).1.stops rfl (.dispatching _)
    have hrest : ∀ left, s.stage ≠ .dispatching left := by
      rw [hstage]
      exact nofun
    obtain ⟨hdispatcher, hevents⟩ := (hdelivered false s (hread.trans hstop)).1.dispatched hrest
    have hone : s.handed = [feedEnvelope] := hhanded
    rw [hone] at hdispatcher hevents
    refine ⟨s, hread.trans hstop, hstage, hone, hdispatcher, ?_⟩
    rw [hevents, hstage]
    decide +kernel
  · have hrefused : Reaches "tasks" 0 { cancelled := true, reads, dispatcher := feeder } _ :=
      .single (.refuse rfl rfl)
    exact ⟨_, hrefused, rfl, ((hdelivered true _ hrefused).2 rfl).2.2.1⟩
  · obtain ⟨hstands, -, hbegin, hplays⟩ := delivers "tasks" 0 feeder troubled
    obtain ⟨s, hbegun, hreads, -, hstage, hplayed⟩ := hbegin w false rfl
    have hpending : s.reads = (Loop.pending .given begun.2).1 := hreads
    obtain ⟨t, hread, htook, hplayed', -, hleft⟩ :=
      (hplays _ _ _ _ hplayed).1 .given after (.settle none rfl) hpending
    have hnone : s.handed = [] := by
      obtain ⟨taken, haccount⟩ := (hstands false s hbegun).1.account
      have htaken := haccount.reads_eq
      rw [hreads, List.self_eq_append_left] at htaken
      rw [haccount.handed, htaken]
      rfl
    rw [hreads] at htook
    refine ⟨t, hbegun.trans hread, htook.stage, ?_, htook.reads, hplayed', ?_⟩
    · rw [htook.handed, hnone]
      rfl
    · rw [hleft, htook.reads]
      · rfl
      · rw [htook.stage]
        exact nofun

end Listener

end Collector
