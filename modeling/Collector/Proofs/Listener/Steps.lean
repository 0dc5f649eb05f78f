import Mathlib.Logic.Relation
import Mathlib.Tactic
import Collector.Listener
import Collector.Proofs.Dispatch.Roster

/-!
# The steps of a listener

A partition listener of `harvest-core` reads its partition to the end, or until it is
cancelled, whatever reads fail on the way.  What it has taken is the beginning of what
there was to read (`Listener.Account.reads_eq`), and the envelopes of that are handed on
and dispatched one after another; one that is being dispatched is dispatched to its end
(`Listener.Works`).

Main statements:

* `Listener.Account.step`: what one step does.
* `Listener.exists_account_of_reaches`: what there is to say of a listener wherever it stands.
* `Listener.Step.size_lt`, `Listener.exists_step`: a listener comes to its end.
* `Listener.consume_eq`: what a listener does that takes in what there is to read.
* `Listener.exists_took`: to take in what there is to read is to do some steps.
-/

namespace Collector

variable {J : Type}

/-! ## Reads -/

namespace Read

/-- The envelope that is read. -/
def envelope? : Read → Option Envelope
  | envelope e => some e
  | _ => none

/-- Whether there will never be anything more. -/
def isEnd : Read → Bool
  | ended => true
  | _ => false

end Read

namespace Listener

/-- The envelopes among what is read. -/
def envelopes (reads : List Read) : List Envelope := reads.filterMap Read.envelope?

/-- What comes before the end of the partition. -/
def untilEnd (reads : List Read) : List Read := reads.takeWhile fun r => !r.isEnd

theorem untilEnd_append {reads : List Read} (h : ∀ r ∈ reads, r.isEnd = false) (more : List Read) :
    untilEnd (reads ++ more) = reads ++ untilEnd more :=
  List.takeWhile_append_of_pos fun r hr => by rw [h r hr]; rfl

@[simp] theorem envelopes_append (reads more : List Read) :
    envelopes (reads ++ more) = envelopes reads ++ envelopes more := List.filterMap_append

/-! ## Dispatching -/

/-- What was done for the envelopes that were handed on, if some records of the last one are
left. -/
def Works (d : Dispatcher J) (handed : List Envelope) (left : List Bytes) (after : Dispatcher J)
    (events : List (Event J)) : Prop :=
  ∃ records, Dispatcher.recordsFor d.host handed = records ++ left ∧
    d.sightAll records = (after, events)

section Works

variable {d after : Dispatcher J} {handed : List Envelope} {record : Bytes} {left : List Bytes}
  {events : List (Event J)}

theorem works_nil (d : Dispatcher J) : Works d [] [] d [] := ⟨[], rfl, rfl⟩

theorem Works.host_eq (h : Works d handed left after events) : after.host = d.host := by
  obtain ⟨records, -, hafter⟩ := h
  have hsight := Dispatcher.host_sightAll d records
  rwa [hafter] at hsight

/-- One more envelope is handed on. -/
theorem Works.envelope (h : Works d handed [] after events) (e : Envelope) :
    Works d (handed ++ [e]) (if after.accepts e then e.records else []) after events := by
  have hrecords : (if after.accepts e then e.records else []) = Dispatcher.recordsOf d.host e := by
    simp only [Dispatcher.accepts, h.host_eq, decide_eq_true_eq, Dispatcher.recordsOf]
  obtain ⟨records, hhanded, hafter⟩ := h
  refine ⟨records, ?_, hafter⟩
  rw [List.append_nil] at hhanded
  rw [hrecords, Dispatcher.recordsFor, List.flatMap_append, List.flatMap_singleton, ← hhanded,
    Dispatcher.recordsFor]

/-- One more record is handled. -/
theorem Works.sight (h : Works d handed (record :: left) after events) :
    Works d handed left (after.sight record).1 (events ++ (after.sight record).2) := by
  obtain ⟨records, hhanded, hafter⟩ := h
  refine ⟨records ++ [record], ?_, ?_⟩
  · rw [hhanded, List.append_assoc, List.singleton_append]
  · simp [Dispatcher.sightAll_append, hafter, Dispatcher.sightAll]

/-- Nothing was done if nothing was handed on. -/
theorem Works.of_nil (h : Works d [] left after events) : left = [] ∧ after = d ∧ events = [] := by
  obtain ⟨records, hhanded, hafter⟩ := h
  obtain ⟨rfl, rfl⟩ := List.append_eq_nil_iff.1 hhanded.symm
  cases hafter
  exact ⟨rfl, rfl, rfl⟩

/-- If nothing is left then the envelopes were dispatched one after another. -/
theorem Works.whole (h : Works d handed [] after events) :
    after = (d.dispatchAll handed).1 ∧ events = (d.dispatchAll handed).2.flatten := by
  obtain ⟨records, hhanded, hafter⟩ := h
  rw [List.append_nil] at hhanded
  rw [← hhanded, Dispatcher.sightAll_recordsFor] at hafter
  exact ⟨(congrArg Prod.fst hafter).symm, (congrArg Prod.snd hafter).symm⟩

end Works

/-! ## What has happened -/

namespace Stage

/-- The records of an envelope that are left. -/
def left : Stage → List Bytes
  | dispatching left => left
  | _ => []

/-- What the broker was asked for. -/
def asked (topic : String) (partition : ℤ) : Stage → List (Event J)
  | fresh | finished (.error .canceled) => []
  | _ => [.opened topic partition]

/-- The stages of a listener whose partition is open. -/
inductive Open : Stage → Prop
  /-- The listener waits for the next message. -/
  | reading : Open reading
  /-- The listener dispatches an envelope, with some records left. -/
  | dispatching (left : List Bytes) : Open (dispatching left)
  /-- The listener waits after a failed read. -/
  | retrying : Open retrying

end Stage

/-- How a listener has come to where it stands: what it has taken, and whether it was
cancelled. -/
inductive Told (topic : String) (partition : ℤ) (taken : List Read) (cancelled : Bool) :
    Stage → Prop
  /-- A listener that has not begun has taken nothing. -/
  | fresh (htaken : taken = []) : Told topic partition taken cancelled .fresh
  /-- A listener that was cancelled before it began ends as cancelled, and has taken nothing. -/
  | refused (htaken : taken = []) (hcancelled : cancelled = true) :
      Told topic partition taken cancelled (.finished (.error .canceled))
  /-- A listener that has asked for its partition has taken nothing yet. -/
  | opening (htaken : taken = []) : Told topic partition taken cancelled .opening
  /-- A listener whose partition could not be opened ends with the reason, and has taken nothing. -/
  | unopened (e : ClientError) (htaken : taken = []) :
      Told topic partition taken cancelled (.finished (.error (openFailed topic partition e)))
  /-- A listener whose partition is open has not come to the end of it. -/
  | open {stage : Stage} (hstage : stage.Open) (htaken : ∀ r ∈ taken, r.isEnd = false) :
      Told topic partition taken cancelled stage
  /-- A listener that was cancelled while its partition was open ends well before the end of it. -/
  | stopped (hcancelled : cancelled = true) (htaken : ∀ r ∈ taken, r.isEnd = false) :
      Told topic partition taken cancelled (.finished (.ok ()))
  /-- A listener that has taken the end of its partition ends well. -/
  | ended {before : List Read} (htaken : taken = before ++ [.ended])
      (hbefore : ∀ r ∈ before, r.isEnd = false) :
      Told topic partition taken cancelled (.finished (.ok ()))

/-- What there is to say of a listener that began with a dispatcher and something to read. -/
structure Account (topic : String) (partition : ℤ) (d : Dispatcher J) (reads taken : List Read)
    (s : Listening J) : Prop where
  /-- The listener has taken the beginning of what there was to read, and the rest is still
  there. -/
  reads_eq : reads = taken ++ s.reads
  /-- The envelopes of what was taken were handed on, in order and each once. -/
  handed : s.handed = envelopes taken
  /-- What was taken, and whether the listener was cancelled, tell where it stands. -/
  told : Told topic partition taken s.cancelled s.stage
  /-- All was done that there was to do for the envelopes that were handed on, but for the records
  that are left. -/
  works : ∃ events, s.events = s.stage.asked topic partition ++ events ∧
    Works d s.handed s.stage.left s.dispatcher events

variable {topic : String} {partition : ℤ} {d : Dispatcher J} {reads taken : List Read}
  {s t : Listening J} {stage : Stage} {cancelled : Bool}

theorem account_begin (topic : String) (partition : ℤ) (d : Dispatcher J) (reads : List Read)
    (cancelled : Bool) :
    Account topic partition d reads [] { cancelled, reads, dispatcher := d } :=
  ⟨rfl, rfl, .fresh rfl, [], rfl, works_nil d⟩

theorem Stage.Open.asked_eq (h : stage.Open) :
    stage.asked (J := J) topic partition = [.opened topic partition] := by
  cases h <;> rfl

theorem asked_openFailed (topic : String) (partition : ℤ) (e : ClientError) :
    (Stage.finished (.error (openFailed topic partition e))).asked (J := J) topic partition =
      [.opened topic partition] := by
  cases e <;> rfl

/-- Whether a listener was cancelled matters only if that has ended it. -/
theorem Told.cancel (h : Told topic partition taken cancelled stage) :
    Told topic partition taken true stage := by
  cases h with
  | fresh htaken => exact .fresh htaken
  | refused htaken => exact .refused htaken rfl
  | opening htaken => exact .opening htaken
  | unopened e htaken => exact .unopened e htaken
  | «open» hstage htaken => exact .open hstage htaken
  | stopped _ htaken => exact .stopped rfl htaken
  | ended htaken hbefore => exact .ended htaken hbefore

/-- An open partition has not ended. -/
theorem Told.of_open (h : Told topic partition taken cancelled stage) (hopen : stage.Open) :
    ∀ r ∈ taken, r.isEnd = false := by
  cases h with
  | «open» _ htaken => exact htaken
  | fresh | refused | opening | unopened | stopped | ended => cases hopen

/-- A listener that has not begun, or waits for its partition, has taken nothing. -/
theorem Told.of_unopened (h : Told topic partition taken cancelled stage)
    (hstage : stage = .fresh ∨ stage = .opening) : taken = [] := by
  cases h with
  | fresh htaken | opening htaken => exact htaken
  | «open» hopen => rcases hstage with rfl | rfl <;> cases hopen
  | refused | unopened | stopped | ended => rcases hstage with hstage | hstage <;> cases hstage

/-- Something is read from an open partition. -/
theorem Account.read (h : Account topic partition d reads taken s) {r : Read} {rest : List Read}
    (hopen : s.stage.Open) (hreads : s.reads = r :: rest) :
    reads = taken ++ [r] ++ rest ∧ s.handed ++ envelopes [r] = envelopes (taken ++ [r]) ∧
      (r.isEnd = false → ∀ r' ∈ taken ++ [r], r'.isEnd = false) := by
  refine ⟨?_, ?_, fun hr r' hr' => ?_⟩
  · rw [h.reads_eq, hreads, List.append_assoc, List.singleton_append]
  · rw [h.handed, envelopes_append]
  · rcases List.mem_append.1 hr' with hr' | hr'
    · exact h.told.of_open hopen r' hr'
    · rwa [List.mem_singleton.1 hr']

/-- A listener that asks for its partition has done nothing before. -/
theorem Account.ask (h : Account topic partition d reads taken s) (hstage : s.stage = .fresh) :
    Account topic partition d reads taken
      { s with stage := .opening, events := s.events ++ [.opened topic partition] } := by
  obtain ⟨hreads_eq, hhanded, htold, events, hevents, hworks⟩ := h
  rw [hstage] at htold hevents hworks
  have htaken := htold.of_unopened (.inl rfl)
  have hnone : s.handed = [] := by
    rw [hhanded, htaken]
    rfl
  have hworks' := hworks
  rw [hnone] at hworks'
  obtain ⟨-, -, rfl⟩ := hworks'.of_nil
  refine ⟨hreads_eq, hhanded, .opening htaken, [], ?_, hworks⟩
  rw [hevents]
  rfl

/-- A listener that was cancelled stops where it waits, and not while it dispatches. -/
theorem Account.stop (h : Account topic partition d reads taken s)
    (hstage : s.stage = .reading ∨ s.stage = .retrying) (hcancelled : s.cancelled = true) :
    Account topic partition d reads taken { s with stage := .finished (.ok ()) } := by
  obtain ⟨hreads_eq, hhanded, htold, events, hevents, hworks⟩ := h
  have hopen : s.stage.Open := by
    rcases hstage with hstage | hstage <;> rw [hstage]
    · exact .reading
    · exact .retrying
  have hleft : s.stage.left = [] := by
    rcases hstage with hstage | hstage <;> rw [hstage] <;> rfl
  rw [hopen.asked_eq] at hevents
  rw [hleft] at hworks
  exact ⟨hreads_eq, hhanded, .stopped hcancelled (htold.of_open hopen), events, hevents, hworks⟩

/-- After one step there is as much to say of a listener as before. -/
theorem Account.step (h : Account topic partition d reads taken s)
    (hstep : Step topic partition s t) : ∃ taken, Account topic partition d reads taken t := by
  obtain ⟨hreads_eq, hhanded, htold, events, hevents, hworks⟩ := id h
  cases hstep with
  | cancel => exact ⟨taken, hreads_eq, hhanded, htold.cancel, events, hevents, hworks⟩
  | refuse hstage hcancelled =>
    rw [hstage] at htold hevents hworks
    have htaken := htold.of_unopened (.inl rfl)
    exact ⟨taken, hreads_eq, hhanded, .refused htaken hcancelled, events, hevents, hworks⟩
  | ask hstage _ => exact ⟨taken, h.ask hstage⟩
  | openFailed e hstage =>
    rw [hstage] at htold hevents hworks
    have htaken := htold.of_unopened (.inr rfl)
    refine ⟨taken, hreads_eq, hhanded, .unopened e htaken, events, ?_, hworks⟩
    rw [asked_openFailed]
    exact hevents
  | opened hstage =>
    rw [hstage] at htold hevents hworks
    refine ⟨taken, hreads_eq, hhanded, .open .reading ?_, events, hevents, hworks⟩
    rw [htold.of_unopened (.inr rfl)]
    exact nofun
  | @envelope e rest hstage hreads =>
    obtain ⟨hrest, htook, hopen⟩ := h.read (hstage ▸ .reading) hreads
    rw [hstage] at hevents hworks
    exact ⟨_, hrest, htook, .open (.dispatching _) (hopen rfl), events, hevents, hworks.envelope e⟩
  | sight hstage =>
    rw [hstage] at htold hevents hworks
    have hopen := htold.of_open (.dispatching _)
    refine ⟨taken, hreads_eq, hhanded, .open (.dispatching _) hopen, _, ?_, hworks.sight⟩
    rw [hevents, List.append_assoc]
    rfl
  | dispatched hstage =>
    rw [hstage] at htold hevents hworks
    have hopen := htold.of_open (.dispatching _)
    exact ⟨taken, hreads_eq, hhanded, .open .reading hopen, events, hevents, hworks⟩
  | @failed cause rest hstage hreads =>
    obtain ⟨hrest, htook, hopen⟩ := h.read (hstage ▸ .reading) hreads
    rw [hstage] at hevents hworks
    have hhanded' := (List.append_nil _).symm.trans htook
    exact ⟨_, hrest, hhanded', .open .retrying (hopen rfl), events, hevents, hworks⟩
  | again hstage =>
    rw [hstage] at htold hevents hworks
    have hopen := htold.of_open .retrying
    exact ⟨taken, hreads_eq, hhanded, .open .reading hopen, events, hevents, hworks⟩
  | @ended rest hstage hreads =>
    obtain ⟨hrest, htook, -⟩ := h.read (hstage ▸ .reading) hreads
    rw [hstage] at htold hevents hworks
    have hhanded' := (List.append_nil _).symm.trans htook
    exact ⟨_, hrest, hhanded', .ended rfl (htold.of_open .reading), events, hevents, hworks⟩
  | stopped hstage hcancelled => exact ⟨taken, h.stop hstage hcancelled⟩

/-- What a listener can come to. -/
abbrev Reaches (topic : String) (partition : ℤ) (s t : Listening J) : Prop :=
  Relation.ReflTransGen (Step topic partition) s t

/-- What there is to say of a listener wherever it stands. -/
theorem exists_account_of_reaches
    (h : Reaches topic partition { cancelled, reads, dispatcher := d } s) :
    ∃ taken, Account topic partition d reads taken s := by
  induction h with
  | refl => exact ⟨[], account_begin topic partition d reads cancelled⟩
  | tail _ hstep ih =>
    obtain ⟨taken, haccount⟩ := ih
    exact haccount.step hstep

/-- The stages of a listener that was cancelled before it began. -/
inductive Stage.Idle : Stage → Prop
  /-- The listener has not begun. -/
  | fresh : Idle fresh
  /-- The listener has ended without having begun. -/
  | refused : Idle (finished (.error .canceled))

theorem Step.of_idle (h : Step topic partition s t) (hidle : s.stage.Idle)
    (hcancelled : s.cancelled = true) :
    t = { s with cancelled := true } ∨ t = { s with stage := .finished (.error .canceled) } := by
  cases h with
  | cancel => exact .inl rfl
  | refuse => exact .inr rfl
  | ask _ hrunning => rw [hcancelled] at hrunning; cases hrunning
  | stopped hstage => rcases hstage with hstage | hstage <;> rw [hstage] at hidle <;> cases hidle
  | openFailed _ hstage | opened hstage | envelope hstage | sight hstage | dispatched hstage
  | failed hstage | again hstage | ended hstage => rw [hstage] at hidle; cases hidle

/-- A listener that was cancelled before it began does nothing. -/
theorem idle_of_reaches
    (h : Reaches topic partition { cancelled := true, reads, dispatcher := d } s) :
    s.stage.Idle ∧ s.cancelled = true ∧ s.events = [] ∧ s.dispatcher = d ∧ s.reads = reads := by
  induction h with
  | refl => exact ⟨.fresh, rfl, rfl, rfl, rfl⟩
  | tail _ hstep ih =>
    obtain ⟨hidle, hcancelled, hkept⟩ := ih
    rcases hstep.of_idle hidle hcancelled with rfl | rfl
    · exact ⟨hidle, rfl, hkept⟩
    · exact ⟨.refused, hcancelled, hkept⟩

/-! ## Coming to an end -/

/-- How many steps a read leads to, at most. -/
def costOf : Read → ℕ
  | .envelope e => e.records.length + 2
  | .failed _ => 2
  | .ended => 1

/-- How many steps a stage leads to, at most. -/
def Stage.cost : Stage → ℕ
  | fresh => 3
  | opening => 2
  | reading => 1
  | dispatching left => left.length + 2
  | retrying => 2
  | finished _ => 0

/-- How many steps a listener still does, at most, until it has read everything. -/
def size (s : Listening J) : ℕ := s.stage.cost + (s.reads.map costOf).sum

/-- Whatever a listener does brings it nearer to its end. -/
theorem Step.size_lt (h : Step topic partition s t) :
    t = { s with cancelled := true } ∨ size t < size s := by
  cases h with
  | cancel => exact .inl rfl
  | stopped hstage =>
    rcases hstage with hstage | hstage <;> simp [size, hstage, Stage.cost]
  | @envelope e rest hstage hreads =>
    have hrecords : (if s.dispatcher.accepts e then e.records else []).length ≤
        e.records.length := by
      split
      · exact le_rfl
      · exact Nat.zero_le _
    refine .inr ?_
    simp only [size, hstage, hreads, Stage.cost, List.map_cons, List.sum_cons, costOf]
    omega
  | failed hstage hreads | ended hstage hreads =>
    refine .inr ?_
    simp only [size, hstage, hreads, Stage.cost, List.map_cons, List.sum_cons, costOf]
    omega
  | refuse hstage | ask hstage | openFailed _ hstage | opened hstage | sight hstage
  | dispatched hstage | again hstage =>
    refine .inr ?_
    simp [size, hstage, Stage.cost]

/-- A listener goes on until it has ended, or waits for something to be sent.  One that is
cancelled need not read any further. -/
theorem exists_step (topic : String) (partition : ℤ) (s : Listening J) :
    (∃ result, s.stage = .finished result) ∨
      (s.stage = .reading ∧ s.reads = [] ∧ s.cancelled = false) ∨
      ∃ t, Step topic partition s t ∧ t.cancelled = s.cancelled ∧
        (s.cancelled = true → t.reads = s.reads) := by
  cases hstage : s.stage with
  | finished result => exact .inl ⟨result, rfl⟩
  | opening => exact .inr (.inr ⟨_, .opened hstage, rfl, fun _ => rfl⟩)
  | retrying => exact .inr (.inr ⟨_, .again hstage, rfl, fun _ => rfl⟩)
  | dispatching left =>
    cases left with
    | nil => exact .inr (.inr ⟨_, .dispatched hstage, rfl, fun _ => rfl⟩)
    | cons record left => exact .inr (.inr ⟨_, .sight hstage, rfl, fun _ => rfl⟩)
  | fresh =>
    cases hcancelled : s.cancelled with
    | true => exact .inr (.inr ⟨_, .refuse hstage hcancelled, hcancelled, fun _ => rfl⟩)
    | false => exact .inr (.inr ⟨_, .ask hstage hcancelled, hcancelled, fun _ => rfl⟩)
  | reading =>
    cases hcancelled : s.cancelled with
    | true => exact .inr (.inr ⟨_, .stopped (.inl hstage) hcancelled, hcancelled, fun _ => rfl⟩)
    | false =>
      cases hreads : s.reads with
      | nil => exact .inr (.inl ⟨rfl, rfl, rfl⟩)
      | cons r rest =>
        cases r with
        | envelope e => exact .inr (.inr ⟨_, .envelope hstage hreads, hcancelled, nofun⟩)
        | failed cause => exact .inr (.inr ⟨_, .failed hstage hreads, hcancelled, nofun⟩)
        | ended => exact .inr (.inr ⟨_, .ended hstage hreads, hcancelled, nofun⟩)

/-! ## Reading what there is -/

/-- An envelope can be dispatched to its end. -/
theorem reaches_dispatched (topic : String) (partition : ℤ) {left : List Bytes}
    (hstage : s.stage = .dispatching left) :
    Reaches topic partition s
      { s with
        stage := .reading
        dispatcher := (s.dispatcher.sightAll left).1
        events := s.events ++ (s.dispatcher.sightAll left).2 } := by
  induction left generalizing s with
  | nil =>
    refine .single ?_
    have hstep : Step topic partition s _ := .dispatched hstage
    simpa [Dispatcher.sightAll] using hstep
  | cons record left ih =>
    have hfirst : Step topic partition s _ := .sight hstage
    have hrest := ih (s := { s with
      stage := .dispatching left
      dispatcher := (s.dispatcher.sight record).1
      events := s.events ++ (s.dispatcher.sight record).2 }) rfl
    simp only [List.append_assoc] at hrest
    exact .head hfirst hrest

/-- A cancelled listener can end well without handing on anything more. -/
theorem exists_reaches_ok (topic : String) (partition : ℤ) (hcancelled : s.cancelled = true)
    (hopen : s.stage.Open) :
    ∃ t, Reaches topic partition s t ∧ t.stage = .finished (.ok ()) ∧ t.handed = s.handed := by
  cases hstage : s.stage with
  | fresh | opening | finished _ => rw [hstage] at hopen; cases hopen
  | reading => exact ⟨_, .single (.stopped (.inl hstage) hcancelled), rfl, rfl⟩
  | retrying => exact ⟨_, .single (.stopped (.inr hstage) hcancelled), rfl, rfl⟩
  | dispatching left =>
    exact ⟨_, .tail (reaches_dispatched topic partition hstage) (.stopped (.inl rfl) hcancelled),
      rfl, rfl⟩

/-- What a listener takes in at once of what there is to read, and what it leaves: it stops
behind a read that fails, and behind the end of its partition. -/
def stretch : List Read → List Read × List Read
  | [] => ([], [])
  | .envelope e :: reads => (.envelope e :: (stretch reads).1, (stretch reads).2)
  | .failed cause :: reads => ([.failed cause], reads)
  | .ended :: reads => ([.ended], reads)

/-- Where a listener stands that has taken in a stretch of what there is to read. -/
def Stage.behind : List Read → Stage
  | [] => reading
  | .envelope _ :: taken => behind taken
  | .failed _ :: _ => retrying
  | .ended :: _ => finished (.ok ())

/-- What comes next for a listener that has taken in a stretch of what there is to read, and has
left something. -/
def Next.behind (left : List Read) : List Read → Next
  | [] => waits
  | .envelope _ :: taken => behind left taken
  | .failed _ :: _ => retries left
  | .ended :: _ => ends

/-- Where a listener stands, by what comes next for it. -/
def Next.standing : Next → Stage
  | waits => .reading
  | retries _ => .retrying
  | ends => .finished (.ok ())

theorem standing_behind (left taken : List Read) :
    (Next.behind left taken).standing = .behind taken := by
  induction taken with
  | nil => rfl
  | cons r taken ih =>
    cases r with
    | envelope e => exact ih
    | failed cause | ended => rfl

/-- What is to be read after a while is what was left. -/
theorem left_of_retries {left taken rest : List Read} (h : Next.behind left taken = .retries rest) :
    rest = left := by
  induction taken with
  | nil => cases h
  | cons r taken ih =>
    cases r with
    | envelope e => exact ih h
    | failed cause =>
      cases h
      rfl
    | ended => cases h

/-- Envelopes do not stop a listener. -/
theorem stretch_envelopes (es : List Envelope) (reads : List Read) :
    stretch (es.map .envelope ++ reads) =
        (es.map .envelope ++ (stretch reads).1, (stretch reads).2) ∧
      ∀ left taken, Next.behind left (es.map .envelope ++ taken) = Next.behind left taken := by
  induction es with
  | nil => exact ⟨rfl, fun _ _ => rfl⟩
  | cons e es ih =>
    obtain ⟨hstretch, hbehind⟩ := ih
    refine ⟨?_, hbehind⟩
    simp only [List.map_cons, List.cons_append, stretch, hstretch]

/-- A listener that waits for something to read has left nothing. -/
theorem left_of_waits {reads : List Read} (h : Stage.behind (stretch reads).1 = .reading) :
    (stretch reads).2 = [] := by
  induction reads with
  | nil => rfl
  | cons r reads ih =>
    cases r with
    | envelope e => exact ih h
    | failed cause | ended => cases h

/-- A listener dispatches the envelopes of a stretch one after another. -/
theorem consume_eq (d : Dispatcher J) (reads : List Read) :
    consume d reads = ((d.dispatchAll (envelopes (stretch reads).1)).1,
      (d.dispatchAll (envelopes (stretch reads).1)).2.flatten,
      Next.behind (stretch reads).2 (stretch reads).1) := by
  induction reads generalizing d with
  | nil => rfl
  | cons r reads ih =>
    cases r with
    | envelope e =>
      simp only [consume, ih]
      rfl
    | failed cause | ended => rfl

theorem dispatch_eq_sightAll (d : Dispatcher J) (e : Envelope) :
    d.dispatch e = d.sightAll (if d.accepts e then e.records else []) := by
  unfold Dispatcher.dispatch
  split <;> rfl

/-- A listener has taken something in: it has handed the envelopes on and dispatched them one
after another, and stands where that leads to. -/
structure Took (s : Listening J) (taken left : List Read) (t : Listening J) : Prop where
  /-- The envelopes that were taken are handed on, in order and each once. -/
  handed : t.handed = s.handed ++ envelopes taken
  /-- The listener has not read what is left. -/
  reads : t.reads = left
  /-- The listener stands behind what was taken. -/
  stage : t.stage = .behind taken
  /-- The envelopes were dispatched one after another. -/
  dispatcher : t.dispatcher = (s.dispatcher.dispatchAll (envelopes taken)).1
  /-- Dispatching the envelopes is all that was done. -/
  events : t.events = s.events ++ (s.dispatcher.dispatchAll (envelopes taken)).2.flatten
  /-- The listener was not cancelled in the meantime. -/
  cancelled : t.cancelled = s.cancelled

/-- To take in a stretch of what there is to read is to do some steps. -/
theorem exists_took (topic : String) (partition : ℤ) (hstage : s.stage = .reading) :
    ∃ t, Reaches topic partition s t ∧ Took s (stretch s.reads).1 (stretch s.reads).2 t := by
  have hnil : ∀ events : List (Event J), events = events ++ [] := fun _ => (List.append_nil _).symm
  induction hreads : s.reads generalizing s with
  | nil => exact ⟨s, .refl, (List.append_nil _).symm, hreads, hstage, rfl, hnil _, rfl⟩
  | cons r rest ih =>
    cases r with
    | failed cause =>
      exact ⟨_, .single (.failed hstage hreads), (List.append_nil _).symm, rfl, rfl, rfl, hnil _,
        rfl⟩
    | ended =>
      exact ⟨_, .single (.ended hstage hreads), (List.append_nil _).symm, rfl, rfl, rfl, hnil _,
        rfl⟩
    | envelope e =>
      have hhand : Step topic partition s _ := .envelope hstage hreads
      have hdispatch := reaches_dispatched topic partition (s := { s with
        stage := .dispatching (if s.dispatcher.accepts e then e.records else [])
        reads := rest
        handed := s.handed ++ [e] }) rfl
      rw [← dispatch_eq_sightAll] at hdispatch
      obtain ⟨t, hreaches, htook⟩ := ih (s := { s with
        stage := .reading
        reads := rest
        handed := s.handed ++ [e]
        dispatcher := (s.dispatcher.dispatch e).1
        events := s.events ++ (s.dispatcher.dispatch e).2 }) rfl rfl
      refine ⟨t, .head hhand (hdispatch.trans hreaches), ?_, htook.reads, htook.stage,
        htook.dispatcher, ?_, htook.cancelled⟩
      · rw [htook.handed, List.append_assoc]
        rfl
      · rw [htook.events, List.append_assoc]
        rfl

end Listener

end Collector
