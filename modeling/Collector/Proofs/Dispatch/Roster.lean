import Collector.Dispatch
import Collector.Listener
import Collector.Proofs.Job.WholeCall

/-!
# What dispatching does

A roster is what there is to know of the jobs that the task dispatcher of `harvest-core`
keeps: the job of each identity, the applications that a job was built for, how often
builders were asked, and what was done.  Records change it one after another
(`Roster.sight`), and which envelope a record came in makes no difference
(`Dispatcher.Follows`).

Main statements:

* `Dispatcher.follows_dispatchAll`: dispatching envelopes is handling the records that are
  meant for the worker one after another.
* `Dispatcher.dispatchAll_refines`: and whatever else there is in the envelopes changes
  nothing.
-/

namespace Collector

variable {J : Type}

/-! ## Effects on jobs -/

namespace Event

/-- The job that an effect starts. -/
def startedJob? : Event J → Option J
  | started job => some job
  | _ => none

/-- The job that an effect calls back. -/
def calledJob? : Event J → Option J
  | called job => some job
  | _ => none

/-- Whether an effect is one of dispatching. -/
def ofDispatch : Event J → Bool
  | asked _ _ | started _ | called _ => true
  | _ => false

end Event

/-! ## Rosters -/

/-- What there is to know of the jobs of a worker. -/
structure Roster (J : Type) where
  /-- The job of each identity. -/
  jobs : KeyMap J := KeyMap.empty
  /-- The applications that a job was built for. -/
  served : KeyMap Unit := KeyMap.empty
  /-- How often builders were asked. -/
  turn : ℕ := 0
  /-- What was done, in order. -/
  effects : List (Event J) := []

namespace Roster

/-- The roster with more that was done. -/
def log (r : Roster J) (events : List (Event J)) : Roster J :=
  { r with effects := r.effects ++ events }

/-- A builder is asked for the job of a task that has none: the job is kept, started and
called back, or nothing comes of it. -/
def build (b : Builder J) (r : Roster J) (t : Task) : Roster J :=
  match b.build r.turn t with
  | .error _ => { r with turn := r.turn + 1 }.log [.asked t.app t.identity]
  | .ok job =>
    { r with
      jobs := r.jobs.insert t.identity job
      served := r.served.insert t.app ()
      turn := r.turn + 1 }.log [.asked t.app t.identity, .started job, .called job]

/-- A sighting of a task: its job is called back, whatever else the task says, or it is
to be built. -/
def sightTask (builders : KeyMap (Builder J)) (r : Roster J) (t : Task) : Roster J :=
  match r.jobs.get? t.identity with
  | some job => r.log [.called job]
  | none =>
    match builders.get? t.app with
    | none => r
    | some b => r.build b t

/-- The roster after a record; what is no task changes nothing. -/
def sight (builders : KeyMap (Builder J)) (r : Roster J) (record : Bytes) : Roster J :=
  match Task.ofBytes record with
  | .error _ => r
  | .ok t => r.sightTask builders t

/-- The roster after records one after another. -/
def sightAll (builders : KeyMap (Builder J)) (r : Roster J) (records : List Bytes) : Roster J :=
  records.foldl (sight builders) r

end Roster

namespace Dispatcher

/-- What there is to know of the jobs, given what was done so far. -/
def roster (d : Dispatcher J) (effects : List (Event J)) : Roster J :=
  ⟨d.cache.toMap, d.factory.served, d.factory.turn, effects⟩

/-- What a dispatcher has of its jobs after it has handled some records. -/
structure Tracks (d : Dispatcher J) (records : List Bytes) (after : Dispatcher J)
    (events : List (Event J)) : Prop where
  /-- Every identity has its own place. -/
  sound : after.cache.Sound
  /-- The worker has the same name. -/
  host : after.host = d.host
  /-- The builders are the same. -/
  builders : after.factory.builders = d.factory.builders
  /-- The jobs and what was done are as the records say. -/
  roster : ∀ log, after.roster (log ++ events) =
    (d.roster log).sightAll d.factory.builders records
  /-- All effects are those of dispatching. -/
  dispatched : ∀ e ∈ events, e.ofDispatch = true

/-- What a dispatcher has of its jobs and of their callbacks after it has handled some records: none
of the jobs that it has called back has returned. -/
structure Follows (d : Dispatcher J) (records : List Bytes) (after : Dispatcher J)
    (events : List (Event J)) : Prop extends Tracks d records after events where
  /-- The new callbacks come after those that were on their way. -/
  callbacks : after.callbacks = d.callbacks ++ events.filterMap Event.calledJob?

variable {d e f : Dispatcher J} {events more : List (Event J)}

theorem tracks_nil (h : d.cache.Sound) : Tracks d [] d [] :=
  ⟨h, rfl, rfl, fun log => by simp [Roster.sightAll], nofun⟩

theorem follows_nil (h : d.cache.Sound) : Follows d [] d [] := ⟨tracks_nil h, by simp⟩

theorem Tracks.append {records later : List Bytes} (h : Tracks d records e events)
    (h' : Tracks e later f more) : Tracks d (records ++ later) f (events ++ more) := by
  refine ⟨h'.sound, h'.host.trans h.host, h'.builders.trans h.builders, ?_, ?_⟩
  · intro log
    rw [← List.append_assoc, h'.roster, h.roster, h.builders, Roster.sightAll, Roster.sightAll,
      Roster.sightAll, List.foldl_append]
  · intro event hevent
    rcases List.mem_append.1 hevent with hevent | hevent
    · exact h.dispatched event hevent
    · exact h'.dispatched event hevent

theorem Follows.append {records later : List Bytes} (h : Follows d records e events)
    (h' : Follows e later f more) : Follows d (records ++ later) f (events ++ more) := by
  refine ⟨h.toTracks.append h'.toTracks, ?_⟩
  rw [h'.callbacks, h.callbacks, List.filterMap_append, List.append_assoc]

/-! ## One record -/

/-- What asking for the job of a task gives, and what it leaves. -/
inductive Created (factory : Factory J) (t : Task) (log : List (Event J)) :
    Option J × Factory J × List (Event J) → Prop
  /-- There is no builder for the application. -/
  | unknown (hb : factory.builders.get? t.app = none) : Created factory t log (none, factory, log)
  /-- The builder refuses. -/
  | refused (b : Builder J) (e : JobError) (hb : factory.builders.get? t.app = some b)
      (hbuild : b.build factory.turn t = .error e) :
      Created factory t log
        (none, { factory with turn := factory.turn + 1 }, log ++ [.asked t.app t.identity])
  /-- The builder makes the job. -/
  | made (b : Builder J) (job : J) (hb : factory.builders.get? t.app = some b)
      (hbuild : b.build factory.turn t = .ok job) :
      Created factory t log
        (some job, { factory with
          served := factory.served.insert t.app ()
          turn := factory.turn + 1 }, log ++ [.asked t.app t.identity])

theorem create_cases (factory : Factory J) (t : Task) (log : List (Event J)) :
    Created factory t log (create t (factory, log)) := by
  have hasks : ∀ b, factory.builders.get? t.app = some b →
      factory.asks t.app t = [.asked t.app t.identity] := by
    intro b hb
    rw [Factory.asks, Factory.supports, KeyMap.contains, hb]
    rfl
  have hcases := factory.build_cases t.app t
  show Created factory t log ((factory.build t.app t).1.toOption, (factory.build t.app t).2,
    log ++ factory.asks t.app t)
  generalize factory.build t.app t = result at hcases ⊢
  cases hcases with
  | unknown hb =>
    have hnone : factory.asks t.app t = [] := by
      rw [Factory.asks, Factory.supports, KeyMap.contains, hb]
      rfl
    rw [hnone, List.append_nil]
    exact .unknown hb
  | refused b e hb hbuild =>
    rw [hasks b hb]
    exact .refused b e hb hbuild
  | made b job hb hbuild =>
    rw [hasks b hb]
    exact .made b job hb hbuild

/-- A task that is sighted is handled as the roster says. -/
theorem follows_sightTask (h : d.cache.Sound) {record : Bytes} {t : Task}
    (ht : Task.ofBytes record = .ok t) :
    Follows d [record] (d.sightTask t).1 (d.sightTask t).2 := by
  have hstep : ∀ r : Roster J, r.sightAll d.factory.builders [record] =
      r.sightTask d.factory.builders t := by
    intro r
    simp [Roster.sightAll, Roster.sight, ht]
  have hcall := JobCache.getOrCreate_cases h t.identity (create t) (d.factory, [])
  have hcreate := create_cases d.factory t []
  simp only [sightTask]
  generalize d.cache.getOrCreate t.identity (create t) (d.factory, []) = result at hcall ⊢
  cases hcall with
  | cached job hjob =>
    refine ⟨⟨h, rfl, rfl, ?_, ?_⟩, ?_⟩
    · intro log
      rw [hstep]
      simp [Roster.sightTask, Dispatcher.roster, Roster.log, hjob, effects]
    · simp [effects, Event.ofDispatch]
    · simp [effects, Event.calledJob?, Found.job]
  | created job c' s' hnone hmake hsound hjobs =>
    rw [hmake] at hcreate
    cases hcreate with
    | made b _ hb hbuild =>
      refine ⟨⟨hsound, rfl, rfl, ?_, ?_⟩, ?_⟩
      · intro log
        rw [hstep]
        simp [Roster.sightTask, Roster.build, Dispatcher.roster, Roster.log, hnone, hb, hbuild,
          hjobs, effects]
      · simp [effects, Event.ofDispatch]
      · simp [effects, Event.calledJob?, Found.job, List.filterMap_cons]
  | failed c' s' hnone hmake hsound hjobs =>
    rw [hmake] at hcreate
    cases hcreate with
    | unknown hb =>
      refine ⟨⟨hsound, rfl, rfl, ?_, by simp [effects]⟩, by simp [effects]⟩
      intro log
      rw [hstep]
      simp [Roster.sightTask, Dispatcher.roster, hnone, hb, hjobs, effects]
    | refused b e hb hbuild =>
      refine ⟨⟨hsound, rfl, rfl, ?_, ?_⟩, ?_⟩
      · intro log
        rw [hstep]
        simp [Roster.sightTask, Roster.build, Dispatcher.roster, Roster.log, hnone, hb, hbuild,
          hjobs, effects]
      · simp [effects, Event.ofDispatch]
      · simp [effects, Event.calledJob?]

/-- What is no task changes nothing. -/
theorem sight_of_error {record : Bytes} {e : DataError} (h : Task.ofBytes record = .error e) :
    d.sight record = (d, []) := by
  simp [sight, h]

theorem follows_sight (h : d.cache.Sound) (record : Bytes) :
    Follows d [record] (d.sight record).1 (d.sight record).2 := by
  cases ht : Task.ofBytes record with
  | error e =>
    rw [sight_of_error ht]
    refine ⟨⟨h, rfl, rfl, ?_, nofun⟩, by simp⟩
    intro log
    simp [Roster.sightAll, Roster.sight, ht]
  | ok t =>
    simp only [sight, ht]
    exact follows_sightTask h ht

/-! ## Envelopes -/

theorem follows_sightAll (h : d.cache.Sound) (records : List Bytes) :
    Follows d records (d.sightAll records).1 (d.sightAll records).2 := by
  induction records generalizing d with
  | nil => exact follows_nil h
  | cons record records ih =>
    have hfirst := follows_sight h record
    exact hfirst.append (ih hfirst.sound)

/-- The records of an envelope that are meant for a worker. -/
def recordsOf (host : String) (e : Envelope) : List Bytes :=
  if e.meta? Setting.host = some host then e.records else []

/-- The records that are meant for a worker. -/
def recordsFor (host : String) (es : List Envelope) : List Bytes := es.flatMap (recordsOf host)

/-- Handles envelopes one after another, and gives the effects of each. -/
def dispatchAll (d : Dispatcher J) : List Envelope → Dispatcher J × List (List (Event J))
  | [] => (d, [])
  | e :: es =>
    let (d, events) := d.dispatch e
    let (d, more) := d.dispatchAll es
    (d, events :: more)

/-- An envelope is as good as its records that are meant for the worker. -/
theorem dispatch_eq (d : Dispatcher J) (e : Envelope) :
    d.dispatch e = d.sightAll (recordsOf d.host e) := by
  unfold dispatch recordsOf accepts
  by_cases h : e.meta? Setting.host = some d.host
  · simp [h]
  · simp [h, sightAll]

theorem follows_dispatch (h : d.cache.Sound) (e : Envelope) :
    Follows d (recordsOf d.host e) (d.dispatch e).1 (d.dispatch e).2 := by
  rw [dispatch_eq]
  exact follows_sightAll h _

theorem follows_dispatchAll (h : d.cache.Sound) (es : List Envelope) :
    Follows d (recordsFor d.host es) (d.dispatchAll es).1 (d.dispatchAll es).2.flatten := by
  induction es generalizing d with
  | nil => exact follows_nil h
  | cons e es ih =>
    have hfirst := follows_dispatch h e
    have hrest := ih hfirst.sound
    rw [hfirst.host] at hrest
    exact hfirst.append hrest

/-! ## What makes no difference -/

/-- Whether a record is a task. -/
def isTask (record : Bytes) : Bool := (Task.ofBytes record).isOk

theorem sight_of_not_isTask {record : Bytes} (h : isTask record = false) :
    d.sight record = (d, []) := by
  cases ht : Task.ofBytes record with
  | error e => exact sight_of_error ht
  | ok t => simp [isTask, ht, Except.isOk, Except.toBool] at h

@[simp] theorem host_sight (d : Dispatcher J) (record : Bytes) :
    (d.sight record).1.host = d.host := by
  unfold sight
  cases Task.ofBytes record <;> rfl

@[simp] theorem host_sightAll (d : Dispatcher J) (records : List Bytes) :
    (d.sightAll records).1.host = d.host := by
  induction records generalizing d with
  | nil => rfl
  | cons record records ih => exact (ih (d.sight record).1).trans (host_sight d record)

theorem sightAll_append (d : Dispatcher J) (records later : List Bytes) :
    d.sightAll (records ++ later) = (((d.sightAll records).1.sightAll later).1,
      (d.sightAll records).2 ++ ((d.sightAll records).1.sightAll later).2) := by
  induction records generalizing d with
  | nil => simp [sightAll]
  | cons record records ih => simp [sightAll, ih]

/-- Records that are no tasks may be left out. -/
theorem sightAll_filter_isTask (d : Dispatcher J) (records : List Bytes) :
    d.sightAll (records.filter isTask) = d.sightAll records := by
  induction records generalizing d with
  | nil => rfl
  | cons record records ih =>
    cases h : isTask record with
    | true => simp [h, sightAll, ih]
    | false => simp [h, sightAll, ih, sight_of_not_isTask h]

theorem host_dispatch (d : Dispatcher J) (e : Envelope) : (d.dispatch e).1.host = d.host := by
  rw [dispatch_eq, host_sightAll]

theorem dispatchAll_append (d : Dispatcher J) (es later : List Envelope) :
    d.dispatchAll (es ++ later) = (((d.dispatchAll es).1.dispatchAll later).1,
      (d.dispatchAll es).2 ++ ((d.dispatchAll es).1.dispatchAll later).2) := by
  induction es generalizing d with
  | nil => simp [dispatchAll]
  | cons e es ih => simp [dispatchAll, ih]

/-- All effects together are those of the records that are meant for the worker. -/
theorem sightAll_recordsFor (d : Dispatcher J) (es : List Envelope) :
    d.sightAll (recordsFor d.host es) = ((d.dispatchAll es).1, (d.dispatchAll es).2.flatten) := by
  induction es generalizing d with
  | nil => rfl
  | cons e es ih =>
    have hrest := ih (d.dispatch e).1
    rw [host_dispatch, recordsFor] at hrest
    rw [recordsFor, List.flatMap_cons, sightAll_append, ← dispatch_eq, hrest]
    rfl

@[simp] theorem host_dispatchAll (d : Dispatcher J) (es : List Envelope) :
    (d.dispatchAll es).1.host = d.host := by
  have h := congrArg Prod.fst (sightAll_recordsFor d es)
  rw [← h, host_sightAll]

/-- There are effects, perhaps none, for every envelope. -/
@[simp] theorem length_dispatchAll (d : Dispatcher J) (es : List Envelope) :
    (d.dispatchAll es).2.length = es.length := by
  induction es generalizing d with
  | nil => rfl
  | cons e es ih => simp [dispatchAll, ih]

/-- Envelopes that can stand for another one. -/
inductive StandsFor (host : String) (e : Envelope) : List Envelope → Prop
  /-- No envelope stands for one that is meant for another worker, or does not say for which one. -/
  | foreign (h : e.meta? Setting.host ≠ some host) : StandsFor host e []
  /-- An envelope that has the same tasks among its records stands for it. -/
  | cleaned (e' : Envelope) (hhost : e'.meta? Setting.host = e.meta? Setting.host)
      (hrecords : e'.records.filter isTask = e.records.filter isTask) : StandsFor host e [e']
  /-- Envelopes for the same worker that have the records between them stand for the one with all of
  them. -/
  | split (parts : List Envelope)
      (hhost : ∀ part ∈ parts, part.meta? Setting.host = e.meta? Setting.host)
      (hrecords : parts.flatMap Envelope.records = e.records) : StandsFor host e parts

theorem StandsFor.tasks {host : String} {e : Envelope} {parts : List Envelope}
    (h : StandsFor host e parts) :
    (recordsFor host parts).filter isTask = (recordsOf host e).filter isTask := by
  cases h with
  | foreign h => simp [recordsFor, recordsOf, h]
  | cleaned e' hhost hrecords =>
    simp only [recordsFor, List.flatMap_singleton, recordsOf, hhost]
    split_ifs
    · exact hrecords
    · rfl
  | split _ hhost hrecords =>
    have hparts : ∀ part ∈ parts, recordsOf host part =
        if e.meta? Setting.host = some host then part.records else [] := by
      intro part hpart
      rw [recordsOf, hhost part hpart]
    rw [recordsFor, List.flatMap_congr hparts, recordsOf]
    split_ifs
    · rw [← hrecords]
    · simp

/-- An envelope makes no difference but by the tasks that it has for the worker. -/
theorem dispatchAll_replace (d : Dispatcher J) (before : List Envelope) {e : Envelope}
    {parts : List Envelope} (h : StandsFor d.host e parts) (later : List Envelope) :
    ∃ after first events answers rest, first.length = before.length ∧
      answers.length = parts.length ∧
      d.dispatchAll (before ++ e :: later) = (after, first ++ events :: rest) ∧
      d.dispatchAll (before ++ parts ++ later) = (after, first ++ answers ++ rest) ∧
      answers.flatten = events := by
  -- what is done with the tasks of the envelope
  let reached := (d.dispatchAll before).1
  have hhost : reached.host = d.host := host_dispatchAll d before
  have hsame : (reached.dispatch e) =
      ((reached.dispatchAll parts).1, (reached.dispatchAll parts).2.flatten) := by
    rw [← sightAll_recordsFor, hhost, dispatch_eq, hhost, ← sightAll_filter_isTask, ← h.tasks,
      sightAll_filter_isTask]
  refine ⟨((reached.dispatch e).1.dispatchAll later).1, (d.dispatchAll before).2,
    (reached.dispatch e).2, (reached.dispatchAll parts).2,
    ((reached.dispatch e).1.dispatchAll later).2, ?_, ?_, ?_, ?_, ?_⟩
  · exact length_dispatchAll d before
  · exact length_dispatchAll reached parts
  · rw [dispatchAll_append]
    rfl
  · rw [dispatchAll_append, dispatchAll_append, hsame]
  · rw [hsame]

/-! ## Counts -/

theorem scheduled_append (events more : List (Event J)) :
    scheduled (events ++ more) = scheduled events + scheduled more := List.countP_append

theorem sum_scheduled (answers : List (List (Event J))) :
    (answers.map scheduled).sum = scheduled answers.flatten := by
  induction answers with
  | nil => rfl
  | cons events answers ih => simp [scheduled_append, ih]

theorem take_dispatchAll (d : Dispatcher J) (es : List Envelope) (n : ℕ) :
    (d.dispatchAll es).2.take n = (d.dispatchAll (es.take n)).2 := by
  induction es generalizing d n with
  | nil => simp [dispatchAll]
  | cons e es ih =>
    cases n with
    | zero => rfl
    | succ n => simp [dispatchAll, ih]

/-- Dispatching envelopes is handling the records that are meant for the worker one after
another.  The jobs, the applications that are served, what was started and called back
and in which order, and the number of callbacks up to any envelope are as the roster says
that begins with what the worker has.  And an envelope may be left out if it is meant for
another worker, lose what is no task, or come in parts: all other envelopes have the same
effects, and so have its parts together. -/
theorem dispatchAll_refines (d : Dispatcher J) (hsound : d.cache.Sound) (es : List Envelope) :
    let roster := fun es : List Envelope =>
      (d.roster []).sightAll d.factory.builders (recordsFor d.host es)
    ((∀ x, (d.dispatchAll es).1.cache.get? x = (roster es).jobs.get? x) ∧
      (d.dispatchAll es).1.cache.jobs = (roster es).jobs.values ∧
      (d.dispatchAll es).1.factory.served = (roster es).served ∧
      (d.dispatchAll es).2.flatten = (roster es).effects ∧
      (d.dispatchAll es).1.callbacks =
        d.callbacks ++ (roster es).effects.filterMap Event.calledJob?) ∧
    (∀ n, (((d.dispatchAll es).2.map scheduled).take n).sum =
      scheduled (roster (es.take n)).effects) ∧
    ∀ before e parts later, es = before ++ e :: later → StandsFor d.host e parts →
      ∃ after first events answers rest, first.length = before.length ∧
        answers.length = parts.length ∧ d.dispatchAll es = (after, first ++ events :: rest) ∧
        d.dispatchAll (before ++ parts ++ later) = (after, first ++ answers ++ rest) ∧
        answers.flatten = events := by
  intro roster
  have hroster : ∀ es, (d.dispatchAll es).1.roster (d.dispatchAll es).2.flatten = roster es := by
    intro es
    exact (follows_dispatchAll hsound es).roster []
  have heffects : ∀ es, (d.dispatchAll es).2.flatten = (roster es).effects := by
    intro es
    rw [← hroster es]
    rfl
  have hjobs : (d.dispatchAll es).1.cache.toMap = (roster es).jobs := by
    rw [← hroster es]
    rfl
  refine ⟨⟨?_, ?_, ?_, heffects es, ?_⟩, ?_, ?_⟩
  · intro x
    rw [← hjobs, JobCache.get?_toMap]
  · rw [← hjobs, JobCache.values_toMap]
  · rw [← hroster es]
    rfl
  · rw [← heffects es]
    exact (follows_dispatchAll hsound es).callbacks
  · intro n
    rw [← List.map_take, take_dispatchAll, sum_scheduled, heffects]
  · rintro before e parts later rfl hparts
    exact dispatchAll_replace d before hparts later

/-- The record of a task with nothing but its application and its identity. -/
def taskRecord (app identity : String) : Bytes :=
  (Json.ofStringMap (KeyMap.ofList [(Setting.app, app), (Setting.taskKey, identity)])).toBytes

/-- A worker with a builder that refuses when it is asked first, and one that always
does; its jobs are their identities. -/
def hesitant : Dispatcher String where
  host := "h1"
  factory := .ofBuilders [
    { name := "late", app := "feed", make := fun _ turn t =>
        if turn = 0 then .error (.builderClosed "feed") else .ok t.identity },
    { name := "never", app := "broken", make := fun _ _ _ => .error (.builderClosed "broken") }]

/-- Envelopes for two workers and for none, one with a record that is no task. -/
def mixedEnvelopes : List Envelope :=
  [{ metaInfo := KeyMap.ofList [(Setting.host, "h1")]
     records := [[0x7B], taskRecord "feed" "feed-1", taskRecord "feed" "feed-1",
       taskRecord "broken" "feed-1"] },
   { metaInfo := KeyMap.ofList [(Setting.host, "h2")], records := [taskRecord "feed" "feed-2"] },
   { records := [taskRecord "feed" "feed-3"] },
   { metaInfo := KeyMap.ofList [(Setting.host, "h1")]
     records := [taskRecord "broken" "feed-4", taskRecord "feed" "feed-1"] }]

theorem dispatchAll_refines_mixed :
    hesitant.cache.Sound ∧
      (hesitant.dispatchAll mixedEnvelopes).2.flatten =
        [.asked "feed" "feed-1", .asked "feed" "feed-1", .started "feed-1", .called "feed-1",
          .called "feed-1", .asked "broken" "feed-4", .called "feed-1"] ∧
      (((hesitant.dispatchAll mixedEnvelopes).2.map scheduled).take 3).sum = 2 := by
  have hsound : hesitant.cache.Sound := JobCache.sound_empty
  obtain ⟨⟨-, -, -, heffects, -⟩, hcounts, -⟩ :=
    dispatchAll_refines hesitant hsound mixedEnvelopes
  refine ⟨hsound, ?_, ?_⟩
  · rw [heffects]
    decide +kernel
  · rw [hcounts 3]
    decide +kernel

end Dispatcher

end Collector
