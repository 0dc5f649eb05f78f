import Collector.Checkpoint.Cache
import Collector.Reconcile
import Collector.Source.Settings

/-!
# Polling a source

The incremental reader of `harvest-source` pages through the feed of one task.  A poll
claims the reader, loads the checkpoint, asks for the page at its cursor, reconciles the
page with the checkpoint, writes what is new and then stores the new checkpoint.  Only one
poll of a reader is on its way at a time; others are skipped.  A cursor that is moved past
a timestamp that fills a whole page is held in memory before anything is written; in every
other case the checkpoint follows the write.

* `Site.poll` is a whole poll.
* `Stage.step` is one step of a poll, for polls that overlap.

Main statements:

* `Stage.run_claim`: the steps of a poll, taken together, are the poll.
-/

namespace Collector

/-! ## Guards -/

/-- At most one poll of a job is on its way. -/
structure PollGuard where
  /-- Whether one is. -/
  busy : Bool := false
  deriving DecidableEq

namespace PollGuard

/-- Claims the guard, unless it is claimed. -/
def claim? (g : PollGuard) : Option PollGuard := if g.busy then none else some ⟨true⟩

/-- Gives the guard back. -/
def release (_ : PollGuard) : PollGuard := ⟨false⟩

end PollGuard

/-! ## Readers -/

/-- The state of a job that pages through a feed. -/
structure Reader where
  /-- The task. -/
  task : Task
  /-- How the source of the task is polled. -/
  settings : PollSettings
  /-- The checkpoint in memory. -/
  cache : CheckpointCache
  /-- Whether a poll is on its way. -/
  guard : PollGuard := {}
  /-- Whether the reader was started, and not stopped since. -/
  started : Bool := false

/-- A reader that has not polled yet. -/
def Reader.ofSettings (task : Task) (settings : PollSettings) : Reader :=
  { task, settings, cache := { initial := settings.nextRecordTime } }

/-- A reader, and what it works on. -/
structure Site where
  /-- The reader. -/
  reader : Reader
  /-- The outside of the job: its writer and its store. -/
  backend : Backend

/-- How a poll ended that did not fail. -/
inductive PollOutcome where
  /-- The poll was skipped, since another one was on its way. -/
  | skipped
  /-- A page was taken in. -/
  | collected (emitted : Nat) (refreshed : Bool)
  deriving DecidableEq, Repr

/-- What a source answers to a cursor. -/
abbrev Source := String → Except PollError Page

namespace Site

/-! ## Parts of a poll -/

/-- Claims the reader, unless a poll is on its way. -/
def claim? (s : Site) : Option Site :=
  s.reader.guard.claim?.map fun guard => { s with reader := { s.reader with guard } }

/-- Gives the reader back. -/
def release (s : Site) : Site :=
  { s with reader := { s.reader with guard := s.reader.guard.release } }

/-- Loads the checkpoint. -/
def load (s : Site) : Except PollError Checkpoint × Site :=
  let (result, cache, backend) := s.reader.cache.load s.reader.task s.backend
  (result, ⟨{ s.reader with cache }, backend⟩)

/-- Asks for the page at a checkpoint's cursor, and reconciles it. -/
def collect (s : Site) (source : Source) (previous : Checkpoint) : Except PollError Reconciled :=
  match source previous.cursor with
  | .error e => .error e
  | .ok page =>
    match reconcile (some previous) page s.reader.settings.pageSize with
    | .error e => .error (.cursor e)
    | .ok r => .ok r

/-- Holds a checkpoint. -/
def hold (s : Site) (state : Checkpoint) : Site :=
  { s with reader := { s.reader with cache := s.reader.cache.apply state } }

/-- Holds the new checkpoint at once if the cursor was moved past a timestamp. -/
def advance (s : Site) (r : Reconciled) : Site :=
  match r.refreshed, r.checkpoint with
  | true, some next => s.hold next
  | _, _ => s

/-- The envelope of collected records. -/
def envelope (settings : PollSettings) (records : List Record) : Envelope :=
  let e := (Envelope.withMeta {} Setting.serverUrl settings.serverUrl).withMeta
    Setting.endpoint settings.endpoint
  let e :=
    match settings.username with
    | some user => e.withMeta Setting.username user
    | none => e
  { e with records := records.map fun r => bytesOf r.render }

/-- Writes the new records, if there are any. -/
def deliver (s : Site) (r : Reconciled) : Except PollError Unit × Site :=
  if r.emit.isEmpty then (.ok (), s)
  else
    match s.backend.deliver (envelope s.reader.settings r.emit) with
    | (.ok (), backend) => (.ok (), { s with backend })
    | (.error e, backend) => (.error (.write e), { s with backend })

/-- Stores a checkpoint. -/
def persist (s : Site) (next : Checkpoint) : Except PollError Unit × Site :=
  let (result, backend) := CheckpointCache.persist s.reader.task next s.backend
  (result, { s with backend })

/-- How a poll ends that took in a page. -/
def outcome (r : Reconciled) : PollOutcome := .collected r.emit.length r.refreshed

/-! ## Polls -/

/-- Stores the new checkpoint, if there is one, and then holds it. -/
def commit (s : Site) (r : Reconciled) : Except PollError PollOutcome × Site :=
  match r.checkpoint with
  | none => (.ok (outcome r), s)
  | some next =>
    match s.persist next with
    | (.error e, s) => (.error e, s)
    | (.ok (), s) => (.ok (outcome r), s.hold next)

/-- What a poll does with a reconciled page. -/
def settle (s : Site) (r : Reconciled) : Except PollError PollOutcome × Site :=
  match (s.advance r).deliver r with
  | (.error e, s) => (.error e, s)
  | (.ok (), s) => s.commit r

/-- What a poll does once it has claimed the reader. -/
def cycle (s : Site) (source : Source) : Except PollError PollOutcome × Site :=
  match s.load with
  | (.error e, s) => (.error e, s)
  | (.ok previous, s) =>
    match s.collect source previous with
    | .error e => (.error e, s)
    | .ok r => s.settle r

/-- A job after one poll, and how the poll ended. -/
def poll (s : Site) (source : Source) : Except PollError PollOutcome × Site :=
  match s.claim? with
  | none => (.ok .skipped, s)
  | some s =>
    let (result, s) := s.cycle source
    (result, s.release)

/-- One poll as the work of a job. -/
def index (s : Site) (source : Source) : Except JobError Unit × Site :=
  match s.poll source with
  | (.ok _, s) => (.ok (), s)
  | (.error e, s) => (.error e.toJobError, s)

/-! ## Starting and stopping -/

/-- Starts what the reader works on, unless that was done. -/
def start (s : Site) : Site :=
  if s.reader.started then s else ⟨{ s.reader with started := true }, s.backend.start⟩

/-- Stops what the reader works on, if it was started. -/
def stop (s : Site) : Site :=
  if s.reader.started then ⟨{ s.reader with started := false }, s.backend.stop⟩ else s

end Site

/-! ## Steps of overlapping polls -/

/-- What a poll does next. -/
inductive Stage where
  /-- Claim the reader. -/
  | claim
  /-- Load the checkpoint. -/
  | load
  /-- Ask for the page after this checkpoint. -/
  | fetch (previous : Checkpoint)
  /-- Hold a checkpoint that moved past a timestamp. -/
  | advance (r : Reconciled)
  /-- Write the new records. -/
  | deliver (r : Reconciled)
  /-- Store the new checkpoint. -/
  | persist (r : Reconciled)
  /-- Hold the new checkpoint. -/
  | hold (r : Reconciled) (next : Checkpoint)
  /-- Give the reader back. -/
  | release (result : Except PollError PollOutcome)
  /-- The poll does nothing more, and has this result. -/
  | finished (result : Except PollError PollOutcome)

namespace Stage

/-- The number of steps that are left at most. -/
def rank : Stage → Nat
  | claim => 8
  | load => 7
  | fetch _ => 6
  | advance _ => 5
  | deliver _ => 4
  | persist _ => 3
  | hold _ _ => 2
  | release _ => 1
  | finished _ => 0

/-- Does the next step of a poll. -/
def step (source : Source) : Stage → Site → Stage × Site
  | claim, s =>
    match s.claim? with
    | none => (finished (.ok .skipped), s)
    | some s => (load, s)
  | load, s =>
    match s.load with
    | (.error e, s) => (release (.error e), s)
    | (.ok previous, s) => (fetch previous, s)
  | fetch previous, s =>
    match s.collect source previous with
    | .error e => (release (.error e), s)
    | .ok r => (advance r, s)
  | advance r, s => (deliver r, s.advance r)
  | deliver r, s =>
    match s.deliver r with
    | (.error e, s) => (release (.error e), s)
    | (.ok (), s) => (persist r, s)
  | persist r, s =>
    match r.checkpoint with
    | none => (release (.ok (Site.outcome r)), s)
    | some next =>
      match s.persist next with
      | (.error e, s) => (release (.error e), s)
      | (.ok (), s) => (hold r next, s)
  | hold r next, s => (release (.ok (Site.outcome r)), s.hold next)
  | release result, s => (finished result, s.release)
  | finished result, s => (finished result, s)

/-- The result of a poll that has nothing left to do. -/
def result? : Stage → Option (Except PollError PollOutcome)
  | finished result => some result
  | _ => none

theorem rank_pos {stage : Stage} (h : stage.result? = none) : 0 < stage.rank := by
  cases stage <;> simp_all [rank, result?]

theorem rank_step (source : Source) (stage : Stage) (s : Site) (h : 0 < stage.rank) :
    (step source stage s).1.rank < stage.rank := by
  cases stage with
  | finished => exact absurd h (by simp [rank])
  | _ =>
    simp only [step]
    repeat' split
    all_goals simp [rank]

/-- Whether a poll waits for its source. -/
def isFetch : Stage → Bool
  | fetch _ => true
  | _ => false

/-- Does the steps of a poll up to the one where it waits for its source. -/
def runToFetch (source : Source) (stage : Stage) (s : Site) : Stage × Site :=
  if h : 0 < stage.rank then
    if stage.isFetch then (stage, s)
    else
      have := rank_step source stage s h
      runToFetch source (step source stage s).1 (step source stage s).2
  else (stage, s)
termination_by stage.rank

/-- Does all steps of a poll. -/
def run (source : Source) (stage : Stage) (s : Site) : Except PollError PollOutcome × Site :=
  match hs : stage.result? with
  | some result => (result, s)
  | none =>
    have := rank_step source stage s (rank_pos hs)
    run source (step source stage s).1 (step source stage s).2
termination_by stage.rank

theorem run_over (source : Source) (result : Except PollError PollOutcome) (s : Site) :
    run source (finished result) s = (result, s) := by
  rw [run]
  rfl

theorem run_of_result?_eq_none {source : Source} {stage : Stage} {s : Site}
    (h : stage.result? = none) :
    run source stage s = run source (step source stage s).1 (step source stage s).2 := by
  rw [run]
  split
  · simp_all
  · rfl

theorem run_release (source : Source) (result : Except PollError PollOutcome) (s : Site) :
    run source (release result) s = (result, s.release) := by
  rw [run_of_result?_eq_none rfl]; exact run_over ..

theorem run_persist (source : Source) (r : Reconciled) (s : Site) :
    run source (persist r) s = ((s.commit r).1, (s.commit r).2.release) := by
  rw [run_of_result?_eq_none rfl]
  simp only [step, Site.commit]
  split
  · exact run_release ..
  · split
    · exact run_release ..
    · rw [run_of_result?_eq_none rfl]; exact run_release ..

theorem run_advance (source : Source) (r : Reconciled) (s : Site) :
    run source (advance r) s = ((s.settle r).1, (s.settle r).2.release) := by
  rw [run_of_result?_eq_none rfl]
  simp only [step]
  rw [run_of_result?_eq_none rfl]
  simp only [step, Site.settle]
  split
  · exact run_release ..
  · exact run_persist ..

/-- The steps of a poll, taken together, are the poll. -/
theorem run_claim (source : Source) (s : Site) :
    run source claim s = s.poll source := by
  rw [run_of_result?_eq_none rfl]
  simp only [step, Site.poll, Site.cycle]
  split
  · exact run_over ..
  · rename_i t _
    rw [run_of_result?_eq_none rfl]
    simp only [step]
    split
    · exact run_release ..
    · rw [run_of_result?_eq_none rfl]
      simp only [step]
      split
      · exact run_release ..
      · exact run_advance ..

end Stage

namespace Site

/-- Two polls that begin at once, the first one first.  If a poll has to wait for
its source, the second one begins while the first one waits, and otherwise after
it. -/
def pollPair (s : Site) (waits : Bool) (first second : Source) :
    Except PollError PollOutcome × Except PollError PollOutcome × Site :=
  let begin (source : Source) (s : Site) : Stage × Site :=
    if waits then Stage.runToFetch source .claim s
    else
      let (result, s) := Stage.run source .claim s
      (.finished result, s)
  let (stage1, s) := begin first s
  let (stage2, s) := begin second s
  let (result1, s) := Stage.run first stage1 s
  let (result2, s) := Stage.run second stage2 s
  (result1, result2, s)

end Site

end Collector
