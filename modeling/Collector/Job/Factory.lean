import Collector.Poll
import Collector.Trace

/-!
# Builders of jobs

A builder of `harvest-core` makes the jobs of one application.  Builders may hold what
their jobs share; once that is released, a builder that needs it refuses.  The factory
knows the builders by application, and remembers which applications it has built a job
for: those are the ones that a worker reports.

* `Builder.incremental` builds the jobs that page through a source.

Main statements:

* `Factory.build_cases`: what asking for a job gives and leaves.
* `Factory.served_build_error`: a build that fails leaves the applications as they are.
-/

namespace Collector

/-! ## Builders -/

/-- A builder of jobs for one application. -/
structure Builder (J : Type) where
  /-- What messages call the builder. -/
  name : String
  /-- The application. -/
  app : String
  /-- Makes the job of a task.  The first argument tells whether what jobs share
  was released, the second one how often builders were asked before: the same task
  need not get the same answer every time. -/
  make : Bool → Nat → Task → Except JobError J
  /-- Whether what jobs share was released. -/
  closed : Bool := false

namespace Builder

variable {J : Type}

/-- Makes the job of a task, when builders were asked `turn` times before. -/
def build (b : Builder J) (turn : Nat) (t : Task) : Except JobError J := b.make b.closed turn t

/-- Releases what jobs share. -/
def close (b : Builder J) : Builder J := { b with closed := true }

/-- What messages call a builder of jobs that page through a source. -/
def incrementalName : String := "incremental-poll"

/-- Makes a job that pages through a source: the shared client is looked at
first, then the settings, then the writer that the provider gives. -/
def makeIncremental (writers : Nat → Task → Except ClientError Unit) (closed : Bool) (turn : Nat)
    (t : Task) : Except JobError Reader :=
  if closed then .error (.builderClosed incrementalName)
  else
    match PollSettings.ofTask t with
    | .error e => .error (PollError.settings e).toJobError
    | .ok settings =>
      match writers turn t with
      | .error e => .error (.client e)
      | .ok () => .ok (Reader.ofSettings t settings)

/-- A builder of jobs that page through a source. -/
def incremental (app : String) (writers : Nat → Task → Except ClientError Unit)
    (wrap : Reader → J) : Builder J where
  name := incrementalName
  app := app
  make := fun closed turn t => (makeIncremental writers closed turn t).map wrap

end Builder

/-! ## Factories -/

/-- Builders by application, and the applications that were built for. -/
structure Factory (J : Type) where
  /-- The builders. -/
  builders : KeyMap (Builder J) := KeyMap.empty
  /-- The applications that a job was built for. -/
  served : KeyMap Unit := KeyMap.empty
  /-- How often builders were asked. -/
  turn : Nat := 0

namespace Factory

variable {J : Type}

/-- The factory with one more builder, in place of an older one for its
application. -/
def register (f : Factory J) (b : Builder J) : Factory J :=
  { f with builders := f.builders.insert b.app b }

/-- The factory of a list of builders. -/
def ofBuilders (bs : List (Builder J)) : Factory J := bs.foldl register {}

/-- Whether there is a builder for an application. -/
def supports (f : Factory J) (app : String) : Bool := f.builders.contains app

/-- Makes the job of a task with the builder of an application. -/
def build (f : Factory J) (app : String) (t : Task) : Except JobError J × Factory J :=
  match f.builders.get? app with
  | none => (.error (.unknownApp app), f)
  | some b =>
    let asked := { f with turn := f.turn + 1 }
    match b.build f.turn t with
    | .error e => (.error e, asked)
    | .ok job => (.ok job, { asked with served := f.served.insert app () })

/-- Makes the job of a task, or none. -/
def create (f : Factory J) (app : String) (t : Task) : Option J × Factory J :=
  let (result, f) := f.build app t
  (result.toOption, f)

/-- The effects of making a job: a builder is asked if there is one. -/
def asks (f : Factory J) (app : String) (t : Task) : List (Event J) :=
  if f.supports app then [.asked app t.identity] else []

/-- The applications that a job was built for, in order. -/
def apps (f : Factory J) : List String := f.served.keys

/-- Has every builder release what its jobs share. -/
def close (f : Factory J) : Factory J :=
  { f with builders := f.builders.map Builder.close }

/-- The effects of releasing what jobs share. -/
def closing (f : Factory J) : List (Event J) := f.builders.keys.map .builderClosed

/-- What asking for a job gives, and what it leaves. -/
inductive Built (f : Factory J) (app : String) (t : Task) : Except JobError J × Factory J → Prop
  /-- There is no builder for the application. -/
  | unknown (hb : f.builders.get? app = none) : Built f app t (.error (.unknownApp app), f)
  /-- The builder refuses. -/
  | refused (b : Builder J) (e : JobError) (hb : f.builders.get? app = some b)
      (hbuild : b.build f.turn t = .error e) :
      Built f app t (.error e, { f with turn := f.turn + 1 })
  /-- The builder makes the job. -/
  | made (b : Builder J) (job : J) (hb : f.builders.get? app = some b)
      (hbuild : b.build f.turn t = .ok job) :
      Built f app t (.ok job, { f with
        served := f.served.insert app ()
        turn := f.turn + 1 })

theorem build_cases (f : Factory J) (app : String) (t : Task) : Built f app t (f.build app t) := by
  unfold build
  split
  · rename_i hb
    exact .unknown hb
  · rename_i b hb
    dsimp only
    split
    · rename_i e hbuild
      exact .refused b e hb hbuild
    · rename_i job hbuild
      exact .made b job hb hbuild

theorem served_build_error {f : Factory J} {app : String} {t : Task} {e : JobError}
    (h : (f.build app t).1 = .error e) : (f.build app t).2.served = f.served := by
  have hcases := build_cases f app t
  generalize f.build app t = result at hcases h ⊢
  cases hcases with
  | unknown | refused => rfl
  | made => cases h

end Factory

end Collector
