import Collector.KeyMap
import Collector.Trace

/-!
# Jobs by identity

The job cache of `harvest-core` keeps one job for each task identity.  A job is made and
started in the cell of its identity, so that a second caller waits for a started job while
other identities are served.  A cell whose job could not be made is given back: the next
caller that waits for it may try, and the identity forgets the cell.

* `JobCache.getOrCreate` is a whole call without others beside it.
* `CacheCall.step` is one step of a call, for calls that overlap.
-/

namespace Collector

/-- A place for one job. -/
structure Cell (J : Type) where
  /-- The job, once it is started. -/
  job : Option J := none
  /-- Whether a call is making the job. -/
  busy : Bool := false

/-- Jobs by identity. -/
structure JobCache (J : Type) where
  /-- All cells that were ever made. -/
  cells : List (Cell J) := []
  /-- The cell of each identity, by its place among all cells. -/
  slots : KeyMap Nat := KeyMap.empty

/-- What a caller gets. -/
inductive Found (J : Type) where
  /-- A job that was there. -/
  | cached (job : J)
  /-- A job that was made for this call. -/
  | created (job : J)
  deriving DecidableEq, Repr

namespace Found

variable {J : Type}

/-- The job. -/
def job : Found J → J
  | cached job => job
  | created job => job

/-- Whether the job was made for this call. -/
def isCreated : Found J → Bool
  | cached _ => false
  | created _ => true

end Found

namespace JobCache

variable {J : Type}

/-! ## Cells -/

/-- The job in a cell. -/
def jobIn? (c : JobCache J) (cell : Nat) : Option J := (c.cells[cell]?).bind Cell.job

/-- Whether a call is making the job of a cell. -/
def isBusy (c : JobCache J) (cell : Nat) : Bool := (c.cells[cell]?).any Cell.busy

/-- The cache with a cell replaced. -/
def setCell (c : JobCache J) (cell : Nat) (value : Cell J) : JobCache J :=
  { c with cells := c.cells.set cell value }

/-- The cell of an identity, a new one if it has none. -/
def enter (c : JobCache J) (identity : String) : Nat × JobCache J :=
  match c.slots.get? identity with
  | some cell => (cell, c)
  | none =>
    (c.cells.length, ⟨c.cells ++ [{}], c.slots.insert identity c.cells.length⟩)

/-- Takes a cell to make its job. -/
def hold (c : JobCache J) (cell : Nat) : JobCache J := c.setCell cell { busy := true }

/-- Gives a cell back whose job was not made. -/
def giveBack (c : JobCache J) (cell : Nat) : JobCache J := c.setCell cell {}

/-- Puts a started job into its cell. -/
def fill (c : JobCache J) (cell : Nat) (job : J) : JobCache J :=
  c.setCell cell { job := some job }

/-- Has an identity forget its cell, if that is still this one and holds no
job. -/
def forget (c : JobCache J) (identity : String) (cell : Nat) : JobCache J :=
  if c.slots.get? identity = some cell ∧ (c.jobIn? cell).isNone then
    { c with slots := c.slots.erase identity }
  else c

/-! ## The whole cache -/

/-- The job of an identity. -/
def get? (c : JobCache J) (identity : String) : Option J :=
  (c.slots.get? identity).bind c.jobIn?

/-- The jobs, in the order of their identities. -/
def jobs (c : JobCache J) : List J := c.slots.values.filterMap c.jobIn?

/-- The number of jobs. -/
def size (c : JobCache J) : Nat := c.jobs.length

/-- Whether there are no jobs. -/
def isEmpty (c : JobCache J) : Bool := c.size = 0

/-- Hands all jobs over and forgets them. -/
def drain (c : JobCache J) : List J × JobCache J :=
  (c.jobs, { c with slots := KeyMap.empty })

/-- The job of an identity, made by `make` if there is none. -/
def getOrCreate {σ : Type} (c : JobCache J) (identity : String) (make : σ → Option J × σ)
    (s : σ) : Option (Found J) × JobCache J × σ :=
  let (cell, c) := c.enter identity
  match c.jobIn? cell with
  | some job => (some (.cached job), c, s)
  | none =>
    match make s with
    | (some job, s) => (some (.created job), c.fill cell job, s)
    | (none, s) => (none, (c.giveBack cell).forget identity cell, s)

end JobCache

/-! ## Steps of overlapping calls -/

/-- What a call does next. -/
inductive CallStage (J : Type) where
  /-- Look the cell of the identity up. -/
  | enter
  /-- Wait for the cell. -/
  | wait (cell : Nat)
  /-- Make the job. -/
  | make (cell : Nat)
  /-- Finish the start of the job. -/
  | start (cell : Nat) (job : J)
  /-- Give the cell back. -/
  | giveBack (cell : Nat)
  /-- Have the identity forget the cell. -/
  | forget (cell : Nat)
  /-- The call does nothing more, and has found this. -/
  | finished (found : Option (Found J))

/-- A call for the job of an identity. -/
structure CacheCall (J : Type) where
  /-- The identity. -/
  identity : String
  /-- What making the job will give. -/
  made : Option J
  /-- Whether starting the job takes a while. -/
  slow : Bool := false
  /-- What the call does next. -/
  stage : CallStage J := .enter

/-- One effect of a call. -/
inductive CallEvent (J : Type) where
  /-- A job of this identity was to be made. -/
  | create (identity : String)
  /-- A job was started. -/
  | start (job : J)
  deriving DecidableEq, Repr

namespace CallStage

variable {J : Type}

/-- The number of steps that are left at most. -/
def rank : CallStage J → Nat
  | enter => 5
  | wait _ => 4
  | make _ => 3
  | start _ _ => 2
  | giveBack _ => 2
  | forget _ => 1
  | finished _ => 0

end CallStage

namespace CacheCall

variable {J : Type}

/-- The next step of a call; none while it has to wait for another one. -/
def step? (call : CacheCall J) (c : JobCache J) :
    Option (CallStage J × JobCache J × List (CallEvent J)) :=
  match call.stage with
  | .enter =>
    let (cell, c) := c.enter call.identity
    some (.wait cell, c, [])
  | .wait cell =>
    match c.jobIn? cell with
    | some job => some (.finished (some (.cached job)), c, [])
    | none => if c.isBusy cell then none else some (.make cell, c.hold cell, [])
  | .make cell =>
    match call.made with
    | some job => some (.start cell job, c, [.create call.identity])
    | none => some (.giveBack cell, c, [.create call.identity])
  | .start cell job => some (.finished (some (.created job)), c.fill cell job, [.start job])
  | .giveBack cell => some (.forget cell, c.giveBack cell, [])
  | .forget cell => some (.finished none, c.forget call.identity cell, [])
  | .finished _ => none

theorem rank_step? {call : CacheCall J} {c c' : JobCache J} {stage : CallStage J}
    {events : List (CallEvent J)} (h : call.step? c = some (stage, c', events)) :
    stage.rank < call.stage.rank := by
  unfold step? at h
  split at h <;> (repeat' split at h) <;>
    simp_all only [Option.some.injEq, Prod.mk.injEq, reduceCtorEq] <;>
    (obtain ⟨rfl, _⟩ := h; simp [CallStage.rank])

/-- Whether a call waits for the start of its job, which takes a while. -/
def isStartingSlowly (call : CacheCall J) : Bool :=
  match call.stage with
  | .start _ _ => call.slow
  | _ => false

/-- Does the steps of a call until it has to wait, for another call or for the start
of its job. -/
def run (call : CacheCall J) (c : JobCache J) : CacheCall J × JobCache J × List (CallEvent J) :=
  match h : call.step? c with
  | none => (call, c, [])
  | some (stage, c, events) =>
    let call' := { call with stage }
    if call'.isStartingSlowly then (call', c, events)
    else
      have := rank_step? h
      let (call', c, more) := run call' c
      (call', c, events ++ more)
termination_by call.stage.rank

/-- Runs calls in the given order of their places, each of them until it has to wait. -/
def runInTurn : List Nat → List (CacheCall J) → JobCache J →
    List (CacheCall J) × JobCache J × List (CallEvent J)
  | [], calls, c => (calls, c, [])
  | place :: places, calls, c =>
    match calls[place]? with
    | none => runInTurn places calls c
    | some call =>
      let (call, c, events) := call.run c
      let (calls, c, more) := runInTurn places (calls.set place call) c
      (calls, c, events ++ more)

/-- What the call gave; none while it is not over. -/
def found? (call : CacheCall J) : Option (Found J) :=
  match call.stage with
  | .finished found => found
  | _ => none

end CacheCall

end Collector
