import Collector.Backoff
import Collector.Failure

/-!
# Supervision

A loop that `harvest-core` supervises is attempted again and again until an attempt ends
well, ends in a way that a restart cannot mend, or the loop is cancelled.  Between two
attempts there is a delay; a cancellation during it ends the loop.

* `Supervision.verdict` says what follows the end of an attempt.
* `Supervision.Step` is one move of a loop, `Supervision.Leads` any number of them: attempts
  end when and how they do, and the loop may be cancelled at any moment.
* `Supervision.run` follows a loop whose attempts are known beforehand.

Main statements:

* `Supervision.verdict_of_cancelled`: no attempt follows one that ended after the
  cancellation.
-/

namespace Collector

/-- What follows the end of an attempt. -/
inductive Verdict where
  /-- Nothing follows, for the loop has ended. -/
  | finished (result : Except Exit Unit)
  /-- A delay, in milliseconds, and then another attempt. -/
  | rest (ms : Nat)

namespace Supervision

/-- What follows the end of an attempt, given the delay before it. -/
def verdict (b : Backoff) (previous : Option Nat) (cancelled : Bool) :
    Except Exit Unit → Verdict
  | .ok () => .finished (.ok ())
  | .error e => if e.retryable && !cancelled then .rest (b.next previous) else .finished (.error e)

theorem verdict_of_cancelled (b : Backoff) (previous : Option Nat) (result : Except Exit Unit) :
    verdict b previous true result = .finished result := by
  cases result <;> simp [verdict]

/-! ## Moves -/

/-- Where a loop stands in its attempts. -/
inductive Stage where
  /-- The loop stands before its first attempt. -/
  | fresh
  /-- The loop is in an attempt. -/
  | attempting
  /-- The loop is in the delay after an attempt. -/
  | resting
  /-- The loop has ended behind its last attempt. -/
  | finished (result : Except Exit Unit)

/-- How a loop stands: in its attempts, and cancelled or not. -/
structure Standing where
  /-- Where the loop stands in its attempts. -/
  stage : Stage := .fresh
  /-- Whether the loop was cancelled. -/
  cancelled : Bool := false

/-- What happens to a loop. -/
inductive Move where
  /-- The loop is cancelled. -/
  | cancel
  /-- An attempt begins. -/
  | begins
  /-- The attempt ends. -/
  | ends (result : Except Exit Unit)
  /-- The delay is cut short. -/
  | cut

/-- The stage after the end of an attempt. -/
def stageAfter : Verdict → Stage
  | .finished result => .finished result
  | .rest _ => .resting

/-- One move of a loop, whatever its delays are. -/
inductive Step (s : Standing) : Move → Standing → Prop
  /-- A loop may be cancelled at any moment. -/
  | cancel : Step s .cancel { s with cancelled := true }
  /-- The first attempt begins in any case. -/
  | first (hstage : s.stage = .fresh) : Step s .begins { s with stage := .attempting }
  /-- The delay is over; the loop may have been cancelled in the same moment. -/
  | again (hstage : s.stage = .resting) : Step s .begins { s with stage := .attempting }
  /-- An attempt ends. -/
  | ends (b : Backoff) (previous : Option Nat) {result : Except Exit Unit}
      (hstage : s.stage = .attempting) :
      Step s (.ends result) { s with stage := stageAfter (verdict b previous s.cancelled result) }
  /-- The loop was cancelled before the delay is over. -/
  | cut (hstage : s.stage = .resting) (hcancelled : s.cancelled = true) :
      Step s .cut { s with stage := .finished (.error .canceled) }

/-- Where some moves lead. -/
inductive Leads : Standing → List Move → Standing → Prop
  /-- Without a move the loop stays where it stands. -/
  | nil {s : Standing} : Leads s [] s
  /-- Moves are made one after another. -/
  | cons {s r t : Standing} {m : Move} {moves : List Move} (hstep : Step s m r)
      (hrest : Leads r moves t) : Leads s (m :: moves) t

/-- Whether an attempt begins by a move. -/
def Move.isBegin : Move → Bool
  | begins => true
  | _ => false

/-- Whether the loop is cancelled by a move. -/
def Move.isCancel : Move → Bool
  | cancel => true
  | _ => false

/-- How the attempt ends that a move ends, if it ends one. -/
def Move.outcome? : Move → Option (Except Exit Unit)
  | ends result => some result
  | _ => none

/-- How many attempts have begun by some moves. -/
def begun (moves : List Move) : Nat := moves.countP Move.isBegin

/-- How the attempts ended that have ended by some moves. -/
def outcomes (moves : List Move) : List (Except Exit Unit) := moves.filterMap Move.outcome?

/-! ## Attempts that are known beforehand -/

/-- What one attempt does. -/
inductive Attempt where
  /-- The attempt ends at once. -/
  | ends (result : Except Exit Unit)
  /-- The attempt waits until the loop is cancelled, and then ends well. -/
  | waits

/-- When a loop is cancelled. -/
structure Cancellation where
  /-- The loop is cancelled by the end of the attempt with this number. -/
  inAttempt : Option Nat := none
  /-- The loop is cancelled this many milliseconds after it began. -/
  afterMs : Option Nat := none

/-- Whether the time of the cancellation has come. -/
def Cancellation.reached (c : Cancellation) (now : Nat) : Bool := c.afterMs.any (· ≤ now)

/-- How the attempt with number `n`, begun at `now`, ends: its result, the time, and
whether the loop is cancelled by then; none if it waits for ever. -/
def ending (c : Cancellation) (n now : Nat) : Attempt → Option (Except Exit Unit × Nat × Bool)
  | .ends result => some (result, now, c.inAttempt = some n || c.reached now)
  | .waits =>
    if c.inAttempt = some n || c.reached now then some (.ok (), now, true)
    else c.afterMs.map fun t => (.ok (), t, true)

/-- The attempt with number `n`, counted from one; the last one is repeated. -/
def attemptAt? (attempts : List Attempt) (n : Nat) : Option Attempt :=
  attempts[n - 1]? <|> attempts.getLast?

/-- Follows a loop from its attempt number `n` on, for at most `fuel` attempts. -/
def runFrom (b : Backoff) (c : Cancellation) (attempts : List Attempt) :
    (fuel n now : Nat) → Option Nat → Option (Except Exit Unit × Nat)
  | 0, _, _, _ => none
  | fuel + 1, n, now, previous =>
    match (attemptAt? attempts n).bind (ending c n now) with
    | none => none
    | some (result, now, cancelled) =>
      match verdict b previous cancelled result with
      | .finished result => some (result, n)
      | .rest ms =>
        if c.afterMs.any (· < now + ms) then some (.error .canceled, n)
        else runFrom b c attempts fuel (n + 1) (now + ms) (some ms)

/-- How a loop ends, and after how many attempts; none if it goes on for ever. -/
def run (b : Backoff) (c : Cancellation) (attempts : List Attempt) :
    Option (Except Exit Unit × Nat) :=
  runFrom b c attempts (attempts.length + c.inAttempt.getD 0 + c.afterMs.getD 0 + 1) 1 0 none

end Supervision

end Collector
