/-!
# Delays between restarts

The backoff of `harvest-core`: a loop that failed is started again after a delay, which
doubles from failure to failure up to a limit.  The second half of a delay may be cut
short; here it counts in full.
-/

namespace Collector

/-- How long to wait before a restart, in milliseconds. -/
structure Backoff where
  /-- The delay after the first failure. -/
  firstMs : Nat
  /-- The longest delay. -/
  maxMs : Nat
  deriving DecidableEq, Repr

namespace Backoff

/-- By what a delay grows from one failure to the next. -/
def factor : Nat := 2

/-- The delay that is aimed at after the given one, or at first. -/
def nominal (b : Backoff) : Option Nat → Nat
  | none => min b.firstMs b.maxMs
  | some previous => min (factor * previous) b.maxMs

/-- The longest delay that a nominal one leads to: half of it, in whole milliseconds,
and as much again. -/
def longest (nominal : Nat) : Nat := 2 * (nominal / 2)

/-- The delay after the given one, or the first one. -/
def next (b : Backoff) (previous : Option Nat) : Nat := longest (b.nominal previous)

theorem longest_le (nominal : Nat) : longest nominal ≤ nominal := Nat.mul_div_le nominal 2

theorem nominal_le_maxMs (b : Backoff) (previous : Option Nat) :
    b.nominal previous ≤ b.maxMs := by
  cases previous <;> exact Nat.min_le_right _ _

theorem next_le_maxMs (b : Backoff) (previous : Option Nat) : b.next previous ≤ b.maxMs :=
  Nat.le_trans (longest_le _) (b.nominal_le_maxMs previous)

end Backoff

end Collector
