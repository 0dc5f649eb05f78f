import Collector.Double.Basic

/-!
# The shortest decimal of a double

How a number of a record of `harvest-model` is written: among the decimals that read back
as a given double, the one with the fewest digits is written; of several with that many
digits, the one nearest to the double, and at equal distance the even one.

For each number of digits from 1 to 17 only the two neighbours of the double on
that decimal grid have to be tried.
-/

namespace Collector

/-- A decimal `digits * 10 ^ power`. -/
structure Decimal.Scaled where
  /-- The digits as a whole number. -/
  digits : Nat
  /-- The power of ten of the last digit. -/
  power : Int
  deriving DecidableEq, Repr

namespace Double

/-- The ends of the interval of reals that read as `mantissa * 2 ^ exponent`,
in units of `2 ^ (exponent - 2)`. -/
def interval (mantissa : Nat) (exponent : Int) : Nat × Nat :=
  let low := if mantissa = Nat.pow 2 52 ∧ leastExponent < exponent then 4 * mantissa - 1
    else 4 * mantissa - 2
  (low, 4 * mantissa + 2)

/-- Whether `num / den` reads as `mantissa * 2 ^ exponent`: the ends of the
interval belong to it if the mantissa is even. -/
def readsBack (mantissa : Nat) (exponent : Int) (num den : Nat) : Bool :=
  let (low, high) := interval mantissa exponent
  let (n, d) := scaleDown num den (exponent - 2)
  if mantissa % 2 = 0 then low * d ≤ n && n ≤ high * d else low * d < n && n < high * d

/-- The power of ten of the first digit of the positive quotient `num / den`. -/
def leadingPower (num den : Nat) : Int :=
  if den ≤ num then (Decimal.length (num / den) : Int) - 1
  else -(Decimal.length ((den - 1) / num) : Int)

/-- Distance of the whole number `k` to the quotient `num / den`, times `den`. -/
def distance (k num den : Nat) : Nat := max (k * den) num - min (k * den) num

/-- The neighbour of the double on the grid of multiples of `10 ^ power` that
reads back, if there is one; of two the nearer, of equally near ones the even. -/
def onGrid? (mantissa : Nat) (exponent power : Int) (num den : Nat) : Option Decimal.Scaled :=
  -- the double in units of the grid
  let n := num * powUp 10 (-power)
  let d := den * powUp 10 power
  let below := n / d
  let above := below + 1
  let fits (k : Nat) : Bool :=
    readsBack mantissa exponent (k * powUp 10 power) (powUp 10 (-power))
  match fits below, fits above with
  | true, true =>
    let a := distance below n d
    let b := distance above n d
    if a < b ∨ (a = b ∧ below % 2 = 0) then some ⟨below, power⟩ else some ⟨above, power⟩
  | true, false => some ⟨below, power⟩
  | false, true => some ⟨above, power⟩
  | false, false => none

/-- A decimal without trailing zeros. -/
def dropZeros (digits : Nat) (power : Int) : Decimal.Scaled :=
  if h : digits ≠ 0 ∧ digits % 10 = 0 then dropZeros (digits / 10) (power + 1)
  else ⟨digits, power⟩
termination_by digits
decreasing_by omega

/-- The shortest decimal that reads back as the magnitude of the double. -/
def shortest (x : Double) : Decimal.Scaled :=
  if x.mantissa = 0 then ⟨0, 0⟩
  else
    let num := x.mantissa * powUp 2 x.exponent
    let den := powUp 2 (-x.exponent)
    let lead := leadingPower num den
    let grids := (List.range 17).map fun (k : Nat) => lead - (k : Int)
    match grids.findSome? fun power => onGrid? x.mantissa x.exponent power num den with
    | some s => dropZeros s.digits s.power
    | none => ⟨0, 0⟩

end Double

end Collector
