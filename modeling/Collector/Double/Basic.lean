import Collector.Text.Decimal

/-!
# Double-precision numbers

What `harvest-model` reads a number of a record as: a finite binary64 number with sign,
mantissa and exponent of two, and rounding to such numbers: to the nearest, a tie going to
the even mantissa.  Everything is exact arithmetic on natural numbers.

* `Double.mul?`, `Double.div?` round an exact product or quotient.
* `Double.ofScaled?` reads a decimal, in several roundings.
-/

namespace Collector

/-- A finite double: `mantissa * 2 ^ exponent`, or its negation.  The mantissa
is below `2 ^ 53`; it reaches `2 ^ 52` unless the exponent is the least one. -/
structure Double where
  /-- Whether the sign bit is set; zero has two signs. -/
  negative : Bool
  /-- The significant bits as a whole number. -/
  mantissa : Nat
  /-- The power of two of the last bit. -/
  exponent : Int
  deriving DecidableEq, Repr

namespace Double

/-- The power of two of the last bit of the smallest doubles. -/
def leastExponent : Int := -1074

/-- The power of two of the last bit of the largest doubles. -/
def greatestExponent : Int := 971

/-- Zero with the given sign. -/
def zero (negative : Bool) : Double := ⟨negative, 0, leastExponent⟩

/-- The quotient `num / den` as a whole number, to the nearest; a half goes to
the even neighbour. -/
def roundHalfEven (num den : Nat) : Nat :=
  let q := num / den
  let r := num % den
  if den < 2 * r ∨ (2 * r = den ∧ q % 2 = 1) then q + 1 else q

/-- `base ^ e` for `e ≥ 0`, and one otherwise. -/
def powUp (base : Nat) (e : Int) : Nat := Nat.pow base e.toNat

/-- `num / den` divided by `2 ^ e`, as a quotient of whole numbers. -/
def scaleDown (num den : Nat) (e : Int) : Nat × Nat := (num * powUp 2 (-e), den * powUp 2 e)

/-- The exponent at which the rounded mantissa of the quotient `num / den` has
53 bits, or the least exponent if that is larger. -/
def exponentFor (num den : Nat) : Int :=
  let guess := (num.log2 : Int) - den.log2 - 52
  let (n, d) := scaleDown num den guess
  let fitted := if n < Nat.pow 2 52 * d then guess - 1 else guess
  max fitted leastExponent

/-- The double nearest to the positive quotient `num / den`; `none` if it is
too large for one. -/
def ofQuotient? (negative : Bool) (num den : Nat) : Option Double :=
  let e := exponentFor num den
  let (n, d) := scaleDown num den e
  let m := roundHalfEven n d
  let rounded : Double :=
    if m = Nat.pow 2 53 then ⟨negative, Nat.pow 2 52, e + 1⟩ else ⟨negative, m, e⟩
  if rounded.exponent ≤ greatestExponent then some rounded else none

/-! ## Products and quotients -/

/-- The double nearest to the quotient `num / den`; `none` if it is too large for
one. -/
def nearest? (negative : Bool) (num den : Nat) : Option Double :=
  if num = 0 then some (zero negative) else ofQuotient? negative num den

/-- The size of a double as a quotient of whole numbers. -/
def toQuotient (x : Double) : Nat × Nat := (x.mantissa * powUp 2 x.exponent, powUp 2 (-x.exponent))

/-- The double nearest to a product. -/
def mul? (x y : Double) : Option Double :=
  nearest? (x.negative != y.negative) (x.toQuotient.1 * y.toQuotient.1)
    (x.toQuotient.2 * y.toQuotient.2)

/-- The double nearest to a quotient. -/
def div? (x y : Double) : Option Double :=
  nearest? (x.negative != y.negative) (x.toQuotient.1 * y.toQuotient.2)
    (x.toQuotient.2 * y.toQuotient.1)

/-! ## Powers of ten -/

/-- The exponent of the greatest power of ten that is near to a double. -/
def greatestTen : Nat := 308

/-- The double nearest to a power of ten. -/
def ten? (n : Nat) : Option Double := ofQuotient? false (Nat.pow 10 n) 1

/-- A double times `10 ^ n`, rounded; `none` if that is too large. -/
def timesTen? (x : Double) (n : Nat) : Option Double :=
  if x.mantissa = 0 then some x
  else if n ≤ greatestTen then (ten? n).bind x.mul?
  else none

/-- A double divided by another one `count` times, and rounded each time. -/
def divRepeatedly? (d : Double) : Nat → Double → Option Double
  | 0, x => some x
  | count + 1, x =>
    if x.mantissa = 0 then some x else (x.div? d).bind (divRepeatedly? d count)

/-- A double over `10 ^ n`: by the greatest power of ten until what is left of `n`
is in reach, and then by that. -/
def overTen? (x : Double) (n : Nat) : Option Double :=
  let count := (n - 1) / greatestTen
  match ten? greatestTen, ten? (n - count * greatestTen) with
  | some greatest, some last => (divRepeatedly? greatest count x).bind fun y => y.div? last
  | _, _ => none

/-- The double of a significand and a power of ten.  The significand is rounded
first, and then its product or quotient with the power of ten: it may thus be
next to the double that is nearest to `significand * 10 ^ power`. -/
def ofScaled? (negative : Bool) (significand : Nat) (power : Int) : Option Double :=
  (nearest? negative significand 1).bind fun x =>
    if 0 ≤ power then x.timesTen? power.toNat else x.overTen? (-power).toNat

end Double

end Collector
