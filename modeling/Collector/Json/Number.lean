import Collector.Double.Shortest

/-!
# JSON numbers

A number literal that `harvest-model` reads keeps its exact value while it is an integer
of 64 bits; everything else is a double, made from the digits that 64 bits hold.  Doubles
are written with the fewest digits that determine them, `NumberLayout` saying how those
digits are laid out.
-/

namespace Collector.Json

/-! ## Literals -/

/-- A number literal: as many of its leading digits as 64 bits hold, times a power
of ten. -/
structure Literal where
  /-- Whether the numeral begins with a minus sign. -/
  negative : Bool
  /-- Whether the numeral has neither fraction nor exponent. -/
  whole : Bool
  /-- The digits that are kept, as a whole number. -/
  significand : Nat
  /-- The power of ten of the last digit that is kept. -/
  power : Int
  deriving DecidableEq, Repr

/-- The digits at the front of a text, and what follows them. -/
def spanDigits (cs : List Char) : List Char × List Char :=
  (cs.takeWhile Decimal.isDigit, cs.dropWhile Decimal.isDigit)

/-- The exponent that a text of the form `e+12` writes; an empty text writes
zero. -/
def exponent? : List Char → Option Int
  | [] => some 0
  | c :: cs =>
    if c = 'e' ∨ c = 'E' then
      match cs with
      | '-' :: ds => (Decimal.readDigits? ds).map fun n => -(n : Int)
      | '+' :: ds => (Decimal.readDigits? ds).map fun n => (n : Int)
      | ds => (Decimal.readDigits? ds).map fun n => (n : Int)
    else none

/-- How many bits a significand has. -/
def significandWidth : Nat := 64

/-- Adds digits to a significand until one does not fit; gives the significand and
the number of digits that were left out. -/
def extend (significand : Nat) : List Char → Nat × Nat
  | [] => (significand, 0)
  | d :: ds =>
    let longer := significand * 10 + Decimal.digitValue d
    if longer < Nat.pow 2 significandWidth then extend longer ds else (significand, ds.length + 1)

/-- A significand that fits still fits when digits were added. -/
theorem extend_lt {significand : Nat} (h : significand < Nat.pow 2 significandWidth)
    (ds : List Char) : (extend significand ds).1 < Nat.pow 2 significandWidth := by
  induction ds generalizing significand with
  | nil => exact h
  | cons d ds ih =>
    simp only [extend]
    split
    · rename_i longer
      exact ih longer
    · exact h

/-- Reads a literal without its sign: an integer part without leading zeros,
then a fraction, then an exponent, both optional. -/
def Literal.ofUnsigned? (negative : Bool) (cs : List Char) : Option Literal :=
  let (intPart, rest) := spanDigits cs
  let (significand, left) := extend 0 intPart
  if intPart = [] ∨ (intPart.head? = some '0' ∧ intPart.length ≠ 1) then none
  else
    match rest with
    | '.' :: rest =>
      let (fraction, rest') := spanDigits rest
      let (significand, left') := extend significand fraction
      if fraction = [] then none
      else
        (exponent? rest').map fun e =>
          ⟨negative, false, significand, left - ((fraction.length : Int) - left') + e⟩
    | rest => (exponent? rest).map fun e => ⟨negative, rest = [], significand, left + e⟩

/-- Reads a number literal. -/
def Literal.ofText? : List Char → Option Literal
  | '-' :: cs => ofUnsigned? true cs
  | cs => ofUnsigned? false cs

/-! ## Values -/

/-- A JSON number. -/
inductive Number where
  /-- An integer of at most 64 bits, signed or unsigned. -/
  | integer (i : Int)
  /-- Any other number, and negative zero. -/
  | double (x : Double)
  deriving DecidableEq, Repr

/-- The whole number that a literal writes, without its sign, if it is written
without fraction and exponent and 64 bits hold it. -/
def Literal.natural? (l : Literal) : Option Nat :=
  if l.whole ∧ l.power = 0 then some l.significand else none

/-- The number that a literal stands for; `none` if it is too large even for a
double. -/
def Literal.number? (l : Literal) : Option Number :=
  let double? := (Double.ofScaled? l.negative l.significand l.power).map Number.double
  match l.natural? with
  | none => double?
  | some n =>
    if ¬ l.negative then some (.integer n)
    else if n ≠ 0 ∧ n ≤ Nat.pow 2 63 then some (.integer (-(n : Int)))
    else double?

/-! ## Writing -/

/-- How the digits of a double are laid out. -/
structure NumberLayout where
  /-- The least power of ten of a first digit that is written without an
  exponent. -/
  leastPlain : Int
  /-- The greatest such power. -/
  greatestPlain : Int
  /-- What follows a whole number written without an exponent. -/
  wholeSuffix : List Char
  /-- The sign of an exponent that is not negative. -/
  plusSign : List Char

/-- Doubles have a plain form while their first digit stands between the fifth
decimal and the sixteenth place, end in `.0` if they are whole, and otherwise
carry a signed exponent. -/
def Number.layout : NumberLayout := ⟨-5, 15, ['.', '0'], ['+']⟩

/-- A positive decimal in a layout. -/
def NumberLayout.write (layout : NumberLayout) (s : Decimal.Scaled) : List Char :=
  let ds := Decimal.digits s.digits
  let first : Int := s.power + ds.length - 1
  if layout.leastPlain ≤ first ∧ first ≤ layout.greatestPlain then
    if 0 ≤ s.power then ds ++ List.replicate s.power.toNat '0' ++ layout.wholeSuffix
    else if 0 ≤ first then
      ds.take (first.toNat + 1) ++ '.' :: ds.drop (first.toNat + 1)
    else '0' :: '.' :: (List.replicate ((-first).toNat - 1) '0' ++ ds)
  else
    let mantissa :=
      match ds with
      | [d] => [d]
      | d :: rest => d :: '.' :: rest
      | [] => []
    let sign := if first < 0 then ['-'] else layout.plusSign
    mantissa ++ 'e' :: (sign ++ Decimal.digits first.natAbs)

/-- The text of a double. -/
def writeDouble (x : Double) : List Char :=
  let magnitude :=
    if x.mantissa = 0 then '0' :: Number.layout.wholeSuffix else Number.layout.write x.shortest
  if x.negative then '-' :: magnitude else magnitude

/-- The text of a number. -/
def Number.render : Number → List Char
  | integer i => (Decimal.ofInt i).toList
  | double x => writeDouble x

end Collector.Json
