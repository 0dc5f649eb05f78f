/-!
# Whole numbers in decimal

How counts are written in the settings and heartbeats of `harvest-model`: ASCII digits
only.  Reading allows leading zeros and one plus sign, and refuses a number that does not
fit its width instead of cutting it.
-/

namespace Collector.Decimal

/-! ## Writing -/

/-- The decimal digits of a number, without leading zeros. -/
def digits (n : Nat) : List Char := Nat.toDigits 10 n

/-- A number in decimal. -/
def ofNat (n : Nat) : String := String.ofList (digits n)

/-- A signed number in decimal. -/
def ofInt (i : Int) : String :=
  if i < 0 then String.ofList ('-' :: digits i.natAbs) else ofNat i.natAbs

/-! ## Reading -/

/-- Whether a character is an ASCII digit. -/
def isDigit (c : Char) : Bool := 48 ≤ c.toNat && c.toNat ≤ 57

/-- The value of a digit. -/
def digitValue (c : Char) : Nat := c.toNat - 48

/-- The number that a list of digits writes. -/
def value (cs : List Char) : Nat := cs.foldl (fun n c => n * 10 + digitValue c) 0

/-- Reads one or more digits. -/
def readDigits? (cs : List Char) : Option Nat :=
  if cs ≠ [] ∧ cs.all isDigit then some (value cs) else none

/-- A text without its plus sign, if it begins with one. -/
def dropPlus : List Char → List Char
  | '+' :: cs => cs
  | cs => cs

/-- Reads a number below `2 ^ width`: digits, after at most one plus sign. -/
def read? (width : Nat) (s : String) : Option Nat :=
  match readDigits? (dropPlus s.toList) with
  | some n => if n < Nat.pow 2 width then some n else none
  | none => none

/-- The number of decimal digits of a number. -/
def length (n : Nat) : Nat := (digits n).length

example : read? 64 "+0018" = some 18 := by decide
example : read? 64 "18446744073709551616" = none ∧ read? 64 "-1" = none ∧ read? 64 "+" = none := by
  decide

end Collector.Decimal
