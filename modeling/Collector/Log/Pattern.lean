import Collector.Text.Alphanumeric
import Collector.Text.Decimal

/-!
# Patterns for the values of fields

A directive in a filter of `harvest-observe` may ask for the value of a field: a number,
or a text that a regular expression describes.  Its characters are read one by one, and
only whether it is well formed matters here: groups and sets are closed, an operator of
repetition stands after something, the ends of a range are in order, and classes that need
tables of characters are not available.

* `Pattern.isValid`: whether a text can stand for a value.
-/

namespace Collector.Log.Pattern

/-! ## Numbers -/

/-- Whether a text is one or more digits. -/
def isDigits (cs : List Char) : Bool := !cs.isEmpty && cs.all Decimal.isDigit

/-- Whether a text is a number without exponent; digits stand on at least one side
of the point. -/
def isPlain (cs : List Char) : Bool :=
  match cs.span (· ≠ '.') with
  | (whole, []) => isDigits whole
  | (whole, _ :: fraction) =>
    (whole ++ fraction).all Decimal.isDigit && !(whole ++ fraction).isEmpty

/-- A text without its sign, if it begins with one. -/
def dropSign : List Char → List Char
  | '+' :: cs => cs
  | '-' :: cs => cs
  | cs => cs

/-- Whether a text is a number: decimal, with or without an exponent, or one of the
words for what is no finite number. -/
def isNumber (s : String) : Bool :=
  let cs := dropSign s.toList
  let finite :=
    match cs.span fun c => c ≠ 'e' ∧ c ≠ 'E' with
    | (plain, []) => isPlain plain
    | (plain, _ :: exponent) => isPlain plain && isDigits (dropSign exponent)
  finite || Text.lower (String.ofList cs) ∈ ["inf", "infinity", "nan"]

/-! ## Regular expressions -/

/-- Where a character stands that is written with a backslash. -/
inductive Scope where
  /-- The character stands outside of sets. -/
  | text
  /-- The character stands in sets, so many inside one another. -/
  | set (depth : Nat)
  /-- The character ends a range in a set that begins with this other character. -/
  | range (depth low : Nat)
  deriving DecidableEq, Repr

/-- What was read last. -/
inductive Place where
  /-- The start of an expression, where nothing could be repeated. -/
  | start
  /-- Something that can be repeated. -/
  | item
  /-- An opening parenthesis. -/
  | group
  /-- An opening parenthesis and a question mark. -/
  | mark
  /-- An opening parenthesis, a question mark and the letter that announces a name. -/
  | naming
  /-- The beginning of the name of a group. -/
  | name (empty : Bool)
  /-- Options of a group, the last one first. -/
  | options (read : List Char)
  /-- A backslash. -/
  | escape (scope : Scope)
  /-- Some digits of the number of a character; so many are missing. -/
  | number (scope : Scope) (missing value : Nat)
  /-- The opening bracket of a set. -/
  | setOpen (depth : Nat)
  /-- The opening bracket of a set with its caret, and perhaps dashes. -/
  | setFirst (depth : Nat) (empty : Bool)
  /-- Something in a set that cannot begin a range. -/
  | set (depth : Nat)
  /-- A character in a set. -/
  | setItem (depth low : Nat)
  /-- A character in a set and a dash. -/
  | setDash (depth low : Nat)
  deriving DecidableEq, Repr

/-- The character that a letter after a backslash stands for. -/
def control? : Char → Option Nat
  | 'a' => some 7
  | 'f' => some 12
  | 't' => some 9
  | 'n' => some 10
  | 'r' => some 13
  | 'v' => some 11
  | _ => none

/-- How many digits the number of a character has after a letter. -/
def numberLength? : Char → Option Nat
  | 'x' => some 2
  | 'u' => some 4
  | 'U' => some 8
  | _ => none

/-- The value of a hexadecimal digit. -/
def hexValue? (c : Char) : Option Nat :=
  ("0123456789abcdef".toList.zipIdx.find? fun p => p.1 = Text.lowerChar c).map (·.2)

/-- Whether a character stands for itself after a backslash: all of ASCII but
letters, digits and angle brackets. -/
def isPlainEscape (c : Char) : Bool :=
  c.toNat < 0x80 && !c.isAlphanum && c ≠ '<' && c ≠ '>'

/-- Whether a character may stand in the name of a group. -/
def isNameChar (first : Bool) (c : Char) : Bool :=
  c = '_' || (Text.isAlphanumeric c && !(first && Decimal.isDigit c)) ||
    (!first && c ∈ ['.', '[', ']'])

/-- The place after a character in this scope. -/
def taken (code : Nat) : Scope → Option Place
  | .text => some .item
  | .set depth => some (.setItem depth code)
  | .range depth low => if low ≤ code then some (.set depth) else none

/-- The place after a character that follows a backslash. -/
def stepEscape (scope : Scope) (c : Char) : Option Place :=
  match control? c, numberLength? c with
  | some code, _ => taken code scope
  | none, some missing => some (.number scope missing 0)
  | none, none =>
    if isPlainEscape c then taken c.toNat scope
    else if scope = .text ∧ (c = 'A' ∨ c = 'z') then some .item
    else none

/-- The place after a character in a set, where no range begins with what was
read. -/
def stepSet (depth : Nat) (c : Char) : Place :=
  if c = ']' then (if depth ≤ 1 then .item else .set (depth - 1))
  else if c = '[' then .setOpen (depth + 1)
  else if c = '\\' then .escape (.set depth)
  else .setItem depth c.toNat

/-- The place after the first character of a set that is not a dash. -/
def stepSetFirst (depth : Nat) (empty : Bool) (c : Char) : Place :=
  if c = '-' then .setFirst depth false
  else if empty && c = ']' then .setItem depth c.toNat
  else stepSet depth c

/-- The options of groups. -/
def optionLetters : List Char := ['i', 'm', 's', 'U', 'u', 'R', 'x']

/-- The place after a character among the options of a group, and whether it opens
the group.  A dash turns off what follows it, so something has to. -/
def stepOptions (read : List Char) (c : Char) : Option (Bool × Place) :=
  if c = ':' then (if read.head? = some '-' then none else some (true, .start))
  else if c = ')' then
    (if read.head? = some '-' ∨ read = [] then none else some (false, .start))
  else if (c = '-' ∨ c ∈ optionLetters) ∧ c ∉ read then some (false, .options (c :: read))
  else none

/-- The number of open groups, and the place, after one more character outside of
sets. -/
def stepText (groups : Nat) (repeatable : Bool) (c : Char) : Option (Nat × Place) :=
  if c = '(' then some (groups, .group)
  else if c = ')' then (if groups = 0 then none else some (groups - 1, .item))
  else if c = '|' then some (groups, .start)
  else if c = '[' then some (groups, .setOpen 1)
  else if c = '\\' then some (groups, .escape .text)
  else if c ∈ ['*', '+', '?'] then (if repeatable then some (groups, .item) else none)
  else if c = '{' then none
  else some (groups, .item)

/-- The number of open groups, and the place, after one more character. -/
def step? : Nat × Place → Char → Option (Nat × Place)
  | (groups, .start), c => stepText groups false c
  | (groups, .item), c => stepText groups true c
  | (groups, .group), c =>
    if c = '?' then some (groups, .mark) else stepText (groups + 1) false c
  | (groups, .mark), c =>
    if c = 'P' then some (groups, .naming)
    else if c = '<' then some (groups, .name true)
    else (stepOptions [] c).map fun p => (if p.1 then groups + 1 else groups, p.2)
  | (groups, .naming), c => if c = '<' then some (groups, .name true) else none
  | (groups, .name empty), c =>
    if c = '>' then (if empty then none else some (groups + 1, .start))
    else if isNameChar empty c then some (groups, .name false)
    else none
  | (groups, .options read), c =>
    (stepOptions read c).map fun p => (if p.1 then groups + 1 else groups, p.2)
  | (groups, .escape scope), c => (stepEscape scope c).map fun p => (groups, p)
  | (groups, .number scope missing value), c =>
    match hexValue? c with
    | none => none
    | some digit =>
      let value := value * 16 + digit
      if 1 < missing then some (groups, .number scope (missing - 1) value)
      else if value.isValidChar then (taken value scope).map fun p => (groups, p)
      else none
  | (groups, .setOpen depth), c =>
    some (groups, if c = '^' then .setFirst depth true else stepSetFirst depth true c)
  | (groups, .setFirst depth empty), c => some (groups, stepSetFirst depth empty c)
  | (groups, .set depth), c => some (groups, stepSet depth c)
  | (groups, .setItem depth low), c =>
    some (groups, if c = '-' then .setDash depth low else stepSet depth c)
  | (groups, .setDash depth low), c =>
    if c = ']' ∨ c = '-' then some (groups, stepSet depth c)
    else if c = '\\' then some (groups, .escape (.range depth low))
    else (taken c.toNat (.range depth low)).map fun p => (groups, p)

/-- Whether a text is a regular expression. -/
def isExpression (s : String) : Bool :=
  match s.toList.foldlM step? (0, .start) with
  | some (0, .start) => true
  | some (0, .item) => true
  | _ => false

/-- Whether a text can stand for a value: a number or a regular expression. -/
def isValid (s : String) : Bool := isNumber s || isExpression s

end Collector.Log.Pattern
