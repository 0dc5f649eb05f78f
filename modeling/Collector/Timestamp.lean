import Collector.Calendar
import Collector.Failure

/-!
# Source timestamps

The sources of `harvest-source` write a moment as `YYYY-MM-DD hh:mm:ss`.  Reading allows a
sign before the year; writing puts one only before negative years.

* `nextSecond` moves a timestamp on by one second.
-/

namespace Collector.Timestamp

/-- The form of a timestamp, for people. -/
def template : String := "YYYY-MM-DD hh:mm:ss"

/-! ## Reading -/

/-- The moment that nineteen characters write, before a look at whether it
exists. -/
def fields? : List Char → Option Moment
  | [y1, y2, y3, y4, '-', m1, m2, '-', d1, d2, ' ', h1, h2, ':', n1, n2, ':', s1, s2] =>
    match Decimal.readDigits? [y1, y2, y3, y4], Decimal.readDigits? [m1, m2],
        Decimal.readDigits? [d1, d2], Decimal.readDigits? [h1, h2],
        Decimal.readDigits? [n1, n2], Decimal.readDigits? [s1, s2] with
    | some y, some m, some d, some h, some n, some s => some ⟨y, m, d, h, n, s⟩
    | _, _, _, _, _, _ => none
  | _ => none

/-- The fields of a timestamp with an optional sign. -/
def signed? : List Char → Option Moment
  | '-' :: cs => (fields? cs).map fun m => { m with year := -m.year }
  | '+' :: cs => fields? cs
  | cs => fields? cs

/-- Reads a timestamp; the moment must exist. -/
def ofChars? (cs : List Char) : Option Moment :=
  match signed? cs with
  | some m => if m.Valid then some m else none
  | none => none

/-- Reads a timestamp; the moment must exist. -/
def read? (s : String) : Option Moment := ofChars? s.toList

/-! ## Writing -/

/-- A number with leading zeros up to the given width. -/
def padded (width n : Nat) : List Char :=
  let ds := Decimal.digits n
  List.replicate (width - ds.length) '0' ++ ds

/-- The characters of a timestamp without its sign. -/
def unsignedChars (m : Moment) : List Char :=
  padded 4 m.year.natAbs ++ '-' :: (padded 2 m.month ++ '-' :: (padded 2 m.day ++
    ' ' :: (padded 2 m.hour ++ ':' :: (padded 2 m.minute ++ ':' :: padded 2 m.second))))

/-- The characters of a timestamp. -/
def chars (m : Moment) : List Char :=
  if m.year < 0 then '-' :: unsignedChars m else unsignedChars m

/-- Writes a timestamp. -/
def render (m : Moment) : String := String.ofList (chars m)

/-! ## Moving on -/

/-- The timestamp one second later. -/
def nextSecond (s : String) : Except CursorError String :=
  match read? s with
  | none => .error (.unreadable s)
  | some m =>
    match m.next? with
    | none => .error (.overflow s)
    | some n => .ok (render n)

end Collector.Timestamp
