import Collector.Json.Basic

/-!
# Writing JSON

The JSON values of `harvest-model` are written compactly, members in the order in which
the object lists them.  In strings the quote, the backslash and the control characters
below U+0020 are escaped and everything else stands for itself.
-/

namespace Collector.Json

/-- One of the sixteen hexadecimal digits. -/
def hexDigit (n : Nat) : Char := if n < 10 then Char.ofNat (48 + n) else Char.ofNat (87 + n)

/-- A character inside a string literal. -/
def escapeChar (c : Char) : List Char :=
  if c = '"' then ['\\', '"']
  else if c = '\\' then ['\\', '\\']
  else if 0x20 ≤ c.toNat then [c]
  else if c.toNat = 0x08 then ['\\', 'b']
  else if c.toNat = 0x09 then ['\\', 't']
  else if c.toNat = 0x0A then ['\\', 'n']
  else if c.toNat = 0x0C then ['\\', 'f']
  else if c.toNat = 0x0D then ['\\', 'r']
  else ['\\', 'u', '0', '0', hexDigit (c.toNat / 16), hexDigit (c.toNat % 16)]

/-- A string literal. -/
def literal (s : String) : List Char := '"' :: (s.toList.flatMap escapeChar ++ ['"'])

mutual

/-- The characters of a value. -/
def chars : Json → List Char
  | null => ['n', 'u', 'l', 'l']
  | bool true => ['t', 'r', 'u', 'e']
  | bool false => ['f', 'a', 'l', 's', 'e']
  | number n => n.render
  | string s => literal s
  | array [] => ['[', ']']
  | array (item :: items) => '[' :: (chars item ++ charsItems items)
  | object [] => ['{', '}']
  | object ((key, value) :: members) =>
    '{' :: (literal key ++ ':' :: (chars value ++ charsMembers members))

/-- The remaining items of an array, and its end. -/
def charsItems : List Json → List Char
  | [] => [']']
  | item :: items => ',' :: (chars item ++ charsItems items)

/-- The remaining members of an object, and its end. -/
def charsMembers : List (String × Json) → List Char
  | [] => ['}']
  | (key, value) :: members =>
    ',' :: (literal key ++ ':' :: (chars value ++ charsMembers members))

end

/-- The compact text of a value. -/
def render (v : Json) : String := String.ofList (chars v)

/-- The compact text of a value, as bytes. -/
def toBytes (v : Json) : Bytes := Utf8.encode (chars v)

end Collector.Json
