import Collector.Json.Node
import Collector.KeyMap

/-!
# JSON values

What the JSON trees mean that `harvest-model` and all that is built on it read: strings
are Unicode text, numbers have a value, objects have one member per key, the last one of
the text, in key order.  A tree has no meaning if a string is not text, a number is too
large, or the nesting is deeper than `Json.maxDepth`.
-/

namespace Collector

/-- A JSON value. -/
inductive Json where
  /-- `null`. -/
  | null
  /-- `true` or `false`. -/
  | bool (b : Bool)
  /-- A number. -/
  | number (n : Json.Number)
  /-- A string. -/
  | string (s : String)
  /-- An array. -/
  | array (items : List Json)
  /-- An object; the members of a value that was read have increasing keys. -/
  | object (members : List (String × Json))

namespace Json

/-! ## Strings -/

/-- The first half of a surrogate pair. -/
def isHighSurrogate (unit : Nat) : Bool := 0xD800 ≤ unit && unit ≤ 0xDBFF

/-- The second half of a surrogate pair. -/
def isLowSurrogate (unit : Nat) : Bool := 0xDC00 ≤ unit && unit ≤ 0xDFFF

/-- The UTF-8 bytes of a string literal after those in `read` (last one first);
escaped surrogates must come in pairs. -/
def bytesFrom? (read : Bytes) : List Piece → Option Bytes
  | [] => some read.reverse
  | .byte b :: rest => bytesFrom? (b :: read) rest
  | .code unit :: rest =>
    if isLowSurrogate unit then none
    else if isHighSurrogate unit then
      match rest with
      | .code low :: rest =>
        if isLowSurrogate low then
          let c := Char.ofNat (0x10000 + (unit - 0xD800) * 0x400 + (low - 0xDC00))
          bytesFrom? ((Utf8.encodeChar c).reverse ++ read) rest
        else none
      | _ => none
    else bytesFrom? ((Utf8.encodeChar (Char.ofNat unit)).reverse ++ read) rest

/-- The text of a string literal. -/
def text? (pieces : List Piece) : Option String :=
  match bytesFrom? [] pieces with
  | some bytes => textOf? bytes
  | none => none

/-! ## Values of trees -/

mutual

/-- The value of a tree, whatever its depth. -/
def ofNode? : Node → Option Json
  | .null => some null
  | .bool b => some (bool b)
  | .number literal => literal.number?.map number
  | .string pieces => (text? pieces).map string
  | .array items => (ofItems? items).map array
  | .object members => (ofMembers? members).map fun ms =>
      object (ms.foldl (fun entries m => Entries.insert m.1 m.2 entries) [])

/-- The values of the items of an array. -/
def ofItems? : List Node → Option (List Json)
  | [] => some []
  | item :: items =>
    match ofNode? item, ofItems? items with
    | some v, some vs => some (v :: vs)
    | _, _ => none

/-- The keys and values of the members of an object, in the order of the text. -/
def ofMembers? : List (List Piece × Node) → Option (List (String × Json))
  | [] => some []
  | (key, value) :: members =>
    match text? key, ofNode? value, ofMembers? members with
    | some k, some v, some ms => some ((k, v) :: ms)
    | _, _, _ => none

end

/-- The deepest nesting of arrays and objects that is read. -/
def maxDepth : Nat := 127

/-- Reads a JSON text. -/
def ofBytes? (bytes : Bytes) : Option Json :=
  match Node.ofBytes? bytes with
  | some node => if node.depth ≤ maxDepth then ofNode? node else none
  | none => none

/-! ## Access -/

/-- The member of an object with this key. -/
def member? (key : String) : Json → Option Json
  | object members => Entries.get? key members
  | _ => none

/-- The text of a string value. -/
def string? : Json → Option String
  | string s => some s
  | _ => none

end Json

end Collector
