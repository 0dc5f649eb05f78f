import Collector.Json.Token
import Collector.Json.Number

/-!
# The tree of a JSON text

A `Node` is a JSON text that `harvest-model` reads, with its structure recognised, its
strings still as written, and of its numbers only the literal: what is too large for a
double is a number here.  Tokens are taken one at a time by a machine whose stack holds the
arrays and objects that are still open.
-/

namespace Collector.Json

/-- A JSON text as a tree. -/
inductive Node where
  /-- `null`. -/
  | null
  /-- `true` or `false`. -/
  | bool (b : Bool)
  /-- A number. -/
  | number (literal : Literal)
  /-- A string, as written. -/
  | string (pieces : List Piece)
  /-- An array. -/
  | array (items : List Node)
  /-- An object: its members in the order of the text, repeated keys included. -/
  | object (members : List (List Piece × Node))
  deriving Repr

namespace Node

/-- An array or object that is still open: what it holds so far, last one
first. -/
inductive Frame where
  /-- An open array. -/
  | array (items : List Node)
  /-- An open object, with the key of the member being read. -/
  | object (members : List (List Piece × Node)) (key : List Piece)
  deriving Repr

/-- What may come next, inside the frames still open. -/
inductive Expect where
  /-- A value. -/
  | value (frames : List Frame)
  /-- A value, or the end of an empty array. -/
  | firstItem (frames : List Frame)
  /-- A key, or the end of an empty object. -/
  | firstKey (frames : List Frame)
  /-- A key, after a comma. -/
  | key (frames : List Frame) (members : List (List Piece × Node))
  /-- The colon after a key. -/
  | colon (frames : List Frame) (members : List (List Piece × Node)) (key : List Piece)
  /-- A comma or the end of the innermost frame; the end of the text if there is
  none. -/
  | after (frames : List Frame) (read : Node)
  deriving Repr

/-- Takes a token where a value must begin. -/
def begin? (frames : List Frame) : Token → Option Expect
  | .leftBracket => some (.firstItem frames)
  | .leftBrace => some (.firstKey frames)
  | .null => some (.after frames null)
  | .bool b => some (.after frames (bool b))
  | .number text => (Literal.ofText? text).map fun literal => .after frames (number literal)
  | .string pieces => some (.after frames (string pieces))
  | _ => none

/-- Takes one token. -/
def step? : Expect → Token → Option Expect
  | .value frames, t => begin? frames t
  | .firstItem frames, t =>
    if t = .rightBracket then some (.after frames (array []))
    else begin? (.array [] :: frames) t
  | .firstKey frames, t =>
    match t with
    | .rightBrace => some (.after frames (object []))
    | .string key => some (.colon frames [] key)
    | _ => none
  | .key frames members, t =>
    match t with
    | .string key => some (.colon frames members key)
    | _ => none
  | .colon frames members key, t =>
    match t with
    | .colon => some (.value (.object members key :: frames))
    | _ => none
  | .after (.array items :: frames) read, t =>
    match t with
    | .comma => some (.value (.array (read :: items) :: frames))
    | .rightBracket => some (.after frames (array (read :: items).reverse))
    | _ => none
  | .after (.object members key :: frames) read, t =>
    match t with
    | .comma => some (.key frames ((key, read) :: members))
    | .rightBrace => some (.after frames (object ((key, read) :: members).reverse))
    | _ => none
  | .after [] _, _ => none

/-- The tree of a whole text; `none` if it is not a JSON text. -/
def ofBytes? (bytes : Bytes) : Option Node :=
  match Token.scan? bytes with
  | some tokens =>
    match tokens.foldlM step? (.value []) with
    | some (.after [] read) => some read
    | _ => none
  | none => none

mutual

/-- How deeply arrays and objects are nested. -/
def depth : Node → Nat
  | array items => depthItems items + 1
  | object members => depthMembers members + 1
  | _ => 0

/-- The greatest depth of the items of an array. -/
def depthItems : List Node → Nat
  | [] => 0
  | item :: items => max item.depth (depthItems items)

/-- The greatest depth of the values of an object. -/
def depthMembers : List (List Piece × Node) → Nat
  | [] => 0
  | (_, value) :: members => max value.depth (depthMembers members)

end

end Node

end Collector.Json
