import Collector.Json.Basic

/-!
# Records in JSON

A record with a fixed list of fields, such as the heartbeat of `harvest-model`, is written
as an object, or as an array of the field values in their declared order.  In an object a
known field may occur once, and what stands under an unknown name is skipped without a
look at the characters of its strings, the size of its numbers or its depth.  In an array
fields may be missing at the end.
-/

namespace Collector.Json

/-! ## Field values -/

namespace Node

/-- A string. -/
def string? : Node → Option String
  | string pieces => text? pieces
  | _ => none

/-- A list of strings. -/
def strings? : Node → Option (List String)
  | array items => items.mapM string?
  | _ => none

/-- A string, or `null` for none. -/
def nullableString? : Node → Option (Option String)
  | null => some none
  | node => node.string?.map some

/-- A truth value. -/
def bool? : Node → Option Bool
  | bool b => some b
  | _ => none

/-- A natural number below `2 ^ width`: no sign, fraction or exponent. -/
def natural? (width : Nat) : Node → Option Nat
  | number literal =>
    if literal.negative then none else literal.natural?.filter (· < Nat.pow 2 width)
  | _ => none

/-! ## Records -/

/-- The members of an object with their keys as text. -/
def keyed? (members : List (List Piece × Node)) : Option (List (String × Node)) :=
  members.mapM fun m => (text? m.1).map fun key => (key, m.2)

/-- What an object holds under a name: at most one value. -/
def slot? (members : List (String × Node)) (name : String) : Option (Option Node) :=
  match members.filter fun m => m.1 = name with
  | [] => some none
  | [m] => some (some m.2)
  | _ => none

/-- The values of the fields `names`, in that order; a field that is missing has
none. -/
def slots? (names : List String) : Node → Option (List (Option Node))
  | array items =>
    if items.length ≤ names.length then
      some (items.map some ++ List.replicate (names.length - items.length) none)
    else none
  | object members =>
    match keyed? members with
    | some ms => names.mapM (slot? ms)
    | none => none
  | _ => none

/-- A field that must be there. -/
def required? {α : Type} (read : Node → Option α) : Option Node → Option α
  | some node => read node
  | none => none

/-- A field with a default. -/
def optional? {α : Type} (default : α) (read : Node → Option α) : Option Node → Option α
  | some node => read node
  | none => some default

/-- The members of an object of strings. -/
def stringMembers? : Node → Option (List (String × String))
  | object members => members.mapM fun m =>
      match text? m.1, m.2.string? with
      | some key, some value => some (key, value)
      | _, _ => none
  | _ => none

end Node

/-- An object of strings as a map; the last member with a key counts. -/
def stringMap? (bytes : Bytes) : Option (KeyMap String) :=
  match Node.ofBytes? bytes with
  | some node => node.stringMembers?.map KeyMap.ofList
  | none => none

/-- A map of strings as an object. -/
def ofStringMap (m : KeyMap String) : Json :=
  object (m.entries.map fun e => (e.1, string e.2))

end Collector.Json
