import Collector.Json.Printer
import Collector.Log.Format

/-!
# Settings of the log

The settings of `harvest-observe` are read from a JSON record in which every field has a
default; two variables of the environment override the filter and the format.
-/

namespace Collector.Log

/-- Settings of the log. -/
structure Config where
  /-- How the log is written. -/
  format : Format := .text
  /-- The text of the filter. -/
  level : String := "info"
  /-- Whether the target of an event is written. -/
  withTargets : Bool := true
  /-- Whether text is coloured. -/
  useColor : Bool := false
  deriving DecidableEq, Repr

namespace Config

/-- The names of the stored fields, in their order. -/
def fieldNames : List String := ["format", "level", "with_targets", "use_color"]

/-- The stored form as a JSON value. -/
def toJson (c : Config) : Json :=
  .object [("format", .string c.format.name), ("level", .string c.level),
    ("with_targets", .bool c.withTargets), ("use_color", .bool c.useColor)]

/-- Reads the tree of a stored form. -/
def ofNode? (node : Json.Node) : Option Config :=
  match node.slots? fieldNames with
  | some [format, level, withTargets, useColor] =>
    match Json.Node.optional? ({} : Config).format Format.ofNode? format,
        Json.Node.optional? ({} : Config).level Json.Node.string? level,
        Json.Node.optional? ({} : Config).withTargets Json.Node.bool? withTargets,
        Json.Node.optional? ({} : Config).useColor Json.Node.bool? useColor with
    | some f, some l, some t, some c => some ⟨f, l, t, c⟩
    | _, _, _, _ => none
  | _ => none

/-- Reads a stored form. -/
def decode? (bytes : Bytes) : Option Config := (Json.Node.ofBytes? bytes).bind ofNode?

/-- The settings with the values of the environment in their place: a filter that
is not blank, freed of the blanks around it, and a format. -/
def override (c : Config) (level format : Option String) : Except LogError Config :=
  let c :=
    match level with
    | some l => if Text.isBlank l then c else { c with level := Text.trim l }
    | none => c
  match format with
  | none => .ok c
  | some name =>
    match Format.ofName name with
    | .ok f => .ok { c with format := f }
    | .error e => .error e

end Config

end Collector.Log
