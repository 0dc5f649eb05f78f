import Collector.Failure
import Collector.Json.Fields
import Collector.Text.Blank

/-!
# Output formats of the log

An output format of `harvest-observe` has one name in settings files, and a few more names
where people type it.
-/

namespace Collector.Log

/-- How the log is written. -/
inductive Format where
  /-- A line of text for each event. -/
  | text
  /-- A JSON object for each event. -/
  | json
  /-- Entries of the system journal. -/
  | journald
  deriving DecidableEq, Repr

namespace Format

/-- The name in settings files. -/
def name : Format → String
  | text => "text"
  | json => "json"
  | journald => "journald"

/-- Reads a name in any case and between blanks.  The journal is known but not
available. -/
def ofName (s : String) : Except LogError Format :=
  let key := Text.lower (Text.trim s)
  if key ∈ ["text", "plain"] then .ok text
  else if key = "json" then .ok json
  else if key ∈ ["journald", "journal"] then .error .journaldNotSupported
  else .error (.invalidFormat s)

/-- The format with exactly this name. -/
def ofExactName? (s : String) : Option Format := [text, json, journald].find? (name · = s)

/-- Reads a format from a settings file: its name, or an object with nothing but
`null` under its name. -/
def ofNode? : Json.Node → Option Format
  | .string pieces => (Json.text? pieces).bind ofExactName?
  | .object [(key, .null)] => (Json.text? key).bind ofExactName?
  | _ => none

end Format

end Collector.Log
