import Collector.Log.Config
import Collector.Log.Filter

/-!
# The log of a process

The log that `harvest-observe` gives a process is set up once, and then writes each event
that its filter shows in the format that was chosen.

* `Log.install` sets the log up.
* `Log.write` gives what is written of events.
-/

namespace Collector.Log

/-- One written event. -/
inductive Line where
  /-- A line of text, without its timestamp. -/
  | text (s : String)
  /-- A JSON object, without its timestamp. -/
  | json (members : List (String × Json))

/-! ## Colours -/

/-- How a terminal shows a piece of text. -/
inductive Style where
  /-- The text is shown in red. -/
  | red
  /-- The text is shown in green. -/
  | green
  /-- The text is shown in yellow. -/
  | yellow
  /-- The text is shown in blue. -/
  | blue
  /-- The text is shown in purple. -/
  | purple
  /-- The text is shown with less light. -/
  | dim
  /-- With slanted letters. -/
  | italic
  deriving DecidableEq, Repr

/-- The number of a style in the control sequences of terminals. -/
def Style.code : Style → Nat
  | red => 31
  | green => 32
  | yellow => 33
  | blue => 34
  | purple => 35
  | dim => 2
  | italic => 3

/-- A piece of text in a style, if the text is coloured at all: between the
sequence that begins the style and the one that ends all styles. -/
def Style.paint (style : Style) (coloured : Bool) (s : String) : String :=
  if coloured then "\x1b[" ++ Decimal.ofNat style.code ++ "m" ++ s ++ "\x1b[0m" else s

/-- The style of a level. -/
def Level.style : Level → Style
  | error => .red
  | warn => .yellow
  | info => .green
  | debug => .blue
  | trace => .purple

/-! ## Layouts -/

/-- The name of a level in capital letters. -/
def Level.title : Level → String
  | error => "ERROR"
  | warn => "WARN"
  | info => "INFO"
  | debug => "DEBUG"
  | trace => "TRACE"

/-- The name of a level, on the right of five columns. -/
def Level.column (l : Level) : String :=
  String.ofList (List.replicate (5 - l.title.length) ' ') ++ l.title

/-- A field at the end of a line. -/
def fieldText (coloured : Bool) (field : String × Nat) : String :=
  " " ++ Style.italic.paint coloured field.1 ++ Style.dim.paint coloured "=" ++
    Decimal.ofNat field.2

/-- The line of an event: level, target, message and fields. -/
def Event.text (e : Event) (withTargets coloured : Bool) : String :=
  let target :=
    if withTargets then
      Style.dim.paint coloured e.target ++ Style.dim.paint coloured ":" ++ " "
    else ""
  e.level.style.paint coloured e.level.column ++ " " ++ target ++ e.message ++
    String.join (e.fields.map (fieldText coloured))

/-- The members of an event's object. -/
def Event.members (e : Event) (withTargets : Bool) : List (String × Json) :=
  let fields := e.fields.map fun f => (f.1, Json.number (.integer f.2))
  [("level", .string e.level.title),
    ("fields", .object (("message", .string e.message) :: fields))] ++
    if withTargets then [("target", .string e.target)] else []

/-! ## Setting up -/

/-- A log that was set up. -/
structure Installed where
  /-- The settings of the logger. -/
  config : Config
  /-- Which events the logger shows. -/
  filter : Filter

/-- Sets the log up.  The journal is refused before anything else, then a filter
that cannot be read, then a second log. -/
def install (current : Option Installed) (c : Config) : Except LogError Installed :=
  match c.format with
  | .journald => .error .journaldNotSupported
  | _ =>
    match Filter.ofText c.level with
    | .error e => .error e
    | .ok f =>
      match current with
      | some _ => .error .alreadyInitialized
      | none => .ok ⟨c, f⟩

/-- One event as the log writes it. -/
def Installed.line (l : Installed) (e : Event) : Line :=
  match l.config.format with
  | .json => .json (e.members l.config.withTargets)
  | _ => .text (e.text l.config.withTargets l.config.useColor)

/-- What is written of events; without a log nothing is. -/
def write (log : Option Installed) (events : List Event) : List Line :=
  match log with
  | none => []
  | some l => (events.filter l.filter.shows).map l.line

end Collector.Log
