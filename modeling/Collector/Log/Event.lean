/-!
# Events

What the log of `harvest-observe` is told: how serious an event is, where it happened,
what happened, and the numbers that belong to it.
-/

namespace Collector.Log

/-- How serious an event is. -/
inductive Level where
  /-- A failure. -/
  | error
  /-- Something odd. -/
  | warn
  /-- Something to know. -/
  | info
  /-- A detail. -/
  | debug
  /-- A report of every step. -/
  | trace
  deriving DecidableEq, Repr

/-- The levels, the most serious one first. -/
def Level.all : List Level := [.error, .warn, .info, .debug, .trace]

/-- The place of a level, counted from one. -/
def Level.rank : Level → Nat
  | error => 1
  | warn => 2
  | info => 3
  | debug => 4
  | trace => 5

/-- The name of a level, as a setting. -/
def Level.name : Level → String
  | error => "error"
  | warn => "warn"
  | info => "info"
  | debug => "debug"
  | trace => "trace"

/-- Something that happened. -/
structure Event where
  /-- The part of the program it happened in. -/
  target : String
  /-- How serious the event is. -/
  level : Level
  /-- What happened. -/
  message : String
  /-- Numbers that belong to the event. -/
  fields : List (String × Nat) := []

/-- The names of what an event holds; its message is one of them. -/
def Event.fieldNames (e : Event) : List String := "message" :: e.fields.map (·.1)

end Collector.Log
