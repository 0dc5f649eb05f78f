import Collector.Failure
import Collector.Log.Directive

/-!
# Log filters

A filter of `harvest-observe` is a list of directives, separated by commas; the most
specific of those that are about an event decides.

* `Filter.shows`: whether an event is shown.
-/

namespace Collector.Log

/-- The directives of a filter, in order. -/
abbrev Filter := List Directive

namespace Filter

/-- The pieces of a text between its commas. -/
def pieces (s : String) : List String := (s.splitOn ",").filter (· ≠ "")

/-- Reads a filter; empty directives are skipped. -/
def ofText (s : String) : Except LogError Filter :=
  match (pieces s).mapM Directive.ofText? with
  | some ds => .ok ds
  | none => .error (.invalidFilter s)

/-- The directive that decides about an event. -/
def decider? (f : Filter) (e : Event) : Option Directive :=
  (f.filter (·.covers e)).foldl Directive.stronger none

/-- Whether an event is shown; one that no directive is about is not. -/
def shows (f : Filter) (e : Event) : Bool :=
  (f.decider? e).any fun d => d.threshold.shows e.level

end Filter

end Collector.Log
