import Collector.Log.Event
import Collector.Log.Pattern
import Collector.Text.Utf8

/-!
# Directives of a log filter

A directive in a filter of `harvest-observe` says up to which level events are shown.  It
is about all events, or about those of a target, those with a field, those inside a span:
`target[span{field=value}]=level`, where every part may be missing.

* `Directive.ofText?` reads a directive.
* `Directive.covers`: whether a directive is about an event.
* `Directive.weaker`: which of two directives about one event gives way.
-/

namespace Collector.Log

/-! ## Thresholds -/

/-- The last level that is shown, or none if nothing is. -/
abbrev Threshold := Option Level

/-- Whether an event of a level is shown. -/
def Threshold.shows (t : Threshold) (l : Level) : Bool := t.any fun last => l.rank ≤ last.rank

/-- The threshold with a number: zero shows nothing. -/
def Threshold.ofRank? : Nat → Option Threshold
  | 0 => some none
  | n => (Level.all.find? (·.rank = n)).map some

/-- Reads a threshold: a number, or the name of a level or `off` in any case. -/
def Threshold.ofText? (s : String) : Option Threshold :=
  match (Decimal.read? 64 s).bind ofRank? with
  | some t => some t
  | none =>
    if Text.lower s = "off" then some none
    else (Level.all.find? (·.name = Text.lower s)).map some

/-! ## Directives -/

/-- A field that a directive asks for. -/
structure FieldPattern where
  /-- The name of the field. -/
  name : String
  /-- What the value of the field has to look like, if that matters. -/
  value : Option String
  deriving DecidableEq, Repr

/-- What is shown of some events. -/
structure Directive where
  /-- The beginning of the targets that the directive is about; empty for all of them. -/
  target : String := ""
  /-- The span that the directive is about. -/
  span : Option String := none
  /-- The field that the directive is about. -/
  field : Option FieldPattern := none
  /-- What is shown; everything if the directive does not say. -/
  threshold : Threshold := some .trace
  deriving DecidableEq, Repr

/-- Reads a field: its name and, after an equals sign, its value, which a second
equals sign ends; there has to be something. -/
def FieldPattern.ofText? (s : String) : Option FieldPattern :=
  match s.splitOn "=" with
  | name :: value :: _ => if Pattern.isValid value then some ⟨name, some value⟩ else none
  | _ => if s = "" then none else some ⟨s, none⟩

namespace Directive

/-! ## Reading

The characters of the directive without the blanks around it are taken one by
one, but a part is cut out of the whole text, at the places counted without those
blanks.  So a blank in front moves every part: a threshold then begins with its
equals sign and is refused, and a target begins with a blank.
-/

/-- The part of a directive that is being read, with the place where it
begins. -/
inductive Part where
  /-- The start of the directive, of which nothing was read yet. -/
  | start
  /-- A target, or a threshold that stands alone. -/
  | word (first : Nat)
  /-- The name of a span. -/
  | span (first : Nat)
  /-- A field. -/
  | field (first : Nat)
  /-- After a field: nothing but the closing bracket may follow. -/
  | fieldEnd
  /-- After the closing bracket: nothing but an equals sign may follow. -/
  | spanEnd
  /-- The threshold after an equals sign. -/
  | threshold (first : Nat)
  deriving DecidableEq, Repr

/-- Whether a character may begin a directive that does not begin with a
bracket. -/
def isStart (c : Char) : Bool := Text.isAlphanumeric c || c ∈ ['-', ':', '_']

/-- Characters with the places of their first bytes, counted from `place`. -/
def placed (place : Nat) : List Char → List (Nat × Char)
  | [] => []
  | c :: cs => (place, c) :: placed (place + (Utf8.encodeChar c).length) cs

/-- The text between two places; there is none if one of them is inside a
character. -/
def cut? (whole : Bytes) (first last : Nat) : Option String :=
  textOf? ((whole.drop first).take (last - first))

/-- Takes the next character, with its place. -/
def step? (whole : Bytes) : Part × Directive → Nat × Char → Option (Part × Directive)
  | (.start, d), (place, c) =>
    if c = '[' then some (.span (place + 1), d)
    else if isStart c then some (.word place, d)
    else none
  | (.word first, d), (place, c) =>
    if c = '=' then
      (cut? whole first place).map fun s => (.threshold (place + 1), { d with target := s })
    else if c = '[' then
      (cut? whole first place).map fun s => (.span (place + 1), { d with target := s })
    else some (.word first, d)
  | (.span first, d), (place, c) =>
    if c = ']' then
      (cut? whole first place).map fun s => (.spanEnd, { d with span := some s })
    else if c = '{' then
      (cut? whole first place).map fun s =>
        (.field (place + 1), { d with span := if s = "" then none else some s })
    else some (.span first, d)
  | (.field first, d), (place, c) =>
    if c = '}' then
      ((cut? whole first place).bind FieldPattern.ofText?).map fun f =>
        (.fieldEnd, { d with field := some f })
    else some (.field first, d)
  | (.fieldEnd, d), (_, c) => if c = ']' then some (.spanEnd, d) else none
  | (.spanEnd, d), (place, c) => if c = '=' then some (.threshold (place + 1), d) else none
  | (.threshold first, d), _ => some (.threshold first, d)

/-- A word that stands alone: a threshold for all targets, or a target of which
everything is shown. -/
def ofWord (s : String) : Directive :=
  match Threshold.ofText? s with
  | some t => { threshold := t }
  | none => { target := s }

/-- Reads the threshold after an equals sign; an empty one shows everything. -/
def thresholdAfter? (s : String) : Option Threshold :=
  if s = "" then some (some .trace) else Threshold.ofText? s

/-- The directive, where its last part ends with the text. -/
def finish? (whole : Bytes) : Part × Directive → Option Directive
  | (.word first, _) => (cut? whole first whole.length).map ofWord
  | (.spanEnd, d) => some d
  | (.threshold first, d) =>
    match cut? whole first whole.length with
    | some s => (thresholdAfter? s).map fun t => { d with threshold := t }
    | none => none
  | _ => none

/-- Reads a directive. -/
def ofText? (s : String) : Option Directive :=
  let whole := bytesOf s
  match (placed 0 (Text.trimList s.toList)).foldlM (step? whole) (.start, {}) with
  | some read => finish? whole read
  | none => none

/-! ## What a directive is about -/

/-- Whether a directive is about an event. A directive about a span or about the value of a field is
about what happens inside of a span, and events stand in none. -/
def covers (d : Directive) (e : Event) : Bool :=
  d.target.toList.isPrefixOf e.target.toList && d.span.isNone &&
    d.field.all fun f => f.value.isNone && e.fieldNames.contains f.name

/-- Whether a directive gives way to another one about the same event: the longer
target decides, then whether there is a field, then the order of field names; of
two that are equally specific the later one stays. -/
def weaker (earlier later : Directive) : Bool :=
  if earlier.target.length = later.target.length then
    match earlier.field, later.field with
    | some f, some g => ¬ g.name < f.name
    | some _, none => false
    | none, _ => true
  else earlier.target.length < later.target.length

/-- What stays of two directives about the same event. -/
def stronger (earlier : Option Directive) (later : Directive) : Option Directive :=
  match earlier with
  | some d => if d.weaker later then some later else some d
  | none => some later

end Directive

end Collector.Log
