import Collector.Failure
import Collector.Json.Fields
import Collector.Json.Printer
import Collector.Setting
import Collector.Text.Blank

/-!
# Tasks

A task of `harvest-model` is a flat map of settings that names an application and an
identity.  Both are present and not blank in every `Task`, so that code which holds one
never has to ask.

Main statements:

* `Task.get?_app`, `Task.get?_identity`: the two settings are there.
* `Task.app_not_blank`, `Task.identity_not_blank`: and they say something.
-/

namespace Collector

/-! ## Settings -/

/-- Settings as they travel: a map of strings. -/
abbrev Settings := KeyMap String

namespace Settings

/-- The value of a setting that must be there and must not be blank. -/
def require (s : Settings) (key : String) : Except DataError String :=
  match s.get? key with
  | none => .error (.missingKey key)
  | some v => if Text.isBlank v then .error (.emptyKey key) else .ok v

/-- Whether a setting is there and not blank. -/
def Filled (s : Settings) (key : String) : Prop := ∃ v, s.get? key = some v ∧ Text.isBlank v = false

theorem filled_of_require {s : Settings} {key v : String} (h : s.require key = .ok v) :
    s.Filled key := by
  unfold require at h
  split at h
  · cases h
  · rename_i w hw
    split at h
    · cases h
    · rename_i hb
      exact ⟨w, hw, by simpa using hb⟩

end Settings

/-! ## Tasks -/

/-- Settings that name an application and an identity. -/
structure Task where
  /-- All settings of the task. -/
  settings : Settings
  /-- The application is named. -/
  app_filled : settings.Filled Setting.app
  /-- The identity is named. -/
  identity_filled : settings.Filled Setting.taskKey

namespace Task

instance : DecidableEq Task := fun a b =>
  decidable_of_iff (a.settings = b.settings) ⟨fun h => by cases a; cases b; simp_all, congrArg _⟩

/-- Checks settings; the application is looked at before the identity. -/
def ofSettings (s : Settings) : Except DataError Task :=
  match happ : s.require Setting.app with
  | .error e => .error e
  | .ok _ =>
    match hid : s.require Setting.taskKey with
    | .error e => .error e
    | .ok _ => .ok ⟨s, Settings.filled_of_require happ, Settings.filled_of_require hid⟩

/-- Checks the settings of a list of pairs; the last value of a key counts. -/
def ofPairs (pairs : List (String × String)) : Except DataError Task :=
  ofSettings (KeyMap.ofList pairs)

/-- Reads a task from a JSON object of strings. -/
def ofBytes (bytes : Bytes) : Except DataError Task :=
  match Json.stringMap? bytes with
  | none => .error .undecodable
  | some s => ofSettings s

/-- Reads a task from a tree, which may stand inside another document: every fault of
the task is a fault of that document. -/
def ofNode? (node : Json.Node) : Option Task :=
  node.stringMembers?.bind fun pairs => (ofPairs pairs).toOption

/-- Reads a document that is a task. -/
def decode? (bytes : Bytes) : Option Task := (Json.Node.ofBytes? bytes).bind ofNode?

/-- The settings as a JSON object. -/
def toJson (t : Task) : Json := Json.ofStringMap t.settings

/-- The application, which selects the builder of the job. -/
def app (t : Task) : String := (t.settings.get? Setting.app).getD ""

/-- The identity, under which the job is kept. -/
def identity (t : Task) : String := (t.settings.get? Setting.taskKey).getD ""

/-- The value of a setting. -/
def get? (t : Task) (key : String) : Option String := t.settings.get? key

/-- The value of a setting that must be there and must not be blank. -/
def require (t : Task) (key : String) : Except DataError String := t.settings.require key

theorem get?_app (t : Task) : t.settings.get? Setting.app = some t.app := by
  obtain ⟨v, hv, _⟩ := t.app_filled
  simp [app, hv]

theorem get?_identity (t : Task) : t.settings.get? Setting.taskKey = some t.identity := by
  obtain ⟨v, hv, _⟩ := t.identity_filled
  simp [identity, hv]

theorem app_not_blank (t : Task) : Text.isBlank t.app = false := by
  obtain ⟨v, hv, hb⟩ := t.app_filled
  simp [app, hv, hb]

theorem identity_not_blank (t : Task) : Text.isBlank t.identity = false := by
  obtain ⟨v, hv, hb⟩ := t.identity_filled
  simp [identity, hv, hb]

end Task

end Collector
