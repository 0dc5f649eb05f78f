import Mathlib.Data.List.TakeWhile
import Collector.Task
import Collector.Proofs.Json.Fields

/-!
# Where tasks come from

A task of `harvest-model` is made from settings, from pairs, from the bytes of an object
of strings, or as a part of a document, and all four ways accept and refuse the same:
settings that name an application and an identity make a task, and of two faults the one
about the application is reported.

Main statements:

* `Text.isBlank_iff`: a text is blank if nothing is left of it once it is trimmed.
* `Task.ofSettings_eq_ok_iff`, `Task.ofSettings_eq_error_iff`: what becomes of settings.
* `Task.ofBytes_eq_ofPairs`, `Task.ofBytes_eq_undecodable_iff`: what becomes of bytes.
* `Task.ofBytes_toBytes`: a task is read back.
* `Task.constructors_agree`: the four ways together.
-/

namespace Collector

open Json (Node stringMap? stringMap?_eq_some_iff)
open Json.Grammar (Element)

/-! ## Blank texts -/

theorem Text.trimList_eq_nil_iff {cs : List Char} :
    trimList cs = [] ↔ ∀ c ∈ cs, isBlankChar c = true := by
  rw [trimList, List.reverse_eq_nil_iff, List.dropWhile_eq_nil_iff]
  simp only [List.mem_reverse]
  constructor
  · intro h
    by_contra hall
    -- what is left of the front begins with a character that is not blank
    have hne : cs.dropWhile isBlankChar ≠ [] := fun hnil => hall (List.dropWhile_eq_nil_iff.1 hnil)
    have hhead := List.head_dropWhile_not isBlankChar hne
    rw [h _ (List.head_mem hne)] at hhead
    cases hhead
  · exact fun h c hc => h c ((List.dropWhile_suffix _).subset hc)

/-- A text is blank if nothing is left of it once it is trimmed. -/
theorem Text.isBlank_iff {s : String} : isBlank s = true ↔ trim s = "" := by
  rw [isBlank, List.all_eq_true, ← trimList_eq_nil_iff, trim, ← String.toList_inj,
    String.toList_ofList]
  exact Iff.rfl

/-! ## Settings -/

namespace Settings

variable {s : Settings} {key : String}

/-- A setting that must be there is not, or is blank. -/
inductive Fault (s : Settings) (key : String) : DataError → Prop
  /-- The setting is missing. -/
  | missing (h : s.get? key = none) : Fault s key (.missingKey key)
  /-- The setting is blank. -/
  | blank {v : String} (h : s.get? key = some v) (hblank : Text.trim v = "") :
      Fault s key (.emptyKey key)

theorem require_eq_ok_iff {v : String} :
    s.require key = .ok v ↔ s.get? key = some v ∧ Text.trim v ≠ "" := by
  unfold require
  cases s.get? key with
  | none => simp
  | some w =>
    by_cases hblank : Text.isBlank w = true
    · simp only [hblank, if_true, Option.some.injEq]
      constructor
      · rintro ⟨⟩
      · rintro ⟨rfl, hne⟩
        exact absurd (Text.isBlank_iff.1 hblank) hne
    · simp only [hblank, if_false, Except.ok.injEq, Option.some.injEq, Bool.false_eq_true]
      constructor
      · rintro rfl
        exact ⟨rfl, fun h => hblank (Text.isBlank_iff.2 h)⟩
      · exact fun h => h.1

theorem require_eq_error_iff {e : DataError} : s.require key = .error e ↔ s.Fault key e := by
  unfold require
  cases hget : s.get? key with
  | none =>
    constructor
    · rintro ⟨⟩
      exact .missing hget
    · rintro (_ | ⟨h, -⟩)
      · rfl
      · rw [hget] at h
        cases h
  | some w =>
    by_cases hblank : Text.isBlank w = true
    · simp only [hblank, if_true]
      constructor
      · rintro ⟨⟩
        exact .blank hget (Text.isBlank_iff.1 hblank)
      · rintro (h | _)
        · rw [hget] at h
          cases h
        · rfl
    · simp only [hblank, if_false, Bool.false_eq_true]
      constructor
      · rintro ⟨⟩
      · rintro (h | ⟨h, hnil⟩)
        · rw [hget] at h
          cases h
        · rw [hget, Option.some.injEq] at h
          exact absurd (Text.isBlank_iff.2 (h ▸ hnil)) hblank

theorem filled_iff : s.Filled key ↔ ∃ v, s.require key = .ok v := by
  simp only [Filled, require_eq_ok_iff, ← Text.isBlank_iff.not, Bool.not_eq_true]

/-- A setting has a fault, or it is there and says something. -/
theorem forall_not_fault_iff : (∀ e, ¬ s.Fault key e) ↔ ∃ v, s.require key = .ok v := by
  simp only [← require_eq_error_iff]
  cases s.require key <;> simp

end Settings

namespace Task

/-! ## From settings -/

/-- Settings that name an application and an identity make the task with these settings. -/
theorem ofSettings_eq_ok_iff {s : Settings} {t : Task} : ofSettings s = .ok t ↔ t.settings = s := by
  constructor
  · intro h
    unfold ofSettings at h
    split at h
    · cases h
    · split at h
      · cases h
      · cases h
        rfl
  · rintro rfl
    obtain ⟨app, happ⟩ := Settings.filled_iff.1 t.app_filled
    obtain ⟨identity, hidentity⟩ := Settings.filled_iff.1 t.identity_filled
    unfold ofSettings
    split
    · rename_i e he
      rw [happ] at he
      cases he
    · split
      · rename_i e he
        rw [hidentity] at he
        cases he
      · rfl

/-- Other settings are refused; the application is looked at first. -/
theorem ofSettings_eq_error_iff {s : Settings} {e : DataError} :
    ofSettings s = .error e ↔
      s.Fault Setting.app e ∨ (∀ e', ¬ s.Fault Setting.app e') ∧ s.Fault Setting.taskKey e := by
  rw [Settings.forall_not_fault_iff]
  simp only [← Settings.require_eq_error_iff]
  unfold ofSettings
  split
  · rename_i e' he'
    simp [he']
  · rename_i app happ
    split
    · rename_i e' he'
      simp [happ, he']
    · rename_i identity hidentity
      simp [happ, hidentity]

/-- Pairs are taken as the settings in which each key has its last value. -/
theorem ofPairs_eq_ofSettings {pairs : List (String × String)} {s : Settings}
    (h : ∀ key, s.get? key = Entries.last? key pairs) : ofPairs pairs = ofSettings s :=
  congrArg ofSettings (KeyMap.ext_get? fun key => (KeyMap.get?_ofList pairs key).trans (h key).symm)

/-! ## From bytes -/

/-- The bytes of an object of strings are taken as its members. -/
theorem ofBytes_eq_ofPairs {bytes : Bytes} {node : Node} {pairs : List (String × String)}
    (helement : Element node bytes) (hpairs : node.StringMembers pairs) :
    ofBytes bytes = ofPairs pairs := by
  have hread : stringMap? bytes = some (KeyMap.ofList pairs) :=
    stringMap?_eq_some_iff.2 ⟨node, pairs, helement, hpairs, rfl⟩
  simp only [ofBytes, hread, ofPairs]

/-- All other bytes cannot be read. -/
theorem ofBytes_eq_undecodable_iff {bytes : Bytes} :
    ofBytes bytes = .error .undecodable ↔
      ∀ node pairs, Element node bytes → ¬ node.StringMembers pairs := by
  constructor
  · intro h node pairs helement hpairs
    rw [ofBytes_eq_ofPairs helement hpairs, ofPairs, ofSettings_eq_error_iff] at h
    rcases h with ⟨⟨⟩⟩ | ⟨-, ⟨⟩⟩
  · intro h
    have hread : stringMap? bytes = none := by
      rw [Option.eq_none_iff_forall_ne_some]
      intro m hm
      obtain ⟨node, pairs, helement, hpairs, -⟩ := stringMap?_eq_some_iff.1 hm
      exact h node pairs helement hpairs
    simp only [ofBytes, hread]

/-- A document that is a task is read as that task. -/
theorem decode?_eq_some_iff {bytes : Bytes} {t : Task} :
    decode? bytes = some t ↔ ofBytes bytes = .ok t := by
  unfold decode? ofNode? ofBytes stringMap?
  cases Node.ofBytes? bytes with
  | none => simp
  | some node =>
    simp only [Option.bind_some]
    cases node.stringMembers? with
    | none => simp
    | some pairs =>
      simp only [Option.bind_some, Option.map_some, ofPairs]
      cases ofSettings (KeyMap.ofList pairs) <;> simp [Except.toOption]

/-- A task is read back. -/
theorem ofBytes_toBytes (t : Task) : ofBytes t.toJson.toBytes = .ok t := by
  simp only [ofBytes, toJson, Json.stringMap?_toBytes, ofSettings_eq_ok_iff]

/-! ## All ways together -/

/-- The four ways agree.  Whatever way a task was made, both of its settings are there, are
what it is called by, and are not blank.  A document is read as a task if its bytes are
one, and as the same.  Pairs make what the settings make in which each key has its last
value, and bytes what the members of the object make; bytes that are not an object of
strings are undecodable.  A task is read back from its JSON text.  And settings make the
task that has them, unless one of the two is missing or blank: then the first such is
named. -/
theorem constructors_agree :
    (∀ (t : Task) (key v : String),
      (key, v) ∈ [(Setting.app, t.app), (Setting.taskKey, t.identity)] →
        t.get? key = some v ∧ Text.trim v ≠ "" ∧ t.require key = .ok v) ∧
    (∀ (bytes : Bytes) (t : Task), decode? bytes = some t ↔ ofBytes bytes = .ok t) ∧
    (∀ (pairs : List (String × String)) (s : Settings),
      (∀ key, s.get? key = Entries.last? key pairs) → ofPairs pairs = ofSettings s) ∧
    (∀ bytes : Bytes,
      (∀ node pairs, Element node bytes → node.StringMembers pairs →
        ofBytes bytes = ofPairs pairs) ∧
      (ofBytes bytes = .error .undecodable ↔
        ∀ node pairs, Element node bytes → ¬ node.StringMembers pairs)) ∧
    (∀ t : Task, ofBytes t.toJson.toBytes = .ok t ∧ decode? t.toJson.toBytes = some t) ∧
    ∀ s : Settings, (∀ t, ofSettings s = .ok t ↔ t.settings = s) ∧
      ∀ e, ofSettings s = .error e ↔
        s.Fault Setting.app e ∨
          (∀ e', ¬ s.Fault Setting.app e') ∧ s.Fault Setting.taskKey e := by
  refine ⟨fun t key v hkey => ?_, fun _ _ => decode?_eq_some_iff,
    fun _ _ => ofPairs_eq_ofSettings,
    fun _ => ⟨fun _ _ => ofBytes_eq_ofPairs, ofBytes_eq_undecodable_iff⟩,
    fun t => ⟨t.ofBytes_toBytes, decode?_eq_some_iff.2 t.ofBytes_toBytes⟩,
    fun _ => ⟨fun _ => ofSettings_eq_ok_iff, fun _ => ofSettings_eq_error_iff⟩⟩
  have hget : t.get? key = some v ∧ Text.isBlank v = false := by
    simp only [List.mem_cons, List.not_mem_nil, or_false, Prod.mk.injEq] at hkey
    rcases hkey with ⟨rfl, rfl⟩ | ⟨rfl, rfl⟩
    · exact ⟨t.get?_app, t.app_not_blank⟩
    · exact ⟨t.get?_identity, t.identity_not_blank⟩
  have hne : Text.trim v ≠ "" := fun h => by
    have hblank := Text.isBlank_iff.2 h
    rw [hget.2] at hblank
    cases hblank
  exact ⟨hget.1, hne, Settings.require_eq_ok_iff.2 ⟨hget.1, hne⟩⟩

/-- Of two values the last one counts, and a wide space is no identity. -/
theorem constructors_agree_repeated :
    let pairs := [("App", "\u2003"), ("TaskConfigKey", " t"), ("note", "\"\x01é"), ("App", "snow")]
    (∃ t, ofPairs pairs = .ok t ∧ t.app = "snow" ∧ t.require "App" = .ok "snow" ∧
      ofBytes (Json.object (pairs.map fun p => (p.1, .string p.2))).toBytes = .ok t ∧
      decode? t.toJson.toBytes = some t) ∧
    ofPairs (pairs ++ [("TaskConfigKey", "\u2003")]) = .error (.emptyKey "TaskConfigKey") := by
  intro pairs
  obtain ⟨hnamed, -, hpairs, hbytes, hback, hsettings⟩ := constructors_agree
  let t : Task := ⟨KeyMap.ofList pairs, ⟨"snow", by decide +kernel, by decide +kernel⟩,
    ⟨" t", by decide +kernel, by decide +kernel⟩⟩
  have ht : ofPairs pairs = .ok t :=
    (hpairs pairs t.settings (KeyMap.get?_ofList pairs)).trans ((hsettings t.settings).1 t |>.2 rfl)
  have happ : t.app = "snow" := by decide +kernel
  have hrequire := (hnamed t Setting.app t.app (by simp)).2.2
  refine ⟨⟨t, ht, happ, ?_, ?_, (hback t).2⟩, ?_⟩
  · rw [happ] at hrequire
    exact hrequire
  · rw [← ht]
    refine (hbytes _).1 _ pairs ?_ (Node.stringMembers_treeMembers pairs)
    exact Json.element_of_value (Json.value_chars (.object _) (Json.numeralMembers_strings pairs))
  · refine (hsettings _).2 _ |>.2 (.inr ⟨?_, .blank (v := "\u2003") ?_ ?_⟩)
    · refine Settings.forall_not_fault_iff.2 ⟨"snow", by decide +kernel⟩
    · decide +kernel
    · decide +kernel

end Task

end Collector
