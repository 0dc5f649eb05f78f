import Collector.Json.Fields
import Collector.Proofs.Json.Meaning
import Collector.Proofs.Json.Tree

/-!
# What records and maps are read from

A record, such as the heartbeat of `harvest-model`, is read from an object that has each
of its fields once or not at all, in any order, or from an array of them (`Node.Fields`);
a map of texts is read from an object of strings (`Node.StringMembers`).  Strings are taken
by what they spell, whichever way they are written.

Main statements:

* `Node.string?_eq_some_iff`, `Node.strings?_eq_some_iff`,
  `Node.nullableString?_eq_some_iff`: what is read as a text, as a list of texts, and as a
  text or none.
* `Node.slots?_eq_some_iff`: where the fields of a record are found.
* `Node.stringMembers?_eq_some_iff`: what is read as pairs of texts.
* `stringMap?_eq_some_iff`: the bytes that are read as a map of texts.
* `stringMap?_toBytes`: a map of texts is read back.
-/

namespace Collector.Json

open Grammar (Element)

/-! ## Lists of readings -/

/-- A list is read item by item. -/
theorem mapM_eq_some_iff {α β : Type} {read : α → Option β} {xs : List α} {ys : List β} :
    xs.mapM read = some ys ↔ List.Forall₂ (fun x y => read x = some y) xs ys := by
  induction xs generalizing ys with
  | nil =>
    rw [List.mapM_nil, List.forall₂_nil_left_iff]
    exact ⟨fun h => (Option.some.inj h).symm, fun h => congrArg some h.symm⟩
  | cons x xs ih =>
    simp only [List.mapM_cons, List.forall₂_cons_left_iff, ← ih, Option.bind_eq_bind,
      Option.bind_eq_some_iff, Option.pure_def, Option.some.injEq]
    constructor
    · rintro ⟨y, hy, rest, hrest, rfl⟩
      exact ⟨y, rest, hy, hrest, rfl⟩
    · rintro ⟨y, rest, hy, hrest, rfl⟩
      exact ⟨y, hy, rest, hrest, rfl⟩

theorem mapM_congr {α β : Type} {read read' : α → Option β} {xs : List α}
    (h : ∀ x ∈ xs, read x = read' x) : xs.mapM read = xs.mapM read' := by
  induction xs with
  | nil => rfl
  | cons x xs ih =>
    obtain ⟨hx, hxs⟩ := List.forall_mem_cons.1 h
    rw [List.mapM_cons, List.mapM_cons, hx, ih hxs]

namespace Node

/-! ## Texts -/

/-- The tree is a string, and spells the text. -/
def Says (node : Node) (s : String) : Prop :=
  ∃ pieces, node = .string pieces ∧ Spells pieces s.toList

theorem string?_eq_some_iff {node : Node} {s : String} : node.string? = some s ↔ node.Says s := by
  cases node with
  | string pieces =>
    rw [string?, text?_eq_some_iff]
    constructor
    · exact fun h => ⟨pieces, rfl, h⟩
    · rintro ⟨_, ⟨⟩, h⟩
      exact h
  | null | bool | number | array | object =>
    constructor
    · rintro ⟨⟩
    · rintro ⟨_, ⟨⟩, -⟩

theorem says_tree (s : String) : (Json.string s).tree.Says s :=
  ⟨_, rfl, text?_eq_some_iff.1 (text?_ofString s)⟩

/-- The tree is an array of strings, and spells the texts in their order. -/
def SaysAll (node : Node) (texts : List String) : Prop :=
  ∃ items, node = .array items ∧ List.Forall₂ Says items texts

theorem strings?_eq_some_iff {node : Node} {texts : List String} :
    node.strings? = some texts ↔ node.SaysAll texts := by
  cases node with
  | array items =>
    simp only [strings?, mapM_eq_some_iff, string?_eq_some_iff, SaysAll, array.injEq,
      exists_eq_left']
  | null | bool | number | string | object => simp [strings?, SaysAll]

theorem saysAll_tree (texts : List String) :
    (Json.array (texts.map .string)).tree.SaysAll texts := by
  refine ⟨_, rfl, ?_⟩
  induction texts with
  | nil => exact .nil
  | cons s texts ih => exact .cons (says_tree s) ih

/-- The tree is a string that spells the text, or `null` for none. -/
inductive SaysOrNull : Node → Option String → Prop
  | null : SaysOrNull null none
  | string {node : Node} {s : String} (h : node.Says s) : SaysOrNull node (some s)

theorem nullableString?_eq_some_iff {node : Node} {text : Option String} :
    node.nullableString? = some text ↔ node.SaysOrNull text := by
  constructor
  · intro h
    unfold nullableString? at h
    split at h
    · cases h
      exact .null
    · obtain ⟨s, hs, rfl⟩ := Option.map_eq_some_iff.1 h
      exact .string (string?_eq_some_iff.1 hs)
  · rintro (- | ⟨⟨pieces, rfl, h⟩⟩)
    · rfl
    · exact congrArg (Option.map some) (text?_eq_some_iff.2 h)

theorem saysOrNull_tree (text : Option String) :
    (text.elim Json.null .string).tree.SaysOrNull text := by
  cases text with
  | none => exact .null
  | some s => exact .string (says_tree s)

/-! ## Records -/

/-- The members of an object, with their names as text. -/
abbrev Keyed (members : List (List Piece × Node)) (ms : List (String × Node)) : Prop :=
  List.Forall₂ (fun m named => Spells m.1 named.1.toList ∧ m.2 = named.2) members ms

/-- What stands under a name, once for each member with it. -/
def under (ms : List (String × Node)) (name : String) : List Node :=
  (ms.filter fun m => m.1 = name).map Prod.snd

/-- What a tree has in the fields with these names; a field that is missing has nothing. -/
inductive Fields (names : List String) : Node → List (Option Node) → Prop
  /-- An object has them in any order, none of them twice; its other members say nothing. -/
  | object {members : List (List Piece × Node)} {ms : List (String × Node)}
      {slots : List (Option Node)} (hkeyed : Keyed members ms)
      (hslots : List.Forall₂ (fun name slot => under ms name = slot.toList) names slots) :
      Fields names (.object members) slots
  /-- An array has them in the order of the names, and the last ones may be missing. -/
  | array {items : List Node} {missing : ℕ} (hlength : items.length + missing = names.length) :
      Fields names (.array items) (items.map some ++ List.replicate missing none)

theorem keyed?_eq_some_iff {members : List (List Piece × Node)} {ms : List (String × Node)} :
    keyed? members = some ms ↔ Keyed members ms := by
  have hmember : ∀ (m : List Piece × Node) (named : String × Node),
      ((text? m.1).map fun key => (key, m.2)) = some named ↔
        Spells m.1 named.1.toList ∧ m.2 = named.2 := by
    rintro ⟨key, value⟩ ⟨name, node⟩
    simp only [Option.map_eq_some_iff, Prod.mk.injEq, ← text?_eq_some_iff]
    constructor
    · rintro ⟨s, hs, rfl, rfl⟩
      exact ⟨hs, rfl⟩
    · rintro ⟨hs, rfl⟩
      exact ⟨name, hs, rfl, rfl⟩
  simp only [keyed?, mapM_eq_some_iff, hmember]

theorem slot?_eq_some_iff {ms : List (String × Node)} {name : String} {slot : Option Node} :
    slot? ms name = some slot ↔ under ms name = slot.toList := by
  rw [slot?, under]
  generalize ms.filter (fun m => m.1 = name) = found
  rcases found with _ | ⟨m, _ | ⟨m', rest⟩⟩
  · cases slot <;> simp
  · cases slot <;> simp [eq_comm]
  · cases slot <;> simp

/-- Where the fields of a record are found. -/
theorem slots?_eq_some_iff {names : List String} {node : Node} {slots : List (Option Node)} :
    node.slots? names = some slots ↔ Fields names node slots := by
  cases node with
  | object members =>
    rw [slots?]
    constructor
    · intro h
      split at h
      · rename_i ms hms
        simp only [mapM_eq_some_iff, slot?_eq_some_iff] at h
        exact .object (keyed?_eq_some_iff.1 hms) h
      · cases h
    · rintro (⟨hkeyed, hslots⟩ | -)
      simp only [keyed?_eq_some_iff.2 hkeyed, mapM_eq_some_iff, slot?_eq_some_iff]
      exact hslots
  | array items =>
    rw [slots?, Option.ite_none_right_eq_some]
    constructor
    · rintro ⟨hlength, heq⟩
      obtain rfl := Option.some.inj heq
      exact .array (Nat.add_sub_cancel' hlength)
    · intro h
      cases h with
      | @array _ missing hlength =>
        refine ⟨by omega, ?_⟩
        rw [show names.length - items.length = missing from by omega]
  | null | bool | number | string =>
    constructor
    · rintro ⟨⟩
    · rintro ⟨⟩

theorem required?_eq_some_iff {α : Type} {read : Node → Option α} {slot : Option Node} {a : α} :
    required? read slot = some a ↔ ∃ node, slot = some node ∧ read node = some a := by
  cases slot with
  | none => simp [required?]
  | some node => simp [required?]

/-- A field with a default is read where it is there. -/
theorem optional?_eq_some_iff {α : Type} {default : α} {read : Node → Option α}
    {slot : Option Node} {a : α} : optional? default read slot = some a ↔
      ∃ given, Option.Rel (fun node a => read node = some a) slot given ∧
        given.getD default = a := by
  cases slot with
  | none =>
    constructor
    · exact fun h => ⟨none, .none, Option.some.inj h⟩
    · rintro ⟨_, ⟨⟩, rfl⟩
      rfl
  | some node =>
    constructor
    · exact fun h => ⟨some a, .some h, rfl⟩
    · rintro ⟨_, ⟨h⟩, rfl⟩
      exact h

/-- The members of a value that was written have the names that were written. -/
theorem keyed_treeMembers (members : List (String × Json)) :
    Keyed (treeMembers members) (members.map fun m => (m.1, m.2.tree)) := by
  induction members with
  | nil => exact .nil
  | cons m members ih => exact .cons ⟨text?_eq_some_iff.1 (text?_ofString m.1), rfl⟩ ih

/-! ## Maps of texts -/

/-- The tree is an object of strings, with these names and texts in the order of the
object. -/
inductive StringMembers : Node → List (String × String) → Prop
  | mk {members : List (List Piece × Node)} {pairs : List (String × String)}
      (h : List.Forall₂ (fun m pair => Spells m.1 pair.1.toList ∧ m.2.Says pair.2) members pairs) :
      StringMembers (.object members) pairs

theorem stringMembers?_eq_some_iff {node : Node} {pairs : List (String × String)} :
    node.stringMembers? = some pairs ↔ StringMembers node pairs := by
  cases node with
  | object members =>
    rw [stringMembers?, mapM_eq_some_iff]
    constructor
    · refine fun h => .mk (h.imp fun m pair hmember => ?_)
      rw [← text?_eq_some_iff, ← string?_eq_some_iff]
      cases hkey : text? m.1 <;> cases hvalue : m.2.string? <;> simp [hkey, hvalue] at hmember
      rw [← hmember]
      exact ⟨rfl, rfl⟩
    · rintro ⟨h⟩
      refine h.imp fun m pair ⟨hkey, hvalue⟩ => ?_
      simp only [text?_eq_some_iff.2 hkey, string?_eq_some_iff.2 hvalue]
  | null | bool | number | string | array =>
    constructor
    · rintro ⟨⟩
    · rintro ⟨⟩

/-- A map of texts is written as an object of strings. -/
theorem stringMembers_treeMembers (pairs : List (String × String)) :
    StringMembers (.object (treeMembers (pairs.map fun p => (p.1, .string p.2)))) pairs := by
  refine .mk ?_
  induction pairs with
  | nil => exact .nil
  | cons p pairs ih => exact .cons ⟨text?_eq_some_iff.1 (text?_ofString p.1), says_tree p.2⟩ ih

end Node

/-- The bytes that are read as a map of texts: of the members with one name the last one
counts. -/
theorem stringMap?_eq_some_iff {bytes : Bytes} {m : KeyMap String} :
    stringMap? bytes = some m ↔ ∃ node pairs, Element node bytes ∧ node.StringMembers pairs ∧
      KeyMap.ofList pairs = m := by
  rw [stringMap?]
  constructor
  · intro h
    split at h
    · rename_i node hnode
      obtain ⟨pairs, hpairs, rfl⟩ := Option.map_eq_some_iff.1 h
      exact ⟨node, pairs, Node.ofBytes?_eq_some_iff.1 hnode,
        Node.stringMembers?_eq_some_iff.1 hpairs, rfl⟩
    · cases h
  · rintro ⟨node, pairs, helement, hpairs, rfl⟩
    simp only [Node.ofBytes?_eq_some_iff.2 helement, Node.stringMembers?_eq_some_iff.2 hpairs,
      Option.map_some]

theorem numeralMembers_strings (pairs : List (String × String)) :
    NumeralMembers (pairs.map fun p => (p.1, .string p.2)) := by
  induction pairs with
  | nil => exact trivial
  | cons p pairs ih => exact ⟨trivial, ih⟩

/-- A map of texts is read back. -/
theorem stringMap?_toBytes (m : KeyMap String) : stringMap? (ofStringMap m).toBytes = some m :=
  stringMap?_eq_some_iff.2 ⟨_, m.entries,
    element_of_value (value_chars (ofStringMap m) (numeralMembers_strings m.entries)),
    Node.stringMembers_treeMembers m.entries, m.ofList_entries⟩

end Collector.Json
