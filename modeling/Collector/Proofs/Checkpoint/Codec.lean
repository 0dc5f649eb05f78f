import Collector.Checkpoint.Basic
import Collector.Proofs.Json.Tree

/-!
# Checkpoints are read back

A checkpoint, the collection state of `harvest-model`, is written as an object of three
fields.  It is read from that object with its members in any order and among others, and
from an array of the fields; the list may be left out where it is empty
(`Checkpoint.Writing`).

Main statements:

* `Checkpoint.decode?_toBytes_iff`: the values that are read as a checkpoint are the
  ones that write it.
* `Checkpoint.decode?_encode`: the stored form of a checkpoint is read as that
  checkpoint, whatever its texts are.
* `Checkpoint.encode_lossless`: nothing is lost on the way to the store and back.
-/

namespace Collector

namespace Json

/-! ## Texts and lists of texts -/

/-- What is read as a string is the tree of that string. -/
theorem string?_tree_iff {v : Json} {s : String} : v.tree.string? = some s ↔ v = .string s := by
  cases v with
  | string t => simp only [tree, Node.string?, text?_ofString, Option.some.injEq, string.injEq]
  | null | bool | number | array | object => simp [tree, Node.string?]

/-- A list of strings is read item by item. -/
theorem mapM_string?_treeItems_iff {items : List Json} {ids : List String} :
    (treeItems items).mapM Node.string? = some ids ↔ items = ids.map string := by
  induction items generalizing ids with
  | nil => cases ids <;> simp [treeItems]
  | cons item items ih =>
    simp only [treeItems, List.mapM_cons, Option.bind_eq_bind, Option.bind_eq_some_iff,
      Option.pure_def, Option.some.injEq, string?_tree_iff, ih]
    constructor
    · rintro ⟨id, rfl, rest, rfl, rfl⟩
      rfl
    · intro h
      cases ids with
      | nil => cases h
      | cons id rest =>
        obtain ⟨hid, hrest⟩ := List.cons.inj h
        exact ⟨id, hid, rest, hrest, rfl⟩

/-- What is read as a list of strings is the tree of that list. -/
theorem strings?_tree_iff {v : Json} {ids : List String} :
    v.tree.strings? = some ids ↔ v = .array (ids.map string) := by
  cases v with
  | array items =>
    simp only [tree, Node.strings?, mapM_string?_treeItems_iff, array.injEq]
  | null | bool | number | string | object => simp [tree, Node.strings?]

theorem numeralItems_strings (ids : List String) : NumeralItems (ids.map string) := by
  induction ids with
  | nil => exact trivial
  | cons id ids ih => exact ⟨trivial, ih⟩

/-! ## Fields of objects and arrays -/

theorem treeItems_eq_map (items : List Json) : treeItems items = items.map tree := by
  induction items with
  | nil => rfl
  | cons item items ih => rw [treeItems, ih, List.map_cons]

/-- The members of an object, with their names as text. -/
theorem keyed?_treeMembers (members : List (String × Json)) :
    Node.keyed? (treeMembers members) = some (members.map fun m => (m.1, m.2.tree)) := by
  induction members with
  | nil => rfl
  | cons m members ih =>
    rw [Node.keyed?] at ih ⊢
    simp only [treeMembers, List.mapM_cons, text?_ofString, Option.map_some, ih, List.map_cons]
    rfl

/-- The members of an object that have a name. -/
def named (members : List (String × Json)) (name : String) : List Json :=
  (members.filter fun m => m.1 = name).map Prod.snd

/-- An object has one member of a name, or none. -/
theorem slot?_tree_iff {members : List (String × Json)} {name : String} {slot : Option Node} :
    Node.slot? (members.map fun m => (m.1, m.2.tree)) name = some slot ↔
      named members name = [] ∧ slot = none ∨
        ∃ v, named members name = [v] ∧ slot = some v.tree := by
  have hfilter : (members.map fun m => (m.1, m.2.tree)).filter (fun m => m.1 = name) =
      (members.filter fun m => m.1 = name).map fun m => (m.1, m.2.tree) := List.filter_map
  rw [Node.slot?, hfilter, named]
  generalize members.filter (fun m => m.1 = name) = found
  rcases found with _ | ⟨m, _ | ⟨m', rest⟩⟩
  · simp [@eq_comm _ slot]
  · simp [@eq_comm _ slot]
  · simp

end Json

namespace Checkpoint

open Json

/-! ## Written forms -/

/-- The JSON values that write a checkpoint. -/
inductive Writing (c : Checkpoint) : Json → Prop
  /-- An object has the fields in any order; its other members say nothing. -/
  | object (members : List (String × Json))
      (hversion : named members "Version" = [.string c.version])
      (hcursor : named members "NextRecordTime" = [.string c.cursor])
      (hdelivered : named members "LastTimeRecords" = [.array (c.delivered.map .string)] ∨
        named members "LastTimeRecords" = [] ∧ c.delivered = []) : Writing c (.object members)
  /-- An array has the values of the fields in their order. -/
  | array : Writing c
      (.array [.string c.version, .string c.cursor, .array (c.delivered.map .string)])
  /-- A list without items may be left out. -/
  | shortArray (hnil : c.delivered = []) : Writing c (.array [.string c.version, .string c.cursor])

theorem writing_toJson (c : Checkpoint) : c.Writing c.toJson :=
  .object _ rfl rfl (.inl rfl)

/-- A tree is read field by field. -/
theorem ofNode?_eq_some_iff {node : Node} {c : Checkpoint} :
    ofNode? node = some c ↔ ∃ version cursor delivered,
      node.slots? fieldNames = some [version, cursor, delivered] ∧
        Node.required? Node.string? version = some c.version ∧
        Node.required? Node.string? cursor = some c.cursor ∧
        Node.optional? [] Node.strings? delivered = some c.delivered := by
  rw [ofNode?]
  constructor
  · intro h
    split at h
    · rename_i version cursor delivered hslots
      split at h
      · rename_i v s ids hversion hcursor hdelivered
        cases h
        exact ⟨version, cursor, delivered, hslots, hversion, hcursor, hdelivered⟩
      · cases h
    · cases h
  · rintro ⟨version, cursor, delivered, hslots, hversion, hcursor, hdelivered⟩
    simp only [hslots, hversion, hcursor, hdelivered]

/-- A field that must be there. -/
theorem required?_string?_iff {v : Json} {s : String} :
    Node.required? Node.string? (some v.tree) = some s ↔ v = .string s := string?_tree_iff

/-- The slots of an object are its members of these names. -/
theorem slots?_object_iff {members : List (String × Json)}
    {version cursor delivered : Option Node} :
    (Json.object members).tree.slots? fieldNames = some [version, cursor, delivered] ↔
      Node.slot? (members.map fun m => (m.1, m.2.tree)) "Version" = some version ∧
      Node.slot? (members.map fun m => (m.1, m.2.tree)) "NextRecordTime" = some cursor ∧
      Node.slot? (members.map fun m => (m.1, m.2.tree)) "LastTimeRecords" = some delivered := by
  simp only [tree, Node.slots?, keyed?_treeMembers, fieldNames, List.mapM_cons, List.mapM_nil,
    Option.bind_eq_bind, Option.bind_eq_some_iff, Option.pure_def, Option.some.injEq]
  constructor
  · rintro ⟨v, hv, rest, ⟨s, hs, rest', ⟨d, hd, rest'', rfl, rfl⟩, rfl⟩, heq⟩
    cases heq
    exact ⟨hv, hs, hd⟩
  · rintro ⟨hv, hs, hd⟩
    exact ⟨version, hv, _, ⟨cursor, hs, _, ⟨delivered, hd, _, rfl, rfl⟩, rfl⟩, rfl⟩

theorem ofNode?_object_iff {members : List (String × Json)} {c : Checkpoint} :
    ofNode? (Json.object members).tree = some c ↔ c.Writing (.object members) := by
  simp only [ofNode?_eq_some_iff, slots?_object_iff, slot?_tree_iff]
  constructor
  · rintro ⟨version, cursor, delivered, ⟨hversion, hcursor, hdelivered⟩, hv, hs, hd⟩
    rcases hversion with ⟨-, rfl⟩ | ⟨v, hversion, rfl⟩
    · cases hv
    rcases hcursor with ⟨-, rfl⟩ | ⟨s, hcursor, rfl⟩
    · cases hs
    obtain rfl := required?_string?_iff.1 hv
    obtain rfl := required?_string?_iff.1 hs
    refine .object members hversion hcursor ?_
    rcases hdelivered with ⟨hdelivered, rfl⟩ | ⟨d, hdelivered, rfl⟩
    · exact .inr ⟨hdelivered, (Option.some.inj hd).symm⟩
    · obtain rfl := strings?_tree_iff.1 hd
      exact .inl hdelivered
  · intro h
    have hv := required?_string?_iff.2 (rfl : Json.string c.version = _)
    have hs := required?_string?_iff.2 (rfl : Json.string c.cursor = _)
    cases h with
    | object _ hversion hcursor hdelivered =>
      rcases hdelivered with hdelivered | ⟨hdelivered, hnil⟩
      · exact ⟨_, _, _, ⟨.inr ⟨_, hversion, rfl⟩, .inr ⟨_, hcursor, rfl⟩,
          .inr ⟨_, hdelivered, rfl⟩⟩, hv, hs, strings?_tree_iff.2 rfl⟩
      · exact ⟨_, _, none, ⟨.inr ⟨_, hversion, rfl⟩, .inr ⟨_, hcursor, rfl⟩,
          .inl ⟨hdelivered, rfl⟩⟩, hv, hs, congrArg some hnil.symm⟩

theorem ofNode?_array_iff {items : List Json} {c : Checkpoint} :
    ofNode? (Json.array items).tree = some c ↔ c.Writing (.array items) := by
  simp only [ofNode?_eq_some_iff, tree, treeItems_eq_map, Node.slots?, fieldNames]
  constructor
  · rintro ⟨version, cursor, delivered, hslots, hv, hs, hd⟩
    -- an array of one item has no cursor, and one of four is too long
    rcases items with _ | ⟨v, _ | ⟨s, _ | ⟨d, _ | ⟨x, rest⟩⟩⟩⟩
    · cases hslots
      cases hv
    · cases hslots
      cases hs
    · cases hslots
      obtain rfl := required?_string?_iff.1 hv
      obtain rfl := required?_string?_iff.1 hs
      exact .shortArray (Option.some.inj hd).symm
    · cases hslots
      obtain rfl := required?_string?_iff.1 hv
      obtain rfl := required?_string?_iff.1 hs
      obtain rfl := strings?_tree_iff.1 hd
      exact .array
    · simp at hslots
  · intro h
    have hv := required?_string?_iff.2 (rfl : Json.string c.version = _)
    have hs := required?_string?_iff.2 (rfl : Json.string c.cursor = _)
    cases h with
    | array => exact ⟨_, _, _, rfl, hv, hs, strings?_tree_iff.2 rfl⟩
    | shortArray hnil => exact ⟨_, _, none, rfl, hv, hs, congrArg some hnil.symm⟩

theorem ofNode?_tree_iff {v : Json} {c : Checkpoint} : ofNode? v.tree = some c ↔ c.Writing v := by
  cases v with
  | object members => exact ofNode?_object_iff
  | array items => exact ofNode?_array_iff
  | null | bool | number | string =>
    constructor
    · rintro ⟨⟩
    · rintro ⟨⟩

/-- The values that are read as a checkpoint are the ones that write it. -/
theorem decode?_toBytes_iff {v : Json} (h : v.Numeral) {c : Checkpoint} :
    decode? v.toBytes = some c ↔ c.Writing v := by
  rw [decode?, Node.ofBytes?_toBytes h, Option.bind_some, ofNode?_tree_iff]

/-! ## The stored form -/

theorem numeral_toJson (c : Checkpoint) : c.toJson.Numeral :=
  ⟨trivial, trivial, numeralItems_strings _, trivial⟩

/-- The stored form of a checkpoint is read as that checkpoint. -/
theorem decode?_encode (c : Checkpoint) : decode? c.encode = some c :=
  (decode?_toBytes_iff c.numeral_toJson).2 c.writing_toJson

example : (ofCursor "2015-01-01 10:00:01" ["c", "b"]).encode =
    bytesOf ("\x7b\"Version\":\"1\",\"NextRecordTime\":\"2015-01-01 10:00:01\"," ++
      "\"LastTimeRecords\":[\"c\",\"b\"]\x7d") := by
  decide +kernel

/-- Nothing is lost on the way to the store and back: a checkpoint is read from its
stored form, different checkpoints have different stored forms, and what is read from
any bytes is read again from the stored form of it.  Of the JSON texts those are read
that write a checkpoint, and no others. -/
theorem encode_lossless :
    (∀ c : Checkpoint, decode? c.encode = some c) ∧
      (∀ c d : Checkpoint, c.encode = d.encode → c = d) ∧
      (∀ (bytes : Bytes) (c : Checkpoint), decode? bytes = some c → decode? c.encode = some c) ∧
      ∀ (v : Json) (c : Checkpoint), v.Numeral → (decode? v.toBytes = some c ↔ c.Writing v) := by
  refine ⟨decode?_encode, ?_, fun _ c _ => decode?_encode c, fun v c h => decode?_toBytes_iff h⟩
  intro c d h
  have hc := decode?_encode c
  rw [h, decode?_encode] at hc
  exact (Option.some.inj hc).symm

/-- An array of the fields, with texts that need escapes and with texts that are empty. -/
theorem encode_lossless_array :
    let v : Json := .array
      [.string "1", .string "\"\\\x00é", .array [.string "", .string "\n", .string ""]]
    let c : Checkpoint := ⟨"1", "\"\\\x00é", ["", "\n", ""]⟩
    decode? v.toBytes = some c ∧ decode? c.encode = some c ∧ v.toBytes ≠ c.encode := by
  intro v c
  obtain ⟨-, -, hagain, hread⟩ := encode_lossless
  have hnumeral : v.Numeral := ⟨trivial, trivial, numeralItems_strings c.delivered, trivial⟩
  have hdecode : decode? v.toBytes = some c := (hread v c hnumeral).2 .array
  exact ⟨hdecode, hagain v.toBytes c hdecode, by decide +kernel⟩

end Checkpoint

end Collector
