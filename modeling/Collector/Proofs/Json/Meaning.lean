import Collector.Json.Basic
import Collector.Proofs.Json.Reader

/-!
# What JSON texts mean

A text that `harvest-model` reads has a value if it is nested at most `Json.maxDepth`
levels deep, every string of it is text (`Spells`), and no number of it is too large
(`Node.Meaningful`).  The value of an object has, under each name, the value of the last
member with that name.

Main statements:

* `text?_eq_some_iff`: what a string literal stands for.
* `isSome_ofNode?_iff`: the trees that have a value.
* `member?_of_ofNode?`: of the members with one name the last one counts.
* `ofBytes?_eq_some_iff`: the bytes that are read as a value are its texts.
-/

namespace Collector.Json

open Utf8 (encode encodeChar IsTail)

/-! ## Strings -/

/-- The characters that a string literal stands for. -/
inductive Spells : List Piece → List Char → Prop
  | nil : Spells [] []
  /-- A character in UTF-8 stands for itself. -/
  | char {c : Char} {pieces : List Piece} {cs : List Char} (h : Spells pieces cs) :
      Spells ((encodeChar c).map .byte ++ pieces) (c :: cs)
  /-- An escape names a character. -/
  | code {unit : Nat} {pieces : List Piece} {cs : List Char} (hhigh : isHighSurrogate unit = false)
      (hlow : isLowSurrogate unit = false) (h : Spells pieces cs) :
      Spells (.code unit :: pieces) (Char.ofNat unit :: cs)
  /-- Two escapes name a character beyond the first 65536. -/
  | pair {high low : Nat} {pieces : List Piece} {cs : List Char}
      (hhigh : isHighSurrogate high = true) (hlow : isLowSurrogate low = true)
      (h : Spells pieces cs) :
      Spells (.code high :: .code low :: pieces)
        (Char.ofNat (0x10000 + (high - 0xD800) * 0x400 + (low - 0xDC00)) :: cs)

/-- The bytes that a string literal stands for, which need not be UTF-8. -/
inductive Gives : List Piece → Bytes → Prop
  | nil : Gives [] []
  | byte (b : UInt8) {pieces : List Piece} {bytes : Bytes} (h : Gives pieces bytes) :
      Gives (.byte b :: pieces) (b :: bytes)
  | code {unit : Nat} {pieces : List Piece} {bytes : Bytes} (hhigh : isHighSurrogate unit = false)
      (hlow : isLowSurrogate unit = false) (h : Gives pieces bytes) :
      Gives (.code unit :: pieces) (encodeChar (Char.ofNat unit) ++ bytes)
  | pair {high low : Nat} {pieces : List Piece} {bytes : Bytes}
      (hhigh : isHighSurrogate high = true) (hlow : isLowSurrogate low = true)
      (h : Gives pieces bytes) :
      Gives (.code high :: .code low :: pieces)
        (encodeChar (Char.ofNat (0x10000 + (high - 0xD800) * 0x400 + (low - 0xDC00))) ++ bytes)

variable {pieces : List Piece} {bytes : Bytes} {cs : List Char}

theorem not_isLowSurrogate {unit : Nat} (h : isHighSurrogate unit = true) :
    isLowSurrogate unit = false := by
  simp only [isHighSurrogate, isLowSurrogate, Bool.and_eq_true, Bool.and_eq_false_iff,
    decide_eq_true_eq, decide_eq_false_iff_not] at h ⊢
  omega

theorem bytesFrom?_of_gives (h : Gives pieces bytes) (read : Bytes) :
    bytesFrom? read pieces = some (read.reverse ++ bytes) := by
  induction h generalizing read with
  | nil => exact congrArg some (List.append_nil _).symm
  | byte b _ ih =>
    rw [bytesFrom?, ih, List.reverse_cons, List.append_assoc, List.singleton_append]
  | code hhigh hlow _ ih =>
    rw [bytesFrom?.eq_def]
    simp only [hhigh, hlow, Bool.false_eq_true, if_false, ih, List.reverse_append,
      List.reverse_reverse, List.append_assoc]
  | pair hhigh hlow _ ih =>
    rw [bytesFrom?.eq_def]
    simp only [not_isLowSurrogate hhigh, hhigh, hlow, Bool.false_eq_true, if_false, if_true, ih,
      List.reverse_append, List.reverse_reverse, List.append_assoc]

theorem gives_of_bytesFrom? {read : Bytes} (h : bytesFrom? read pieces = some bytes) :
    ∃ more, bytes = read.reverse ++ more ∧ Gives pieces more := by
  fun_induction bytesFrom? read pieces with
  | case1 read => exact ⟨[], by rw [← Option.some.inj h, List.append_nil], .nil⟩
  | case2 read b rest ih =>
    obtain ⟨more, rfl, hmore⟩ := ih h
    refine ⟨b :: more, ?_, .byte b hmore⟩
    rw [List.reverse_cons, List.append_assoc, List.singleton_append]
  | case4 read high hlow' hhigh low rest hlow c ih =>
    obtain ⟨more, hbytes, hmore⟩ := ih h
    refine ⟨encodeChar c ++ more, ?_, .pair hhigh hlow hmore⟩
    rw [hbytes, List.reverse_append, List.reverse_reverse, List.append_assoc]
  | case7 read unit rest hlow hhigh ih =>
    obtain ⟨more, rfl, hmore⟩ := ih h
    refine ⟨_, ?_, .code (Bool.not_eq_true _ ▸ hhigh) (Bool.not_eq_true _ ▸ hlow) hmore⟩
    rw [List.reverse_append, List.reverse_reverse, List.append_assoc]
  | case3 | case5 | case6 => cases h

theorem gives_bytes (h : Gives pieces bytes) (tail : Bytes) :
    Gives (tail.map .byte ++ pieces) (tail ++ bytes) := by
  induction tail with
  | nil => exact h
  | cons b tail ih => exact .byte b ih

theorem Spells.gives (h : Spells pieces cs) : Gives pieces (encode cs) := by
  induction h with
  | nil => exact .nil
  | char _ ih => exact gives_bytes ih _
  | code hhigh hlow _ ih => exact .code hhigh hlow ih
  | pair hhigh hlow _ ih => exact .pair hhigh hlow ih

/-- Bytes that only go on with a character stand for themselves, for no escape begins with
one. -/
theorem exists_eq_append_of_isTail {tail : Bytes} (htail : ∀ b ∈ tail, IsTail b)
    (h : Gives pieces (tail ++ bytes)) :
    ∃ rest, pieces = tail.map .byte ++ rest ∧ Gives rest bytes := by
  induction tail generalizing pieces with
  | nil => exact ⟨pieces, rfl, h⟩
  | cons t tail ih =>
    have hfirst : ∀ (c : Char) (more : Bytes), t :: (tail ++ bytes) ≠ encodeChar c ++ more := by
      intro c more heq
      obtain ⟨b, rest, hb, hnot, -⟩ := Utf8.exists_encodeChar_eq c
      rw [hb] at heq
      exact hnot ((List.cons.inj heq).1 ▸ htail t List.mem_cons_self)
    rw [List.cons_append] at h
    generalize hall : t :: (tail ++ bytes) = all at h hfirst
    cases h with
    | nil => cases hall
    | byte b h =>
      obtain ⟨rfl, rfl⟩ := List.cons.inj hall
      obtain ⟨rest, rfl, hrest⟩ := ih (fun b hb => htail b (List.mem_cons_of_mem _ hb)) h
      exact ⟨rest, rfl, hrest⟩
    | code => exact absurd rfl (hfirst _ _)
    | pair => exact absurd rfl (hfirst _ _)

theorem Gives.spells (h : Gives pieces (encode cs)) : Spells pieces cs := by
  induction cs generalizing pieces with
  | nil =>
    generalize hnil : encode [] = all at h
    cases h with
    | nil => exact .nil
    | byte => cases hnil
    | code | pair =>
      obtain ⟨b, tail, hb, -⟩ := Utf8.exists_encodeChar_eq (Char.ofNat _)
      rw [hb] at hnil
      cases hnil
  | cons c cs ih =>
    have hcons : encode (c :: cs) = encodeChar c ++ encode cs := rfl
    generalize hall : encode (c :: cs) = all at h
    cases h with
    | nil =>
      obtain ⟨b, tail, hb, -⟩ := Utf8.exists_encodeChar_eq c
      rw [hcons, hb] at hall
      cases hall
    | byte b h =>
      obtain ⟨b', tail, hb, -, htail⟩ := Utf8.exists_encodeChar_eq c
      rw [hcons, hb] at hall
      obtain ⟨rfl, rfl⟩ := List.cons.inj hall
      obtain ⟨rest, rfl, hrest⟩ := exists_eq_append_of_isTail htail h
      have hspells := Spells.char (c := c) (ih hrest)
      rwa [hb] at hspells
    | code hhigh hlow h =>
      obtain ⟨rfl, rfl⟩ := Utf8.encodeChar_append_inj (hall.symm.trans hcons)
      exact .code hhigh hlow (ih h)
    | pair hhigh hlow h =>
      obtain ⟨rfl, rfl⟩ := Utf8.encodeChar_append_inj (hall.symm.trans hcons)
      exact .pair hhigh hlow (ih h)

/-- What a string literal stands for. -/
theorem text?_eq_some_iff {s : String} : text? pieces = some s ↔ Spells pieces s.toList := by
  constructor
  · intro h
    unfold text? at h
    split at h
    · rename_i bytes hbytes
      obtain ⟨more, rfl, hgives⟩ := gives_of_bytesFrom? hbytes
      obtain ⟨cs, hdecode, rfl⟩ := Option.map_eq_some_iff.1 h
      have hencode := Utf8.decode?_eq_some_iff.1 hdecode
      rw [String.toList_ofList]
      exact (hencode ▸ hgives).spells
    · cases h
  · intro h
    rw [text?, bytesFrom?_of_gives h.gives]
    exact textOf?_bytesOf s

/-! ## Values -/

namespace Node

mutual

/-- Every string of a tree is text, and no number of it is too large for a double. -/
def Meaningful : Node → Prop
  | null | bool _ => True
  | number literal => literal.number?.isSome
  | string pieces => ∃ cs, Spells pieces cs
  | array items => MeaningfulItems items
  | object members => MeaningfulMembers members

/-- Every string in the items of an array is text, and no number in them is too large for a
double. -/
def MeaningfulItems : List Node → Prop
  | [] => True
  | item :: items => Meaningful item ∧ MeaningfulItems items

/-- Every string in the members of an object, their keys included, is text, and no number in them is
too large for a double. -/
def MeaningfulMembers : List (List Piece × Node) → Prop
  | [] => True
  | (key, value) :: members =>
    (∃ cs, Spells key cs) ∧ Meaningful value ∧ MeaningfulMembers members

end

/-- What stands under a name, in the last member with it. -/
def lastNamed? (name : String) : List (List Piece × Node) → Option Node
  | [] => none
  | (key, value) :: members =>
    match lastNamed? name members with
    | some last => some last
    | none => if text? key = some name then some value else none

/-- The value under a name; only objects have one. -/
def field? (name : String) : Node → Option Json
  | object members => (lastNamed? name members).bind ofNode?
  | _ => none

end Node

open Node

theorem isSome_text?_iff : (text? pieces).isSome ↔ ∃ cs, Spells pieces cs := by
  rw [Option.isSome_iff_exists]
  constructor
  · rintro ⟨s, hs⟩
    exact ⟨_, text?_eq_some_iff.1 hs⟩
  · rintro ⟨cs, hcs⟩
    refine ⟨String.ofList cs, text?_eq_some_iff.2 ?_⟩
    rwa [String.toList_ofList]

mutual

/-- A tree has a value exactly if its strings are text and its numbers are not too large. -/
theorem isSome_ofNode?_iff (node : Node) : (ofNode? node).isSome ↔ node.Meaningful :=
  match node with
  | .null | .bool _ => by simp [ofNode?, Meaningful]
  | .number literal => by rw [ofNode?, Option.isSome_map, Meaningful]
  | .string pieces => by rw [ofNode?, Option.isSome_map, Meaningful, isSome_text?_iff]
  | .array items => by rw [ofNode?, Option.isSome_map, Meaningful, isSome_ofItems?_iff items]
  | .object members => by rw [ofNode?, Option.isSome_map, Meaningful, isSome_ofMembers?_iff members]

theorem isSome_ofItems?_iff (items : List Node) : (ofItems? items).isSome ↔ MeaningfulItems items :=
  match items with
  | [] => by simp [ofItems?, MeaningfulItems]
  | item :: items => by
    rw [MeaningfulItems, ← isSome_ofNode?_iff item, ← isSome_ofItems?_iff items, ofItems?]
    cases ofNode? item <;> cases ofItems? items <;> simp

theorem isSome_ofMembers?_iff (members : List (List Piece × Node)) :
    (ofMembers? members).isSome ↔ MeaningfulMembers members :=
  match members with
  | [] => by simp [ofMembers?, MeaningfulMembers]
  | (key, value) :: members => by
    rw [MeaningfulMembers, ← isSome_text?_iff, ← isSome_ofNode?_iff value,
      ← isSome_ofMembers?_iff members, ofMembers?]
    cases text? key <;> cases ofNode? value <;> cases ofMembers? members <;> simp

end

/-- Members are put into an object one after the other, and a later one replaces an
earlier one of the same name. -/
theorem get?_foldl_insert {members : List (List Piece × Node)} {ms : List (String × Json)}
    (h : ofMembers? members = some ms) (name : String) (entries : List (String × Json)) :
    Entries.get? name (ms.foldl (fun entries m => Entries.insert m.1 m.2 entries) entries) =
      match lastNamed? name members with
      | some last => ofNode? last
      | none => Entries.get? name entries := by
  induction members generalizing ms entries with
  | nil =>
    cases h
    rfl
  | cons m members ih =>
    obtain ⟨key, value⟩ := m
    rw [ofMembers?] at h
    split at h
    · rename_i k v rest hkey hvalue hrest
      cases h
      rw [List.foldl_cons, ih hrest, lastNamed?]
      cases lastNamed? name members with
      | some last => rfl
      | none =>
        rw [Entries.get?_insert, hkey]
        by_cases hname : name = k
        · simp [hname, hvalue]
        · simp [hname, Ne.symm hname]
    · cases h

/-- Of the members with one name the last one counts. -/
theorem member?_of_ofNode? {node : Node} {v : Json} (h : ofNode? node = some v) (name : String) :
    v.member? name = node.field? name := by
  cases node with
  | object members =>
    obtain ⟨ms, hms, rfl⟩ := Option.map_eq_some_iff.1 h
    rw [member?, get?_foldl_insert hms, field?]
    cases lastNamed? name members <;> rfl
  | null | bool =>
    cases h
    rfl
  | number | string | array =>
    obtain ⟨_, -, rfl⟩ := Option.map_eq_some_iff.1 h
    rfl

/-! ## Texts -/

/-- The bytes are a text of the tree, which is not nested too deeply and has a value. -/
structure Legible (bytes : Bytes) (node : Node) : Prop where
  /-- The bytes are a text of the tree by the grammar. -/
  element : Grammar.Element node bytes
  /-- The tree is not nested too deeply. -/
  depth : node.depth ≤ maxDepth
  /-- The strings of the tree are text, and its numbers are not too large. -/
  meaningful : node.Meaningful

theorem Legible.exists_value {node : Node} (h : Legible bytes node) : ∃ v, ofNode? node = some v :=
  Option.isSome_iff_exists.1 ((isSome_ofNode?_iff node).2 h.meaningful)

/-- The bytes that are read as a value are its texts. -/
theorem ofBytes?_eq_some_iff {v : Json} :
    ofBytes? bytes = some v ↔ ∃ node, Legible bytes node ∧ ofNode? node = some v := by
  unfold ofBytes?
  constructor
  · intro h
    split at h
    · rename_i node hnode
      split_ifs at h with hdepth
      have hmeaningful := (isSome_ofNode?_iff node).1 (Option.isSome_of_eq_some h)
      exact ⟨node, ⟨Node.ofBytes?_eq_some_iff.1 hnode, hdepth, hmeaningful⟩, h⟩
    · cases h
  · rintro ⟨node, hlegible, hvalue⟩
    rw [Node.ofBytes?_eq_some_iff.2 hlegible.element]
    simp only [if_pos hlegible.depth, hvalue]

/-- Bytes cannot be read as a value exactly if they are no legible text. -/
theorem ofBytes?_eq_none_iff : ofBytes? bytes = none ↔ ∀ node, ¬ Legible bytes node := by
  constructor
  · intro h node hlegible
    obtain ⟨v, hvalue⟩ := hlegible.exists_value
    rw [ofBytes?_eq_some_iff.2 ⟨node, hlegible, hvalue⟩] at h
    cases h
  · intro h
    cases hread : ofBytes? bytes with
    | none => rfl
    | some v =>
      obtain ⟨node, hlegible, -⟩ := ofBytes?_eq_some_iff.1 hread
      exact absurd hlegible (h node)

/-! ## Comparing values -/

mutual

/-- Whether two values are the same. -/
def same : Json → Json → Bool
  | null, null => true
  | bool a, bool b => a = b
  | number m, number n => m = n
  | string s, string t => s = t
  | array xs, array ys => sameItems xs ys
  | object xs, object ys => sameMembers xs ys
  | _, _ => false

/-- Whether two lists of values are the same. -/
def sameItems : List Json → List Json → Bool
  | [], [] => true
  | x :: xs, y :: ys => same x y && sameItems xs ys
  | _, _ => false

/-- Whether two lists of members are the same. -/
def sameMembers : List (String × Json) → List (String × Json) → Bool
  | [], [] => true
  | (k, x) :: xs, (l, y) :: ys => k = l && same x y && sameMembers xs ys
  | _, _ => false

end

mutual

theorem same_iff (v w : Json) : same v w = true ↔ v = w :=
  match v with
  | .null => by cases w <;> simp [same]
  | .bool a => by cases w <;> simp [same]
  | .number n => by cases w <;> simp [same]
  | .string s => by cases w <;> simp [same]
  | .array items => by cases w <;> simp [same, sameItems_iff items]
  | .object members => by cases w <;> simp [same, sameMembers_iff members]

theorem sameItems_iff (xs ys : List Json) : sameItems xs ys = true ↔ xs = ys :=
  match xs with
  | [] => by cases ys <;> simp [sameItems]
  | x :: xs => by cases ys <;> simp [sameItems, same_iff x, sameItems_iff xs]

theorem sameMembers_iff (xs ys : List (String × Json)) : sameMembers xs ys = true ↔ xs = ys :=
  match xs with
  | [] => by cases ys <;> simp [sameMembers]
  | (k, x) :: xs => by
    rcases ys with _ | ⟨⟨l, y⟩, ys⟩
    · simp [sameMembers]
    · simp [sameMembers, same_iff x, sameMembers_iff xs]

end

instance : DecidableEq Json := fun v w => decidable_of_iff _ (same_iff v w)

end Collector.Json
