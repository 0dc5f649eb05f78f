import Collector.Json.Fields
import Collector.Json.Printer
import Collector.Proofs.Json.Reader

/-!
# Reading what was written

What a value of `harvest-model` is written as is a text of its tree (`Json.tree`), so that
it is read as that tree, and the strings of the tree are the strings of the value.

Main statements:

* `value_chars`: a value is written as a text of its tree.
* `Node.ofBytes?_toBytes`: the text of a value is read as its tree.
* `text?_ofString`: a string literal is read as the string.
-/

namespace Collector.Json

open Grammar
open Utf8 (encode encodeChar encode_append)

/-! ## Trees -/

/-- What a string literal has for a character: the number of one that is escaped, and the
bytes of any other. -/
def Piece.ofChar (c : Char) : List Piece :=
  if c = '"' ∨ c = '\\' ∨ c.toNat < 0x20 then [.code c.toNat] else (encodeChar c).map .byte

/-- What a string literal has for a string. -/
def Piece.ofString (s : String) : List Piece := s.toList.flatMap Piece.ofChar

mutual

/-- The tree of the text of a value. -/
def tree : Json → Node
  | null => .null
  | bool b => .bool b
  | number n => .number ((Literal.ofText? n.render).getD ⟨false, true, 0, 0⟩)
  | string s => .string (Piece.ofString s)
  | array items => .array (treeItems items)
  | object members => .object (treeMembers members)

/-- The trees of some items. -/
def treeItems : List Json → List Node
  | [] => []
  | item :: items => tree item :: treeItems items

/-- The trees of some members. -/
def treeMembers : List (String × Json) → List (List Piece × Node)
  | [] => []
  | (key, value) :: members => (Piece.ofString key, tree value) :: treeMembers members

end

/-- A text that begins like a number and goes on with the characters of numbers. -/
def isNumeralText : List Char → Bool
  | [] => false
  | c :: cs => (c = '-' || Decimal.isDigit c) &&
      cs.all fun d => d.toNat < 0x80 && Token.isNumeral (UInt8.ofNat d.toNat)

mutual

/-- The numbers of a value are written like numbers, and can be read. -/
def Numeral : Json → Prop
  | number n => isNumeralText n.render = true ∧ (Literal.ofText? n.render).isSome
  | array items => NumeralItems items
  | object members => NumeralMembers members
  | _ => True

/-- The numbers of some items are. -/
def NumeralItems : List Json → Prop
  | [] => True
  | item :: items => Numeral item ∧ NumeralItems items

/-- The numbers of some members are. -/
def NumeralMembers : List (String × Json) → Prop
  | [] => True
  | (_, value) :: members => Numeral value ∧ NumeralMembers members

end

/-! ## Texts -/

theorem element_of_value {node : Node} {bytes : Bytes} (h : Value node bytes) :
    Element node bytes := by
  have hall := Element.mk blank_nil h blank_nil
  rwa [List.append_nil] at hall

theorem encode_cons_of_lt {c : Char} (h : c.toNat < 0x80) (cs : List Char) :
    encode (c :: cs) = UInt8.ofNat c.toNat :: encode cs := by
  show encodeChar c ++ encode cs = _
  rw [Utf8.encodeChar_of_lt h, List.singleton_append]

/-- Bytes that stand for themselves may stand in front of what a string holds. -/
theorem content_bytes {pieces : List Piece} {rest : Bytes} (hrest : Content pieces rest)
    (bytes : Bytes) (h : ∀ b ∈ bytes, b ≠ 0x22 ∧ b ≠ 0x5C ∧ 0x20 ≤ b) :
    Content (bytes.map .byte ++ pieces) (bytes ++ rest) := by
  induction bytes with
  | nil => exact hrest
  | cons b bytes ih =>
    obtain ⟨hquote, hslash, hcontrol⟩ := h b List.mem_cons_self
    exact .byte hquote hslash hcontrol (ih fun c hc => h c (List.mem_cons_of_mem b hc))

/-- The bytes of a character that is not escaped stand for themselves. -/
theorem mem_encodeChar_plain {c : Char} (hquote : c ≠ '"') (hslash : c ≠ '\\')
    (hspace : 0x20 ≤ c.toNat) {b : UInt8} (hb : b ∈ encodeChar c) :
    b ≠ 0x22 ∧ b ≠ 0x5C ∧ 0x20 ≤ b := by
  have hbyte : b.toNat = c.toNat ∨ 0x80 ≤ b.toNat := by
    by_cases hlt : c.toNat < 0x80
    · rw [Utf8.encodeChar_of_lt hlt] at hb
      rw [List.mem_singleton.1 hb]
      exact .inl (Utf8.toNat_ofNat_of_lt (by omega))
    · exact .inr (Utf8.mem_encodeChar hlt hb)
  have hne : ∀ d : Char, c ≠ d → c.toNat ≠ d.toNat := fun d hcd heq => hcd (Char.toNat_inj.1 heq)
  have hquote' := hne '"' hquote
  have hslash' := hne '\\' hslash
  simp only [show ('"').toNat = 0x22 from rfl, show ('\\').toNat = 0x5C from rfl] at hquote' hslash'
  refine ⟨?_, ?_, UInt8.le_iff_toNat_le.2 ?_⟩
  · rintro rfl
    simp only [show (0x22 : UInt8).toNat = 0x22 from rfl] at hbyte
    omega
  · rintro rfl
    simp only [show (0x5C : UInt8).toNat = 0x5C from rfl] at hbyte
    omega
  · show 0x20 ≤ b.toNat
    omega

theorem hexValue?_hexDigit {n : ℕ} (h : n < 16) :
    (hexDigit n).toNat < 0x80 ∧ Token.hexValue? (UInt8.ofNat (hexDigit n).toNat) = some n := by
  interval_cases n
  all_goals exact ⟨by decide, rfl⟩

/-- A character that is written with its number. -/
theorem content_unicode {pieces : List Piece} {rest : Bytes} (hrest : Content pieces rest) {n : ℕ}
    (h : n < 0x20) : Content (.code n :: pieces)
      (encode ['\\', 'u', '0', '0', hexDigit (n / 16), hexDigit (n % 16)] ++ rest) := by
  obtain ⟨hlt, hhigh⟩ := hexValue?_hexDigit (show n / 16 < 16 by omega)
  obtain ⟨hlt', hlow⟩ := hexValue?_hexDigit (show n % 16 < 16 by omega)
  have hzero : Token.hexValue? 0x30 = some 0 := rfl
  have hcode : ((0 * 16 + 0) * 16 + n / 16) * 16 + n % 16 = n := by omega
  have hcontent := Content.unicode hzero hzero hhigh hlow hrest
  rw [hcode] at hcontent
  have hnil : encode [] = [] := rfl
  simpa [encode_cons_of_lt, hlt, hlt', hnil] using hcontent

/-- A character of a string literal. -/
theorem content_escapeChar {pieces : List Piece} {rest : Bytes} (hrest : Content pieces rest)
    (c : Char) : Content (Piece.ofChar c ++ pieces) (encode (escapeChar c) ++ rest) := by
  by_cases hquote : c = '"'
  · subst hquote
    exact .escape rfl hrest
  by_cases hslash : c = '\\'
  · subst hslash
    exact .escape rfl hrest
  by_cases hspace : 0x20 ≤ c.toNat
  · have hescape : escapeChar c = [c] := by
      rw [escapeChar, if_neg hquote, if_neg hslash, if_pos hspace]
    have hpieces : Piece.ofChar c = (encodeChar c).map Piece.byte := by
      refine if_neg ?_
      rintro (h | h | h)
      · exact hquote h
      · exact hslash h
      · omega
    have hencode : encode [c] = encodeChar c := List.append_nil _
    rw [hescape, hpieces, hencode]
    exact content_bytes hrest _ fun b hb => mem_encodeChar_plain hquote hslash hspace hb
  · -- each control character has its own escape
    obtain ⟨n, hn, rfl⟩ : ∃ n, n < 0x20 ∧ c = Char.ofNat n :=
      ⟨c.toNat, not_le.1 hspace, (Char.ofNat_toNat c).symm⟩
    interval_cases n
    all_goals first
      | exact .escape rfl hrest
      | exact content_unicode hrest (by decide)

theorem content_escapeChars (cs : List Char) :
    Content (cs.flatMap Piece.ofChar) (encode (cs.flatMap escapeChar)) := by
  induction cs with
  | nil => exact .nil
  | cons c cs ih =>
    rw [List.flatMap_cons, List.flatMap_cons, encode_append]
    exact content_escapeChar ih c

/-- A string literal is a string of the grammar. -/
theorem quoted_literal (s : String) : Quoted (Piece.ofString s) (encode (literal s)) := by
  have hquoted := Quoted.mk (content_escapeChars s.toList)
  rw [literal, encode_cons_of_lt (by decide), encode_append]
  exact hquoted

theorem member_of_value (key : String) {node : Node} {bytes : Bytes} (h : Value node bytes) :
    Member (Piece.ofString key, node) (encode (literal key) ++ 0x3A :: bytes) :=
  .mk blank_nil (quoted_literal key) blank_nil (element_of_value h)

mutual

/-- A value is written as a text of its tree. -/
theorem value_chars (v : Json) (h : v.Numeral) : Value v.tree (encode v.chars) :=
  match v, h with
  | .null, _ => .null
  | .bool true, _ => .true
  | .bool false, _ => .false
  | .number n, h => by
    obtain ⟨literal, hliteral⟩ := Option.isSome_iff_exists.1 h.2
    rw [tree, hliteral, Option.getD_some]
    exact .number (isSome_ofText?_iff.1 h.2) hliteral
  | .string s, _ => .string (quoted_literal s)
  | .array [], _ => .emptyArray blank_nil
  | .array (item :: items), h => by
    obtain ⟨bytes, hbytes, helements⟩ :=
      elements_charsItems items h.2 (element_of_value (value_chars item h.1))
    rw [chars, encode_cons_of_lt (by decide), encode_append, hbytes]
    exact .array helements
  | .object [], _ => .emptyObject blank_nil
  | .object ((key, value) :: members), h => by
    obtain ⟨bytes, hbytes, hmembers⟩ :=
      members_charsMembers members h.2 (member_of_value key (value_chars value h.1))
    rw [List.append_assoc, List.cons_append] at hbytes
    rw [chars, encode_cons_of_lt (by decide), encode_append, encode_cons_of_lt (by decide),
      encode_append]
    show Value _ (0x7B :: (encode (literal key) ++ 0x3A :: _))
    rw [hbytes]
    exact .object hmembers

/-- The items of an array after the first one, and its end. -/
theorem elements_charsItems (items : List Json) (h : NumeralItems items) {node : Node}
    {bytes : Bytes} (hfirst : Element node bytes) :
    ∃ inner, bytes ++ encode (charsItems items) = inner ++ [0x5D] ∧
      Elements (node :: treeItems items) inner :=
  match items, h with
  | [], _ => ⟨bytes, rfl, .last hfirst⟩
  | item :: items, h => by
    obtain ⟨inner, hinner, helements⟩ :=
      elements_charsItems items h.2 (element_of_value (value_chars item h.1))
    refine ⟨bytes ++ 0x2C :: inner, ?_, .cons hfirst helements⟩
    rw [charsItems, encode_cons_of_lt (by decide), encode_append, hinner, List.append_assoc]
    rfl

/-- The members of an object after the first one, and its end. -/
theorem members_charsMembers (members : List (String × Json)) (h : NumeralMembers members)
    {member : List Piece × Node} {bytes : Bytes} (hfirst : Member member bytes) :
    ∃ inner, bytes ++ encode (charsMembers members) = inner ++ [0x7D] ∧
      Members (member :: treeMembers members) inner :=
  match members, h with
  | [], _ => ⟨bytes, rfl, .last hfirst⟩
  | (key, value) :: members, h => by
    obtain ⟨inner, hinner, hmembers⟩ :=
      members_charsMembers members h.2 (member_of_value key (value_chars value h.1))
    rw [List.append_assoc, List.cons_append] at hinner
    refine ⟨bytes ++ 0x2C :: inner, ?_, .cons hfirst hmembers⟩
    rw [charsMembers, encode_cons_of_lt (by decide), encode_append, encode_cons_of_lt (by decide),
      encode_append, List.append_assoc, List.cons_append, ← hinner]
    rfl

end

/-- The text of a value is read as its tree. -/
theorem Node.ofBytes?_toBytes {v : Json} (h : v.Numeral) : Node.ofBytes? v.toBytes = some v.tree :=
  Node.ofBytes?_eq_some_iff.2 (element_of_value (value_chars v h))

/-! ## Strings -/

theorem bytesFrom?_bytes (read bytes : Bytes) (pieces : List Piece) :
    bytesFrom? read (bytes.map Piece.byte ++ pieces) =
      bytesFrom? (bytes.reverse ++ read) pieces := by
  induction bytes generalizing read with
  | nil => rfl
  | cons b bytes ih =>
    rw [List.map_cons, List.cons_append, bytesFrom?, ih, List.reverse_cons, List.append_assoc,
      List.singleton_append]

/-- The pieces of a character give its bytes. -/
theorem bytesFrom?_ofChar (read : Bytes) (c : Char) (pieces : List Piece) :
    bytesFrom? read (Piece.ofChar c ++ pieces) =
      bytesFrom? ((Utf8.encodeChar c).reverse ++ read) pieces := by
  rw [Piece.ofChar]
  by_cases hescaped : c = '"' ∨ c = '\\' ∨ c.toNat < 0x20
  · have hlt : c.toNat < 0x80 := by
      rcases hescaped with rfl | rfl | h
      · decide
      · decide
      · omega
    have hlow : isLowSurrogate c.toNat = false := by
      rw [isLowSurrogate, decide_eq_false (by omega), Bool.false_and]
    have hhigh : isHighSurrogate c.toNat = false := by
      rw [isHighSurrogate, decide_eq_false (by omega), Bool.false_and]
    rw [if_pos hescaped, List.singleton_append, bytesFrom?.eq_def]
    simp only [hlow, hhigh, Bool.false_eq_true, if_false, Char.ofNat_toNat]
  · rw [if_neg hescaped, bytesFrom?_bytes]

theorem bytesFrom?_ofChars (read : Bytes) (cs : List Char) :
    bytesFrom? read (cs.flatMap Piece.ofChar) = some (read.reverse ++ Utf8.encode cs) := by
  induction cs generalizing read with
  | nil => exact congrArg some (List.append_nil _).symm
  | cons c cs ih =>
    rw [List.flatMap_cons, bytesFrom?_ofChar, ih, List.reverse_append, List.reverse_reverse,
      List.append_assoc]
    rfl

/-- A string literal is read as the string. -/
theorem text?_ofString (s : String) : text? (Piece.ofString s) = some s := by
  rw [text?, Piece.ofString, bytesFrom?_ofChars]
  exact textOf?_bytesOf s

end Collector.Json
