import Mathlib.Tactic
import Collector.Json.Node

/-!
# The grammar of JSON

The JSON that `harvest-model` reads: which bytes are a JSON text, and of which tree, said
without a machine: the rules of the language, one constructor for each way to form a
thing.  White space may stand around every item of an array, around every key and value of
an object, and around the whole text.  Strings are left as written here, so that a text may
have bytes that are not UTF-8 and escapes that name no character.

Main statements:

* `Grammar.isSome_ofText?_iff`: the texts that are read as numbers are the numbers of
  the grammar.
-/

namespace Collector.Json.Grammar

/-! ## White space and strings -/

/-- White space, or nothing. -/
def Blank (bytes : Bytes) : Prop := ∀ b ∈ bytes, Token.isSpace b = true

theorem blank_nil : Blank [] := fun _ hb => absurd hb List.not_mem_nil

/-- What stands between the quotes of a string. -/
inductive Content : List Piece → Bytes → Prop
  /-- An empty string has nothing between its quotes. -/
  | nil : Content [] []
  /-- A byte that stands for itself: no quote, no backslash and no control character. -/
  | byte {b : UInt8} {pieces : List Piece} {bytes : Bytes} (hquote : b ≠ 0x22)
      (hslash : b ≠ 0x5C) (hcontrol : 0x20 ≤ b) (h : Content pieces bytes) :
      Content (.byte b :: pieces) (b :: bytes)
  /-- A backslash and a letter. -/
  | escape {b : UInt8} {unit : Nat} {pieces : List Piece} {bytes : Bytes}
      (hunit : Token.escaped? b = some unit) (h : Content pieces bytes) :
      Content (.code unit :: pieces) (0x5C :: b :: bytes)
  /-- A backslash, a `u` and four hexadecimal digits. -/
  | unicode {b₁ b₂ b₃ b₄ : UInt8} {d₁ d₂ d₃ d₄ : Nat} {pieces : List Piece} {bytes : Bytes}
      (h₁ : Token.hexValue? b₁ = some d₁) (h₂ : Token.hexValue? b₂ = some d₂)
      (h₃ : Token.hexValue? b₃ = some d₃) (h₄ : Token.hexValue? b₄ = some d₄)
      (h : Content pieces bytes) :
      Content (.code (((d₁ * 16 + d₂) * 16 + d₃) * 16 + d₄) :: pieces)
        (0x5C :: 0x75 :: b₁ :: b₂ :: b₃ :: b₄ :: bytes)

/-- A string with its quotes. -/
inductive Quoted : List Piece → Bytes → Prop
  | mk {pieces : List Piece} {bytes : Bytes} (h : Content pieces bytes) :
      Quoted pieces (0x22 :: (bytes ++ [0x22]))

/-! ## Numbers -/

/-- One or more digits. -/
def Digits (cs : List Char) : Prop := cs ≠ [] ∧ ∀ c ∈ cs, Decimal.isDigit c = true

/-- The integer part of a number. -/
inductive IntegerPart : List Char → Prop
  /-- A zero stands alone. -/
  | zero : IntegerPart ['0']
  /-- Digits, of which the first one is not zero. -/
  | digits {cs : List Char} (h : Digits cs) (hfirst : cs.head? ≠ some '0') : IntegerPart cs

/-- The fraction of a number, or nothing. -/
inductive FractionPart : List Char → Prop
  | none : FractionPart []
  | digits {cs : List Char} (h : Digits cs) : FractionPart ('.' :: cs)

/-- The exponent of a number, or nothing. -/
inductive ExponentPart : List Char → Prop
  | none : ExponentPart []
  | digits {c : Char} (sign : List Char) {cs : List Char} (hletter : c = 'e' ∨ c = 'E')
      (hsign : sign = [] ∨ sign = ['+'] ∨ sign = ['-']) (h : Digits cs) :
      ExponentPart (c :: (sign ++ cs))

/-- The text of a number: an integer part, with a sign, a fraction and an exponent where there are
any. -/
inductive NumberText : List Char → Prop
  | mk (sign : List Char) {int fraction exponent : List Char} (hsign : sign = [] ∨ sign = ['-'])
      (hint : IntegerPart int) (hfraction : FractionPart fraction)
      (hexponent : ExponentPart exponent) :
      NumberText (sign ++ (int ++ (fraction ++ exponent)))

/-! ## Values -/

mutual

/-- A value, without white space around it. -/
inductive Value : Node → Bytes → Prop
  | null : Value .null (bytesOf "null")
  | true : Value (.bool true) (bytesOf "true")
  | false : Value (.bool false) (bytesOf "false")
  | number {cs : List Char} {literal : Literal} (htext : NumberText cs)
      (hliteral : Literal.ofText? cs = some literal) : Value (.number literal) (Utf8.encode cs)
  | string {pieces : List Piece} {bytes : Bytes} (h : Quoted pieces bytes) :
      Value (.string pieces) bytes
  | emptyArray {bytes : Bytes} (h : Blank bytes) : Value (.array []) (0x5B :: (bytes ++ [0x5D]))
  | array {items : List Node} {bytes : Bytes} (h : Elements items bytes) :
      Value (.array items) (0x5B :: (bytes ++ [0x5D]))
  | emptyObject {bytes : Bytes} (h : Blank bytes) : Value (.object []) (0x7B :: (bytes ++ [0x7D]))
  | object {members : List (List Piece × Node)} {bytes : Bytes} (h : Members members bytes) :
      Value (.object members) (0x7B :: (bytes ++ [0x7D]))

/-- A value with white space around it; this is what a whole text is. -/
inductive Element : Node → Bytes → Prop
  | mk {node : Node} {before bytes after : Bytes} (hbefore : Blank before)
      (h : Value node bytes) (hafter : Blank after) : Element node (before ++ (bytes ++ after))

/-- The items of an array, with a comma between two. -/
inductive Elements : List Node → Bytes → Prop
  | last {node : Node} {bytes : Bytes} (h : Element node bytes) : Elements [node] bytes
  | cons {node : Node} {nodes : List Node} {bytes rest : Bytes} (h : Element node bytes)
      (hrest : Elements nodes rest) : Elements (node :: nodes) (bytes ++ 0x2C :: rest)

/-- A key with white space around it, a colon and a value. -/
inductive Member : List Piece × Node → Bytes → Prop
  | mk {key : List Piece} {node : Node} {before name after bytes : Bytes}
      (hbefore : Blank before) (hkey : Quoted key name) (hafter : Blank after)
      (h : Element node bytes) : Member (key, node) (before ++ (name ++ (after ++ 0x3A :: bytes)))

/-- The members of an object, with a comma between two. -/
inductive Members : List (List Piece × Node) → Bytes → Prop
  | last {member : List Piece × Node} {bytes : Bytes} (h : Member member bytes) :
      Members [member] bytes
  | cons {member : List Piece × Node} {members : List (List Piece × Node)} {bytes rest : Bytes}
      (h : Member member bytes) (hrest : Members members rest) :
      Members (member :: members) (bytes ++ 0x2C :: rest)

end

/-! ## Reading numbers -/

theorem isSome_readDigits?_iff {cs : List Char} : (Decimal.readDigits? cs).isSome ↔ Digits cs := by
  simp [Decimal.readDigits?, Digits]

theorem Digits.ne_cons {cs : List Char} (h : Digits cs) {c : Char} (hc : Decimal.isDigit c = false)
    (ds : List Char) : cs ≠ c :: ds := by
  rintro rfl
  have hdigit := h.2 c List.mem_cons_self
  rw [hc] at hdigit
  cases hdigit

theorem isSome_exponent?_iff {cs : List Char} : (exponent? cs).isSome ↔ ExponentPart cs := by
  constructor
  · intro h
    unfold exponent? at h
    split at h
    · exact .none
    · split at h
      · rename_i hletter
        split at h
        all_goals
          simp only [Option.isSome_iff_exists, Option.map_eq_some_iff, Option.bind_eq_bind,
            Option.bind_eq_some_iff] at h
          obtain ⟨-, -, ⟨n, hread, -⟩, -⟩ := h
          have hdigits := isSome_readDigits?_iff.1 (Option.isSome_of_eq_some hread)
        · exact .digits ['-'] hletter (.inr (.inr rfl)) hdigits
        · exact .digits ['+'] hletter (.inr (.inl rfl)) hdigits
        · exact .digits [] hletter (.inl rfl) hdigits
      · cases h
  · rintro (_ | ⟨sign, hletter, hsign, hdigits⟩)
    · rfl
    · obtain ⟨n, hread⟩ := Option.isSome_iff_exists.1 (isSome_readDigits?_iff.2 hdigits)
      unfold exponent?
      simp only [if_pos hletter]
      rcases hsign with rfl | rfl | rfl
      · rw [List.nil_append]
        split
        · exact absurd rfl (hdigits.ne_cons rfl _)
        · exact absurd rfl (hdigits.ne_cons rfl _)
        · simp [hread]
      · simp [hread]
      · simp [hread]

/-- The digits at the front of a text that goes on with something else. -/
theorem spanDigits_append {cs rest : List Char} (hdigits : ∀ c ∈ cs, Decimal.isDigit c = true)
    (hrest : ∀ c ∈ rest.head?, Decimal.isDigit c = false) :
    spanDigits (cs ++ rest) = (cs, rest) := by
  have hstop : rest.takeWhile Decimal.isDigit = [] ∧ rest.dropWhile Decimal.isDigit = rest := by
    cases rest with
    | nil => exact ⟨rfl, rfl⟩
    | cons c rest =>
      have hc := hrest c rfl
      exact ⟨List.takeWhile_cons_of_neg (by simp [hc]), List.dropWhile_cons_of_neg (by simp [hc])⟩
  rw [spanDigits, List.takeWhile_append_of_pos hdigits, List.dropWhile_append_of_pos hdigits,
    hstop.1, hstop.2, List.append_nil]

theorem spanDigits_spec (cs : List Char) :
    cs = (spanDigits cs).1 ++ (spanDigits cs).2 ∧
      ∀ c ∈ (spanDigits cs).1, Decimal.isDigit c = true :=
  ⟨List.takeWhile_append_dropWhile.symm, List.all_eq_true.1 List.all_takeWhile⟩

/-- No exponent begins with a digit or a point. -/
theorem ExponentPart.head {cs : List Char} (h : ExponentPart cs) :
    ∀ c ∈ cs.head?, Decimal.isDigit c = false ∧ c ≠ '.' := by
  rcases h with _ | ⟨_, rfl | rfl, -, -⟩
  · simp
  · simp [Decimal.isDigit]
  · simp [Decimal.isDigit]

theorem FractionPart.head_append {fraction exponent : List Char} (h : FractionPart fraction)
    (hexponent : ExponentPart exponent) :
    ∀ c ∈ (fraction ++ exponent).head?, Decimal.isDigit c = false := by
  rcases h with _ | -
  · exact fun c hc => (hexponent.head c hc).1
  · simp [Decimal.isDigit]

/-- The integer parts are the runs of digits that are accepted. -/
theorem integerPart_iff {cs : List Char} : IntegerPart cs ↔
    (∀ c ∈ cs, Decimal.isDigit c = true) ∧
      ¬ (cs = [] ∨ (cs.head? = some '0' ∧ cs.length ≠ 1)) := by
  constructor
  · rintro (_ | ⟨⟨hne, hdigits⟩, hfirst⟩)
    · exact ⟨List.forall_mem_singleton.2 rfl, by simp⟩
    · exact ⟨hdigits, fun h => h.elim hne fun h => hfirst h.1⟩
  · rintro ⟨hdigits, h⟩
    obtain ⟨hne, hzero⟩ := not_or.1 h
    by_cases hfirst : cs.head? = some '0'
    · obtain ⟨rest, rfl⟩ := List.head?_eq_some_iff.1 hfirst
      have hrest : rest = [] := by simpa using hzero
      exact hrest ▸ .zero
    · exact .digits ⟨hne, hdigits⟩ hfirst

theorem isSome_ofUnsigned?_iff {negative : Bool} {cs : List Char} :
    (Literal.ofUnsigned? negative cs).isSome ↔ ∃ int fraction exponent,
      cs = int ++ (fraction ++ exponent) ∧ IntegerPart int ∧ FractionPart fraction ∧
        ExponentPart exponent := by
  constructor
  · intro h
    obtain ⟨hsplit, hdigits⟩ := spanDigits_spec cs
    simp only [Literal.ofUnsigned?] at h
    split_ifs at h with hint
    · cases h
    have hint := integerPart_iff.2 ⟨hdigits, hint⟩
    split at h
    · rename_i rest hrest
      obtain ⟨hsplit', hdigits'⟩ := spanDigits_spec rest
      split_ifs at h with hfraction
      · cases h
      rw [Option.isSome_map, isSome_exponent?_iff] at h
      refine ⟨_, '.' :: (spanDigits rest).1, _, ?_, hint, .digits ⟨hfraction, hdigits'⟩, h⟩
      rw [List.cons_append, ← hsplit', ← hrest]
      exact hsplit
    · rw [Option.isSome_map, isSome_exponent?_iff] at h
      exact ⟨_, [], _, hsplit, hint, .none, h⟩
  · rintro ⟨int, fraction, exponent, rfl, hint, hfraction, hexponent⟩
    obtain ⟨hdigits, hnot⟩ := integerPart_iff.1 hint
    have hspan := spanDigits_append hdigits (hfraction.head_append hexponent)
    have hread := isSome_exponent?_iff.2 hexponent
    simp only [Literal.ofUnsigned?, hspan, if_neg hnot]
    rcases hfraction with _ | ⟨hne, hdigits'⟩
    · rw [List.nil_append]
      split
      · exact absurd rfl (hexponent.head _ rfl).2
      · rwa [Option.isSome_map]
    · have hspan' := spanDigits_append hdigits' fun c hc => (hexponent.head c hc).1
      simp only [List.cons_append, hspan', if_neg hne]
      rwa [Option.isSome_map]

/-- No integer part begins with a sign. -/
theorem IntegerPart.append_ne {int : List Char} (h : IntegerPart int) (rest cs : List Char) :
    int ++ rest ≠ '-' :: cs := by
  obtain ⟨hdigits, hnot⟩ := integerPart_iff.1 h
  cases int with
  | nil => exact absurd (.inl rfl) hnot
  | cons c int =>
    rintro heq
    have hc := hdigits c List.mem_cons_self
    rw [(List.cons.inj heq).1] at hc
    cases hc

/-- A number begins with a digit or a minus sign. -/
theorem NumberText.exists_eq_cons {cs : List Char} (h : NumberText cs) :
    ∃ c ds, cs = c :: ds ∧ (c = '-' ∨ Decimal.isDigit c = true) := by
  obtain ⟨sign, hsign, hint, -, -⟩ := h
  rcases hsign with rfl | rfl
  · obtain ⟨hdigits, hnot⟩ := integerPart_iff.1 hint
    obtain ⟨c, int, rfl⟩ := List.exists_cons_of_ne_nil fun hnil => hnot (.inl hnil)
    exact ⟨c, _, rfl, .inr (hdigits c List.mem_cons_self)⟩
  · exact ⟨'-', _, rfl, .inl rfl⟩

/-- A number is made of digits, signs, a point and the letter of the exponent. -/
theorem NumberText.isDigit_or_mem {cs : List Char} (h : NumberText cs) :
    ∀ c ∈ cs, Decimal.isDigit c = true ∨ c ∈ ['+', '-', '.', 'e', 'E'] := by
  obtain ⟨sign, hsign, hint, hfraction, hexponent⟩ := h
  intro c hc
  simp only [List.mem_append] at hc
  rcases hc with hc | hc | hc | hc
  · rcases hsign with rfl | rfl
    · cases hc
    · rw [List.mem_singleton.1 hc]
      exact .inr (by decide)
  · exact .inl ((integerPart_iff.1 hint).1 c hc)
  · obtain _ | ⟨-, hdigits⟩ := hfraction
    · cases hc
    · rcases List.mem_cons.1 hc with rfl | hc
      · exact .inr (by decide)
      · exact .inl (hdigits c hc)
  · obtain _ | ⟨sign, hletter, hsign, -, hdigits⟩ := hexponent
    · cases hc
    · rcases List.mem_cons.1 hc with rfl | hc
      · exact .inr (by rcases hletter with rfl | rfl <;> decide)
      rcases List.mem_append.1 hc with hc | hc
      · rcases hsign with rfl | rfl | rfl
        · cases hc
        all_goals
          rw [List.mem_singleton.1 hc]
          exact .inr (by decide)
      · exact .inl (hdigits c hc)

/-- The texts that are read as numbers are the numbers of the grammar. -/
theorem isSome_ofText?_iff {cs : List Char} : (Literal.ofText? cs).isSome ↔ NumberText cs := by
  constructor
  · intro h
    unfold Literal.ofText? at h
    split at h
    all_goals
      obtain ⟨int, fraction, exponent, rfl, hint, hfraction, hexponent⟩ :=
        isSome_ofUnsigned?_iff.1 h
    · exact .mk ['-'] (.inr rfl) hint hfraction hexponent
    · exact .mk [] (.inl rfl) hint hfraction hexponent
  · rintro ⟨sign, hsign, hint, hfraction, hexponent⟩
    have hread : ∀ negative, (Literal.ofUnsigned? negative _).isSome = true := fun _ =>
      isSome_ofUnsigned?_iff.2 ⟨_, _, _, rfl, hint, hfraction, hexponent⟩
    unfold Literal.ofText?
    rcases hsign with rfl | rfl
    · rw [List.nil_append]
      split
      · rename_i heq
        exact absurd heq (hint.append_ne _ _)
      · exact hread _
    · exact hread _

end Collector.Json.Grammar
