import Collector.Proofs.Json.Grammar
import Collector.Proofs.Text.Utf8

/-!
# Texts and their tokens

The scanner cuts a text that `harvest-model` reads into tokens.  A word or a number ends
only with the byte after it, so that what a value leaves behind is a scanner that reads
some tokens once it is asked to go on or to finish (`Token.Reads`).  The other way round,
each state of the scanner has the texts that it still accepts (`Token.Rest`), and a step
takes one byte off such a text.

Main statements:

* `Token.clean_quoted`, `Token.cuts_number`: a string or a number is one token.
* `Token.lexed_of_scan?`: a text that is cut into tokens is made of the texts of these
  tokens, with white space around them.
-/

namespace Collector.Json.Token

open Grammar (Blank Content Quoted NumberText)
open Utf8 (encode encodeChar)

/-- The scanner after some bytes. -/
def run (s : State) (bytes : Bytes) : Option State := bytes.foldlM step? s

theorem run_cons (s : State) (b : UInt8) (bytes : Bytes) :
    run s (b :: bytes) = (step? s b).bind fun t => run t bytes := rfl

theorem run_append (s : State) (as bs : Bytes) :
    run s (as ++ bs) = (run s as).bind fun t => run t bs := List.foldlM_append ..

/-! ## What is cut off a text -/

/-- The scanner has read some tokens, once the text ends or goes on with a byte that
belongs to no word and no number. -/
structure Reads (s : State) (tokens : List Token) : Prop where
  /-- The text ends. -/
  finish : finish? s = some tokens.reverse
  /-- The text goes on. -/
  next : ∀ b, isLetter b = false → isNumeral b = false → step? s b = begin? tokens b

theorem reads_idle (tokens : List Token) : Reads (.idle, tokens) tokens := ⟨rfl, fun _ _ _ => rfl⟩

theorem reads_word {read : List UInt8} {t : Token} (h : ofWord? read.reverse = some t)
    (tokens : List Token) : Reads (.word read, tokens) (t :: tokens) where
  finish := by simp only [finish?, h, Option.map_some]
  next b hletter _ := by simp only [step?, hletter, Bool.false_eq_true, if_false, h]

theorem reads_number (read : List Char) (tokens : List Token) :
    Reads (.number read, tokens) (number read.reverse :: tokens) where
  finish := rfl
  next b _ hnumeral := by simp only [step?, hnumeral, Bool.false_eq_true, if_false]

/-- The bytes are cut into these tokens, and the scanner stands between two tokens after
them. -/
def Clean (bytes : Bytes) (ts : List Token) : Prop :=
  ∀ read, run (.idle, read) bytes = some (.idle, ts.reverse ++ read)

/-- The bytes are cut into these tokens, of which the last one may still be open. -/
def Cuts (bytes : Bytes) (ts : List Token) : Prop :=
  ∀ read, ∃ s, run (.idle, read) bytes = some s ∧ Reads s (ts.reverse ++ read)

variable {bytes rest : Bytes} {ts us : List Token}

theorem Clean.cuts (h : Clean bytes ts) : Cuts bytes ts := fun read => ⟨_, h read, reads_idle _⟩

theorem Clean.append (h : Clean bytes ts) (k : Clean rest us) :
    Clean (bytes ++ rest) (ts ++ us) := by
  intro read
  rw [run_append, h, Option.bind_some, k, List.reverse_append, List.append_assoc]

theorem Clean.append_cuts (h : Clean bytes ts) (k : Cuts rest us) :
    Cuts (bytes ++ rest) (ts ++ us) := by
  intro read
  rw [run_append, h, Option.bind_some, List.reverse_append, List.append_assoc]
  exact k (ts.reverse ++ read)

theorem clean_blank (h : Blank bytes) : Clean bytes [] := by
  intro read
  induction bytes with
  | nil => rfl
  | cons b bytes ih =>
    have hstep : step? (.idle, read) b = some (.idle, read) := by
      simp only [step?, begin?, first?, h b List.mem_cons_self, if_true]
    rw [run_cons, hstep, Option.bind_some, ih fun c hc => h c (List.mem_cons_of_mem b hc)]

/-- White space belongs to no word and no number. -/
theorem not_isLetter_of_isSpace {b : UInt8} (h : isSpace b = true) :
    isLetter b = false ∧ isNumeral b = false := by
  simp only [isSpace, Bool.or_eq_true, decide_eq_true_eq] at h
  rcases h with ((rfl | rfl) | rfl) | rfl <;> decide

/-- White space after what was read changes nothing. -/
theorem Cuts.append_blank (h : Cuts bytes ts) (hrest : Blank rest) : Cuts (bytes ++ rest) ts := by
  intro read
  obtain ⟨s, hs, hreads⟩ := h read
  rw [run_append, hs, Option.bind_some]
  cases rest with
  | nil => exact ⟨s, rfl, hreads⟩
  | cons b rest =>
    have hspace := hrest b List.mem_cons_self
    obtain ⟨hletter, hnumeral⟩ := not_isLetter_of_isSpace hspace
    have hstep : step? s b = some (.idle, ts.reverse ++ read) := by
      simp only [hreads.next b hletter hnumeral, begin?, first?, hspace, if_true]
    refine ⟨_, ?_, reads_idle _⟩
    rw [run_cons, hstep, Option.bind_some]
    exact clean_blank (fun c hc => hrest c (List.mem_cons_of_mem b hc)) _

/-- A bracket, a brace, a comma or a colon. -/
def IsMark (b : UInt8) (t : Token) : Prop :=
  first? b = some (.idle, some t) ∧ isLetter b = false ∧ isNumeral b = false

instance (b : UInt8) (t : Token) : Decidable (IsMark b t) := by unfold IsMark; infer_instance

theorem clean_mark {b : UInt8} {t : Token} (h : IsMark b t) : Clean [b] [t] := by
  intro read
  have hstep : step? (.idle, read) b = some (.idle, t :: read) := by
    simp only [step?, begin?, h.1]
  rw [run_cons, hstep]
  rfl

/-- A bracket, a brace, a comma or a colon after what was read. -/
theorem Cuts.append_mark (h : Cuts bytes ts) {b : UInt8} {t : Token} (hb : IsMark b t) :
    Clean (bytes ++ [b]) (ts ++ [t]) := by
  intro read
  obtain ⟨s, hs, hreads⟩ := h read
  have hstep : step? s b = some (.idle, t :: (ts.reverse ++ read)) := by
    simp only [hreads.next b hb.2.1 hb.2.2, begin?, hb.1]
  rw [run_append, hs, Option.bind_some, run_cons, hstep, List.reverse_append]
  rfl

theorem Cuts.append_mark_cuts (h : Cuts bytes ts) {b : UInt8} {t : Token} (hb : IsMark b t)
    (k : Cuts rest us) : Cuts (bytes ++ b :: rest) (ts ++ t :: us) := by
  have hall := (h.append_mark hb).append_cuts k
  rwa [List.append_assoc, List.append_assoc] at hall

/-- Two brackets or braces around what was read. -/
theorem Cuts.between (h : Cuts bytes ts) {b c : UInt8} {t u : Token} (hb : IsMark b t)
    (hc : IsMark c u) : Cuts (b :: (bytes ++ [c])) (t :: (ts ++ [u])) :=
  ((clean_mark hb).append (h.append_mark hc)).cuts

/-- What stands between the quotes of a string. -/
theorem run_content {pieces : List Piece} (h : Content pieces bytes) (read : List Piece)
    (tokens : List Token) :
    run (.string read, tokens) bytes = some (.string (pieces.reverse ++ read), tokens) := by
  induction h generalizing read with
  | nil => rfl
  | @byte b pieces bytes hquote hslash hcontrol _ ih =>
    have hstep : step? (.string read, tokens) b = some (.string (.byte b :: read), tokens) := by
      simp only [step?, if_neg hquote, if_neg hslash, if_neg (UInt8.not_lt.2 hcontrol)]
    rw [run_cons, hstep, Option.bind_some, ih, List.reverse_cons, List.append_assoc,
      List.singleton_append]
  | @escape b unit pieces bytes hunit _ ih =>
    have hne : b ≠ 0x75 := by
      rintro rfl
      cases hunit
    have hstep : step? (.escape read, tokens) b = some (.string (.code unit :: read), tokens) := by
      simp only [step?, if_neg hne, hunit]
    have hslash : step? (.string read, tokens) 0x5C = some (.escape read, tokens) := rfl
    rw [run_cons, hslash, Option.bind_some, run_cons, hstep, Option.bind_some, ih,
      List.reverse_cons, List.append_assoc, List.singleton_append]
  | unicode h₁ h₂ h₃ h₄ _ ih =>
    have hslash : step? (.string read, tokens) 0x5C = some (.escape read, tokens) := rfl
    have hu : step? (.escape read, tokens) 0x75 = some (.hex read 4 0, tokens) := rfl
    rw [run_cons, hslash, Option.bind_some, run_cons, hu, Option.bind_some]
    simp only [run_cons, step?, h₁, h₂, h₃, h₄, Option.bind_some, Nat.reduceLeDiff, if_false,
      if_true, Nat.reduceSub, Nat.zero_mul, Nat.zero_add, ih, List.reverse_cons, List.append_assoc,
      List.singleton_append, le_refl]

/-- A string is one token. -/
theorem clean_quoted {pieces : List Piece} (h : Quoted pieces bytes) :
    Clean bytes [string pieces] := by
  intro read
  obtain ⟨h⟩ := h
  have hopen : step? (.idle, read) 0x22 = some (.string [], read) := rfl
  rw [run_cons, hopen, Option.bind_some, run_append, run_content h, Option.bind_some,
    List.append_nil, run_cons]
  simp only [step?, if_true, List.reverse_reverse]
  rfl

/-- The characters of a number after its first one. -/
theorem run_numerals (read : List Char) (tokens : List Token) (cs : List Char)
    (h : ∀ c ∈ cs, c.toNat < 0x80 ∧ isNumeral (UInt8.ofNat c.toNat) = true) :
    run (.number read, tokens) (encode cs) = some (.number (cs.reverse ++ read), tokens) := by
  induction cs generalizing read with
  | nil => rfl
  | cons c cs ih =>
    obtain ⟨hlt, hnumeral⟩ := h c List.mem_cons_self
    have hstep : step? (.number read, tokens) (UInt8.ofNat c.toNat) =
        some (.number (c :: read), tokens) := by
      simp only [step?, hnumeral, if_true, Utf8.toNat_ofNat_of_lt (show c.toNat < 256 by omega),
        Char.ofNat_toNat]
    show run _ (encodeChar c ++ encode cs) = _
    rw [Utf8.encodeChar_of_lt hlt, List.singleton_append, run_cons, hstep, Option.bind_some,
      ih _ fun d hd => h d (List.mem_cons_of_mem c hd), List.reverse_cons, List.append_assoc,
      List.singleton_append]

/-- The first character of a number. -/
theorem run_firstNumeral (tokens : List Token) {c : Char} (h : c = '-' ∨ Decimal.isDigit c = true) :
    run (.idle, tokens) (encodeChar c) = some (.number [c], tokens) := by
  rcases h with rfl | h
  · rfl
  · simp only [Decimal.isDigit, Bool.and_eq_true, decide_eq_true_eq] at h
    obtain ⟨n, hn, rfl⟩ : ∃ n, (48 ≤ n ∧ n ≤ 57) ∧ c = Char.ofNat n :=
      ⟨c.toNat, h, (Char.ofNat_toNat c).symm⟩
    obtain ⟨hlow, hhigh⟩ := hn
    interval_cases n
    all_goals rfl

/-- A character that can occur in a number. -/
def IsNumeralChar (c : Char) : Prop := c.toNat < 0x80 ∧ isNumeral (UInt8.ofNat c.toNat) = true

theorem isNumeralChar_of_isDigit {c : Char} (h : Decimal.isDigit c = true) : IsNumeralChar c := by
  simp only [Decimal.isDigit, Bool.and_eq_true, decide_eq_true_eq] at h
  obtain ⟨n, hn, rfl⟩ : ∃ n, (48 ≤ n ∧ n ≤ 57) ∧ c = Char.ofNat n :=
    ⟨c.toNat, h, (Char.ofNat_toNat c).symm⟩
  obtain ⟨hlow, hhigh⟩ := hn
  interval_cases n
  all_goals exact ⟨by decide, by decide⟩

/-- A number is one token. -/
theorem cuts_number {cs : List Char} (h : NumberText cs) : Cuts (encode cs) [number cs] := by
  intro read
  have hnumeral : ∀ c ∈ cs, IsNumeralChar c := by
    intro c hc
    rcases h.isDigit_or_mem c hc with hdigit | hmem
    · exact isNumeralChar_of_isDigit hdigit
    · simp only [List.mem_cons, List.not_mem_nil, or_false] at hmem
      rcases hmem with rfl | rfl | rfl | rfl | rfl
      all_goals exact ⟨by decide, by decide⟩
  obtain ⟨c, ds, rfl, hfirst⟩ := h.exists_eq_cons
  refine ⟨(.number (ds.reverse ++ [c]), read), ?_, ?_⟩
  · show run _ (encodeChar c ++ encode ds) = _
    rw [run_append, run_firstNumeral read hfirst, Option.bind_some,
      run_numerals _ _ _ fun d hd => hnumeral d (List.mem_cons_of_mem c hd)]
  · have hreads := reads_number (ds.reverse ++ [c]) read
    rwa [List.reverse_append, List.reverse_reverse] at hreads

theorem cuts_null : Cuts (bytesOf "null") [null] := fun read => ⟨_, rfl, reads_word rfl read⟩

theorem cuts_true : Cuts (bytesOf "true") [bool true] := fun read => ⟨_, rfl, reads_word rfl read⟩

theorem cuts_false : Cuts (bytesOf "false") [bool false] := fun read =>
  ⟨_, rfl, reads_word rfl read⟩

/-- A whole text is cut into its tokens. -/
theorem Cuts.scan? (h : Cuts bytes ts) : scan? bytes = some ts := by
  obtain ⟨s, hs, hreads⟩ := h []
  have hrun : bytes.foldlM step? (.idle, []) = some s := hs
  rw [Token.scan?, hrun]
  simp only [hreads.finish, List.append_nil, List.reverse_reverse]

/-! ## What a text is made of -/

/-- The text of a token. -/
inductive Spelled : Token → Bytes → Prop
  | leftBrace : Spelled leftBrace [0x7B]
  | rightBrace : Spelled rightBrace [0x7D]
  | leftBracket : Spelled leftBracket [0x5B]
  | rightBracket : Spelled rightBracket [0x5D]
  | comma : Spelled comma [0x2C]
  | colon : Spelled colon [0x3A]
  | null : Spelled null (bytesOf "null")
  | true : Spelled (bool true) (bytesOf "true")
  | false : Spelled (bool false) (bytesOf "false")
  | number (cs : List Char) : Spelled (number cs) (encode cs)
  | string {pieces : List Piece} {bytes : Bytes} (h : Quoted pieces bytes) :
      Spelled (string pieces) bytes

/-- Tokens one after the other, with white space around them. -/
inductive Lexed : List Token → Bytes → Prop
  | nil {bytes : Bytes} (h : Blank bytes) : Lexed [] bytes
  | cons {t : Token} {ts : List Token} {before bytes rest : Bytes} (hbefore : Blank before)
      (h : Spelled t bytes) (hrest : Lexed ts rest) : Lexed (t :: ts) (before ++ (bytes ++ rest))

theorem Lexed.cons_space {b : UInt8} (hb : isSpace b = true) (h : Lexed ts bytes) :
    Lexed ts (b :: bytes) := by
  have hblank : ∀ {before : Bytes}, Blank before → Blank (b :: before) := by
    intro before hbefore c hc
    rcases List.mem_cons.1 hc with rfl | hc
    · exact hb
    · exact hbefore c hc
  cases h with
  | nil h => exact .nil (hblank h)
  | cons hbefore h hrest => exact .cons (hblank hbefore) h hrest

theorem Lexed.cons_spelled {t : Token} (h : Spelled t bytes) (hrest : Lexed ts rest) :
    Lexed (t :: ts) (bytes ++ rest) :=
  .cons Grammar.blank_nil h hrest

/-- Hexadecimal digits that take a number to another one. -/
inductive HexDigits : Nat → Bytes → Nat → Nat → Prop
  | nil (value : Nat) : HexDigits 0 [] value value
  | cons {count value d result : Nat} {b : UInt8} {bytes : Bytes} (hb : hexValue? b = some d)
      (h : HexDigits count bytes (value * 16 + d) result) :
      HexDigits (count + 1) (b :: bytes) value result

/-- Inside a string of which some pieces and then the bytes `before` were read: the rest
of the string up to its quote, and the tokens after it. -/
def InString (read : List Piece) (before : Bytes) (ts : List Token) (bytes : Bytes) : Prop :=
  ∃ pieces text rest ts', Content pieces (before ++ text) ∧ bytes = text ++ 0x22 :: rest ∧
    ts = string (read.reverse ++ pieces) :: ts' ∧ Lexed ts' rest

/-- The texts that the scanner accepts in a state, and the tokens that it finds then. -/
def Rest : Scan → List Token → Bytes → Prop
  | .idle, ts, bytes => Lexed ts bytes
  | .word read, ts, bytes => ∃ letters rest t ts', bytes = letters ++ rest ∧
      ofWord? (read.reverse ++ letters) = some t ∧ ts = t :: ts' ∧ Lexed ts' rest
  | .number read, ts, bytes => ∃ cs rest ts', bytes = encode cs ++ rest ∧
      ts = number (read.reverse ++ cs) :: ts' ∧ Lexed ts' rest
  | .string read, ts, bytes => InString read [] ts bytes
  | .escape read, ts, bytes => InString read [0x5C] ts bytes
  | .hex read missing value, ts, bytes => ∃ digits unit rest, bytes = digits ++ rest ∧
      HexDigits (missing - 1 + 1) digits value unit ∧ InString (.code unit :: read) [] ts rest

theorem spelled_of_ofWord? {letters : List UInt8} {t : Token} (h : ofWord? letters = some t) :
    Spelled t letters := by
  unfold ofWord? at h
  split_ifs at h with hnull htrue hfalse
  all_goals cases h
  · exact hnull ▸ .null
  · exact htrue ▸ .true
  · exact hfalse ▸ .false

/-- A byte that stands for itself as a character. -/
theorem encodeChar_ofNat {b : UInt8} (h : b.toNat < 0x80) :
    encodeChar (Char.ofNat b.toNat) = [b] := by
  have hchar : (Char.ofNat b.toNat).toNat = b.toNat := by
    rw [Char.ofNat, dif_pos (.inl (by omega))]
    rfl
  rw [Utf8.encodeChar_of_lt (by rw [hchar]; exact h), hchar, UInt8.ofNat_toNat]

theorem lt_of_isNumeral {b : UInt8} (h : isNumeral b = true) : b.toNat < 0x80 := by
  simp only [isNumeral, isDigit, Bool.or_eq_true, Bool.and_eq_true, decide_eq_true_eq] at h
  rcases h with ((((h | rfl) | rfl) | rfl) | rfl) | rfl
  · have hle := UInt8.le_iff_toNat_le.1 h.2
    simp at hle
    omega
  all_goals decide

/-- A byte between two tokens is white space or a token, or begins one. -/
inductive FirstEnd (b : UInt8) : Scan × Option Token → Prop
  | space (h : isSpace b = true) : FirstEnd b (.idle, none)
  | mark {t : Token} (h : Spelled t [b]) : FirstEnd b (.idle, some t)
  | string (h : b = 0x22) : FirstEnd b (.string [], none)
  | number (h : encodeChar (Char.ofNat b.toNat) = [b]) :
      FirstEnd b (.number [Char.ofNat b.toNat], none)
  | word : FirstEnd b (.word [b], none)

theorem firstEnd {b : UInt8} {r : Scan × Option Token} (h : first? b = some r) : FirstEnd b r := by
  -- one test after the other: `split_ifs` would simplify all the later ones at each of them
  unfold first? at h
  obtain ⟨hspace, h⟩ | ⟨-, h⟩ := ite_eq_iff.1 h
  · cases h
    exact .space hspace
  obtain ⟨hbrace, h⟩ | ⟨-, h⟩ := ite_eq_iff.1 h
  · cases h
    exact .mark (hbrace ▸ .leftBrace)
  obtain ⟨hbrace, h⟩ | ⟨-, h⟩ := ite_eq_iff.1 h
  · cases h
    exact .mark (hbrace ▸ .rightBrace)
  obtain ⟨hbracket, h⟩ | ⟨-, h⟩ := ite_eq_iff.1 h
  · cases h
    exact .mark (hbracket ▸ .leftBracket)
  obtain ⟨hbracket, h⟩ | ⟨-, h⟩ := ite_eq_iff.1 h
  · cases h
    exact .mark (hbracket ▸ .rightBracket)
  obtain ⟨hcomma, h⟩ | ⟨-, h⟩ := ite_eq_iff.1 h
  · cases h
    exact .mark (hcomma ▸ .comma)
  obtain ⟨hcolon, h⟩ | ⟨-, h⟩ := ite_eq_iff.1 h
  · cases h
    exact .mark (hcolon ▸ .colon)
  obtain ⟨hquote, h⟩ | ⟨-, h⟩ := ite_eq_iff.1 h
  · cases h
    exact .string hquote
  obtain ⟨hnumber, h⟩ | ⟨-, h⟩ := ite_eq_iff.1 h
  · cases h
    refine .number (encodeChar_ofNat (lt_of_isNumeral ?_))
    simp only [Bool.or_eq_true, decide_eq_true_eq] at hnumber
    rcases hnumber with rfl | hdigit
    · decide
    · simp only [isNumeral, hdigit, Bool.true_or]
  obtain ⟨-, h⟩ | ⟨-, h⟩ := ite_eq_iff.1 h
  · cases h
    exact .word
  · cases h

/-- The text before a byte between two tokens. -/
theorem lexed_of_begin? {tokens tokens' : List Token} {b : UInt8} {scan : Scan}
    (h : begin? tokens b = some (scan, tokens')) (hrest : Rest scan ts bytes) :
    ∃ us, tokens'.reverse ++ ts = tokens.reverse ++ us ∧ Lexed us (b :: bytes) := by
  cases hfirst : first? b with
  | none =>
    simp only [begin?, hfirst] at h
    cases h
  | some r =>
    cases firstEnd hfirst with
    | space hspace =>
      simp only [begin?, hfirst] at h
      cases h
      exact ⟨ts, rfl, Lexed.cons_space hspace hrest⟩
    | @mark t ht =>
      simp only [begin?, hfirst] at h
      cases h
      refine ⟨t :: ts, ?_, Lexed.cons_spelled ht hrest⟩
      rw [List.reverse_cons, List.append_assoc, List.singleton_append]
    | string hquote =>
      simp only [begin?, hfirst] at h
      cases h
      obtain ⟨pieces, text, rest, ts', hcontent, rfl, rfl, hlexed⟩ := hrest
      refine ⟨_, rfl, ?_⟩
      have hspelled : Spelled (string pieces) (0x22 :: (text ++ [0x22])) := .string (.mk hcontent)
      have hall := Lexed.cons_spelled hspelled hlexed
      rw [hquote]
      simpa using hall
    | number hchar =>
      simp only [begin?, hfirst] at h
      cases h
      obtain ⟨cs, rest, ts', rfl, rfl, hlexed⟩ := hrest
      refine ⟨_, rfl, ?_⟩
      have hall := Lexed.cons_spelled (.number (Char.ofNat b.toNat :: cs)) hlexed
      have hbytes : encode (Char.ofNat b.toNat :: cs) = b :: encode cs := by
        show encodeChar _ ++ encode cs = _
        rw [hchar, List.singleton_append]
      rwa [hbytes] at hall
    | word =>
      simp only [begin?, hfirst] at h
      cases h
      obtain ⟨letters, rest, t, ts', rfl, hword, rfl, hlexed⟩ := hrest
      exact ⟨_, rfl, Lexed.cons_spelled (spelled_of_ofWord? hword) hlexed⟩

/-- Four digits after a backslash and a `u`. -/
theorem content_of_hexDigits {digits : Bytes} {unit : Nat} (h : HexDigits 4 digits 0 unit)
    {pieces : List Piece} (hrest : Content pieces rest) :
    Content (.code unit :: pieces) (0x5C :: 0x75 :: (digits ++ rest)) := by
  obtain _ | ⟨h₁, _ | ⟨h₂, _ | ⟨h₃, _ | ⟨h₄, ⟨⟩⟩⟩⟩⟩ := h
  rw [Nat.zero_mul, Nat.zero_add]
  exact .unicode h₁ h₂ h₃ h₄ hrest

section FirstByte

variable {scan scan' : Scan} {tokens tokens' : List Token} {b : UInt8}

/-- The first byte goes on with a word, or the word ends before it. -/
theorem rest_of_word {read : List UInt8}
    (h : step? (.word read, tokens) b = some (scan', tokens')) (hrest : Rest scan' ts bytes) :
    ∃ us, tokens'.reverse ++ ts = tokens.reverse ++ us ∧ Rest (.word read) us (b :: bytes) := by
  simp only [step?] at h
  split_ifs at h with hletter
  · cases h
    obtain ⟨letters, rest, t, ts', rfl, hword, rfl, hlexed⟩ := hrest
    rw [List.reverse_cons, List.append_assoc, List.singleton_append] at hword
    exact ⟨_, rfl, b :: letters, rest, t, ts', rfl, hword, rfl, hlexed⟩
  · cases hword : ofWord? read.reverse with
    | none =>
      rw [hword] at h
      cases h
    | some t =>
      rw [hword] at h
      obtain ⟨us, hus, hlexed⟩ := lexed_of_begin? h hrest
      refine ⟨t :: us, ?_, [], b :: bytes, t, us, rfl, ?_, rfl, hlexed⟩
      · rw [hus, List.reverse_cons, List.append_assoc, List.singleton_append]
      · rwa [List.append_nil]

/-- The first byte goes on with a number, or the number ends before it. -/
theorem rest_of_number {read : List Char}
    (h : step? (.number read, tokens) b = some (scan', tokens')) (hrest : Rest scan' ts bytes) :
    ∃ us, tokens'.reverse ++ ts = tokens.reverse ++ us ∧ Rest (.number read) us (b :: bytes) := by
  simp only [step?] at h
  split_ifs at h with hnumeral
  · cases h
    obtain ⟨cs, rest, ts', rfl, rfl, hlexed⟩ := hrest
    refine ⟨_, rfl, Char.ofNat b.toNat :: cs, rest, ts', ?_, ?_, hlexed⟩
    · show _ = encodeChar _ ++ encode cs ++ rest
      rw [encodeChar_ofNat (lt_of_isNumeral hnumeral)]
      rfl
    · rw [List.reverse_cons, List.append_assoc, List.singleton_append]
  · obtain ⟨us, hus, hlexed⟩ := lexed_of_begin? h hrest
    refine ⟨number read.reverse :: us, ?_, [], b :: bytes, us, rfl, ?_, hlexed⟩
    · rw [hus, List.reverse_cons, List.append_assoc, List.singleton_append]
    · rw [List.append_nil]

/-- The first byte ends a string, begins an escape in it, or stands for itself. -/
theorem rest_of_string {read : List Piece}
    (h : step? (.string read, tokens) b = some (scan', tokens')) (hrest : Rest scan' ts bytes) :
    ∃ us, tokens'.reverse ++ ts = tokens.reverse ++ us ∧ Rest (.string read) us (b :: bytes) := by
  simp only [step?] at h
  split_ifs at h with hquote hslash hcontrol
  · cases h
    refine ⟨string read.reverse :: ts, ?_, [], [], bytes, ts, .nil, ?_, ?_, hrest⟩
    · rw [List.reverse_cons, List.append_assoc, List.singleton_append]
    · rw [hquote, List.nil_append]
    · rw [List.append_nil]
  · cases h
    obtain ⟨pieces, text, rest, ts', hcontent, rfl, hts, hlexed⟩ := hrest
    exact ⟨ts, rfl, pieces, b :: text, rest, ts', hslash ▸ hcontent, rfl, hts, hlexed⟩
  · cases h
    obtain ⟨pieces, text, rest, ts', hcontent, rfl, rfl, hlexed⟩ := hrest
    refine ⟨_, rfl, .byte b :: pieces, b :: text, rest, ts',
      .byte hquote hslash (UInt8.not_lt.1 hcontrol) hcontent, rfl, ?_, hlexed⟩
    rw [List.reverse_cons, List.append_assoc, List.singleton_append]

/-- The first byte is the letter of an escape. -/
theorem rest_of_escape {read : List Piece}
    (h : step? (.escape read, tokens) b = some (scan', tokens')) (hrest : Rest scan' ts bytes) :
    ∃ us, tokens'.reverse ++ ts = tokens.reverse ++ us ∧ Rest (.escape read) us (b :: bytes) := by
  simp only [step?] at h
  split_ifs at h with hu
  · cases h
    obtain ⟨digits, unit, _, rfl, hdigits, pieces, text, rest, ts', hcontent, rfl, rfl, hlexed⟩ :=
      hrest
    refine ⟨_, rfl, .code unit :: pieces, b :: (digits ++ text), rest, ts', ?_, ?_, ?_, hlexed⟩
    · exact hu ▸ content_of_hexDigits hdigits hcontent
    · rw [List.cons_append, List.append_assoc]
    · rw [List.reverse_cons, List.append_assoc, List.singleton_append]
  · cases hunit : escaped? b with
    | none =>
      rw [hunit] at h
      cases h
    | some unit =>
      rw [hunit] at h
      cases h
      obtain ⟨pieces, text, rest, ts', hcontent, rfl, rfl, hlexed⟩ := hrest
      refine ⟨_, rfl, .code unit :: pieces, b :: text, rest, ts',
        .escape hunit hcontent, rfl, ?_, hlexed⟩
      rw [List.reverse_cons, List.append_assoc, List.singleton_append]

/-- The first byte is a digit of the number of a character. -/
theorem rest_of_hex {read : List Piece} {missing value : ℕ}
    (h : step? (.hex read missing value, tokens) b = some (scan', tokens'))
    (hrest : Rest scan' ts bytes) : ∃ us, tokens'.reverse ++ ts = tokens.reverse ++ us ∧
      Rest (.hex read missing value) us (b :: bytes) := by
  simp only [step?] at h
  cases hdigit : hexValue? b with
  | none =>
    rw [hdigit] at h
    cases h
  | some d =>
    rw [hdigit] at h
    dsimp only at h
    split_ifs at h with hlast
    · cases h
      refine ⟨ts, rfl, [b], value * 16 + d, bytes, rfl, ?_, hrest⟩
      rw [show missing - 1 + 1 = 0 + 1 by omega]
      exact .cons hdigit (.nil _)
    · cases h
      obtain ⟨digits, unit, rest, rfl, hdigits, hin⟩ := hrest
      refine ⟨ts, rfl, b :: digits, unit, rest, rfl, ?_, hin⟩
      rw [show missing - 1 - 1 + 1 = missing - 1 by omega] at hdigits
      exact .cons hdigit hdigits

/-- A text is accepted if the scanner takes its first byte and accepts the rest after that. -/
theorem rest_of_step? (h : step? (scan, tokens) b = some (scan', tokens'))
    (hrest : Rest scan' ts bytes) :
    ∃ us, tokens'.reverse ++ ts = tokens.reverse ++ us ∧ Rest scan us (b :: bytes) := by
  cases scan with
  | idle => exact lexed_of_begin? h hrest
  | word read => exact rest_of_word h hrest
  | number read => exact rest_of_number h hrest
  | string read => exact rest_of_string h hrest
  | escape read => exact rest_of_escape h hrest
  | hex read missing value => exact rest_of_hex h hrest

end FirstByte

/-- The texts that the scanner accepts. -/
theorem rest_of_run {scan : Scan} {tokens : List Token} {s : State}
    (h : run (scan, tokens) bytes = some s) (hfinish : finish? s = some ts) :
    ∃ us, ts = tokens.reverse ++ us ∧ Rest scan us bytes := by
  induction bytes generalizing scan tokens with
  | nil =>
    cases h
    have hnil : Lexed [] [] := .nil Grammar.blank_nil
    cases scan with
    | idle =>
      cases hfinish
      exact ⟨[], (List.append_nil _).symm, hnil⟩
    | word read =>
      obtain ⟨t, hword, rfl⟩ := Option.map_eq_some_iff.1 hfinish
      refine ⟨[t], List.reverse_cons, [], [], t, [], rfl, ?_, rfl, hnil⟩
      rwa [List.append_nil]
    | number read =>
      cases hfinish
      refine ⟨[number read.reverse], List.reverse_cons, [], [], [], rfl, ?_, hnil⟩
      rw [List.append_nil]
    | string | escape | hex => cases hfinish
  | cons b bytes ih =>
    rw [run_cons, Option.bind_eq_some_iff] at h
    obtain ⟨⟨scan', tokens'⟩, hstep, hrun⟩ := h
    obtain ⟨us, rfl, hrest⟩ := ih hrun
    exact rest_of_step? hstep hrest

/-- A text that is cut into tokens is made of the texts of these tokens. -/
theorem lexed_of_scan? (h : scan? bytes = some ts) : Lexed ts bytes := by
  unfold scan? at h
  split at h
  · rename_i s hrun
    obtain ⟨us, rfl, hrest⟩ := rest_of_run hrun h
    exact hrest
  · cases h

end Collector.Json.Token
