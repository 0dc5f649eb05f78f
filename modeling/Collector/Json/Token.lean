import Collector.Text.Utf8

/-!
# Tokens of JSON text

A JSON text is read by `harvest-model` as a list of bytes.  A scanner with one state per
place between two bytes cuts it into tokens.  What a string or a number means is left open
here: a string token keeps its bytes and escapes as written, so that a field nobody asks
for may hold an escape that names no character.
-/

namespace Collector.Json

/-- One unit of a string literal. -/
inductive Piece where
  /-- A byte that stands for itself. -/
  | byte (b : UInt8)
  /-- A UTF-16 code unit, written with an escape. -/
  | code (unit : Nat)
  deriving DecidableEq, Repr

/-- A token. -/
inductive Token where
  /-- An opening brace. -/
  | leftBrace
  /-- A closing brace. -/
  | rightBrace
  /-- An opening bracket. -/
  | leftBracket
  /-- A closing bracket. -/
  | rightBracket
  /-- A comma. -/
  | comma
  /-- A colon. -/
  | colon
  /-- The word `null`. -/
  | null
  /-- The words `true` and `false`. -/
  | bool (b : Bool)
  /-- A run of characters that can occur in a number. -/
  | number (text : List Char)
  /-- A string literal. -/
  | string (pieces : List Piece)
  deriving DecidableEq, Repr

namespace Token

/-- Where the scanner stands; what it has read of a token is kept last one
first. -/
inductive Scan where
  /-- Between tokens. -/
  | idle
  /-- Inside a word. -/
  | word (read : List UInt8)
  /-- Inside a number. -/
  | number (read : List Char)
  /-- Inside a string. -/
  | string (read : List Piece)
  /-- Inside a string, after a backslash. -/
  | escape (read : List Piece)
  /-- Inside a string, after `\u` and some hexadecimal digits; `missing` are to
  come. -/
  | hex (read : List Piece) (missing value : Nat)
  deriving DecidableEq, Repr

/-! ## Classes of bytes -/

/-- The four white space bytes of JSON. -/
def isSpace (b : UInt8) : Bool := b = 0x20 || b = 0x09 || b = 0x0A || b = 0x0D

/-- Lower-case ASCII letters, of which the words are made. -/
def isLetter (b : UInt8) : Bool := 0x61 ≤ b && b ≤ 0x7A

/-- ASCII digits. -/
def isDigit (b : UInt8) : Bool := 0x30 ≤ b && b ≤ 0x39

/-- The bytes that can follow the first one of a number: digits, signs, the
point and the letters of an exponent. -/
def isNumeral (b : UInt8) : Bool :=
  isDigit b || b = 0x2B || b = 0x2D || b = 0x2E || b = 0x45 || b = 0x65

/-- The value of a hexadecimal digit. -/
def hexValue? (b : UInt8) : Option Nat :=
  let n := b.toNat
  if 48 ≤ n ∧ n ≤ 57 then some (n - 48)
  else if 97 ≤ n ∧ n ≤ 102 then some (n - 87)
  else if 65 ≤ n ∧ n ≤ 70 then some (n - 55)
  else none

/-- The character that a one-letter escape stands for. -/
def escaped? (b : UInt8) : Option Nat :=
  match b with
  | 0x22 => some 0x22
  | 0x5C => some 0x5C
  | 0x2F => some 0x2F
  | 0x62 => some 0x08
  | 0x66 => some 0x0C
  | 0x6E => some 0x0A
  | 0x72 => some 0x0D
  | 0x74 => some 0x09
  | _ => none

/-- The token of a word: there are three. -/
def ofWord? (letters : List UInt8) : Option Token :=
  if letters = [0x6E, 0x75, 0x6C, 0x6C] then some null
  else if letters = [0x74, 0x72, 0x75, 0x65] then some (bool true)
  else if letters = [0x66, 0x61, 0x6C, 0x73, 0x65] then some (bool false)
  else none

/-! ## Scanning -/

/-- The scanner state after a byte between tokens, and the token the byte is. -/
def first? (b : UInt8) : Option (Scan × Option Token) :=
  if isSpace b then some (.idle, none)
  else if b = 0x7B then some (.idle, some leftBrace)
  else if b = 0x7D then some (.idle, some rightBrace)
  else if b = 0x5B then some (.idle, some leftBracket)
  else if b = 0x5D then some (.idle, some rightBracket)
  else if b = 0x2C then some (.idle, some comma)
  else if b = 0x3A then some (.idle, some colon)
  else if b = 0x22 then some (.string [], none)
  else if b = 0x2D || isDigit b then some (.number [Char.ofNat b.toNat], none)
  else if isLetter b then some (.word [b], none)
  else none

/-- The scanner: its state, and the tokens read so far, last one first. -/
abbrev State := Scan × List Token

/-- Adds a byte that begins a token or stands between two. -/
def begin? (tokens : List Token) (b : UInt8) : Option State :=
  match first? b with
  | some (scan, none) => some (scan, tokens)
  | some (scan, some t) => some (scan, t :: tokens)
  | none => none

/-- The state after one more byte. -/
def step? : State → UInt8 → Option State
  | (.idle, tokens), b => begin? tokens b
  | (.word read, tokens), b =>
    if isLetter b then some (.word (b :: read), tokens)
    else
      match ofWord? read.reverse with
      | some t => begin? (t :: tokens) b
      | none => none
  | (.number read, tokens), b =>
    if isNumeral b then some (.number (Char.ofNat b.toNat :: read), tokens)
    else begin? (number read.reverse :: tokens) b
  | (.string read, tokens), b =>
    if b = 0x22 then some (.idle, string read.reverse :: tokens)
    else if b = 0x5C then some (.escape read, tokens)
    else if b < 0x20 then none
    else some (.string (.byte b :: read), tokens)
  | (.escape read, tokens), b =>
    if b = 0x75 then some (.hex read 4 0, tokens)
    else
      match escaped? b with
      | some unit => some (.string (.code unit :: read), tokens)
      | none => none
  | (.hex read missing value, tokens), b =>
    match hexValue? b with
    | some d =>
      if missing ≤ 1 then some (.string (.code (value * 16 + d) :: read), tokens)
      else some (.hex read (missing - 1) (value * 16 + d), tokens)
    | none => none

/-- The tokens of a text that ends in this state. -/
def finish? : State → Option (List Token)
  | (.idle, tokens) => some tokens.reverse
  | (.word read, tokens) => (ofWord? read.reverse).map fun t => (t :: tokens).reverse
  | (.number read, tokens) => some (number read.reverse :: tokens).reverse
  | _ => none

/-- The tokens of a text; `none` if it cannot be cut into tokens. -/
def scan? (bytes : Bytes) : Option (List Token) :=
  match bytes.foldlM step? (.idle, []) with
  | some state => finish? state
  | none => none

end Token

end Collector.Json
