/-!
# Bytes and UTF-8 text

The blobs, record bodies and messages of `harvest-model` are lists of bytes; text inside
them is UTF-8.  `encode` writes characters as bytes and `decode?` reads them back, refusing
every sequence that is not the shortest encoding of a Unicode scalar value.
-/

namespace Collector

/-- A blob: the unit in which records, checkpoints and responses travel. -/
abbrev Bytes := List UInt8

namespace Utf8

/-! ## Writing -/

/-- The one to four bytes of a character. -/
def encodeChar (c : Char) : Bytes :=
  let n := c.toNat
  if n < 0x80 then [UInt8.ofNat n]
  else if n < 0x800 then [UInt8.ofNat (0xC0 + n / 64), UInt8.ofNat (0x80 + n % 64)]
  else if n < 0x10000 then
    [UInt8.ofNat (0xE0 + n / 4096), UInt8.ofNat (0x80 + n / 64 % 64), UInt8.ofNat (0x80 + n % 64)]
  else
    [UInt8.ofNat (0xF0 + n / 262144), UInt8.ofNat (0x80 + n / 4096 % 64),
      UInt8.ofNat (0x80 + n / 64 % 64), UInt8.ofNat (0x80 + n % 64)]

/-- The bytes of a list of characters. -/
def encode (cs : List Char) : Bytes := cs.flatMap encodeChar

/-! ## Reading -/

/-- The six payload bits of a continuation byte, `10xxxxxx`. -/
def tail? (b : UInt8) : Option Nat :=
  if 0x80 ≤ b.toNat ∧ b.toNat < 0xC0 then some (b.toNat - 0x80) else none

/-- The character of a code point that needs at least `least`, if the code
point is a scalar value. -/
def scalar? (least n : Nat) : Option Char :=
  if least ≤ n ∧ n.isValidChar then some (Char.ofNat n) else none

/-- Reads the rest of a text, after the characters in `read` (last one first). -/
def decodeFrom (read : List Char) : Bytes → Option (List Char)
  | [] => some read.reverse
  | a :: rest =>
    let lead := a.toNat
    if lead < 0x80 then decodeFrom (Char.ofNat lead :: read) rest
    else if lead < 0xC0 then none
    else if lead < 0xE0 then
      match rest with
      | b :: rest =>
        match tail? b with
        | some y =>
          match scalar? 0x80 ((lead - 0xC0) * 64 + y) with
          | some c => decodeFrom (c :: read) rest
          | none => none
        | none => none
      | [] => none
    else if lead < 0xF0 then
      match rest with
      | b :: c :: rest =>
        match tail? b, tail? c with
        | some y, some z =>
          match scalar? 0x800 (((lead - 0xE0) * 64 + y) * 64 + z) with
          | some c => decodeFrom (c :: read) rest
          | none => none
        | _, _ => none
      | _ => none
    else
      match rest with
      | b :: c :: d :: rest =>
        match tail? b, tail? c, tail? d with
        | some x, some y, some z =>
          match scalar? 0x10000 ((((lead - 0xF0) * 64 + x) * 64 + y) * 64 + z) with
          | some c => decodeFrom (c :: read) rest
          | none => none
        | _, _, _ => none
      | _ => none

/-- Reads a whole text; `none` if some byte does not belong to the shortest
encoding of a scalar value. -/
def decode? (bytes : Bytes) : Option (List Char) := decodeFrom [] bytes

end Utf8

/-- The UTF-8 bytes of a string. -/
def bytesOf (s : String) : Bytes := Utf8.encode s.toList

/-- The string that the bytes encode, if they are UTF-8. -/
def textOf? (bytes : Bytes) : Option String := (Utf8.decode? bytes).map String.ofList

end Collector
