import Collector.Failure
import Collector.Gzip.Crc32
import Collector.Gzip.Deflate

/-!
# Compressed bodies

A compressed body of an answer to `harvest-source` is a member: a header with optional
fields, a deflate stream, and the checksum and the length of what was compressed.  What
follows the first member is not looked at.

* `decodeBody` gives the content of a body that may be compressed.
-/

namespace Collector.Gzip

/-! ## Header -/

/-- The two bytes that a member begins with. -/
def magic : Bytes := [0x1F, 0x8B]

/-- The bytes of a field that begins with its length. -/
def skipCounted? : Bytes → Option Bytes
  | low :: high :: rest =>
    let count := Deflate.word low high
    if count ≤ rest.length then some (rest.drop count) else none
  | _ => none

/-- The longest name or comment. -/
def maxName : Nat := 65535

/-- The bytes after a field that ends with a zero and has at most `room` bytes
before it. -/
def skipName? : Nat → Bytes → Option Bytes
  | _, [] => none
  | room, b :: rest =>
    if b = 0 then some rest
    else
      match room with
      | 0 => none
      | room + 1 => skipName? room rest

/-- Skips a field if its flag is set. -/
def skipIf (flag : Bool) (skip : Bytes → Option Bytes) (bytes : Bytes) : Option Bytes :=
  if flag then skip bytes else some bytes

/-- Skips the checksum of the header, which must be that of the bytes before
it. -/
def skipHeaderSum? (whole : Bytes) : Bytes → Option Bytes
  | low :: high :: rest =>
    let before := whole.take (whole.length - (rest.length + 2))
    if Deflate.word low high = (Crc32.ofBytes before).toNat % 65536 then some rest else none
  | _ => none

/-- Reads a header; what follows it is the deflate stream. -/
def skipHeader? (bytes : Bytes) : Option Bytes :=
  match bytes with
  | id1 :: id2 :: method :: flags :: _ :: _ :: _ :: _ :: _ :: _ :: rest =>
    if [id1, id2] = magic ∧ method = 8 ∧ flags &&& 0xE0 = 0 then
      skipIf (flags &&& 0x04 != 0) skipCounted? rest
        |>.bind (skipIf (flags &&& 0x08 != 0) (skipName? maxName))
        |>.bind (skipIf (flags &&& 0x10 != 0) (skipName? maxName))
        |>.bind (skipIf (flags &&& 0x02 != 0) (skipHeaderSum? bytes))
    else none
  | _ => none

/-! ## Members -/

/-- The number that four bytes write, the lowest one first. -/
def doubleWord (a b c d : UInt8) : Nat := Deflate.word a b + 65536 * Deflate.word c d

/-- Whether the bytes after a deflate stream are the checksum and the length of
its content. -/
def endsWell (content : Bytes) : Bytes → Bool
  | a :: b :: c :: d :: e :: f :: g :: h :: _ =>
    doubleWord a b c d = (Crc32.ofBytes content).toNat &&
      doubleWord e f g h = content.length % Nat.pow 2 32
  | _ => false

/-- The content of the first member. -/
def decompress? (bytes : Bytes) : Option Bytes :=
  match skipHeader? bytes with
  | none => none
  | some stream =>
    match Deflate.inflate? stream with
    | none => none
    | some (content, rest) => if endsWell content rest then some content else none

/-! ## Bodies -/

/-- The content of a body: decompressed if it is announced as compressed or
begins like a member. -/
def decodeBody (announced : Bool) (body : Bytes) : Except PollError Bytes :=
  if announced || magic.isPrefixOf body then
    match decompress? body with
    | some content => .ok content
    | none => .error .decompress
  else .ok body

end Collector.Gzip
