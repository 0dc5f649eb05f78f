import Collector.Text.Utf8

/-!
# SipHash

The hash of the memory broker of `harvest-core`, of 64 bits, mixes a message word by word
into a state of four words.  The variant with one round for each word and three at the end
spreads keys over the partitions of a topic.
-/

namespace Collector

/-- The state of the hash: four words. -/
structure SipHash where
  /-- The first word. -/
  v0 : UInt64
  /-- The second word. -/
  v1 : UInt64
  /-- The third word. -/
  v2 : UInt64
  /-- The fourth word. -/
  v3 : UInt64
  deriving DecidableEq, Repr

namespace SipHash

/-- The state before a message, for a key of two zero words. -/
def initial : SipHash :=
  ⟨0x736F6D6570736575, 0x646F72616E646F6D, 0x6C7967656E657261, 0x7465646279746573⟩

/-- A word turned to the left. -/
def rotate (x count : UInt64) : UInt64 := (x <<< count) ||| (x >>> (64 - count))

/-- The state after one round of mixing. -/
def round (s : SipHash) : SipHash :=
  let v0 := s.v0 + s.v1
  let v1 := rotate s.v1 13 ^^^ v0
  let v0 := rotate v0 32
  let v2 := s.v2 + s.v3
  let v3 := rotate s.v3 16 ^^^ v2
  let v0 := v0 + v3
  let v3 := rotate v3 21 ^^^ v0
  let v2 := v2 + v1
  let v1 := rotate v1 17 ^^^ v2
  let v2 := rotate v2 32
  ⟨v0, v1, v2, v3⟩

/-- Takes in one word of a message. -/
def takeWord (s : SipHash) (m : UInt64) : SipHash :=
  let s := round { s with v3 := s.v3 ^^^ m }
  { s with v0 := s.v0 ^^^ m }

/-- The word that bytes write, the lowest one first. -/
def word (bytes : Bytes) : UInt64 :=
  bytes.foldr (fun b w => (w <<< 8) ||| b.toUInt64) 0

/-- Takes in a message whose length is `length`: its words of eight bytes, and
then the bytes that are left with the length in the highest byte. -/
def takeBytes (length : Nat) (s : SipHash) : Bytes → SipHash
  | a :: b :: c :: d :: e :: f :: g :: h :: rest =>
    takeBytes length (s.takeWord (word [a, b, c, d, e, f, g, h])) rest
  | rest => s.takeWord (word rest ||| (UInt64.ofNat length <<< 56))

/-- The hash of the message that was taken in. -/
def finish (s : SipHash) : UInt64 :=
  let s := { s with v2 := s.v2 ^^^ 0xFF }.round.round.round
  s.v0 ^^^ s.v1 ^^^ s.v2 ^^^ s.v3

/-- The hash of a message. -/
def ofBytes (bytes : Bytes) : UInt64 := (takeBytes bytes.length initial bytes).finish

/-- The hash of a text: of its bytes, and one byte that no text holds. -/
def ofString (s : String) : UInt64 := ofBytes (bytesOf s ++ [0xFF])

end SipHash

end Collector
