import Collector.Text.Utf8

/-!
# The checksum of a compressed member

The checksum that a compressed answer to `harvest-source` ends with: the remainder of a
message by the polynomial of CRC-32, lowest bit first: a left fold over the bytes, begun
with all bits set and inverted at the end.

Main statements:

* `Crc32.update_append`: a message may be taken in parts.
-/

namespace Collector.Gzip.Crc32

/-- The polynomial without its highest term, lowest bit first. -/
def polynomial : UInt32 := 0xEDB88320

/-- Takes in one bit. -/
def step (register : UInt32) : UInt32 :=
  if register &&& 1 = 1 then (register >>> 1) ^^^ polynomial else register >>> 1

/-- Takes in `count` bits. -/
def steps : Nat → UInt32 → UInt32
  | 0, register => register
  | count + 1, register => steps count (step register)

/-- Takes in one byte. -/
def takeByte (register : UInt32) (b : UInt8) : UInt32 := steps 8 (register ^^^ b.toUInt32)

/-- Takes in a message. -/
def update (register : UInt32) (bytes : Bytes) : UInt32 := bytes.foldl takeByte register

/-- The checksum of a message. -/
def ofBytes (bytes : Bytes) : UInt32 := update 0xFFFFFFFF bytes ^^^ 0xFFFFFFFF

theorem update_append (register : UInt32) (xs ys : Bytes) :
    update register (xs ++ ys) = update (update register xs) ys := List.foldl_append

end Collector.Gzip.Crc32
