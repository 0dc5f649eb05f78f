import Collector.Text.Utf8

/-!
# Bits of a compressed stream

A compressed answer to `harvest-source` is read bit by bit.  Bits are taken from each byte
beginning with the lowest one.  The part of the current byte that is still to come is kept
apart, so that a stored block can begin at the next whole byte.

Main statements:

* `Bits.next?_size`, `Bits.take?_size`: taking bits makes the rest smaller.
-/

namespace Collector.Gzip

/-- What is left of a stream of bits. -/
structure Bits where
  /-- The bits of the current byte still to come. -/
  pending : List Bool
  /-- The bytes after it. -/
  rest : Bytes
  deriving Repr

namespace Bits

/-- All bits of a list of bytes. -/
def ofBytes (bytes : Bytes) : Bits := ⟨[], bytes⟩

/-- The number of bits left. -/
def size (s : Bits) : Nat := s.pending.length + 8 * s.rest.length

/-- The eight bits of a byte, lowest first. -/
def ofByte (b : UInt8) : List Bool :=
  let n := b.toNat
  [n.testBit 0, n.testBit 1, n.testBit 2, n.testBit 3,
    n.testBit 4, n.testBit 5, n.testBit 6, n.testBit 7]

/-- The next bit and what follows it. -/
def next? (s : Bits) : Option (Bool × Bits) :=
  match s.pending, s.rest with
  | b :: pending, rest => some (b, ⟨pending, rest⟩)
  | [], byte :: rest =>
    match ofByte byte with
    | b :: pending => some (b, ⟨pending, rest⟩)
    | [] => none
  | [], [] => none

/-- The next `count` bits as a number, the first one lowest. -/
def take? : Nat → Bits → Option (Nat × Bits)
  | 0, s => some (0, s)
  | count + 1, s =>
    match s.next? with
    | none => none
    | some (b, s) =>
      match take? count s with
      | none => none
      | some (n, s) => some (2 * n + b.toNat, s)

/-- The whole bytes that are left, the rest of the current byte dropped. -/
def align (s : Bits) : Bytes := s.rest

theorem next?_size {s s' : Bits} {b : Bool} (h : s.next? = some (b, s')) :
    s'.size < s.size := by
  obtain ⟨pending, rest⟩ := s
  unfold next? at h
  split at h
  · rename_i heq1 heq2
    cases h
    simp_all [size]
  · rename_i heq1 heq2
    simp only [ofByte, Option.some.injEq, Prod.mk.injEq] at h
    obtain ⟨_, rfl⟩ := h
    simp_all [size]
    omega
  · cases h

theorem take?_size : ∀ {count : Nat} {s s' : Bits} {n : Nat},
    take? count s = some (n, s') → s'.size ≤ s.size
  | 0, s, s', n, h => by
    simp only [take?, Option.some.injEq, Prod.mk.injEq] at h
    exact Nat.le_of_eq (by rw [h.2])
  | count + 1, s, s', n, h => by
    unfold take? at h
    split at h
    · cases h
    · rename_i b t hb
      split at h
      · cases h
      · rename_i m u hm
        simp only [Option.some.injEq, Prod.mk.injEq] at h
        obtain ⟨_, rfl⟩ := h
        exact Nat.le_trans (take?_size hm) (Nat.le_of_lt (next?_size hb))

end Bits

end Collector.Gzip
