import Collector.Gzip.Bits

/-!
# Prefix codes

The codes of a compressed answer to `harvest-source`.  A prefix code is a binary tree with
symbols at its leaves; reading a symbol walks down from the root, one bit a step.  Codes
are given by the length of each symbol's codeword alone: codewords of one length are
consecutive numbers in symbol order, and shorter ones come before longer ones.

Main statements:

* `PrefixCode.read?_size`: reading a symbol makes the rest smaller.
-/

namespace Collector.Gzip

/-- A prefix code. -/
inductive PrefixCode where
  /-- No codeword leads here. -/
  | void
  /-- A codeword ends here. -/
  | leaf (symbol : Nat)
  /-- The codewords that go on with a zero, and those that go on with a one. -/
  | branch (zero one : PrefixCode)
  deriving Repr

namespace PrefixCode

/-- Walks from an inner node down to a leaf. -/
def walk? : PrefixCode → Bits → Option (Nat × Bits)
  | void, _ => none
  | leaf symbol, s => some (symbol, s)
  | branch zero one, s =>
    match s.next? with
    | none => none
    | some (false, s) => zero.walk? s
    | some (true, s) => one.walk? s

/-- The codewords that go on with the given bit. -/
def child : PrefixCode → Bool → PrefixCode
  | branch zero _, false => zero
  | branch _ one, true => one
  | _, _ => void

/-- Reads one symbol; no codeword is empty. -/
def read? (code : PrefixCode) (s : Bits) : Option (Nat × Bits) :=
  match s.next? with
  | none => none
  | some (b, s) => (code.child b).walk? s

/-- The code with one more codeword, its first bit first. -/
def insert (symbol : Nat) : List Bool → PrefixCode → PrefixCode
  | [], _ => leaf symbol
  | false :: bits, branch zero one => branch (insert symbol bits zero) one
  | true :: bits, branch zero one => branch zero (insert symbol bits one)
  | false :: bits, _ => branch (insert symbol bits void) void
  | true :: bits, _ => branch void (insert symbol bits void)

/-- The `length` lowest bits of a number, the highest of them first. -/
def codeword (length n : Nat) : List Bool :=
  (List.range length).reverse.map n.testBit

/-- The longest codeword. -/
def maxLength : Nat := 15

/-- The number of symbols with a codeword of this length. -/
def countOf (lengths : List Nat) (length : Nat) : Nat := lengths.count length

/-- The first codeword of a length, as a number: the codewords of smaller
lengths, doubled once for each bit more. -/
def firstCode (lengths : List Nat) : Nat → Nat
  | 0 => 0
  | length + 1 =>
    2 * (firstCode lengths length + if length = 0 then 0 else countOf lengths length)

/-- The symbols with codewords of one length, in symbol order. -/
def symbolsOf (lengths : List Nat) (length : Nat) : List Nat :=
  (lengths.zipIdx.filter fun p => p.1 = length).map (·.2)

/-- The codewords of one length with their symbols. -/
def wordsOf (lengths : List Nat) (length : Nat) : List (Nat × List Bool) :=
  let first := firstCode lengths length
  (symbolsOf lengths length).zipIdx.map fun p => (p.1, codeword length (first + p.2))

/-- Whether the codewords use up all strings of bits: the codewords after the
last one of the greatest length are none. -/
def isComplete (lengths : List Nat) : Bool :=
  firstCode lengths (maxLength + 1) = Nat.pow 2 (maxLength + 1)

/-- Whether there is at most one codeword, and that of a single bit. -/
def isTrivial (lengths : List Nat) : Bool :=
  lengths.all (· ≤ 1) && decide (countOf lengths 1 ≤ 1)

/-- The code of a list of lengths, one for each symbol; zero stands for no
codeword. -/
def ofLengths (lengths : List Nat) : PrefixCode :=
  let words := (List.range maxLength).flatMap fun k => wordsOf lengths (k + 1)
  words.foldl (fun code w => code.insert w.1 w.2) void

/-- The code of a list of lengths that leaves no string of bits unused. -/
def ofComplete? (lengths : List Nat) : Option PrefixCode :=
  if isComplete lengths then some (ofLengths lengths) else none

/-- The code of a list of lengths that leaves no string of bits unused or has at
most one codeword, of a single bit. -/
def ofLengths? (lengths : List Nat) : Option PrefixCode :=
  if isComplete lengths || isTrivial lengths then some (ofLengths lengths) else none

theorem walk?_size : ∀ {code : PrefixCode} {s s' : Bits} {n : Nat},
    code.walk? s = some (n, s') → s'.size ≤ s.size
  | void, _, _, _, h => by simp [walk?] at h
  | leaf _, _, _, _, h => by
    simp only [walk?, Option.some.injEq, Prod.mk.injEq] at h
    exact Nat.le_of_eq (by rw [h.2])
  | branch zero one, s, s', n, h => by
    unfold walk? at h
    split at h
    · cases h
    · rename_i t ht
      exact Nat.le_trans (walk?_size h) (Nat.le_of_lt (Bits.next?_size ht))
    · rename_i t ht
      exact Nat.le_trans (walk?_size h) (Nat.le_of_lt (Bits.next?_size ht))

theorem read?_size {code : PrefixCode} {s s' : Bits} {n : Nat}
    (h : code.read? s = some (n, s')) : s'.size < s.size := by
  unfold read? at h
  split at h
  · cases h
  · rename_i b t ht
    exact Nat.lt_of_le_of_lt (walk?_size h) (Bits.next?_size ht)

end PrefixCode

end Collector.Gzip
