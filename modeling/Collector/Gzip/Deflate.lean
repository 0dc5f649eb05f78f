import Collector.Gzip.PrefixCode

/-!
# Deflate

What is compressed in an answer to `harvest-source` is a deflate stream, a sequence of
blocks.  A block holds bytes as they are, or symbols of prefix codes: single bytes, and
copies of earlier output given by length and distance.  The two codes of a block are the
standard ones or come with the block.
-/

namespace Collector.Gzip.Deflate

/-! ## Tables of the format -/

/-- The least length of each length symbol from 257 on, and how many further
bits are added to it. -/
def lengthBase : List (Nat × Nat) :=
  [(3, 0), (4, 0), (5, 0), (6, 0), (7, 0), (8, 0), (9, 0), (10, 0), (11, 1), (13, 1), (15, 1),
    (17, 1), (19, 2), (23, 2), (27, 2), (31, 2), (35, 3), (43, 3), (51, 3), (59, 3), (67, 4),
    (83, 4), (99, 4), (115, 4), (131, 5), (163, 5), (195, 5), (227, 5), (258, 0)]

/-- The least distance of each distance symbol, and how many further bits are
added to it. -/
def distanceBase : List (Nat × Nat) :=
  [(1, 0), (2, 0), (3, 0), (4, 0), (5, 1), (7, 1), (9, 2), (13, 2), (17, 3), (25, 3), (33, 4),
    (49, 4), (65, 5), (97, 5), (129, 6), (193, 6), (257, 7), (385, 7), (513, 8), (769, 8),
    (1025, 9), (1537, 9), (2049, 10), (3073, 10), (4097, 11), (6145, 11), (8193, 12),
    (12289, 12), (16385, 13), (24577, 13)]

/-- The order in which the lengths of the code for code lengths are sent. -/
def lengthOrder : List Nat :=
  [16, 17, 18, 0, 8, 7, 9, 6, 10, 5, 11, 4, 12, 3, 13, 2, 14, 1, 15]

/-- The codeword lengths of the standard code for bytes and lengths. -/
def standardLiterals : List Nat :=
  List.replicate 144 8 ++ List.replicate 112 9 ++ List.replicate 24 7 ++ List.replicate 8 8

/-- The codeword lengths of the standard code for distances. -/
def standardDistances : List Nat := List.replicate 32 5

/-- The two codes of a block. -/
structure Codes where
  /-- Bytes, the end of the block, and lengths. -/
  literals : PrefixCode
  /-- The code of distances. -/
  distances : PrefixCode

/-! ## Codes that come with a block -/

/-- Reads `missing` codeword lengths after those in `read` (last one first): a
length, or a repetition of the last length or of zero. -/
def readLengths? (code : PrefixCode) (missing : Nat) (read : List Nat) (s : Bits) :
    Option (List Nat × Bits) :=
  if missing = 0 then some (read.reverse, s)
  else
    match code.read? s with
    | none => none
    | some (symbol, s) =>
      if symbol < 16 then readLengths? code (missing - 1) (symbol :: read) s
      else
        let repeated : Option (Nat × Nat × Nat) :=
          if symbol = 16 then read.head?.map fun last => (last, 3, 2)
          else if symbol = 17 then some (0, 3, 3)
          else some (0, 11, 7)
        match repeated with
        | none => none
        | some (length, least, extra) =>
          match s.take? extra with
          | none => none
          | some (more, s) =>
            let count := least + more
            if count = 0 ∨ missing < count then none
            else readLengths? code (missing - count) (List.replicate count length ++ read) s
termination_by missing
decreasing_by all_goals omega

/-- Reads `count` numbers of three bits. -/
def readTriples? : Nat → Bits → Option (List Nat × Bits)
  | 0, s => some ([], s)
  | count + 1, s =>
    match s.take? 3 with
    | none => none
    | some (n, s) =>
      match readTriples? count s with
      | none => none
      | some (ns, s) => some (n :: ns, s)

/-- The lengths of the code for code lengths, by symbol. -/
def arrangeLengths (sent : List Nat) : List Nat :=
  (List.range 19).map fun symbol =>
    ((lengthOrder.zip sent).lookup symbol).getD 0

/-- How many codeword lengths a block sends, for each of the two codes and for
the code for code lengths. -/
structure Counts where
  /-- Lengths of the code for bytes and lengths. -/
  literals : Nat
  /-- Lengths of the code for distances. -/
  distances : Nat
  /-- Lengths of the code for code lengths. -/
  sent : Nat

/-- Reads how many codeword lengths follow; symbols beyond the tables are not
allowed. -/
def readCounts? (s : Bits) : Option (Counts × Bits) :=
  match s.take? 5 with
  | none => none
  | some (l, s) =>
    match s.take? 5 with
    | none => none
    | some (d, s) =>
      match s.take? 4 with
      | none => none
      | some (n, s) =>
        if 286 < l + 257 ∨ 30 < d + 1 then none else some (⟨l + 257, d + 1, n + 4⟩, s)

/-- The two codes of a list of lengths, those of bytes and lengths first. -/
def codesOf? (literals : Nat) (lengths : List Nat) : Option Codes :=
  match PrefixCode.ofLengths? (lengths.take literals),
      PrefixCode.ofLengths? (lengths.drop literals) with
  | some l, some d => some ⟨l, d⟩
  | _, _ => none

/-- Reads the codes of a block that brings its own. -/
def readCodes? (s : Bits) : Option (Codes × Bits) :=
  match readCounts? s with
  | none => none
  | some (counts, s) =>
    match readTriples? counts.sent s with
    | none => none
    | some (sent, s) =>
      match PrefixCode.ofComplete? (arrangeLengths sent) with
      | none => none
      | some code =>
        match readLengths? code (counts.literals + counts.distances) [] s with
        | none => none
        | some (lengths, s) =>
          match codesOf? counts.literals lengths with
          | none => none
          | some codes => some (codes, s)

theorem readLengths?_size (code : PrefixCode) (missing : Nat) (read : List Nat) (s : Bits)
    {s' : Bits} {lengths : List Nat}
    (h : readLengths? code missing read s = some (lengths, s')) : s'.size ≤ s.size := by
  fun_induction readLengths? code missing read s with
  | _ => grind [→ PrefixCode.read?_size, → Bits.take?_size]

theorem readTriples?_size : ∀ {count : Nat} {s s' : Bits} {ns : List Nat},
    readTriples? count s = some (ns, s') → s'.size ≤ s.size
  | 0, _, _, _, h => by
    simp only [readTriples?, Option.some.injEq, Prod.mk.injEq] at h
    exact Nat.le_of_eq (by rw [h.2])
  | count + 1, _, _, _, h => by
    unfold readTriples? at h
    split at h
    · cases h
    · rename_i t ht
      split at h
      · cases h
      · rename_i u hu
        simp only [Option.some.injEq, Prod.mk.injEq] at h
        exact h.2 ▸ Nat.le_trans (readTriples?_size hu) (Bits.take?_size ht)

theorem readCounts?_size {s s' : Bits} {counts : Counts}
    (h : readCounts? s = some (counts, s')) : s'.size ≤ s.size := by
  unfold readCounts? at h
  grind [→ Bits.take?_size]

theorem readCodes?_size {s s' : Bits} {codes : Codes} (h : readCodes? s = some (codes, s')) :
    s'.size ≤ s.size := by
  unfold readCodes? at h
  split at h
  · cases h
  · rename_i t ht
    split at h
    · cases h
    · rename_i u hu
      split at h
      · cases h
      · split at h
        · cases h
        · rename_i v hv
          split at h
          · cases h
          · simp only [Option.some.injEq, Prod.mk.injEq] at h
            have h1 := readCounts?_size ht
            have h2 := readTriples?_size hu
            have h3 := readLengths?_size _ _ _ _ hv
            rw [← h.2]
            omega

/-- The standard codes. -/
def standardCodes? : Option Codes :=
  match PrefixCode.ofLengths? standardLiterals, PrefixCode.ofLengths? standardDistances with
  | some l, some d => some ⟨l, d⟩
  | _, _ => none

/-! ## Blocks -/

/-- Repeats `count` times the byte that stands `distance` bytes back; none stands
before the first byte. -/
def copyBack? (distance : Nat) : Nat → Array UInt8 → Option (Array UInt8)
  | 0, out => some out
  | count + 1, out =>
    if distance ≤ out.size then
      match out[out.size - distance]? with
      | some b => copyBack? distance count (out.push b)
      | none => none
    else none

/-- Reads the number that a symbol of a table begins. -/
def readScaled? (table : List (Nat × Nat)) (symbol : Nat) (s : Bits) : Option (Nat × Bits) :=
  match table[symbol]? with
  | none => none
  | some (least, extra) =>
    match s.take? extra with
    | none => none
    | some (more, s) => some (least + more, s)

/-- Reads the length and the distance of a copy, after its length symbol. -/
def readCopy? (codes : Codes) (symbol : Nat) (s : Bits) : Option (Nat × Nat × Bits) :=
  match readScaled? lengthBase (symbol - 257) s with
  | none => none
  | some (length, s) =>
    match codes.distances.read? s with
    | none => none
    | some (symbol, s) =>
      match readScaled? distanceBase symbol s with
      | none => none
      | some (distance, s) => some (length, distance, s)

theorem readScaled?_size {table : List (Nat × Nat)} {symbol n : Nat} {s s' : Bits}
    (h : readScaled? table symbol s = some (n, s')) : s'.size ≤ s.size := by
  unfold readScaled? at h
  split at h
  · cases h
  · split at h
    · cases h
    · rename_i t ht
      simp only [Option.some.injEq, Prod.mk.injEq] at h
      exact h.2 ▸ Bits.take?_size ht

theorem readCopy?_size {codes : Codes} {symbol length distance : Nat} {s s' : Bits}
    (h : readCopy? codes symbol s = some (length, distance, s')) : s'.size ≤ s.size := by
  unfold readCopy? at h
  split at h
  · cases h
  · rename_i t ht
    split at h
    · cases h
    · rename_i u hu
      split at h
      · cases h
      · rename_i v hv
        simp only [Option.some.injEq, Prod.mk.injEq] at h
        have h1 := readScaled?_size ht
        have h2 := PrefixCode.read?_size hu
        have h3 := readScaled?_size hv
        rw [← h.2.2]
        omega

/-- What one symbol of a block, with what belongs to it, says. -/
inductive Instruction where
  /-- The next byte of the output. -/
  | byte (b : UInt8)
  /-- The block ends. -/
  | stop
  /-- A copy of earlier output. -/
  | copy (length distance : Nat)

/-- Reads the next instruction of a block. -/
def readInstruction? (codes : Codes) (s : Bits) : Option (Instruction × Bits) :=
  match codes.literals.read? s with
  | none => none
  | some (symbol, s) =>
    if symbol < 256 then some (.byte (UInt8.ofNat symbol), s)
    else if symbol = 256 then some (.stop, s)
    else
      match readCopy? codes symbol s with
      | none => none
      | some (length, distance, s) => some (.copy length distance, s)

theorem readInstruction?_size {codes : Codes} {i : Instruction} {s s' : Bits}
    (h : readInstruction? codes s = some (i, s')) : s'.size < s.size := by
  unfold readInstruction? at h
  split at h
  · cases h
  · rename_i t ht
    have h1 := PrefixCode.read?_size ht
    split at h
    · simp only [Option.some.injEq, Prod.mk.injEq] at h
      exact h.2 ▸ h1
    · split at h
      · simp only [Option.some.injEq, Prod.mk.injEq] at h
        exact h.2 ▸ h1
      · split at h
        · cases h
        · rename_i u hu
          simp only [Option.some.injEq, Prod.mk.injEq] at h
          have h2 := readCopy?_size hu
          rw [← h.2]
          omega

/-- Reads the instructions of a block up to its end, and follows them. -/
def readSymbols? (codes : Codes) (s : Bits) (out : Array UInt8) : Option (Bits × Array UInt8) :=
  match hs : readInstruction? codes s with
  | none => none
  | some (.byte b, rest) =>
    have := readInstruction?_size hs
    readSymbols? codes rest (out.push b)
  | some (.stop, rest) => some (rest, out)
  | some (.copy length distance, rest) =>
    have := readInstruction?_size hs
    match copyBack? distance length out with
    | some out => readSymbols? codes rest out
    | none => none
termination_by s.size

theorem readSymbols?_size (codes : Codes) (s : Bits) (out : Array UInt8) {s' : Bits}
    {out' : Array UInt8} (h : readSymbols? codes s out = some (s', out')) :
    s'.size ≤ s.size := by
  fun_induction readSymbols? codes s out with
  | case1 => cases h
  | case2 s out b rest hs _ ih =>
    exact Nat.le_of_lt (Nat.lt_of_le_of_lt (ih h) (readInstruction?_size hs))
  | case3 s out rest hs =>
    simp only [Option.some.injEq, Prod.mk.injEq] at h
    exact h.1 ▸ Nat.le_of_lt (readInstruction?_size hs)
  | case4 s out length distance rest hs _ out' ho ih =>
    exact Nat.le_of_lt (Nat.lt_of_le_of_lt (ih h) (readInstruction?_size hs))
  | case5 => cases h

/-- The number that two bytes write, the lower one first. -/
def word (low high : UInt8) : Nat := low.toNat + 256 * high.toNat

/-- Reads a block of bytes as they are: their number, its complement, and then
they. -/
def readStored? (s : Bits) (out : Array UInt8) : Option (Bits × Array UInt8) :=
  match s.align with
  | a :: b :: c :: d :: rest =>
    let count := word a b
    if count + word c d = 0xFFFF then
      if (rest.take count).length = count then
        some (Bits.ofBytes (rest.drop count), out ++ (rest.take count).toArray)
      else none
    else none
  | _ => none

theorem readStored?_size {s s' : Bits} {out out' : Array UInt8}
    (h : readStored? s out = some (s', out')) : s'.size ≤ s.size := by
  unfold readStored? at h
  split at h
  · rename_i a b c d rest heq
    simp only at h
    split at h
    · split at h
      · simp only [Option.some.injEq, Prod.mk.injEq] at h
        have : s.rest = a :: b :: c :: d :: rest := heq
        simp only [← h.1, Bits.size, Bits.ofBytes, this, List.length_cons, List.length_drop,
          List.length_nil]
        omega
      · cases h
    · cases h
  · cases h

/-- Reads one block after its header. -/
def readBody? (kind : Nat) (s : Bits) (out : Array UInt8) : Option (Bits × Array UInt8) :=
  match kind with
  | 0 => readStored? s out
  | 1 => standardCodes?.bind fun codes => readSymbols? codes s out
  | 2 => (readCodes? s).bind fun p => readSymbols? p.1 p.2 out
  | _ => none

/-- Reads one block, and whether it is the last one. -/
def readBlock? (s : Bits) (out : Array UInt8) : Option (Bool × Bits × Array UInt8) :=
  match s.next? with
  | none => none
  | some (last, s) =>
    match s.take? 2 with
    | none => none
    | some (kind, s) => (readBody? kind s out).map fun p => (last, p)

theorem readBody?_size {kind : Nat} {s s' : Bits} {out out' : Array UInt8}
    (h : readBody? kind s out = some (s', out')) : s'.size ≤ s.size := by
  unfold readBody? at h
  split at h
  · exact readStored?_size h
  · obtain ⟨codes, _, hr⟩ := Option.bind_eq_some_iff.1 h
    exact readSymbols?_size _ _ _ hr
  · obtain ⟨p, hp, hr⟩ := Option.bind_eq_some_iff.1 h
    exact Nat.le_trans (readSymbols?_size _ _ _ hr) (@readCodes?_size s p.2 p.1 hp)
  · cases h

theorem readBlock?_size {s s' : Bits} {out out' : Array UInt8} {last : Bool}
    (h : readBlock? s out = some (last, s', out')) : s'.size < s.size := by
  unfold readBlock? at h
  split at h
  · cases h
  · rename_i b t ht
    split at h
    · cases h
    · rename_i kind u hu
      obtain ⟨p, hp, hr⟩ := Option.map_eq_some_iff.1 h
      simp only [Prod.mk.injEq] at hr
      have h1 := Bits.next?_size ht
      have h2 := Bits.take?_size hu
      have h3 := @readBody?_size kind u p.1 out p.2 hp
      rw [hr.2] at h3
      simp only at h3
      omega

/-- Reads blocks up to the last one. -/
def readBlocks? (s : Bits) (out : Array UInt8) : Option (Bits × Array UInt8) :=
  match hs : readBlock? s out with
  | none => none
  | some (true, rest, out) => some (rest, out)
  | some (false, rest, out) =>
    have := readBlock?_size hs
    readBlocks? rest out
termination_by s.size

/-- Decompresses a deflate stream; the bytes after its last block are left. -/
def inflate? (bytes : Bytes) : Option (Bytes × Bytes) :=
  (readBlocks? (Bits.ofBytes bytes) #[]).map fun p => (p.2.toList, p.1.align)

end Collector.Gzip.Deflate
