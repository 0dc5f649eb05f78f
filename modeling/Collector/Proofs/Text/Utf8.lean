import Mathlib.Tactic
import Collector.Text.Utf8

/-!
# UTF-8 text is read back

The texts of `harvest-model` are stored as UTF-8.  The bytes of a character tell where it
ends, so that a text is read back one character at a time, whatever follows.

Main statements:

* `decode?_encode`: the bytes of a text are read as that text.
* `textOf?_bytesOf`: the same for strings.
* `mem_encodeChar`: a byte below 128 stands for itself.
* `decode?_eq_some_iff`: no other bytes are read as that text.
-/

namespace Collector

namespace Utf8

theorem toNat_ofNat_of_lt {n : ℕ} (h : n < 256) : (UInt8.ofNat n).toNat = n := by
  rw [UInt8.toNat_ofNat']
  exact Nat.mod_eq_of_lt h

theorem toNat_lt (c : Char) : c.toNat < 0x110000 := by
  have h := c.valid
  simp only [UInt32.isValidChar, Nat.isValidChar] at h
  show c.val.toNat < _
  omega

/-- A continuation byte gives its six bits back. -/
theorem tail?_ofNat {y : ℕ} (h : y < 64) : tail? (UInt8.ofNat (0x80 + y)) = some y := by
  rw [tail?, toNat_ofNat_of_lt (by omega), if_pos (by omega), Nat.add_sub_cancel_left]

/-- The number of a character is a scalar value. -/
theorem scalar?_toNat {least : ℕ} {c : Char} (h : least ≤ c.toNat) :
    scalar? least c.toNat = some c := by
  rw [scalar?, if_pos ⟨h, c.valid⟩, Char.ofNat_toNat]

/-- The bytes of a character are read as that character. -/
theorem decodeFrom_encodeChar (read : List Char) (c : Char) (rest : Bytes) :
    decodeFrom read (encodeChar c ++ rest) = decodeFrom (c :: read) rest := by
  have hc := toNat_lt c
  unfold encodeChar
  by_cases h1 : c.toNat < 0x80
  · simp only [if_pos h1, List.cons_append, List.nil_append]
    rw [decodeFrom.eq_def]
    simp only [toNat_ofNat_of_lt (lt_trans h1 (by decide : 0x80 < 256)), if_pos h1,
      Char.ofNat_toNat]
  by_cases h2 : c.toNat < 0x800
  · have hlead : (UInt8.ofNat (0xC0 + c.toNat / 64)).toNat = 0xC0 + c.toNat / 64 :=
      toNat_ofNat_of_lt (by omega)
    have hcode : (0xC0 + c.toNat / 64 - 0xC0) * 64 + c.toNat % 64 = c.toNat := by omega
    simp only [if_neg h1, if_pos h2, List.cons_append, List.nil_append]
    rw [decodeFrom.eq_def]
    simp only [hlead]
    rw [if_neg (by omega), if_neg (by omega), if_pos (by omega)]
    simp only [tail?_ofNat (Nat.mod_lt c.toNat (by decide : 0 < 64)), hcode,
      scalar?_toNat (not_lt.1 h1)]
  by_cases h3 : c.toNat < 0x10000
  · have hlead : (UInt8.ofNat (0xE0 + c.toNat / 4096)).toNat = 0xE0 + c.toNat / 4096 :=
      toNat_ofNat_of_lt (by omega)
    have hcode : ((0xE0 + c.toNat / 4096 - 0xE0) * 64 + c.toNat / 64 % 64) * 64 + c.toNat % 64 =
        c.toNat := by omega
    simp only [if_neg h1, if_neg h2, if_pos h3, List.cons_append, List.nil_append]
    rw [decodeFrom.eq_def]
    simp only [hlead]
    rw [if_neg (by omega), if_neg (by omega), if_neg (by omega),
      if_pos (by omega)]
    simp only [tail?_ofNat (Nat.mod_lt c.toNat (by decide : 0 < 64)),
      tail?_ofNat (Nat.mod_lt (c.toNat / 64) (by decide : 0 < 64)), hcode,
      scalar?_toNat (not_lt.1 h2)]
  · have hlead : (UInt8.ofNat (0xF0 + c.toNat / 262144)).toNat = 0xF0 + c.toNat / 262144 :=
      toNat_ofNat_of_lt (by omega)
    have hcode : (((0xF0 + c.toNat / 262144 - 0xF0) * 64 + c.toNat / 4096 % 64) * 64 +
        c.toNat / 64 % 64) * 64 + c.toNat % 64 = c.toNat := by omega
    simp only [if_neg h1, if_neg h2, if_neg h3, List.cons_append, List.nil_append]
    rw [decodeFrom.eq_def]
    simp only [hlead]
    rw [if_neg (by omega), if_neg (by omega), if_neg (by omega),
      if_neg (by omega)]
    simp only [tail?_ofNat (Nat.mod_lt c.toNat (by decide : 0 < 64)),
      tail?_ofNat (Nat.mod_lt (c.toNat / 64) (by decide : 0 < 64)),
      tail?_ofNat (Nat.mod_lt (c.toNat / 4096) (by decide : 0 < 64)), hcode,
      scalar?_toNat (not_lt.1 h3)]

theorem decodeFrom_encode (read cs : List Char) :
    decodeFrom read (encode cs) = some (read.reverse ++ cs) := by
  induction cs generalizing read with
  | nil =>
    rw [List.append_nil]
    rfl
  | cons c cs ih =>
    show decodeFrom read (encodeChar c ++ encode cs) = _
    rw [decodeFrom_encodeChar, ih, List.reverse_cons, List.append_assoc, List.singleton_append]

/-- The bytes of a text are read as that text. -/
theorem decode?_encode (cs : List Char) : decode? (encode cs) = some cs :=
  decodeFrom_encode [] cs

theorem encode_append (as bs : List Char) : encode (as ++ bs) = encode as ++ encode bs :=
  List.flatMap_append

/-- A character below 128 is one byte. -/
theorem encodeChar_of_lt {c : Char} (h : c.toNat < 0x80) :
    encodeChar c = [UInt8.ofNat c.toNat] := by
  rw [encodeChar]
  exact if_pos h

/-- The other characters have no byte below 128. -/
theorem mem_encodeChar {c : Char} (h : ¬ c.toNat < 0x80) {b : UInt8} (hb : b ∈ encodeChar c) :
    0x80 ≤ b.toNat := by
  have hc := toNat_lt c
  simp only [encodeChar, if_neg h] at hb
  split_ifs at hb
  all_goals
    simp only [List.mem_cons, List.not_mem_nil, or_false] at hb
    rcases hb with rfl | rfl | rfl | rfl
  all_goals
    rw [toNat_ofNat_of_lt (by omega)]
    omega

/-! ## What was read -/

theorem toNat_ofNat_of_isValidChar {n : ℕ} (h : n.isValidChar) : (Char.ofNat n).toNat = n := by
  rw [Char.ofNat, dif_pos h]
  exact Nat.add_zero n

theorem ofNat_toNat_add {b : UInt8} {k m : ℕ} (h : b.toNat = k + m) : UInt8.ofNat (k + m) = b := by
  rw [← h, UInt8.ofNat_toNat]

/-- The byte that six bits were read from. -/
theorem eq_of_tail? {b : UInt8} {y : ℕ} (h : tail? b = some y) :
    y < 64 ∧ UInt8.ofNat (0x80 + y) = b := by
  unfold tail? at h
  split_ifs at h with hb
  obtain rfl := Option.some.inj h
  exact ⟨by omega, ofNat_toNat_add (by omega)⟩

/-- The number that a character was made of. -/
theorem eq_of_scalar? {least n : ℕ} {c : Char} (h : scalar? least n = some c) :
    least ≤ n ∧ c.toNat = n := by
  unfold scalar? at h
  split_ifs at h with hn
  obtain rfl := Option.some.inj h
  exact ⟨hn.1, toNat_ofNat_of_isValidChar hn.2⟩

/-- A character before a text that was read. -/
theorem encode_cons_of_read {read cs : List Char} {c : Char} {bytes rest : Bytes}
    (hchar : encodeChar c = bytes)
    (h : ∃ cs', cs = (c :: read).reverse ++ cs' ∧ rest = encode cs') :
    ∃ cs', cs = read.reverse ++ cs' ∧ bytes ++ rest = encode cs' := by
  obtain ⟨cs', rfl, rfl⟩ := h
  refine ⟨c :: cs', ?_, ?_⟩
  · rw [List.reverse_cons, List.append_assoc, List.singleton_append]
  · rw [← hchar]
    rfl

/-- Bytes that are read as a text are the bytes of that text. -/
theorem encode_of_decodeFrom {read : List Char} {bytes : Bytes} {cs : List Char}
    (h : decodeFrom read bytes = some cs) :
    ∃ cs', cs = read.reverse ++ cs' ∧ bytes = encode cs' := by
  fun_induction decodeFrom read bytes with
  | case1 read => exact ⟨[], by rw [← Option.some.inj h, List.append_nil], rfl⟩
  | case2 read a rest lead hlead ih =>
    have hnumber : (Char.ofNat a.toNat).toNat = a.toNat :=
      toNat_ofNat_of_isValidChar (.inl (by omega))
    have hchar : encodeChar (Char.ofNat a.toNat) = [a] := by
      rw [encodeChar_of_lt (by rw [hnumber]; exact hlead), hnumber, UInt8.ofNat_toNat]
    exact encode_cons_of_read hchar (ih h)
  | case4 read a lead h128 h192 h224 b rest y hy c hc ih =>
    obtain ⟨hy, hb⟩ := eq_of_tail? hy
    obtain ⟨hleast, hnumber⟩ := eq_of_scalar? hc
    have hchar : encodeChar c = [a, b] := by
      have ha : UInt8.ofNat (0xC0 + c.toNat / 64) = a := ofNat_toNat_add (by omega)
      have hlow : c.toNat % 64 = y := by omega
      simp only [encodeChar, ha, hlow, hb]
      rw [if_neg (by omega), if_pos (by omega)]
    exact encode_cons_of_read hchar (ih h)
  | case8 read a lead h128 h192 h224 h240 b b' rest y z hz hy c hc ih =>
    obtain ⟨hy, hb⟩ := eq_of_tail? hy
    obtain ⟨hz, hb'⟩ := eq_of_tail? hz
    obtain ⟨hleast, hnumber⟩ := eq_of_scalar? hc
    have hchar : encodeChar c = [a, b, b'] := by
      have ha : UInt8.ofNat (0xE0 + c.toNat / 4096) = a := ofNat_toNat_add (by omega)
      have hmiddle : c.toNat / 64 % 64 = y := by omega
      have hlow : c.toNat % 64 = z := by omega
      simp only [encodeChar, ha, hmiddle, hlow, hb, hb']
      rw [if_neg (by omega), if_neg (by omega), if_pos (by omega)]
    exact encode_cons_of_read hchar (ih h)
  | case12 read a lead h128 h192 h224 h240 b b' b'' rest x y z hz hy hx c hc ih =>
    obtain ⟨hx, hb⟩ := eq_of_tail? hx
    obtain ⟨hy, hb'⟩ := eq_of_tail? hy
    obtain ⟨hz, hb''⟩ := eq_of_tail? hz
    obtain ⟨hleast, hnumber⟩ := eq_of_scalar? hc
    have hchar : encodeChar c = [a, b, b', b''] := by
      have ha : UInt8.ofNat (0xF0 + c.toNat / 262144) = a := ofNat_toNat_add (by omega)
      have hhigh : c.toNat / 4096 % 64 = x := by omega
      have hmiddle : c.toNat / 64 % 64 = y := by omega
      have hlow : c.toNat % 64 = z := by omega
      simp only [encodeChar, ha, hhigh, hmiddle, hlow, hb, hb', hb'']
      rw [if_neg (by omega), if_neg (by omega), if_neg (by omega)]
    exact encode_cons_of_read hchar (ih h)
  | case3 | case5 | case6 | case7 | case9 | case10 | case11 | case13 | case14 | case15 => cases h

theorem decode?_eq_some_iff {bytes : Bytes} {cs : List Char} :
    decode? bytes = some cs ↔ bytes = encode cs := by
  constructor
  · intro h
    obtain ⟨cs', rfl, rfl⟩ := encode_of_decodeFrom h
    rfl
  · rintro rfl
    exact decode?_encode cs

/-- The bytes of a character tell which one it is. -/
theorem encodeChar_append_inj {c d : Char} {bytes : Bytes} {cs : List Char}
    (h : encodeChar c ++ bytes = encodeChar d ++ encode cs) : c = d ∧ bytes = encode cs := by
  have hread : decodeFrom [] (encodeChar c ++ bytes) = some (d :: cs) := by
    rw [h]
    exact decode?_encode (d :: cs)
  rw [decodeFrom_encodeChar] at hread
  obtain ⟨cs', heq, rfl⟩ := encode_of_decodeFrom hread
  obtain ⟨rfl, rfl⟩ := List.cons.inj heq
  exact ⟨rfl, rfl⟩

/-- A byte that only goes on with a character. -/
def IsTail (b : UInt8) : Prop := 0x80 ≤ b.toNat ∧ b.toNat < 0xC0

/-- The first byte of a character and no other one begins it. -/
theorem exists_encodeChar_eq (c : Char) :
    ∃ b tail, encodeChar c = b :: tail ∧ ¬ IsTail b ∧ ∀ t ∈ tail, IsTail t := by
  have hc := toNat_lt c
  have htail : ∀ n, IsTail (UInt8.ofNat (0x80 + n % 64)) := by
    intro n
    rw [IsTail, toNat_ofNat_of_lt (by omega)]
    omega
  have hlead : ∀ n, n < 0x80 ∨ 0xC0 ≤ n → n < 0x100 → ¬ IsTail (UInt8.ofNat n) := by
    intro n hn hlt h
    rw [IsTail, toNat_ofNat_of_lt hlt] at h
    omega
  unfold encodeChar
  dsimp only
  split_ifs with h1 h2 h3
  · exact ⟨_, _, rfl, hlead _ (.inl h1) (by omega), List.forall_mem_nil _⟩
  · refine ⟨_, _, rfl, hlead _ (.inr (by omega)) (by omega), ?_⟩
    exact List.forall_mem_singleton.2 (htail _)
  · refine ⟨_, _, rfl, hlead _ (.inr (by omega)) (by omega), ?_⟩
    exact List.forall_mem_cons.2 ⟨htail _, List.forall_mem_singleton.2 (htail _)⟩
  · refine ⟨_, _, rfl, hlead _ (.inr (by omega)) (by omega), ?_⟩
    exact List.forall_mem_cons.2 ⟨htail _,
      List.forall_mem_cons.2 ⟨htail _, List.forall_mem_singleton.2 (htail _)⟩⟩

end Utf8

/-- The bytes of a string are read as that string. -/
theorem textOf?_bytesOf (s : String) : textOf? (bytesOf s) = some s := by
  rw [textOf?, bytesOf, Utf8.decode?_encode, Option.map_some, String.ofList_toList]

end Collector
