import Mathlib.Tactic
import Collector.KeyMap
import Collector.Proofs.Text.Utf8

/-!
# The order of bytes

The texts of `harvest-model` are ordered by their code points.  That is the order of their
bytes as well: the first byte of a character grows with the number of bytes, and behind it
the bits of the code point stand in their order.

Main statements:

* `Utf8.encodeChar_append_lt`: of two characters the smaller one has the smaller bytes, whatever
  follows.
* `bytesOf_lt_iff`: texts have the order of their bytes.
-/

namespace Collector

namespace Utf8

theorem ofNat_lt_ofNat_iff {m n : ℕ} (hm : m < 256) (hn : n < 256) :
    UInt8.ofNat m < UInt8.ofNat n ↔ m < n := by
  rw [UInt8.lt_iff_toNat_lt, toNat_ofNat_of_lt hm, toNat_ofNat_of_lt hn]

theorem ofNat_inj_iff {m n : ℕ} (hm : m < 256) (hn : n < 256) :
    UInt8.ofNat m = UInt8.ofNat n ↔ m = n := by
  rw [← UInt8.toNat_inj, toNat_ofNat_of_lt hm, toNat_ofNat_of_lt hn]

/-- Lists are compared at their heads if these are small numbers. -/
theorem ofNat_cons_lt_iff {m n : ℕ} (hm : m < 256) (hn : n < 256) {xs ys : Bytes} :
    UInt8.ofNat m :: xs < UInt8.ofNat n :: ys ↔ m < n ∨ m = n ∧ xs < ys := by
  rw [List.cons_lt_cons_iff, ofNat_lt_ofNat_iff hm hn, ofNat_inj_iff hm hn]

/-- Of two characters the smaller one has the smaller bytes, whatever follows. -/
theorem encodeChar_append_lt {c d : Char} (h : c < d) (xs ys : Bytes) :
    encodeChar c ++ xs < encodeChar d ++ ys := by
  have hlt : c.toNat < d.toNat := h
  have hc := toNat_lt c
  have hd := toNat_lt d
  unfold encodeChar
  generalize c.toNat = m at hlt hc
  generalize d.toNat = n at hlt hd
  dsimp only
  split_ifs <;> first
    | omega
    | simp only [List.cons_append, List.nil_append]
      repeat rw [ofNat_cons_lt_iff (by omega) (by omega)]
      omega

theorem encode_lt_encode {cs ds : List Char} (h : cs < ds) : encode cs < encode ds := by
  induction ds generalizing cs with
  | nil => exact absurd h (List.not_lt_nil _)
  | cons d ds ih =>
    cases cs with
    | nil =>
      obtain ⟨b, tail, hbytes, -⟩ := exists_encodeChar_eq d
      rw [encode, encode, List.flatMap_nil, List.flatMap_cons, hbytes]
      exact List.nil_lt_cons _ _
    | cons c cs =>
      rw [encode, encode, List.flatMap_cons, List.flatMap_cons]
      rcases List.cons_lt_cons_iff.1 h with hlt | ⟨rfl, hrest⟩
      · exact encodeChar_append_lt hlt _ _
      · exact List.append_left_lt (ih hrest)

end Utf8

theorem bytesOf_lt {a b : String} (h : a < b) : bytesOf a < bytesOf b :=
  Utf8.encode_lt_encode (String.lt_iff.1 h)

/-- Texts have the order of their bytes. -/
theorem bytesOf_lt_iff {a b : String} : bytesOf a < bytesOf b ↔ a < b := by
  refine ⟨fun h => ?_, bytesOf_lt⟩
  by_contra hnot
  rcases Decidable.em (a = b) with rfl | hne
  · exact List.lt_irrefl _ h
  · exact List.lt_asymm h (bytesOf_lt (Entries.lt_of_not_lt_of_ne hnot hne))

end Collector
