import Collector.Json.Fields
import Collector.Proofs.Json.Tree
import Collector.Proofs.Text.Decimal

/-!
# Natural numbers in JSON

A natural number below a power of two, such as an interval in the settings of
`harvest-service`, is written as its decimal digits, and nothing else is read as that
number: no sign, no zeros in front, no fraction and no exponent, not even of a number that
would be whole (`Node.IsNatural`).

Main statements:

* `Literal.ofText?_eq_some_iff`: the text of a literal that keeps a whole number.
* `Node.natural?_eq_some_iff`: what is read as a natural number.
* `Node.isNatural_iff_eq_digits`: the bytes of a value that is.
-/

namespace Collector.Json

open Decimal (digits value)
open Grammar (NumberText Value)

/-! ## Literals -/

/-- A significand keeps all digits where the number that they write fits. -/
theorem extend_eq_iff {s m : ℕ} (hs : s < 2 ^ significandWidth) {ds : List Char} :
    extend s ds = (m, 0) ↔ s * 10 ^ ds.length + value ds = m ∧ m < 2 ^ significandWidth := by
  induction ds generalizing s with
  | nil =>
    simp only [extend, Prod.mk.injEq, and_true, List.length_nil, pow_zero, mul_one]
    exact ⟨fun h => ⟨h, h ▸ hs⟩, fun h => h.1⟩
  | cons d ds ih =>
    have hvalue : s * 10 ^ (d :: ds).length + value (d :: ds) =
        (s * 10 + Decimal.digitValue d) * 10 ^ ds.length + value ds := by
      rw [Decimal.value_cons, List.length_cons, pow_succ]
      ring
    simp only [extend, hvalue]
    split
    · rename_i hlonger
      exact ih hlonger
    · -- a digit is left out, and the number that all digits write is too large
      rename_i hlonger
      simp only [Prod.mk.injEq, Nat.add_eq_zero_iff, one_ne_zero, and_false, false_iff, not_and]
      rintro rfl hfits
      have hle : s * 10 + Decimal.digitValue d ≤
          (s * 10 + Decimal.digitValue d) * 10 ^ ds.length :=
        Nat.le_mul_of_pos_right _ (by positivity)
      exact hlonger (lt_of_le_of_lt (hle.trans (Nat.le_add_right _ _)) hfits)

theorem ofUnsigned?_digits (negative : Bool) {n : ℕ} (h : n < 2 ^ significandWidth) :
    Literal.ofUnsigned? negative (digits n) = some ⟨negative, true, n, 0⟩ := by
  obtain ⟨⟨hne, hdigits, hzero⟩, hvalue⟩ := Decimal.digits_eq_iff.1 (rfl : digits n = digits n)
  have hspan : spanDigits (digits n) = (digits n, []) := by
    have hnone : ∀ c ∈ ([] : List Char).head?, Decimal.isDigit c = false := nofun
    have hsplit := Grammar.spanDigits_append (List.all_eq_true.1 hdigits) hnone
    rwa [List.append_nil] at hsplit
  have hextend : extend 0 (digits n) = (n, 0) := (extend_eq_iff (by decide)).2 (by simp [hvalue, h])
  have hnot : ¬ (digits n = [] ∨ (digits n).head? = some '0' ∧ (digits n).length ≠ 1) := by
    rintro (hnil | ⟨hhead, hlength⟩)
    · exact hne hnil
    · exact hlength (hzero hhead)
  simp [Literal.ofUnsigned?, hspan, hextend, hnot, exponent?]

/-- A literal that keeps a whole number has its digits for a text. -/
theorem eq_digits_of_ofUnsigned? {negative sign : Bool} {cs : List Char} {n : ℕ}
    (h : Literal.ofUnsigned? negative cs = some ⟨sign, true, n, 0⟩) :
    sign = negative ∧ cs = digits n := by
  obtain ⟨hsplit, hdigits⟩ := Grammar.spanDigits_spec cs
  simp only [Literal.ofUnsigned?] at h
  split_ifs at h with hint
  obtain ⟨hne, hzero⟩ := not_or.1 hint
  split at h
  · rename_i rest hrest
    split_ifs at h
    obtain ⟨e, -, heq⟩ := Option.map_eq_some_iff.1 h
    cases heq
  · obtain ⟨e, he, heq⟩ := Option.map_eq_some_iff.1 h
    simp only [Literal.mk.injEq, decide_eq_true_eq] at heq
    obtain ⟨rfl, hrest, hkept, hpower⟩ := heq
    rw [hrest] at he hsplit
    obtain rfl := Option.some.inj he
    have hleft : (extend 0 (spanDigits cs).1).2 = 0 := by omega
    have hvalue := ((extend_eq_iff (by decide)).1 (Prod.ext hkept hleft)).1
    rw [Nat.zero_mul, Nat.zero_add] at hvalue
    rw [List.append_nil] at hsplit
    refine ⟨rfl, hsplit.trans (Decimal.digits_eq_iff.2 ⟨⟨hne, ?_, ?_⟩, hvalue⟩).symm⟩
    · exact List.all_eq_true.2 hdigits
    · exact fun hhead => of_not_not fun hlength => hzero ⟨hhead, hlength⟩

/-- The text of a literal that keeps a whole number. -/
theorem Literal.ofText?_eq_some_iff {n : ℕ} (h : n < 2 ^ significandWidth) {cs : List Char} :
    Literal.ofText? cs = some ⟨false, true, n, 0⟩ ↔ cs = digits n := by
  constructor
  · intro hread
    unfold Literal.ofText? at hread
    split at hread
    · cases (eq_digits_of_ofUnsigned? hread).1
    · exact (eq_digits_of_ofUnsigned? hread).2
  · rintro rfl
    unfold Literal.ofText?
    split
    · rename_i cs heq
      have hdigits := (Decimal.field_digits n).all_isDigit
      rw [heq] at hdigits
      cases hdigits
    · exact ofUnsigned?_digits false h

/-! ## Values -/

theorem render_natural (n : ℕ) : (Number.integer n).render = digits n := by
  have hnat : ¬ ((n : ℤ) < 0) := by omega
  rw [Number.render, Decimal.ofInt, if_neg hnat, Int.natAbs_natCast, Decimal.ofNat,
    String.toList_ofList]

/-- A natural number that a literal keeps is written like a number, and can be read. -/
theorem numeral_natural {n : ℕ} (h : n < 2 ^ significandWidth) :
    (Json.number (.integer n)).Numeral := by
  obtain ⟨⟨hne, hdigits, -⟩, -⟩ := Decimal.digits_eq_iff.1 (rfl : digits n = digits n)
  rw [Numeral, render_natural, (Literal.ofText?_eq_some_iff h).2 rfl]
  refine ⟨?_, rfl⟩
  obtain ⟨c, cs, hcs⟩ := List.exists_cons_of_ne_nil hne
  rw [hcs, List.all_cons, Bool.and_eq_true, List.all_eq_true] at hdigits
  rw [hcs, isNumeralText, hdigits.1, Bool.or_true, Bool.true_and, List.all_eq_true]
  intro d hd
  obtain ⟨hascii, hnumeral⟩ := Token.isNumeralChar_of_isDigit (hdigits.2 d hd)
  rw [decide_eq_true hascii, hnumeral, Bool.true_and]

namespace Node

/-- The tree is a literal of `n` that is whole, and `n` has at most `width` bits. -/
def IsNatural (width : ℕ) (node : Node) (n : ℕ) : Prop :=
  node = .number ⟨false, true, n, 0⟩ ∧ n < 2 ^ width

/-- What is read as a natural number. -/
theorem natural?_eq_some_iff {width n : ℕ} {node : Node} :
    node.natural? width = some n ↔ node.IsNatural width n := by
  cases node with
  | number literal =>
    obtain ⟨negative, whole, significand, power⟩ := literal
    cases negative <;>
      simp [natural?, Literal.natural?, IsNatural, Option.filter_eq_some_iff, and_assoc,
        and_left_comm, and_comm]
  | null | bool | string | array | object => simp [natural?, IsNatural]

/-- The bytes of a value that is read as a natural number are its digits. -/
theorem isNatural_iff_eq_digits {width n : ℕ} (hwidth : width ≤ significandWidth) {node : Node}
    {bytes : Bytes} (h : Value node bytes) :
    node.IsNatural width n ↔ bytes = Utf8.encode (digits n) ∧ n < 2 ^ width := by
  refine and_congr_left fun hfits => ?_
  have hwide : n < 2 ^ significandWidth := hfits.trans_le (Nat.pow_le_pow_right (by decide) hwidth)
  have hdigits := (Literal.ofText?_eq_some_iff hwide).2 rfl
  constructor
  · rintro rfl
    cases h with
    | number _ hliteral => rw [(Literal.ofText?_eq_some_iff hwide).1 hliteral]
  · rintro rfl
    have hvalue : Value (.number ⟨false, true, n, 0⟩) (Utf8.encode (digits n)) :=
      .number (Grammar.isSome_ofText?_iff.1 (Option.isSome_of_eq_some hdigits)) hdigits
    have hread := ofBytes?_eq_some_iff.2 (element_of_value hvalue)
    rw [ofBytes?_eq_some_iff.2 (element_of_value h)] at hread
    exact Option.some.inj hread

/-- A natural number is written as a literal of it. -/
theorem isNatural_tree {width n : ℕ} (hwidth : width ≤ significandWidth) (h : n < 2 ^ width) :
    (Json.number (.integer n)).tree.IsNatural width n := by
  have hwide : n < 2 ^ significandWidth := h.trans_le (Nat.pow_le_pow_right (by decide) hwidth)
  refine ⟨?_, h⟩
  rw [tree, render_natural, (Literal.ofText?_eq_some_iff hwide).2 rfl, Option.getD_some]

end Node

end Collector.Json
