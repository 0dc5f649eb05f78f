import Mathlib.Tactic
import Mathlib.Data.Nat.Digits.Defs
import Mathlib.Data.String.Basic
import Collector.Text.Decimal

/-!
# Digit fields and numerals

The parts of a timestamp of `harvest-source` are fields.  A field is a decimal number of a
fixed width (`Decimal.Field`).  Fields of one width compare as texts the way their numbers
compare.  A numeral has digits of any number, after at most one plus sign
(`Decimal.Denotes`).

Main statements:

* `Field.append_lt_append_iff`: texts that begin with fields of one width compare
  by these fields first.
* `Field.readDigits?`: a field reads back.
* `read?_eq_some_iff`: the texts that are read as a number are its numerals, if the
  number fits.
* `digits_eq_iff`: the one run of digits without zeros in front that writes a number.
-/

namespace Collector.Decimal

/-! ## Values -/

theorem foldl_value (a : ℕ) (cs : List Char) :
    cs.foldl (fun n c => n * 10 + digitValue c) a = a * 10 ^ cs.length + value cs := by
  induction cs generalizing a with
  | nil => simp [value]
  | cons c cs ih =>
    rw [value, List.foldl_cons, List.foldl_cons, ih, ih, List.length_cons]
    ring

theorem value_cons (c : Char) (cs : List Char) :
    value (c :: cs) = digitValue c * 10 ^ cs.length + value cs := by
  rw [value, List.foldl_cons, foldl_value]
  ring

theorem digitValue_lt {c : Char} (h : isDigit c = true) : digitValue c < 10 := by
  simp only [isDigit, Bool.and_eq_true, decide_eq_true_eq] at h
  simp only [digitValue]
  omega

theorem value_lt {cs : List Char} (h : cs.all isDigit) : value cs < 10 ^ cs.length := by
  induction cs with
  | nil => simp [value]
  | cons c cs ih =>
    simp only [List.all_cons, Bool.and_eq_true] at h
    have hc := digitValue_lt h.1
    have hcs := ih h.2
    rw [value_cons, List.length_cons, pow_succ]
    calc digitValue c * 10 ^ cs.length + value cs
        < digitValue c * 10 ^ cs.length + 10 ^ cs.length := by omega
      _ = (digitValue c + 1) * 10 ^ cs.length := by ring
      _ ≤ 10 * 10 ^ cs.length := Nat.mul_le_mul_right _ hc
      _ = 10 ^ cs.length * 10 := by ring

/-! ## Order -/

theorem char_lt_iff_digitValue_lt {c d : Char} (hc : isDigit c = true) (hd : isDigit d = true) :
    c < d ↔ digitValue c < digitValue d := by
  simp only [isDigit, Bool.and_eq_true, decide_eq_true_eq] at hc hd
  have h : c < d ↔ c.toNat < d.toNat := Iff.rfl
  rw [h]
  simp only [digitValue]
  omega

theorem char_eq_of_digitValue_eq {c d : Char} (hc : isDigit c = true) (hd : isDigit d = true)
    (h : digitValue c = digitValue d) : c = d := by
  rcases lt_trichotomy c d with hlt | heq | hlt
  · have := (char_lt_iff_digitValue_lt hc hd).1 hlt
    omega
  · exact heq
  · have := (char_lt_iff_digitValue_lt hd hc).1 hlt
    omega

/-- Digits of one number compare before what follows them. -/
theorem digits_append_lt_iff {xs ys r s : List Char} (hlen : xs.length = ys.length)
    (hx : xs.all isDigit) (hy : ys.all isDigit) :
    xs ++ r < ys ++ s ↔ value xs < value ys ∨ value xs = value ys ∧ r < s := by
  induction xs generalizing ys with
  | nil =>
    obtain rfl : ys = [] := List.length_eq_zero_iff.1 hlen.symm
    simp
  | cons x xs ih =>
    obtain - | ⟨y, ys⟩ := ys
    · simp at hlen
    simp only [List.length_cons, Nat.add_right_cancel_iff] at hlen
    simp only [List.all_cons, Bool.and_eq_true] at hx hy
    have hvx := value_lt hx.2
    have hvy := value_lt hy.2
    rw [← hlen] at hvy
    rw [List.cons_append, List.cons_append, List.cons_lt_cons_iff, ih hlen hx.2 hy.2, value_cons,
      value_cons, ← hlen, char_lt_iff_digitValue_lt hx.1 hy.1]
    rcases lt_trichotomy (digitValue x) (digitValue y) with hlt | heq | hlt
    · have : (digitValue x + 1) * 10 ^ xs.length ≤ digitValue y * 10 ^ xs.length :=
        Nat.mul_le_mul_right _ hlt
      rw [Nat.add_mul] at this
      exact iff_of_true (.inl hlt) (.inl (by omega))
    · rw [char_eq_of_digitValue_eq hx.1 hy.1 heq]
      simp
    · have : (digitValue y + 1) * 10 ^ xs.length ≤ digitValue x * 10 ^ xs.length :=
        Nat.mul_le_mul_right _ hlt
      rw [Nat.add_mul] at this
      refine iff_of_false ?_ (by omega)
      rintro (h | ⟨rfl, -⟩)
      · omega
      · omega

/-! ## Fields -/

/-- The digits `ds` write `n` in this width. -/
structure Field (width n : ℕ) (ds : List Char) : Prop where
  /-- There are as many digits as the field is wide. -/
  length_eq : ds.length = width
  /-- There is nothing but digits. -/
  all_isDigit : ds.all isDigit
  /-- The digits are those of the number. -/
  value_eq : value ds = n

namespace Field

variable {width m n : ℕ} {ds es : List Char}

theorem readDigits? (h : Field width n ds) (hw : 0 < width) : readDigits? ds = some n := by
  have hne : ds ≠ [] := by
    rintro rfl
    have := h.length_eq
    simp at this
    omega
  rw [Decimal.readDigits?, if_pos ⟨hne, h.all_isDigit⟩, h.value_eq]

theorem of_readDigits? (h : Decimal.readDigits? ds = some n) : Field ds.length n ds := by
  rw [Decimal.readDigits?] at h
  split at h
  · rename_i hds
    exact ⟨rfl, hds.2, Option.some.inj h⟩
  · cases h

/-- Texts that begin with fields of one width compare by these fields first. -/
theorem append_lt_append_iff {r s : List Char} (hm : Field width m ds) (hn : Field width n es) :
    ds ++ r < es ++ s ↔ m < n ∨ m = n ∧ r < s := by
  rw [digits_append_lt_iff (hm.length_eq.trans hn.length_eq.symm) hm.all_isDigit hn.all_isDigit,
    hm.value_eq, hn.value_eq]

/-- A field at the end of a text. -/
theorem lt_iff (hm : Field width m ds) (hn : Field width n es) : ds < es ↔ m < n := by
  have h := append_lt_append_iff (r := []) (s := []) hm hn
  simpa using h

end Field

/-! ## Writing fields -/

theorem isDigit_digitChar {d : ℕ} (h : d < 10) :
    isDigit d.digitChar = true ∧ digitValue d.digitChar = d := by
  interval_cases d <;> decide

theorem field_digits (n : ℕ) : Field (digits n).length n (digits n) := by
  induction n using Nat.strong_induction_on with
  | _ n ih =>
    rcases Nat.lt_or_ge n 10 with hlt | hge
    · obtain ⟨hd, hv⟩ := isDigit_digitChar hlt
      rw [digits, Nat.toDigits_of_lt_base hlt]
      exact ⟨rfl, by simp [hd], by simp [hv, value]⟩
    · -- the last digit is written after those of the number without it
      obtain ⟨hd, hv⟩ := isDigit_digitChar (Nat.mod_lt n (by decide : 10 > 0))
      have h := ih (n / 10) (by omega)
      rw [digits] at h ⊢
      rw [Nat.toDigits_of_base_le (by decide) hge]
      refine ⟨rfl, by simp [h.all_isDigit, hd], ?_⟩
      rw [value, List.foldl_append, List.foldl_cons, List.foldl_nil, hv]
      have := h.value_eq
      rw [value] at this
      rw [this]
      omega

theorem value_replicate_zero_append (k : ℕ) (ds : List Char) :
    value (List.replicate k '0' ++ ds) = value ds := by
  induction k with
  | zero => simp
  | succ k ih =>
    rw [List.replicate_succ, List.cons_append, value_cons, ih,
      show digitValue '0' = 0 from by decide]
    omega

theorem length_digits_le {n width : ℕ} (hw : 0 < width) (h : n < 10 ^ width) :
    (digits n).length ≤ width := by
  rw [digits, Nat.length_toDigits_le_iff (by decide) hw]
  exact h

/-! ## Numerals -/

/-- The text is a numeral of `n`: at most one plus sign, and then one digit or more,
the last one for the ones; zeros may come first. -/
def Denotes (s : String) (n : ℕ) : Prop :=
  ∃ sign ds : List Char, s.toList = sign ++ ds ∧ (sign = [] ∨ sign = ['+']) ∧ ds ≠ [] ∧
    (∀ c ∈ ds, '0' ≤ c ∧ c ≤ '9') ∧
    Nat.ofDigits 10 (ds.reverse.map fun c => c.toNat - ('0').toNat) = n

theorem isDigit_iff {c : Char} : isDigit c = true ↔ '0' ≤ c ∧ c ≤ '9' := by
  simp only [isDigit, Bool.and_eq_true, decide_eq_true_eq]
  exact Iff.rfl

theorem value_eq_ofDigits (cs : List Char) :
    value cs = Nat.ofDigits 10 (cs.reverse.map digitValue) := by
  induction cs with
  | nil => rfl
  | cons c cs ih =>
    rw [value_cons, ih, List.reverse_cons, List.map_append, Nat.ofDigits_append,
      List.length_map, List.length_reverse, List.map_singleton, Nat.ofDigits_singleton]
    ring

theorem readDigits?_eq_some_iff {cs : List Char} {n : ℕ} :
    Decimal.readDigits? cs = some n ↔
      cs ≠ [] ∧ (∀ c ∈ cs, '0' ≤ c ∧ c ≤ '9') ∧
        Nat.ofDigits 10 (cs.reverse.map digitValue) = n := by
  simp only [Decimal.readDigits?, Option.ite_none_right_eq_some, List.all_eq_true, isDigit_iff,
    Option.some.injEq, value_eq_ofDigits, and_assoc]

/-- The one character that is dropped is no digit, so that a text has one reading. -/
theorem dropPlus_eq_iff {cs ds : List Char} (hdigits : ∀ c ∈ ds, '0' ≤ c ∧ c ≤ '9') :
    dropPlus cs = ds ↔ ∃ sign, cs = sign ++ ds ∧ (sign = [] ∨ sign = ['+']) := by
  constructor
  · rintro rfl
    unfold dropPlus
    split
    · exact ⟨['+'], rfl, .inr rfl⟩
    · exact ⟨[], rfl, .inl rfl⟩
  · rintro ⟨sign, rfl, rfl | rfl⟩
    · unfold dropPlus
      split
      · rename_i rest heq
        rw [List.nil_append] at heq
        exact absurd (hdigits '+' (heq ▸ List.mem_cons_self)).1 (by decide)
      · rfl
    · rfl

/-- The texts that are read as a number are its numerals, if the number fits. -/
theorem read?_eq_some_iff {width n : ℕ} {s : String} :
    read? width s = some n ↔ Denotes s n ∧ n < 2 ^ width := by
  rw [read?]
  constructor
  · intro h
    split at h
    · rename_i m hm
      rw [Option.ite_none_right_eq_some] at h
      obtain ⟨hfits, hmn⟩ := h
      obtain rfl := Option.some.inj hmn
      obtain ⟨hne, hdigits, hvalue⟩ := readDigits?_eq_some_iff.1 hm
      obtain ⟨sign, htext, hsign⟩ := (dropPlus_eq_iff hdigits).1 rfl
      exact ⟨⟨sign, _, htext, hsign, hne, hdigits, hvalue⟩, hfits⟩
    · cases h
  · rintro ⟨⟨sign, ds, htext, hsign, hne, hdigits, hvalue⟩, hfits⟩
    have hdrop : dropPlus s.toList = ds := (dropPlus_eq_iff hdigits).2 ⟨sign, htext, hsign⟩
    have hread : Decimal.readDigits? ds = some n :=
      readDigits?_eq_some_iff.2 ⟨hne, hdigits, hvalue⟩
    rw [hdrop]
    simp only [hread]
    exact if_pos hfits

/-- What is written is a numeral. -/
theorem denotes_ofNat (n : ℕ) : Denotes (ofNat n) n := by
  have hfield := field_digits n
  have hne : 0 < (digits n).length := by
    rw [digits]
    exact Nat.length_toDigits_pos
  obtain ⟨hne, hdigits, hvalue⟩ := readDigits?_eq_some_iff.1 (hfield.readDigits? hne)
  exact ⟨[], digits n, String.toList_ofList, .inl rfl, hne, hdigits, hvalue⟩

/-! ## Digits without zeros in front -/

/-- Runs of digits of one length are told apart by their numbers. -/
theorem eq_of_value_eq {xs ys : List Char} (hlen : xs.length = ys.length) (hx : xs.all isDigit)
    (hy : ys.all isDigit) (h : value xs = value ys) : xs = ys := by
  have hlt := digits_append_lt_iff (r := []) (s := []) hlen hx hy
  have hgt := digits_append_lt_iff (r := []) (s := []) hlen.symm hy hx
  simp only [List.append_nil, h, lt_self_iff_false, and_false, or_self, iff_false] at hlt hgt
  rcases lt_trichotomy xs ys with hlt' | heq | hgt'
  · exact absurd hlt' hlt
  · exact heq
  · exact absurd hgt' hgt

theorem pow_le_value {c : Char} {cs : List Char} (hc : isDigit c = true) (hzero : c ≠ '0') :
    10 ^ cs.length ≤ value (c :: cs) := by
  have hpos : digitValue '0' < digitValue c :=
    (char_lt_iff_digitValue_lt rfl hc).1 (lt_of_le_of_ne (isDigit_iff.1 hc).1 hzero.symm)
  rw [value_cons]
  calc 10 ^ cs.length ≤ digitValue c * 10 ^ cs.length :=
        Nat.le_mul_of_pos_left _ (Nat.zero_lt_of_lt hpos)
    _ ≤ digitValue c * 10 ^ cs.length + value cs := Nat.le_add_right _ _

/-- A zero comes first only where it is the whole number. -/
theorem length_digits_of_head? {n : ℕ} (h : (digits n).head? = some '0') :
    (digits n).length = 1 := by
  obtain ⟨cs, hcs⟩ := List.head?_eq_some_iff.1 h
  have hfield := field_digits n
  have hall := hfield.all_isDigit
  have hvalue := hfield.value_eq
  rw [hcs, List.all_cons, Bool.and_eq_true] at hall
  rw [hcs, ← List.singleton_append, ← List.replicate_one, value_replicate_zero_append] at hvalue
  have hlt := value_lt hall.2
  rw [hvalue] at hlt
  by_contra hlength
  have hlength' : (digits n).length = cs.length + 1 := by rw [hcs, List.length_cons]
  have hle := length_digits_le (show 0 < cs.length by omega) hlt
  omega

/-- The one run of digits without zeros in front that writes a number. -/
theorem digits_eq_iff {n : ℕ} {cs : List Char} :
    digits n = cs ↔ (cs ≠ [] ∧ cs.all isDigit ∧ (cs.head? = some '0' → cs.length = 1)) ∧
      value cs = n := by
  constructor
  · rintro rfl
    have hfield := field_digits n
    refine ⟨⟨?_, hfield.all_isDigit, length_digits_of_head?⟩, hfield.value_eq⟩
    exact List.ne_nil_of_length_pos Nat.length_toDigits_pos
  · rintro ⟨⟨hne, hdigits, hzero⟩, rfl⟩
    have hfield := field_digits (value cs)
    refine eq_of_value_eq ?_ hfield.all_isDigit hdigits hfield.value_eq
    refine le_antisymm (length_digits_le (List.length_pos_iff.2 hne) (value_lt hdigits)) ?_
    obtain ⟨c, cs, rfl⟩ := List.exists_cons_of_ne_nil hne
    by_cases hc : c = '0'
    · rw [hzero (congrArg some hc)]
      exact Nat.length_toDigits_pos
    · rw [List.all_cons, Bool.and_eq_true] at hdigits
      have hlt := value_lt hfield.all_isDigit
      rw [hfield.value_eq] at hlt
      exact (Nat.pow_lt_pow_iff_right (by decide : 1 < 10)).1
        ((pow_le_value hdigits.1 hc).trans_lt hlt)

end Collector.Decimal
