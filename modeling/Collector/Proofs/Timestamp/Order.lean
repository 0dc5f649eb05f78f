import Collector.Proofs.Calendar.Order
import Collector.Proofs.Text.Decimal
import Collector.Timestamp

/-!
# The order of timestamps

The sources of `harvest-source` compare timestamps as texts.  In the plain template,
nineteen characters without a sign (`Timestamp.Plain`), that order is the order in time,
and the timestamp one second later is the least one that is greater: what a cursor skips
that is moved there are the records up to the old timestamp, and nothing else.

Main statements:

* `Writes.lt_iff_before`: texts compare like the moments that they write.
* `Plain.exists_nextSecond`: before the last second there is a next timestamp, and
  what is less than it is not greater than this one.
-/

namespace Collector.Timestamp

open Decimal (Field)

/-! ## Plain timestamps -/

/-- The characters `cs` write the moment `m`: fields of fixed width, and one
character between two of them. -/
def Writes (m : Moment) (cs : List Char) : Prop :=
  ∃ ys mos ds hs mis ss : List Char, ∃ year : ℕ,
    cs = ys ++ '-' :: (mos ++ '-' :: (ds ++ ' ' :: (hs ++ ':' :: (mis ++ ':' :: ss)))) ∧
      m.year = year ∧ Field 4 year ys ∧ Field 2 m.month mos ∧ Field 2 m.day ds ∧
      Field 2 m.hour hs ∧ Field 2 m.minute mis ∧ Field 2 m.second ss

/-- A timestamp in the plain template `YYYY-MM-DD hh:mm:ss`, without a sign, of a
moment that exists. -/
def Plain (s : String) : Prop := ∃ m : Moment, fields? s.toList = some m ∧ m.Valid

instance (s : String) : Decidable (Plain s) :=
  match h : fields? s.toList with
  | none => isFalse fun ⟨m, hm, _⟩ => by rw [h] at hm; cases hm
  | some m => decidable_of_iff m.Valid
      ⟨fun hv => ⟨m, h, hv⟩, fun ⟨m', hm, hv⟩ => Option.some.inj (h.symm.trans hm) ▸ hv⟩

/-- The last timestamp of the template. -/
def last : String := "9999-12-31 23:59:59"

/-! ## Reading and writing -/

theorem writes_of_fields? {cs : List Char} {m : Moment} (h : fields? cs = some m) :
    Writes m cs := by
  unfold fields? at h
  split at h
  · split at h
    · rename_i y mo d hr mi s hy hmo hd hhr hmi hs
      cases h
      exact ⟨_, _, _, _, _, _, y, rfl, rfl, .of_readDigits? hy, .of_readDigits? hmo,
        .of_readDigits? hd, .of_readDigits? hhr, .of_readDigits? hmi, .of_readDigits? hs⟩
    · cases h
  · cases h

theorem fields?_of_writes {cs : List Char} {m : Moment} (h : Writes m cs) :
    fields? cs = some m := by
  obtain ⟨ys, mos, ds, hs, mis, ss, year, rfl, hyear, hy, hmo, hd, hh, hmi, hsec⟩ := h
  obtain ⟨y1, y2, y3, y4, rfl⟩ := List.length_eq_four.1 hy.length_eq
  obtain ⟨mo1, mo2, rfl⟩ := List.length_eq_two.1 hmo.length_eq
  obtain ⟨d1, d2, rfl⟩ := List.length_eq_two.1 hd.length_eq
  obtain ⟨h1, h2, rfl⟩ := List.length_eq_two.1 hh.length_eq
  obtain ⟨mi1, mi2, rfl⟩ := List.length_eq_two.1 hmi.length_eq
  obtain ⟨s1, s2, rfl⟩ := List.length_eq_two.1 hsec.length_eq
  simp only [List.cons_append, List.nil_append, fields?, hy.readDigits? (by decide),
    hmo.readDigits? (by decide), hd.readDigits? (by decide), hh.readDigits? (by decide),
    hmi.readDigits? (by decide), hsec.readDigits? (by decide), ← hyear]

theorem field_padded {width n : ℕ} (hw : 0 < width) (h : n < 10 ^ width) :
    Field width n (padded width n) := by
  have hlen := Decimal.length_digits_le hw h
  have hdigits := Decimal.field_digits n
  refine ⟨?_, ?_, ?_⟩
  · simp only [padded, List.length_append, List.length_replicate]
    omega
  · simp only [padded, List.all_append, hdigits.all_isDigit, Bool.and_true, List.all_replicate]
    split <;> decide
  · rw [padded, Decimal.value_replicate_zero_append, hdigits.value_eq]

theorem daysInMonth_le (year : ℤ) (month : ℕ) : Moment.daysInMonth year month ≤ 31 := by
  unfold Moment.daysInMonth
  split_ifs <;> omega

/-- What is written behind the sign is the moment of the year without its sign. -/
theorem writes_unsignedChars {m : Moment} (hm : m.Valid) :
    Writes { m with year := m.year.natAbs } (unsignedChars m) := by
  obtain ⟨⟨hy1, hy2⟩, ⟨-, hm12⟩, ⟨-, hd⟩, hh, hmi, hs⟩ := hm
  have hdays := daysInMonth_le m.year m.month
  simp only [Moment.firstYear, Moment.lastYear] at hy1 hy2
  have hnat : m.year.natAbs < 10 ^ 4 := by omega
  have htwo : ∀ n : ℕ, n < 60 → Field 2 n (padded 2 n) := fun n hn =>
    field_padded (by decide) (by omega)
  exact ⟨_, _, _, _, _, _, m.year.natAbs, rfl, rfl, field_padded (by decide) hnat,
    htwo m.month (by omega), htwo m.day (by omega), htwo m.hour (by omega), htwo m.minute hmi,
    htwo m.second hs⟩

theorem writes_chars {m : Moment} (hm : m.Valid) (hy : 0 ≤ m.year) : Writes m (chars m) := by
  have hwrites := writes_unsignedChars hm
  rw [Int.natAbs_of_nonneg hy] at hwrites
  rw [chars, if_neg (not_lt.2 hy)]
  exact hwrites

theorem Writes.year_nonneg {m : Moment} {cs : List Char} (h : Writes m cs) : 0 ≤ m.year := by
  obtain ⟨-, -, -, -, -, -, year, -, hyear, -⟩ := h
  omega

/-- The first character of a written moment is a digit, so that no sign is read. -/
theorem signed?_of_writes {m : Moment} {cs : List Char} (h : Writes m cs) :
    signed? cs = some m := by
  rw [← fields?_of_writes h]
  obtain ⟨ys, mos, ds, hs, mis, ss, year, rfl, -, hy, -⟩ := h
  obtain ⟨y1, y2, y3, y4, rfl⟩ := List.length_eq_four.1 hy.length_eq
  have hd : Decimal.isDigit y1 = true := by
    have := hy.all_isDigit
    simp only [List.all_cons, Bool.and_eq_true] at this
    exact this.1
  simp only [List.cons_append]
  unfold signed?
  split
  · rename_i heq
    rw [(List.cons.inj heq).1] at hd
    exact absurd hd (by decide)
  · rename_i heq
    rw [(List.cons.inj heq).1] at hd
    exact absurd hd (by decide)
  · rfl

theorem read?_of_fields? {s : String} {m : Moment} (h : fields? s.toList = some m)
    (hm : m.Valid) : read? s = some m := by
  rw [read?, ofChars?, signed?_of_writes (writes_of_fields? h)]
  simp only [if_pos hm]

/-! ## Order -/

/-- Texts of the template compare like the moments that they write. -/
theorem Writes.lt_iff_before {a b : Moment} {as bs : List Char} (ha : Writes a as)
    (hb : Writes b bs) : as < bs ↔ a.Before b := by
  obtain ⟨ys, mos, ds, hs, mis, ss, year, rfl, hyear, hy, hmo, hd, hh, hmi, hsec⟩ := ha
  obtain ⟨ys', mos', ds', hs', mis', ss', year', rfl, hyear', hy', hmo', hd', hh', hmi', hsec'⟩ :=
    hb
  have hcons : ∀ (c : Char) (u v : List Char), c :: u < c :: v ↔ u < v := fun c u v =>
    List.cons_lt_cons_self
  simp only [hy.append_lt_append_iff hy', hmo.append_lt_append_iff hmo',
    hd.append_lt_append_iff hd', hh.append_lt_append_iff hh', hmi.append_lt_append_iff hmi',
    hsec.lt_iff hsec', hcons, Moment.Before, hyear, hyear', Nat.cast_lt, Nat.cast_inj]

theorem lt_iff_before {s t : String} {a b : Moment} (hs : fields? s.toList = some a)
    (ht : fields? t.toList = some b) : s < t ↔ a.Before b := by
  rw [String.lt_iff_toList_lt]
  exact (writes_of_fields? hs).lt_iff_before (writes_of_fields? ht)

/-- No plain timestamp is empty. -/
theorem Plain.ne_empty {s : String} (h : Plain s) : s ≠ "" := by
  rintro rfl
  obtain ⟨m, hm, -⟩ := h
  rw [show fields? "".toList = none from by decide] at hm
  cases hm

/-- A moment is written in one way. -/
theorem Writes.eq {m : Moment} {as bs : List Char} (ha : Writes m as) (hb : Writes m bs) :
    as = bs := by
  have hself : ¬ m.Before m := by
    simp only [Moment.Before]
    omega
  rcases lt_trichotomy as bs with hlt | heq | hlt
  · exact absurd ((ha.lt_iff_before hb).1 hlt) hself
  · exact heq
  · exact absurd ((hb.lt_iff_before ha).1 hlt) hself

/-- A moment has one plain timestamp. -/
theorem eq_of_fields? {s t : String} {m : Moment} (hs : fields? s.toList = some m)
    (ht : fields? t.toList = some m) : s = t :=
  String.toList_inj.1 ((writes_of_fields? hs).eq (writes_of_fields? ht))

/-! ## The next second -/

theorem plain_render {m : Moment} (hm : m.Valid) (hy : 0 ≤ m.year) :
    fields? (render m).toList = some m := by
  rw [render, String.toList_ofList]
  exact fields?_of_writes (writes_chars hm hy)

/-- Before the last second there is a next timestamp; it is the least plain one
that is greater. -/
theorem Plain.exists_nextSecond {s : String} (h : Plain s) (hlast : s ≠ last) :
    ∃ n, nextSecond s = .ok n ∧ Plain n ∧ ∀ t, Plain t → (t < n ↔ t ≤ s) := by
  obtain ⟨m, hs, hm⟩ := h
  have hne : m ≠ Moment.last := by
    rintro rfl
    exact hlast (eq_of_fields? hs (by decide : fields? last.toList = some Moment.last))
  obtain ⟨n, hn⟩ := Moment.exists_next? hm hne
  have hvalid := Moment.valid_next? hm hn
  have hyear : 0 ≤ n.year := by
    have hy := (writes_of_fields? hs).year_nonneg
    have hle : ¬ n.Before m := by
      rw [Moment.before_iff_instant_lt hvalid hm, Moment.instant_next? hm hn]
      omega
    simp only [Moment.Before, not_or] at hle
    omega
  have hrender := plain_render hvalid hyear
  refine ⟨render n, ?_, ⟨n, hrender, hvalid⟩, ?_⟩
  · rw [nextSecond, read?_of_fields? hs hm]
    simp only [hn]
  · rintro t ⟨k, hk, hkv⟩
    rw [lt_iff_before hk hrender, Moment.before_next?_iff hm hkv hn, ← lt_iff_before hs hk, not_lt]

/-- A next timestamp is a plain one, and greater. -/
theorem Plain.of_nextSecond {s n : String} (h : Plain s) (hnext : nextSecond s = .ok n) :
    Plain n ∧ s < n := by
  have hlast : s ≠ last := by
    rintro rfl
    rw [show nextSecond last = .error (.overflow last) from by decide] at hnext
    cases hnext
  obtain ⟨k, hk, hplain, hlt⟩ := h.exists_nextSecond hlast
  obtain rfl : k = n := Except.ok.inj (hk.symm.trans hnext)
  exact ⟨hplain, (hlt s h).2 le_rfl⟩

end Collector.Timestamp
