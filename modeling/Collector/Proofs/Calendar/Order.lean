import Mathlib.Tactic
import Collector.Calendar

/-!
# The order of moments

The moments that cursors of `harvest-source` name are ordered field by field, from the
year to the second (`Moment.Before`), and by the number of seconds since the first moment
of year zero (`Moment.instant`).  On moments that exist the two orders agree, and
`Moment.next?` adds exactly one second, so nothing lies between a moment and the next one.

Main statements:

* `before_iff_instant_lt`: the two orders agree.
* `instant_next?`: the next moment is one second later.
* `valid_next?`: the next moment exists.
* `exists_next?`: only the last second has no next moment.
-/

namespace Collector.Moment

/-! ## Two orders -/

/-- The first moment is earlier than the second, field by field. -/
def Before (a b : Moment) : Prop :=
  a.year < b.year ∨ a.year = b.year ∧ (a.month < b.month ∨ a.month = b.month ∧
    (a.day < b.day ∨ a.day = b.day ∧ (a.hour < b.hour ∨ a.hour = b.hour ∧
      (a.minute < b.minute ∨ a.minute = b.minute ∧ a.second < b.second))))

/-- The last moment that a timestamp can name. -/
def last : Moment := ⟨lastYear, 12, 31, 23, 59, 59⟩

theorem before_or_eq_or_before (a b : Moment) : a.Before b ∨ a = b ∨ b.Before a := by
  obtain ⟨y, mo, d, h, mi, s⟩ := a
  obtain ⟨y', mo', d', h', mi', s'⟩ := b
  simp only [Before, mk.injEq]
  omega

/-! ## Days of months and years -/

theorem daysInMonth_pos (year : ℤ) (month : ℕ) : 28 ≤ daysInMonth year month := by
  unfold daysInMonth
  split_ifs <;> omega

theorem daysBeforeMonth_succ (year : ℤ) (k : ℕ) :
    daysBeforeMonth year (k + 2) =
      daysBeforeMonth year (k + 1) + daysInMonth year (k + 1) := by
  simp only [daysBeforeMonth, Nat.add_sub_cancel, show k + 2 - 1 = k + 1 from rfl,
    List.range_succ, List.foldl_append, List.foldl_cons, List.foldl_nil]

theorem daysBeforeMonth_mono (year : ℤ) {j k : ℕ} (h : j ≤ k) :
    daysBeforeMonth year (j + 1) ≤ daysBeforeMonth year (k + 1) := by
  induction k, h using Nat.le_induction with
  | base => exact le_rfl
  | succ k _ ih =>
    rw [daysBeforeMonth_succ]
    omega

/-- A month ends before the next one begins. -/
theorem daysBeforeMonth_add_day_le (year : ℤ) {j k d : ℕ} (hj : 1 ≤ j) (hjk : j < k)
    (hd : d ≤ daysInMonth year j) : daysBeforeMonth year j + d ≤ daysBeforeMonth year k := by
  obtain ⟨i, rfl⟩ : ∃ i, j = i + 1 := ⟨j - 1, by omega⟩
  obtain ⟨l, rfl⟩ : ∃ l, k = l + 1 := ⟨k - 1, by omega⟩
  have hstep := daysBeforeMonth_succ year i
  have hmono : daysBeforeMonth year (i + 2) ≤ daysBeforeMonth year (l + 1) :=
    daysBeforeMonth_mono year (by omega)
  omega

/-- The days of the twelve months are the days of the year. -/
theorem daysBeforeYear_succ (year : ℤ) :
    daysBeforeYear (year + 1) = daysBeforeYear year + daysBeforeMonth year 13 := by
  have hmonths : daysBeforeMonth year 13 = if isLeap year then 366 else 365 := by
    cases h : isLeap year <;> simp [daysBeforeMonth, daysInMonth, h, List.range_succ]
  rw [hmonths]
  simp only [daysBeforeYear, isLeap, ne_eq, decide_not, Bool.and_eq_true, decide_eq_true_eq,
    Bool.or_eq_true, Bool.not_eq_true', decide_eq_false_iff_not]
  split_ifs <;> omega

theorem daysBeforeYear_mono {a b : ℤ} (h : a ≤ b) : daysBeforeYear a ≤ daysBeforeYear b := by
  simp only [daysBeforeYear]
  omega

/-! ## Instants -/

/-- The time of day in seconds. -/
def secondOfDay (m : Moment) : ℕ := m.hour * 3600 + m.minute * 60 + m.second

theorem instant_eq (m : Moment) : m.instant = m.dayNumber * 86400 + m.secondOfDay := by
  simp only [instant, secondOfDay]
  push_cast
  ring

theorem secondOfDay_lt {m : Moment} (h : m.Valid) : m.secondOfDay < 86400 := by
  obtain ⟨-, -, -, hh, hm, hs⟩ := h
  simp only [secondOfDay]
  omega

/-- An earlier date has a smaller day number. -/
theorem dayNumber_lt_of_date {a b : Moment} (ha : a.Valid) (hb : b.Valid)
    (h : a.year < b.year ∨ a.year = b.year ∧ (a.month < b.month ∨ a.month = b.month ∧
      a.day < b.day)) : a.dayNumber < b.dayNumber := by
  obtain ⟨-, ⟨ham1, ham12⟩, ⟨had1, had⟩, -⟩ := ha
  obtain ⟨-, ⟨hbm1, hbm12⟩, ⟨hbd1, hbd⟩, -⟩ := hb
  simp only [dayNumber]
  rcases h with hy | ⟨hy, hm | ⟨hm, hd⟩⟩
  · -- the whole year of `a` is over before that of `b` begins
    have hyear := daysBeforeYear_mono (show a.year + 1 ≤ b.year by omega)
    rw [daysBeforeYear_succ] at hyear
    have hmonth := daysBeforeMonth_add_day_le a.year ham1 (show a.month < 13 by omega) had
    omega
  · have hmonth := daysBeforeMonth_add_day_le a.year ham1 hm had
    rw [← hy]
    omega
  · rw [← hy, ← hm]
    omega

theorem instant_lt_of_before {a b : Moment} (ha : a.Valid) (hb : b.Valid) (h : a.Before b) :
    a.instant < b.instant := by
  have hsa := secondOfDay_lt ha
  rw [instant_eq, instant_eq]
  rcases h with hy | ⟨hy, hm | ⟨hm, hd | ⟨hd, htime⟩⟩⟩
  · have := dayNumber_lt_of_date ha hb (.inl hy)
    omega
  · have := dayNumber_lt_of_date ha hb (.inr ⟨hy, .inl hm⟩)
    omega
  · have := dayNumber_lt_of_date ha hb (.inr ⟨hy, .inr ⟨hm, hd⟩⟩)
    omega
  · obtain ⟨-, -, -, -, ham, has⟩ := ha
    have hday : a.dayNumber = b.dayNumber := by simp only [dayNumber, hy, hm, hd]
    have : a.secondOfDay < b.secondOfDay := by
      simp only [secondOfDay]
      omega
    omega

/-- On moments that exist the order of the fields is the order in time. -/
theorem before_iff_instant_lt {a b : Moment} (ha : a.Valid) (hb : b.Valid) :
    a.Before b ↔ a.instant < b.instant := by
  refine ⟨instant_lt_of_before ha hb, ?_⟩
  intro h
  rcases before_or_eq_or_before a b with hab | rfl | hba
  · exact hab
  · exact absurd h (lt_irrefl _)
  · exact absurd (instant_lt_of_before hb ha hba) (by omega)

/-! ## The next second -/

theorem valid_next? {m n : Moment} (hm : m.Valid) (h : m.next? = some n) : n.Valid := by
  obtain ⟨⟨hy1, hy2⟩, ⟨hm1, hm12⟩, ⟨hd1, hd⟩, hh, hmi, hs⟩ := hm
  have hnext := daysInMonth_pos m.year (m.month + 1)
  have hyear := daysInMonth_pos (m.year + 1) 1
  simp only [next?, nextDay?] at h
  split_ifs at h <;> cases h <;> simp only [Valid, firstYear, lastYear] at * <;> omega

/-- The next moment is one second later. -/
theorem instant_next? {m n : Moment} (hm : m.Valid) (h : m.next? = some n) :
    n.instant = m.instant + 1 := by
  obtain ⟨⟨hy1, hy2⟩, ⟨hm1, hm12⟩, ⟨hd1, hd⟩, hh, hmi, hs⟩ := hm
  simp only [instant_eq, secondOfDay, dayNumber]
  simp only [next?, nextDay?] at h
  split_ifs at h with h1 h2 h3 h4 h5 h6 <;> cases h
  · push_cast; ring
  · push_cast; omega
  · push_cast; omega
  · push_cast; omega
  · -- the last day of a month
    have hstep := daysBeforeMonth_succ m.year (m.month - 1)
    rw [show m.month - 1 + 2 = m.month + 1 by omega, show m.month - 1 + 1 = m.month by omega]
      at hstep
    push_cast [hstep]
    omega
  · -- the last day of a year
    have hmonth : m.month = 12 := by omega
    have hstep := daysBeforeMonth_succ m.year 11
    have hyear := daysBeforeYear_succ m.year
    have hfirst : daysBeforeMonth (m.year + 1) 1 = 0 := rfl
    rw [hmonth] at hd h4 ⊢
    push_cast [hyear, hstep, hfirst] at *
    omega

/-- Only the last second has no next one. -/
theorem exists_next? {m : Moment} (hm : m.Valid) (h : m ≠ last) : ∃ n, m.next? = some n := by
  obtain ⟨⟨hy1, hy2⟩, ⟨hm1, hm12⟩, ⟨hd1, hd⟩, hh, hmi, hs⟩ := hm
  obtain ⟨y, mo, d, hr, mi, s⟩ := m
  rw [← Option.isSome_iff_exists]
  by_contra hnone
  refine h ?_
  simp only [next?, nextDay?] at hnone
  split_ifs at hnone with h1 h2 h3 h4 h5 h6
  all_goals try exact absurd rfl hnone
  simp only [last, mk.injEq, lastYear] at *
  have hmo : mo = 12 := by omega
  subst hmo
  have hdays : daysInMonth y 12 = 31 := rfl
  omega

/-- Nothing lies between a moment and the next one. -/
theorem before_next?_iff {m n k : Moment} (hm : m.Valid) (hk : k.Valid) (h : m.next? = some n) :
    k.Before n ↔ ¬ m.Before k := by
  rw [before_iff_instant_lt hk (valid_next? hm h), before_iff_instant_lt hm hk, instant_next? hm h]
  omega

end Collector.Moment
