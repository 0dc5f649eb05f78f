import Collector.Proofs.Timestamp.Order

/-!
# The timestamp one second later

A timestamp of `harvest-source` tells a moment if it is written in the template, with or
without a sign, and the moment exists (`Tells`).  A moment has many such timestamps and
only one that the library writes (`Renders`): a minus sign stands before negative years,
and a plus sign never.  `Timestamp.nextSecond` takes what a timestamp tells to what the
moment one second later renders, over the leap days and through year zero.

Main statements:

* `read?_eq_some_iff`: reading accepts what tells a moment, and nothing else.
* `renders_iff`: a moment renders as one text.
* `nextSeconds_eq_ok_iff`: taking the next second any number of times moves the instant on
  by as many seconds.
* `nextSecond_spec`: the three results of taking the next second.
-/

namespace Collector

namespace Moment

/-! ## Instants and moments -/

/-- At an instant there is one moment. -/
theorem eq_of_instant_eq {a b : Moment} (ha : a.Valid) (hb : b.Valid)
    (h : a.instant = b.instant) : a = b := by
  rcases before_or_eq_or_before a b with hab | heq | hba
  · exact absurd h (ne_of_lt (instant_lt_of_before ha hb hab))
  · exact heq
  · exact absurd h (ne_of_gt (instant_lt_of_before hb ha hba))

/-- After the last moment there is none. -/
theorem instant_le_last {m : Moment} (hm : m.Valid) : m.instant ≤ last.instant := by
  by_cases h : m = last
  · rw [h]
  · have hlast : last.Valid := by decide
    refine (instant_lt_of_before hm hlast ?_).le
    -- nothing that exists comes after the last field values
    refine (before_or_eq_or_before m last).resolve_right ?_
    rintro (heq | hafter)
    · exact h heq
    · obtain ⟨⟨-, hy⟩, ⟨-, hmo⟩, ⟨-, hd⟩, hh, hmi, hs⟩ := hm
      have hdays : daysInMonth m.year m.month ≤ 31 := Timestamp.daysInMonth_le _ _
      simp only [Before, last, lastYear] at hafter hy
      omega

end Moment

namespace Timestamp

/-! ## What a timestamp tells -/

/-- The characters spell a moment in the template, with an optional sign before the year. -/
inductive Spells (m : Moment) : List Char → Prop
  /-- A timestamp may have no sign. -/
  | bare {cs : List Char} (h : Writes m cs) : Spells m cs
  /-- A plus sign says nothing. -/
  | plus {cs : List Char} (h : Writes m cs) : Spells m ('+' :: cs)
  /-- Behind a minus sign stands the year without it. -/
  | minus {cs : List Char} (h : Writes { m with year := -m.year } cs) : Spells m ('-' :: cs)

/-- A text is in the template and spells a moment that exists. -/
def Tells (s : String) (m : Moment) : Prop := Spells m s.toList ∧ m.Valid

theorem signed?_eq_some_iff {cs : List Char} {m : Moment} :
    signed? cs = some m ↔ Spells m cs := by
  constructor
  · intro h
    unfold signed? at h
    split at h
    · obtain ⟨n, hn, rfl⟩ := Option.map_eq_some_iff.1 h
      refine .minus ?_
      simp only [neg_neg]
      exact writes_of_fields? hn
    · exact .plus (writes_of_fields? h)
    · exact .bare (writes_of_fields? h)
  · intro h
    cases h with
    | bare h => exact signed?_of_writes h
    | plus h => exact fields?_of_writes h
    | minus h => simp only [signed?, fields?_of_writes h, Option.map_some, neg_neg]

/-- Reading accepts what tells a moment, and nothing else. -/
theorem read?_eq_some_iff {s : String} {m : Moment} : read? s = some m ↔ Tells s m := by
  rw [read?, ofChars?, Tells, ← signed?_eq_some_iff]
  constructor
  · intro h
    split at h
    · rename_i n hn
      split_ifs at h with hvalid
      obtain rfl := Option.some.inj h
      exact ⟨hn, hvalid⟩
    · cases h
  · rintro ⟨hsigned, hvalid⟩
    simp only [hsigned, if_pos hvalid]

/-- A text tells one moment at most. -/
theorem Tells.eq {s : String} {m n : Moment} (hm : Tells s m) (hn : Tells s n) : m = n :=
  Option.some.inj ((read?_eq_some_iff.2 hm).symm.trans (read?_eq_some_iff.2 hn))

/-! ## How a moment is written -/

/-- The text of a moment: of those that tell it, the one with a minus sign before a
negative year and no other sign. -/
structure Renders (s : String) (m : Moment) : Prop where
  /-- The timestamp tells the moment. -/
  tells : Tells s m
  /-- The timestamp begins with a minus sign exactly if the year is negative. -/
  minus_iff : s.toList.head? = some '-' ↔ m.year < 0
  /-- The timestamp does not begin with a plus sign. -/
  no_plus : s.toList.head? ≠ some '+'

/-- What is written begins with a digit. -/
theorem Writes.head?_ne {m : Moment} {cs : List Char} (h : Writes m cs) {c : Char}
    (hc : Decimal.isDigit c = false) : cs.head? ≠ some c := by
  obtain ⟨ys, mos, ds, hs, mis, ss, year, rfl, -, hy, -⟩ := h
  obtain ⟨y1, y2, y3, y4, rfl⟩ := List.length_eq_four.1 hy.length_eq
  have hdigit := hy.all_isDigit
  simp only [List.all_cons, Bool.and_eq_true] at hdigit
  intro heq
  obtain rfl : y1 = c := Option.some.inj heq
  rw [hdigit.1] at hc
  cases hc

theorem renders_render {m : Moment} (hm : m.Valid) : Renders (render m) m := by
  have hwrites := writes_unsignedChars hm
  have hchars : (render m).toList = chars m := String.toList_ofList
  by_cases hy : m.year < 0
  · have hsigned : chars m = '-' :: unsignedChars m := if_pos hy
    refine ⟨⟨?_, hm⟩, ?_, ?_⟩
    · rw [hchars, hsigned]
      rw [Int.ofNat_natAbs_of_nonpos hy.le] at hwrites
      exact .minus hwrites
    · rw [hchars, hsigned]
      exact iff_of_true rfl hy
    · rw [hchars, hsigned, List.head?_cons]
      decide
  · have hbare : Writes m (chars m) := writes_chars hm (not_lt.1 hy)
    refine ⟨⟨hchars ▸ .bare hbare, hm⟩, ?_, ?_⟩
    · exact iff_of_false (hchars ▸ hbare.head?_ne (by decide)) hy
    · exact hchars ▸ hbare.head?_ne (by decide)

/-- A moment renders as one text. -/
theorem renders_iff {m : Moment} (hm : m.Valid) {s : String} : Renders s m ↔ s = render m := by
  refine ⟨?_, fun h => h ▸ renders_render hm⟩
  rintro ⟨⟨hspells, -⟩, hminus, hplus⟩
  have hchars : s.toList = chars m := by
    generalize s.toList = cs at hspells hminus hplus
    cases hspells with
    | bare h => exact h.eq (writes_chars hm h.year_nonneg)
    | plus h => exact absurd rfl hplus
    | minus h =>
      have hy : m.year < 0 := hminus.1 rfl
      have hwrites := writes_unsignedChars hm
      rw [Int.ofNat_natAbs_of_nonpos hy.le] at hwrites
      rw [chars, if_pos hy, h.eq hwrites]
  rw [render, ← hchars, String.ofList_toList]

/-! ## The next second -/

/-- Taking the next second gives the text of the moment one second later. -/
theorem nextSecond_eq_ok_iff {s t : String} : nextSecond s = .ok t ↔
    ∃ m n, Tells s m ∧ Renders t n ∧ n.instant = m.instant + 1 := by
  constructor
  · intro h
    rw [nextSecond] at h
    split at h
    · cases h
    · rename_i m hm
      split at h
      · cases h
      · rename_i n hn
        obtain rfl := Except.ok.inj h
        have htells := read?_eq_some_iff.1 hm
        exact ⟨m, n, htells, renders_render (Moment.valid_next? htells.2 hn),
          Moment.instant_next? htells.2 hn⟩
  · rintro ⟨m, n, htells, hrenders, hinstant⟩
    have hne : m ≠ Moment.last := by
      rintro rfl
      have := Moment.instant_le_last hrenders.tells.2
      omega
    obtain ⟨n', hn'⟩ := Moment.exists_next? htells.2 hne
    have hsame : n' = n := by
      refine Moment.eq_of_instant_eq (Moment.valid_next? htells.2 hn') hrenders.tells.2 ?_
      rw [Moment.instant_next? htells.2 hn', hinstant]
    rw [nextSecond, read?_eq_some_iff.2 htells]
    simp only [hn', hsame, (renders_iff hrenders.tells.2).1 hrenders]

/-- The timestamp so many seconds later: the next second is taken as often. -/
def nextSeconds : ℕ → String → Except CursorError String
  | 0, s => .ok s
  | k + 1, s =>
    match nextSecond s with
    | .ok t => nextSeconds k t
    | .error e => .error e

/-- Taking the next second any number of times moves the instant on by as many seconds,
as long as there are so many. -/
theorem nextSeconds_eq_ok_iff (k : ℕ) {s t : String} : nextSeconds (k + 1) s = .ok t ↔
    ∃ m n, Tells s m ∧ Renders t n ∧ n.instant = m.instant + (k + 1) := by
  induction k generalizing s with
  | zero =>
    have hone : nextSeconds 1 s = nextSecond s := by
      simp only [nextSeconds]
      cases nextSecond s <;> rfl
    rw [hone, nextSecond_eq_ok_iff]
    simp
  | succ k ih =>
    constructor
    · intro h
      rw [nextSeconds] at h
      split at h
      · rename_i u hu
        obtain ⟨m, n, hm, hn, hstep⟩ := nextSecond_eq_ok_iff.1 hu
        obtain ⟨n', l, hn', hl, hrest⟩ := ih.1 h
        obtain rfl := hn'.eq hn.tells
        refine ⟨m, l, hm, hl, ?_⟩
        rw [hrest, hstep]
        push_cast
        ring
      · cases h
    · rintro ⟨m, l, hm, hl, hinstant⟩
      have hne : m ≠ Moment.last := by
        rintro rfl
        have := Moment.instant_le_last hl.tells.2
        omega
      obtain ⟨n, hn⟩ := Moment.exists_next? hm.2 hne
      have hstep := Moment.instant_next? hm.2 hn
      have hrenders := renders_render (Moment.valid_next? hm.2 hn)
      have hnext : nextSecond s = .ok (render n) :=
        nextSecond_eq_ok_iff.2 ⟨m, n, hm, hrenders, hstep⟩
      rw [nextSeconds, hnext]
      refine ih.2 ⟨n, l, hrenders.tells, hl, ?_⟩
      rw [hinstant, hstep]
      push_cast
      ring

theorem next?_last : Moment.last.next? = none := by decide

/-- The failures: the last second has no next one, and any other text tells no moment. -/
theorem nextSecond_eq_error_iff {s : String} {e : CursorError} : nextSecond s = .error e ↔
    e = .overflow s ∧ Tells s Moment.last ∨ e = .unreadable s ∧ ¬ ∃ m, Tells s m := by
  constructor
  · intro h
    rw [nextSecond] at h
    split at h
    · rename_i hread
      refine .inr ⟨(Except.error.inj h).symm, ?_⟩
      rintro ⟨m, hm⟩
      rw [read?_eq_some_iff.2 hm] at hread
      cases hread
    · rename_i m hm
      have htells := read?_eq_some_iff.1 hm
      split at h
      · rename_i hnone
        refine .inl ⟨(Except.error.inj h).symm, ?_⟩
        by_contra hlast
        have hne : m ≠ Moment.last := fun heq => hlast (heq ▸ htells)
        obtain ⟨n, hn⟩ := Moment.exists_next? htells.2 hne
        rw [hn] at hnone
        cases hnone
      · cases h
  · rintro (⟨rfl, hlast⟩ | ⟨rfl, hnone⟩)
    · rw [nextSecond, read?_eq_some_iff.2 hlast]
      simp only [next?_last]
    · have hread : read? s = none := by
        refine Option.eq_none_iff_forall_ne_some.2 ?_
        intro m hm
        exact hnone ⟨m, read?_eq_some_iff.1 hm⟩
      rw [nextSecond, hread]

/-- The next second of any text.  It exists exactly if the text tells a moment other than
the last one; the last one overflows, and what tells no moment is unreadable.  Taken any
number of times it moves the instant on by as many seconds, and it is written in the one
way in which its moment renders. -/
theorem nextSecond_spec (s : String) :
    ((∃ t, nextSecond s = .ok t) ↔ ∃ m, Tells s m ∧ m ≠ Moment.last) ∧
      (∀ e, nextSecond s = .error e ↔
        e = .overflow s ∧ Tells s Moment.last ∨ e = .unreadable s ∧ ¬ ∃ m, Tells s m) ∧
      (∀ t, nextSecond s = .ok t ↔
        ∃ m n, Tells s m ∧ Renders t n ∧ n.instant = m.instant + 1) ∧
      (∀ k t, nextSeconds (k + 1) s = .ok t ↔
        ∃ m n, Tells s m ∧ Renders t n ∧ n.instant = m.instant + (k + 1)) ∧
      ∀ n : Moment, n.Valid → ∃! t, Renders t n := by
  refine ⟨?_, fun e => nextSecond_eq_error_iff, fun t => nextSecond_eq_ok_iff,
    fun k t => nextSeconds_eq_ok_iff k, ?_⟩
  · constructor
    · rintro ⟨t, ht⟩
      obtain ⟨m, n, hm, hn, hinstant⟩ := nextSecond_eq_ok_iff.1 ht
      refine ⟨m, hm, ?_⟩
      rintro rfl
      have := Moment.instant_le_last hn.tells.2
      omega
    · rintro ⟨m, hm, hne⟩
      obtain ⟨n, hn⟩ := Moment.exists_next? hm.2 hne
      exact ⟨render n, nextSecond_eq_ok_iff.2 ⟨m, n, hm,
        renders_render (Moment.valid_next? hm.2 hn), Moment.instant_next? hm.2 hn⟩⟩
  · intro n hn
    exact ⟨render n, renders_render hn, fun t ht => (renders_iff hn).1 ht⟩

/-- The year before year zero ends where year zero begins, which is a leap year. -/
example : nextSecond "-0001-12-31 23:59:59" = .ok "0000-01-01 00:00:00" ∧
    nextSecond "+0000-02-28 23:59:59" = .ok "0000-02-29 00:00:00" := by
  decide

end Timestamp

end Collector
