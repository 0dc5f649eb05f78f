import Collector.Proofs.Reconcile.Outcome
import Collector.Proofs.Text.ByteOrder
import Collector.Proofs.Timestamp.Successor

/-!
# Timestamps in the order of their bytes

A source of `harvest-source` compares timestamps byte by byte, and a cursor means a moment
in time.  On the plain timestamps of moments (`Timestamp.Dates`) the two orders are one, so
that no plain timestamp lies between that of a moment and that of the next second
(`Timestamp.Adjacent`).  A cursor that is forced on by one second therefore passes over
what a source has up to the old timestamp, and over nothing else.

Main statements:

* `Dates.bytes_lt_iff`: the order of bytes is the order in time.
* `Adjacent.mem_since_iff`: what a cursor leaves that is moved on by one second.
* `bytes_in_time_order`: both, and the cursor that is forced past a page.
-/

namespace Collector.Timestamp

variable {s t next : String} {m n : Moment}

/-! ## Moments and their plain timestamps -/

/-- The text is the plain timestamp of a moment that exists: fields of fixed width, and no sign
before the year. -/
def Dates (s : String) (m : Moment) : Prop := Writes m s.toList ∧ m.Valid

theorem plain_iff_dates : Plain s ↔ ∃ m, Dates s m :=
  exists_congr fun _ => and_congr_left fun _ => ⟨writes_of_fields?, fields?_of_writes⟩

theorem Dates.tells (h : Dates s m) : Tells s m := ⟨.bare h.1, h.2⟩

/-- The moment that a plain timestamp tells is the one that it is the timestamp of. -/
theorem Plain.dates (h : Plain s) (hm : Tells s m) : Dates s m := by
  obtain ⟨n, hn⟩ := plain_iff_dates.1 h
  exact hm.eq hn.tells ▸ hn

/-- The order of bytes is the order in time. -/
theorem Dates.bytes_lt_iff (hm : Dates s m) (hn : Dates t n) :
    bytesOf s < bytesOf t ↔ m.instant < n.instant := by
  rw [bytesOf_lt_iff, String.lt_iff_toList_lt, hm.1.lt_iff_before hn.1,
    Moment.before_iff_instant_lt hm.2 hn.2]

/-! ## The next second -/

/-- The second text is greater, and no plain timestamp lies between the two. -/
structure Adjacent (t next : String) : Prop where
  /-- The next timestamp is greater. -/
  later : bytesOf t < bytesOf next
  /-- No plain timestamp lies between the two. -/
  nothing_between : ∀ u, Plain u → ¬ (bytesOf t < bytesOf u ∧ bytesOf u < bytesOf next)

/-- Between two seconds there is no moment. -/
theorem Dates.adjacent (hm : Dates t m) (hn : Dates next n) (hstep : n.instant = m.instant + 1) :
    Adjacent t next := by
  refine ⟨(hm.bytes_lt_iff hn).2 (by omega), fun u hu => ?_⟩
  obtain ⟨k, hk⟩ := plain_iff_dates.1 hu
  rw [hm.bytes_lt_iff hk, hk.bytes_lt_iff hn]
  omega

/-- Before the last second there is a next one, and its timestamp is plain as well. -/
theorem Dates.exists_nextSecond (hm : Dates t m) (hlast : t ≠ last) :
    ∃ next n, nextSecond t = .ok next ∧ Dates next n ∧ n.instant = m.instant + 1 := by
  obtain ⟨next, hnext, hplain, -⟩ := (plain_iff_dates.2 ⟨m, hm⟩).exists_nextSecond hlast
  obtain ⟨m', n, htells, hrenders, hstep⟩ := nextSecond_eq_ok_iff.1 hnext
  obtain rfl := htells.eq hm.tells
  exact ⟨next, n, hnext, hplain.dates hrenders.tells, hstep⟩

/-! ## What a cursor passes over -/

/-- Of what a source has, a cursor leaves the plain timestamps after the one it was moved on
from. -/
theorem Adjacent.mem_since_iff (h : Adjacent t next) {feed : Feed} {x : Record} (hx : x ∈ feed)
    (hplain : Plain x.timestamp) : x ∈ feed.since next ↔ bytesOf t < bytesOf x.timestamp := by
  rw [Feed.mem_since, and_iff_right hx, bytesOf_lt_iff]
  constructor
  · exact (bytesOf_lt_iff.1 h.later).trans_le
  · intro hlt
    refine not_lt.1 fun hbefore => h.nothing_between _ hplain ⟨?_, ?_⟩
    · exact bytesOf_lt hlt
    · exact bytesOf_lt hbefore

/-- A timestamp that fills a page and has a next second forces the cursor there. -/
theorem exists_forced {previous : Option Checkpoint} {page : Page} {pageSize : ℕ}
    (htied : Tied previous page pageSize t) (hnext : nextSecond t = .ok next) :
    ∃ r, reconcile previous page pageSize = .ok r ∧ r.refreshed = true ∧
      r.checkpoint = some (Checkpoint.initial next) := by
  cases hresult : reconcile previous page pageSize with
  | error e =>
    obtain ⟨t', htied', herror⟩ := exists_tied_of_error hresult
    rw [htied'.eq htied, hnext] at herror
    cases herror
  | ok r =>
    have hfits := reconciles_of_reconcile hresult
    obtain ⟨next', hnext', hcheckpoint⟩ := hfits.forced t htied
    rw [hnext, Except.ok.injEq] at hnext'
    exact ⟨r, rfl, hfits.refreshed_iff.2 ⟨t, htied⟩, hnext' ▸ hcheckpoint⟩

/-- Timestamps in the order of their bytes.  Plain timestamps are ordered as the moments are that
they are the timestamps of.  Each of them but the last has a next second, which is plain as well
and greater, and no plain timestamp lies between the two: of what a source has, a cursor there
passes over the records whose moments are not later.  And there a page forces the cursor that the
timestamp fills. -/
theorem bytes_in_time_order :
    (∀ s t m n, Dates s m → Dates t n → (bytesOf s < bytesOf t ↔ m.instant < n.instant)) ∧
    ∀ t m, Dates t m → t ≠ last → ∃ next n,
      nextSecond t = .ok next ∧ Dates next n ∧ n.instant = m.instant + 1 ∧ Adjacent t next ∧
      (∀ (feed : Feed), ∀ x ∈ feed, ∀ k, Dates x.timestamp k →
        (x ∉ feed.since next ↔ k.instant ≤ m.instant)) ∧
      ∀ previous page pageSize, Tied previous page pageSize t →
        ∃ r, reconcile previous page pageSize = .ok r ∧ r.refreshed = true ∧
          r.checkpoint = some (Checkpoint.initial next) := by
  refine ⟨fun s t m n hm hn => hm.bytes_lt_iff hn, fun t m hm hlast => ?_⟩
  obtain ⟨next, n, hnext, hn, hstep⟩ := hm.exists_nextSecond hlast
  have hadjacent := hm.adjacent hn hstep
  refine ⟨next, n, hnext, hn, hstep, hadjacent, fun feed x hx k hk => ?_,
    fun previous page pageSize htied => exists_forced htied hnext⟩
  rw [hadjacent.mem_since_iff hx (plain_iff_dates.2 ⟨k, hk⟩), hm.bytes_lt_iff hk, not_lt]

/-- The last second before a leap day fills a page of two: the cursor is forced to the leap day,
and a record of that day is left, which the day before is behind. -/
theorem bytes_in_time_order_leapDay :
    let t := "2016-02-28 23:59:59"
    let next := "2016-02-29 00:00:00"
    let page := Page.ofRecords [Record.plain "b" t, Record.plain "c" t]
    let feed : Feed := [Record.plain "a" t, Record.plain "d" next]
    bytesOf t < bytesOf next ∧ nextSecond t = .ok next ∧
      (∃ r, reconcile (some (.ofCursor t ["a"])) page 2 = .ok r ∧
        r.checkpoint = some (Checkpoint.initial next)) ∧
      Record.plain "a" t ∉ feed.since next ∧ Record.plain "d" next ∈ feed.since next := by
  intro t next page feed
  have ht : Dates t ⟨2016, 2, 28, 23, 59, 59⟩ := ⟨writes_of_fields? (by decide), by decide⟩
  have hn : Dates next ⟨2016, 2, 29, 0, 0, 0⟩ := ⟨writes_of_fields? (by decide), by decide⟩
  have htied : Tied (some (.ofCursor t ["a"])) page 2 t :=
    ⟨⟨_, rfl, by decide⟩, by decide, rfl, ⟨_, rfl, rfl⟩, ⟨_, rfl, rfl⟩⟩
  have hnext : nextSecond t = .ok next := by decide
  obtain ⟨horder, hsecond⟩ := bytes_in_time_order
  obtain ⟨next', n, hnext', hn', -, -, hpasses, hforced⟩ := hsecond t _ ht (by decide)
  obtain rfl : next' = next := Except.ok.inj (hnext'.symm.trans hnext)
  obtain ⟨r, hr, -, hcheckpoint⟩ := hforced _ page 2 htied
  refine ⟨(horder _ _ _ _ ht hn).2 (by decide), hnext, ⟨r, hr, hcheckpoint⟩, ?_, ?_⟩
  · exact (hpasses feed _ (List.mem_cons_self ..) _ ht).2 le_rfl
  · by_contra hpassed
    have hle := (hpasses feed _ (List.mem_cons_of_mem _ (List.mem_singleton_self _)) _ hn).1 hpassed
    exact absurd hle (by decide)

end Collector.Timestamp
