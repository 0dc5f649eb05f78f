import Mathlib.Data.List.DropRight
import Collector.Proofs.Reconcile.Refetch

/-!
# What becomes of a page, said at once

Reconciling a page in `harvest-source` goes one of four ways (`ReconcileEnd`), and which
one depends on the checkpoint, on the number of entries that the source sent and on the
two ends of the page.  One description fits them all (`Reconciles`): the records that the
checkpoint does not name are delivered, and the new checkpoint either lies one second
after a timestamp that fills the page (`Tied`) or names the longest end of the page that
has a single timestamp (`EndRun`).  Records may stand in any order and may be repeated.

Main statements:

* `EndRun.eq`: the longest end with a single timestamp is unique.
* `Reconciles.eq`: the description leaves no choice.
* `reconcile_eq_iff`: reconciling a page gives what the description says, and fails only
  where the timestamp that fills the page has no next second.
-/

namespace Collector

/-! ## The description -/

/-- A record was delivered before: it stands at the cursor of the checkpoint, which
names it. -/
def Named (previous : Option Checkpoint) (r : Record) : Prop :=
  ∃ p, previous = some p ∧ r.timestamp = p.cursor ∧ r.id ∈ p.delivered

instance (previous : Option Checkpoint) (r : Record) : Decidable (Named previous r) :=
  match previous with
  | none => isFalse fun ⟨_, h, _⟩ => by cases h
  | some p => decidable_of_iff (r.timestamp = p.cursor ∧ r.id ∈ p.delivered)
      ⟨fun h => ⟨p, rfl, h⟩, fun ⟨_, hp, h⟩ => Option.some.inj hp ▸ h⟩

/-- One timestamp fills the page: after a checkpoint that names records the source sent
as many entries as it was asked for, and the first and the last record share the
timestamp. -/
structure Tied (previous : Option Checkpoint) (page : Page) (pageSize : ℕ) (t : String) :
    Prop where
  /-- The checkpoint names records. -/
  boundary : ∃ p, previous = some p ∧ p.delivered ≠ []
  /-- A page can hold records. -/
  pageSize_ne_zero : pageSize ≠ 0
  /-- The source sent as many entries as it was asked for. -/
  fetched_eq : page.fetched = pageSize
  /-- The first record has the timestamp. -/
  first : ∃ r, page.records.head? = some r ∧ r.timestamp = t
  /-- The last record has the timestamp. -/
  last : ∃ r, page.records.getLast? = some r ∧ r.timestamp = t

/-- The records end with a run that has the timestamp of the last one, and what stands
before the run ends with another timestamp. -/
structure EndRun (records : List Record) (t : String) (run : List Record) : Prop where
  /-- The last record has the timestamp. -/
  last : ∃ r, records.getLast? = some r ∧ r.timestamp = t
  /-- All records of the run have the timestamp. -/
  tied : ∀ r ∈ run, r.timestamp = t
  /-- The run stands at the end and cannot be made longer. -/
  longest : ∃ before, records = before ++ run ∧ ∀ r ∈ before.getLast?, r.timestamp ≠ t

/-- What has to become of a page. -/
structure Reconciles (previous : Option Checkpoint) (page : Page) (pageSize : ℕ)
    (r : Reconciled) : Prop where
  /-- All records that were not delivered before are delivered, in page order. -/
  emit_eq : r.emit = page.records.filter fun x => ¬ Named previous x
  /-- The cursor is forced on exactly if one timestamp fills the page. -/
  refreshed_iff : r.refreshed = true ↔ ∃ t, Tied previous page pageSize t
  /-- A cursor that is forced on goes to the next second, at which nothing was delivered yet. -/
  forced : ∀ t, Tied previous page pageSize t → ∃ next,
    Timestamp.nextSecond t = .ok next ∧ r.checkpoint = some (Checkpoint.initial next)
  /-- A checkpoint whose cursor is not forced on stays exactly if nothing is delivered. -/
  stays_iff : r.refreshed = false → (r.checkpoint = none ↔ r.emit = [])
  /-- A checkpoint that moves names the last timestamp of the page and, last one first,
  the records at the end of the page that have it; each of them is delivered now or was
  delivered before. -/
  moved : r.refreshed = false → ∀ q, r.checkpoint = some q → ∃ run,
    EndRun page.records q.cursor run ∧
      q = Checkpoint.ofCursor q.cursor (run.reverse.map Record.id) ∧
      ∀ x ∈ run, x ∈ r.emit ∨ Named previous x

/-! ## The description leaves no choice -/

theorem Tied.eq {previous : Option Checkpoint} {page : Page} {pageSize : ℕ} {s t : String}
    (hs : Tied previous page pageSize s) (ht : Tied previous page pageSize t) : s = t := by
  obtain ⟨x, hx, rfl⟩ := hs.first
  obtain ⟨y, hy, rfl⟩ := ht.first
  rw [Option.some.inj (hx.symm.trans hy)]

namespace EndRun

variable {records run run' : List Record} {s t : String}

theorem timestamp_eq (h : EndRun records s run) (h' : EndRun records t run') : s = t := by
  obtain ⟨x, hx, rfl⟩ := h.last
  obtain ⟨y, hy, rfl⟩ := h'.last
  rw [Option.some.inj (hx.symm.trans hy)]

/-- A run that reaches further back than another one begins where the other begins. -/
theorem eq_of_append {before before' c : List Record} (htied : ∀ r ∈ run', r.timestamp = t)
    (hend : ∀ r ∈ before.getLast?, r.timestamp ≠ t) (hbefore : before = before' ++ c)
    (hrun : run' = c ++ run) : run = run' := by
  cases hlast : c.getLast? with
  | none =>
    rw [List.getLast?_eq_none_iff.1 hlast, List.nil_append] at hrun
    exact hrun.symm
  | some x =>
    -- the last record before the shorter run belongs to the longer one
    have hx : x ∈ c := List.mem_of_getLast? hlast
    have hmem : x ∈ before.getLast? := by
      rw [hbefore, List.getLast?_append, hlast]
      rfl
    exact absurd (htied x (hrun ▸ List.mem_append_left _ hx)) (hend x hmem)

/-- The longest end with a single timestamp is unique. -/
theorem eq (h : EndRun records t run) (h' : EndRun records t run') : run = run' := by
  obtain ⟨before, hsplit, hend⟩ := h.longest
  obtain ⟨before', hsplit', hend'⟩ := h'.longest
  rcases List.append_eq_append_iff.1 (hsplit.symm.trans hsplit') with
    ⟨c, hbefore, hrun⟩ | ⟨c, hbefore, hrun⟩
  · exact (eq_of_append h.tied hend' hbefore hrun).symm
  · exact eq_of_append h'.tied hend hbefore hrun

end EndRun

/-- Two outcomes that fit the description are the same. -/
theorem Reconciles.eq {previous : Option Checkpoint} {page : Page} {pageSize : ℕ}
    {r s : Reconciled} (hr : Reconciles previous page pageSize r)
    (hs : Reconciles previous page pageSize s) : r = s := by
  have hemit : r.emit = s.emit := hr.emit_eq.trans hs.emit_eq.symm
  have hrefreshed : r.refreshed = s.refreshed :=
    Bool.eq_iff_iff.2 (hr.refreshed_iff.trans hs.refreshed_iff.symm)
  have hcheckpoint : r.checkpoint = s.checkpoint := by
    cases hforced : r.refreshed with
    | true =>
      obtain ⟨t, ht⟩ := hr.refreshed_iff.1 hforced
      obtain ⟨next, hnext, hcheckpoint⟩ := hr.forced t ht
      obtain ⟨next', hnext', hcheckpoint'⟩ := hs.forced t ht
      rw [hcheckpoint, hcheckpoint', Except.ok.inj (hnext.symm.trans hnext')]
    | false =>
      have hforced' : s.refreshed = false := hrefreshed.symm.trans hforced
      cases hq : r.checkpoint with
      | none =>
        have hnil := (hr.stays_iff hforced).1 hq
        exact ((hs.stays_iff hforced').2 (hemit.symm.trans hnil)).symm
      | some q =>
        cases hq' : s.checkpoint with
        | none =>
          have hnil := (hs.stays_iff hforced').1 hq'
          rw [(hr.stays_iff hforced).2 (hemit.trans hnil)] at hq
          cases hq
        | some q' =>
          obtain ⟨run, hrun, hids, -⟩ := hr.moved hforced q hq
          obtain ⟨run', hrun', hids', -⟩ := hs.moved hforced' q' hq'
          have hcursor : q.cursor = q'.cursor := hrun.timestamp_eq hrun'
          rw [← hcursor] at hrun'
          rw [hids, hids', ← hcursor, hrun.eq hrun']
  obtain ⟨emit, checkpoint, refreshed⟩ := r
  obtain ⟨emit', checkpoint', refreshed'⟩ := s
  simp only at hemit hcheckpoint hrefreshed
  rw [hemit, hcheckpoint, hrefreshed]

/-! ## The outcome fits the description -/

namespace Reconciled

theorem fresh_eq_filter (p : Checkpoint) (records : List Record) :
    fresh p records = records.filter fun x => ¬ Named (some p) x := by
  refine List.filter_congr ?_
  intro x _
  have hnamed : Named (some p) x ↔ x.timestamp = p.cursor ∧ x.id ∈ p.delivered :=
    ⟨fun ⟨_, hp, h⟩ => Option.some.inj hp ▸ h, fun h => ⟨p, rfl, h⟩⟩
  simp [committed, hnamed]

/-- What the checkpoint does not name is delivered. -/
theorem mem_filter_or_named {previous : Option Checkpoint} {records : List Record} {x : Record}
    (h : x ∈ records) : x ∈ records.filter (fun x => ¬ Named previous x) ∨ Named previous x := by
  by_cases hnamed : Named previous x
  · exact .inr hnamed
  · exact .inl (List.mem_filter.2 ⟨h, decide_eq_true hnamed⟩)

/-- The checkpoint after some records names the longest end of them with a single
timestamp. -/
theorem exists_endRun_of_checkpointAfter {records : List Record} {q : Checkpoint}
    (h : checkpointAfter records = some q) : ∃ run, EndRun records q.cursor run ∧
      q = Checkpoint.ofCursor q.cursor (run.reverse.map Record.id) := by
  unfold checkpointAfter at h
  split at h
  · cases h
  · rename_i last before hreverse
    cases h
    let tied : Record → Bool := fun r => r.timestamp = last.timestamp
    have hlast : records.getLast? = some last := by
      rw [← List.head?_reverse, hreverse, List.head?_cons]
    have hrun : (last :: before).takeWhile tied = (records.rtakeWhile tied).reverse := by
      rw [← hreverse, List.rtakeWhile, List.reverse_reverse]
    refine ⟨records.rtakeWhile tied, ⟨⟨last, hlast, rfl⟩, ?_, ?_⟩, ?_⟩
    · intro r hr
      have htied : tied r = true := List.mem_rtakeWhile_imp hr
      exact of_decide_eq_true htied
    · refine ⟨records.rdropWhile tied, (List.rdropWhile_append_rtakeWhile ..).symm, ?_⟩
      intro r hr htie
      have hne : records.rdropWhile tied ≠ [] := by
        intro hnil
        rw [hnil] at hr
        cases hr
      have hlast := List.rdropWhile_last_not tied records hne
      rw [List.getLast?_eq_some_getLast hne] at hr
      rw [Option.some.inj hr] at hlast
      exact hlast (decide_eq_true htie)
    · rw [← hrun]
      rfl

theorem checkpointAfter_eq_none_iff {records : List Record} :
    checkpointAfter records = none ↔ records = [] := by
  refine ⟨checkpointAfter_eq_none, ?_⟩
  rintro rfl
  rfl

/-- A page is saturated exactly if one timestamp fills it. -/
theorem tied_iff {p : Checkpoint} {page : Page} {pageSize : ℕ} {t : String} :
    Tied (some p) page pageSize t ↔ p.delivered ≠ [] ∧ saturated? page pageSize = some t := by
  constructor
  · intro h
    obtain ⟨p', hp', hboundary⟩ := h.boundary
    obtain ⟨first, hfirst, rfl⟩ := h.first
    obtain ⟨last, hlast, htie⟩ := h.last
    refine ⟨Option.some.inj hp' ▸ hboundary, ?_⟩
    exact saturated?_of_tie (Nat.pos_of_ne_zero h.pageSize_ne_zero) h.fetched_eq hfirst hlast
      htie.symm
  · rintro ⟨hboundary, hsaturated⟩
    obtain ⟨hpos, hfull, first, last, hfirst, hlast, hfirstt, hlastt⟩ :=
      saturated?_eq_some hsaturated
    exact ⟨⟨p, rfl, hboundary⟩, hpos.ne', hfull, ⟨first, hfirst, hfirstt⟩, ⟨last, hlast, hlastt⟩⟩

end Reconciled

open Reconciled

/-- An outcome that does not force the cursor fits the description if its checkpoint is
that of the end of the page, or none where nothing is delivered. -/
theorem reconciles_of_not_tied {previous : Option Checkpoint} {page : Page} {pageSize : ℕ}
    {checkpoint : Option Checkpoint} (huntied : ¬ ∃ t, Tied previous page pageSize t)
    (hcheckpoint : checkpoint =
      if page.records.filter (fun x => ¬ Named previous x) = [] then none
      else checkpointAfter page.records) :
    Reconciles previous page pageSize
      ⟨page.records.filter fun x => ¬ Named previous x, checkpoint, false⟩ where
  emit_eq := rfl
  refreshed_iff := iff_of_false Bool.false_ne_true huntied
  forced t ht := absurd ⟨t, ht⟩ huntied
  stays_iff _ := by
    rw [hcheckpoint]
    by_cases hnil : page.records.filter (fun x => ¬ Named previous x) = []
    · simp only [hnil, if_true]
    · rw [if_neg hnil]
      refine iff_of_false ?_ hnil
      rw [checkpointAfter_eq_none_iff]
      intro hrecords
      exact hnil (by rw [hrecords, List.filter_nil])
  moved _ q hq := by
    rw [hcheckpoint] at hq
    split_ifs at hq with hnil
    obtain ⟨run, hrun, hids⟩ := exists_endRun_of_checkpointAfter hq
    refine ⟨run, hrun, hids, ?_⟩
    intro x hx
    obtain ⟨before, hsplit, -⟩ := hrun.longest
    exact mem_filter_or_named (hsplit ▸ List.mem_append_right _ hx)

/-- A page before which there is no checkpoint is delivered as a whole. -/
theorem reconciles_passed (page : Page) (pageSize : ℕ) :
    Reconciles none page pageSize (passed page) := by
  have hall : page.records = page.records.filter fun x => ¬ Named none x := by
    refine (List.filter_eq_self.2 ?_).symm
    intro x _
    exact decide_eq_true fun ⟨_, hp, _⟩ => by cases hp
  have huntied : ¬ ∃ t, Tied none page pageSize t := by
    rintro ⟨t, ht⟩
    obtain ⟨p, hp, -⟩ := ht.boundary
    cases hp
  have hcheckpoint : checkpointAfter page.records =
      if page.records.filter (fun x => ¬ Named none x) = [] then none
      else checkpointAfter page.records := by
    rw [← hall]
    split_ifs with hnil
    · exact checkpointAfter_eq_none_iff.2 hnil
    · rfl
  have hfits := reconciles_of_not_tied huntied hcheckpoint
  rw [← hall] at hfits
  exact hfits

/-- Whatever a page is reconciled to fits the description. -/
theorem reconciles_of_reconcile {previous : Option Checkpoint} {page : Page} {pageSize : ℕ}
    {r : Reconciled} (h : reconcile previous page pageSize = .ok r) :
    Reconciles previous page pageSize r := by
  cases previous with
  | none =>
    obtain rfl : passed page = r := Except.ok.inj h
    exact reconciles_passed page pageSize
  | some p =>
    have hend := reconcile_cases p page pageSize
    rw [h] at hend
    cases hend with
    | forced t next hboundary hsaturated hnext =>
      have htied : Tied (some p) page pageSize t := tied_iff.2 ⟨hboundary, hsaturated⟩
      exact {
        emit_eq := fresh_eq_filter p page.records
        refreshed_iff := iff_of_true rfl ⟨t, htied⟩
        forced := fun s hs => ⟨next, hs.eq htied ▸ hnext, rfl⟩
        stays_iff := nofun
        moved := nofun }
    | moved hne hcase =>
      rw [fresh_eq_filter] at hcase ⊢
      have huntied : ¬ ∃ t, Tied (some p) page pageSize t := by
        rintro ⟨t, ht⟩
        obtain ⟨hboundary, hsaturated⟩ := tied_iff.1 ht
        rw [(hcase.resolve_left hboundary).1] at hsaturated
        cases hsaturated
      refine reconciles_of_not_tied huntied (if_neg ?_).symm
      rcases hcase with hnil | ⟨-, hfresh⟩
      · rw [← fresh_eq_filter, fresh_of_delivered_eq_nil hnil]
        exact hne
      · exact hfresh
    | stayed hfresh hcase =>
      rw [fresh_eq_filter] at hfresh
      have huntied : ¬ ∃ t, Tied (some p) page pageSize t := by
        rintro ⟨t, ht⟩
        rcases hcase with hnil | ⟨-, hsaturated⟩
        · obtain ⟨x, hx, -⟩ := ht.first
          rw [hnil] at hx
          cases hx
        · rw [(tied_iff.1 ht).2] at hsaturated
          cases hsaturated
      have hfits := reconciles_of_not_tied huntied (if_pos hfresh).symm
      rw [hfresh] at hfits
      exact hfits

/-- A failure is that of the timestamp that fills the page. -/
theorem exists_tied_of_error {previous : Option Checkpoint} {page : Page} {pageSize : ℕ}
    {e : CursorError} (h : reconcile previous page pageSize = .error e) :
    ∃ t, Tied previous page pageSize t ∧ Timestamp.nextSecond t = .error e := by
  cases previous with
  | none => cases h
  | some p =>
    have hend := reconcile_cases p page pageSize
    rw [h] at hend
    cases hend with
    | stuck t e hboundary hsaturated hnext =>
      exact ⟨t, tied_iff.2 ⟨hboundary, hsaturated⟩, hnext⟩

/-- Reconciling a page with a checkpoint, or with none, gives what the description says
and nothing else.  It fails exactly if one timestamp fills the page and has no next
second, and in the way in which that second cannot be had. -/
theorem reconcile_eq_iff (previous : Option Checkpoint) (page : Page) (pageSize : ℕ) :
    (∀ r, reconcile previous page pageSize = .ok r ↔ Reconciles previous page pageSize r) ∧
      ∀ e, reconcile previous page pageSize = .error e ↔
        ∃ t, Tied previous page pageSize t ∧ Timestamp.nextSecond t = .error e := by
  constructor
  · intro r
    refine ⟨reconciles_of_reconcile, ?_⟩
    intro hfits
    cases hresult : reconcile previous page pageSize with
    | ok s => rw [(reconciles_of_reconcile hresult).eq hfits]
    | error e =>
      obtain ⟨t, ht, herror⟩ := exists_tied_of_error hresult
      obtain ⟨next, hok, -⟩ := hfits.forced t ht
      rw [hok] at herror
      cases herror
  · intro e
    refine ⟨exists_tied_of_error, ?_⟩
    rintro ⟨t, ht, herror⟩
    cases hresult : reconcile previous page pageSize with
    | ok r =>
      obtain ⟨next, hok, -⟩ := (reconciles_of_reconcile hresult).forced t ht
      rw [hok] at herror
      cases herror
    | error e' =>
      obtain ⟨t', ht', herror'⟩ := exists_tied_of_error hresult
      rw [ht'.eq ht, herror] at herror'
      rw [Except.error.inj herror']

/-- Of a page out of order only the end is named, and not all that has its timestamp. -/
example :
    let b := Record.plain "b" "2015-01-01 10:00:01"
    let a := Record.plain "a" "2015-01-01 10:00:00"
    let c := Record.plain "c" "2015-01-01 10:00:01"
    reconcile (some (.ofCursor "2015-01-01 10:00:00" ["a"])) (Page.ofRecords [b, a, c]) 5 =
      .ok ⟨[b, c], some (.ofCursor "2015-01-01 10:00:01" ["c"]), false⟩ := by
  rfl

end Collector
