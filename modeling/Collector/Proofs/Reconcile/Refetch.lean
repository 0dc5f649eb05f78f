import Collector.Proofs.Reconcile

/-!
# A page that is fetched again

A job of `harvest-source` that was stopped between two polls, or whose checkpoint could
not be stored, asks for records again that it has seen.  What it has committed to does not
come out a second time: the part of a page at or after the cursor of the checkpoint that
the page leads to holds nothing but records that this checkpoint names.

Main statements:

* `ReconcileEnd.fresh_since`: the step, for each way in which a page is reconciled.
* `refetch_emits_nothing`: reconciling a page and then what a source would send
  again of it.
-/

namespace Collector

/-- What a source sends again of some records when it is asked from a checkpoint;
without a checkpoint, all of them. -/
def Feed.again (records : Feed) (c : Option Checkpoint) : Feed :=
  c.elim records fun c => records.since c.cursor

namespace Reconciled

/-- The checkpoint that a job asks from next. -/
def next (r : Reconciled) (previous : Option Checkpoint) : Option Checkpoint :=
  r.checkpoint.or previous

/-- Less than a page has no more new records. -/
theorem fresh_since_eq_nil {p : Checkpoint} {records : List Record} (h : fresh p records = [])
    (cursor : String) : fresh p (Feed.since records cursor) = [] := by
  have hsublist : (fresh p (Feed.since records cursor)).Sublist (fresh p records) :=
    List.filter_sublist.filter _
  rw [h] at hsublist
  exact List.eq_nil_of_sublist_nil hsublist

theorem checkpointAfter_eq_none {records : List Record} (h : checkpointAfter records = none) :
    records = [] := by
  unfold checkpointAfter at h
  split at h
  · rename_i hreverse
    exact List.reverse_eq_nil_iff.1 hreverse
  · cases h

/-- The checkpoint at the end of an ascending page names all that the page has from
its cursor on. -/
theorem fresh_checkpointAfter_eq_nil {records : List Record} (h : Feed.Ascending records)
    {q : Checkpoint} (hq : checkpointAfter records = some q) :
    fresh q (Feed.since records q.cursor) = [] := by
  have hne : records ≠ [] := by
    rintro rfl
    cases hq
  have hlast := List.getLast?_eq_some_getLast hne
  rw [checkpointAfter_eq h hlast] at hq
  obtain rfl := Option.some.inj hq
  refine List.eq_nil_iff_forall_not_mem.2 ?_
  intro x hx
  obtain ⟨hsince, hnew⟩ := mem_fresh.1 hx
  obtain ⟨hmem, hge⟩ := Feed.mem_since.1 hsince
  have hcursor : x.timestamp = (records.getLast hne).timestamp :=
    le_antisymm (Feed.le_getLast h hlast hmem) hge
  refine hnew ⟨hcursor, List.mem_map_of_mem (List.mem_reverse.2 ?_)⟩
  exact Feed.mem_bucket.2 ⟨hmem, hcursor⟩

/-- Nothing of an ascending page that one timestamp fills lies at or after the next
second. -/
theorem since_nextSecond_eq_nil {page : Page} {pageSize : ℕ} {t next : String}
    (h : Feed.Ascending page.records) (hsaturated : saturated? page pageSize = some t)
    (hplain : Timestamp.Plain t) (hnext : Timestamp.nextSecond t = .ok next) :
    Feed.since page.records next = [] := by
  obtain ⟨-, -, first, last, -, hlast, -, rfl⟩ := saturated?_eq_some hsaturated
  obtain ⟨-, hlt⟩ := hplain.of_nextSecond hnext
  refine List.eq_nil_iff_forall_not_mem.2 ?_
  intro x hx
  obtain ⟨hmem, hge⟩ := Feed.mem_since.1 hx
  exact absurd (Feed.le_getLast h hlast hmem) (not_le.2 (hlt.trans_le hge))

end Reconciled

open Reconciled

/-- However a page is reconciled, the checkpoint that a job goes on from names all that
the page has from its cursor on. -/
theorem ReconcileEnd.fresh_since {p : Checkpoint} {page : Page} {pageSize : ℕ} {r : Reconciled}
    (h : ReconcileEnd p page pageSize (.ok r)) (hpage : Feed.Ascending page.records)
    (hplain : r.refreshed = true → ∀ x ∈ page.records, Timestamp.Plain x.timestamp) :
    fresh (r.checkpoint.getD p) (Feed.since page.records (r.checkpoint.getD p).cursor) = [] := by
  cases h with
  | forced t next _ hsaturated hnext =>
    obtain ⟨-, -, first, -, hfirst, -, hfirstt, -⟩ := saturated?_eq_some hsaturated
    have ht : Timestamp.Plain t := hfirstt ▸ hplain rfl first (List.mem_of_mem_head? hfirst)
    show fresh (Checkpoint.initial next) (Feed.since page.records next) = []
    rw [since_nextSecond_eq_nil hpage hsaturated ht hnext]
    rfl
  | moved hne =>
    have hafter := checkpointAfter_eq hpage (List.getLast?_eq_some_getLast hne)
    simp only [hafter, Option.getD_some]
    exact fresh_checkpointAfter_eq_nil hpage hafter
  | stayed hfresh => exact fresh_since_eq_nil hfresh p.cursor

/-- A page without new records gives nothing to deliver, and a checkpoint only if its
timestamp fills it. -/
theorem ReconcileEnd.of_fresh_eq_nil {p : Checkpoint} {page : Page} {pageSize : ℕ} {r : Reconciled}
    (h : ReconcileEnd p page pageSize (.ok r)) (hfresh : fresh p page.records = []) :
    r.emit = [] ∧ (r.refreshed = false → r.checkpoint = none) := by
  cases h with
  | forced => exact ⟨hfresh, fun h => by cases h⟩
  | moved hne hcase =>
    rcases hcase with hnil | ⟨-, hnew⟩
    · rw [fresh_of_delivered_eq_nil hnil] at hfresh
      exact absurd hfresh hne
    · exact absurd hfresh hnew
  | stayed => exact ⟨rfl, fun _ => rfl⟩

/-- A page is reconciled, and then what a source would send again of it, whatever the
size of a page is by then: nothing is delivered a second time, and the checkpoint
stays unless its timestamp fills the page. -/
theorem refetch_emits_nothing {previous : Option Checkpoint} {page again : Page}
    {pageSize pageSize' : ℕ} {r r' : Reconciled} (hpage : Feed.Ascending page.records)
    (hr : reconcile previous page pageSize = .ok r)
    (hplain : r.refreshed = true → ∀ x ∈ page.records, Timestamp.Plain x.timestamp)
    (hagain : again.records = Feed.again page.records (r.next previous))
    (hr' : reconcile (r.next previous) again pageSize' = .ok r') :
    r'.emit = [] ∧ (r'.refreshed = false → r'.checkpoint = none) := by
  -- it is enough that the checkpoint names what is sent again
  have hnamed : ∀ c, r.next previous = some c → fresh c (Feed.since page.records c.cursor) = [] →
      r'.emit = [] ∧ (r'.refreshed = false → r'.checkpoint = none) := by
    intro c hc hfresh
    rw [hc] at hagain hr'
    have hend := reconcile_cases c again pageSize'
    rw [hr'] at hend
    refine hend.of_fresh_eq_nil ?_
    rw [hagain]
    exact hfresh
  cases previous with
  | some p =>
    have hend := reconcile_cases p page pageSize
    rw [hr] at hend
    exact hnamed _ Option.or_some (hend.fresh_since hpage hplain)
  | none =>
    obtain rfl : passed page = r := Except.ok.inj hr
    cases hafter : checkpointAfter page.records with
    | some q =>
      have hnext : (passed page).next none = some q := by
        simp only [next, passed, hafter, Option.or]
      exact hnamed q hnext (fresh_checkpointAfter_eq_nil hpage hafter)
    | none =>
      -- the page is empty, and so is what is sent again
      have hnext : (passed page).next none = none := by simp only [next, passed, hafter, Option.or]
      rw [hnext] at hagain hr'
      have hrecords : again.records = [] := hagain.trans (checkpointAfter_eq_none hafter)
      rw [reconcile_of_records_eq_nil hrecords] at hr'
      obtain rfl := Except.ok.inj hr'
      exact ⟨rfl, fun _ => rfl⟩

/-- Two records of a second that stood at the end of a page fill a page when they are
sent again, and the cursor is moved past them; a page of that second is then empty. -/
theorem refetch_emits_nothing_tie :
    let a := Record.plain "a" "2015-01-01 10:00:00"
    let b := Record.plain "b" "2015-01-01 10:00:01"
    let c := Record.plain "c" "2015-01-01 10:00:01"
    let p := Checkpoint.ofCursor "2015-01-01 10:00:00" ["a"]
    let q := Checkpoint.ofCursor "2015-01-01 10:00:01" ["c", "b"]
    let q' := Checkpoint.initial "2015-01-01 10:00:02"
    let page := Page.ofRecords [a, b, c]
    let again := Page.ofRecords [b, c]
    reconcile (some p) page 3 = .ok ⟨[b, c], some q, false⟩ ∧
      reconcile (some q) again 2 = .ok ⟨[], some q', true⟩ ∧
      reconcile (some q') Page.empty 2 = .ok ⟨[], none, false⟩ ∧
      ∀ (r' : Reconciled) (k : ℕ), reconcile (some q) again k = .ok r' ∨
        reconcile (some q') Page.empty k = .ok r' → r'.emit = [] := by
  intro a b c p q q' page again
  have hfirst : reconcile (some p) page 3 = .ok ⟨[b, c], some q, false⟩ := by rfl
  have hforced : reconcile (some q) again 2 = .ok ⟨[], some q', true⟩ := by cbv
  have hplain : ∀ x ∈ again.records, Timestamp.Plain x.timestamp := by decide
  refine ⟨hfirst, hforced, by rfl, ?_⟩
  rintro r' k (hr' | hr')
  · exact (refetch_emits_nothing (by decide) hfirst (fun h => by cases h) (by cbv) hr').1
  · exact (refetch_emits_nothing (by decide) hforced (fun _ => hplain) (by cbv) hr').1

end Collector
