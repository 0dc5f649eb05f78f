import Collector.Proofs.Feed.Page
import Collector.Reconcile

/-!
# What reconciling a page gives

A page that `harvest-source` reconciles with a checkpoint either forces the cursor past a
timestamp that fills the page, or moves the checkpoint to its end, or leaves the
checkpoint as it is; in each case the records to deliver are those of the page that the
checkpoint does not name (`reconcile_cases`).  For an ascending page the checkpoint at its
end names all that the page shows of its last timestamp (`checkpointAfter_eq`).
-/

namespace Collector

namespace Reconciled

/-- A checkpoint without identifiers names no record. -/
theorem fresh_of_delivered_eq_nil {p : Checkpoint} (h : p.delivered = []) (records : List Record) :
    fresh p records = records := by
  refine List.filter_eq_self.2 ?_
  intro r _
  simp [committed, h]

theorem mem_fresh {p : Checkpoint} {records : List Record} {r : Record} :
    r ∈ fresh p records ↔ r ∈ records ∧ ¬ (r.timestamp = p.cursor ∧ r.id ∈ p.delivered) := by
  simp only [fresh, committed, List.mem_filter, Bool.not_eq_true', Bool.and_eq_false_iff,
    decide_eq_false_iff_not, List.contains_eq_mem, not_and_or]

/-- The checkpoint at the end of an ascending page. -/
theorem checkpointAfter_eq {records : List Record} (h : Feed.Ascending records) {last : Record}
    (hlast : records.getLast? = some last) :
    checkpointAfter records = some (Checkpoint.ofCursor last.timestamp
      ((Feed.bucket records last.timestamp).reverse.map Record.id)) := by
  have htake := Feed.takeWhile_reverse_eq h hlast
  obtain ⟨init, hinit⟩ := List.getLast?_eq_some_iff.1 hlast
  have hrev : records.reverse = last :: init.reverse := by
    rw [hinit, List.reverse_append, List.reverse_singleton, List.singleton_append]
  rw [checkpointAfter, ← htake]
  simp only [hrev]

/-- A page is saturated if it is full and begins and ends with one timestamp. -/
theorem saturated?_eq_some {page : Page} {pageSize : ℕ} {t : String}
    (h : saturated? page pageSize = some t) :
    0 < pageSize ∧ page.fetched = pageSize ∧ ∃ first last, page.records.head? = some first ∧
      page.records.getLast? = some last ∧ first.timestamp = t ∧ last.timestamp = t := by
  rw [saturated?] at h
  split_ifs at h with hfull
  simp only [not_or, not_not] at hfull
  split at h
  · rename_i first last hfirst hlast
    split_ifs at h with htie
    cases h
    exact ⟨Nat.pos_of_ne_zero hfull.1, hfull.2, first, last, hfirst, hlast, rfl, htie.symm⟩
  · cases h

theorem saturated?_of_tie {page : Page} {pageSize : ℕ} {first last : Record} (hpos : 0 < pageSize)
    (hfull : page.fetched = pageSize) (hfirst : page.records.head? = some first)
    (hlast : page.records.getLast? = some last) (htie : first.timestamp = last.timestamp) :
    saturated? page pageSize = some first.timestamp := by
  rw [saturated?, if_neg (by simp [hfull, hpos.ne'])]
  simp only [hfirst, hlast, if_pos htie]

end Reconciled

open Reconciled

/-- A page without records changes nothing. -/
theorem reconcile_of_records_eq_nil {previous : Option Checkpoint} {page : Page} {pageSize : ℕ}
    (h : page.records = []) : reconcile previous page pageSize = .ok ⟨[], none, false⟩ := by
  cases previous with
  | none => simp only [reconcile, passed, h, checkpointAfter, List.reverse_nil]
  | some p =>
    simp only [reconcile, Page.isEmpty, h, List.isEmpty_nil, Bool.not_true, Bool.and_false,
      Bool.false_eq_true, if_false, passed, checkpointAfter, List.reverse_nil]

/-- What becomes of a page after a checkpoint. -/
inductive ReconcileEnd (p : Checkpoint) (page : Page) (pageSize : ℕ) :
    Except CursorError Reconciled → Prop
  /-- The timestamp that fills the page has no next one. -/
  | stuck (t : String) (e : CursorError) (hboundary : p.delivered ≠ [])
      (hsaturated : saturated? page pageSize = some t) (hnext : Timestamp.nextSecond t = .error e) :
      ReconcileEnd p page pageSize (.error e)
  /-- The cursor is moved past the timestamp that fills the page. -/
  | forced (t next : String) (hboundary : p.delivered ≠ [])
      (hsaturated : saturated? page pageSize = some t) (hnext : Timestamp.nextSecond t = .ok next) :
      ReconcileEnd p page pageSize
        (.ok ⟨fresh p page.records, some (Checkpoint.initial next), true⟩)
  /-- The checkpoint moves to the end of the page. -/
  | moved (hne : page.records ≠ [])
      (hcase : p.delivered = [] ∨
        saturated? page pageSize = none ∧ fresh p page.records ≠ []) :
      ReconcileEnd p page pageSize
        (.ok ⟨fresh p page.records, checkpointAfter page.records, false⟩)
  /-- The checkpoint stays. -/
  | stayed (hfresh : fresh p page.records = [])
      (hcase : page.records = [] ∨
        p.delivered ≠ [] ∧ saturated? page pageSize = none) :
      ReconcileEnd p page pageSize (.ok ⟨[], none, false⟩)

/-- The ways in which a page is reconciled. -/
theorem reconcile_cases (p : Checkpoint) (page : Page) (pageSize : ℕ) :
    ReconcileEnd p page pageSize (reconcile (some p) page pageSize) := by
  by_cases hne : page.records = []
  · rw [reconcile_of_records_eq_nil hne]
    exact .stayed (by rw [hne]; rfl) (.inl hne)
  by_cases hboundary : p.delivered = []
  · have hreconcile : reconcile (some p) page pageSize =
        .ok ⟨fresh p page.records, checkpointAfter page.records, false⟩ := by
      simp [reconcile, Checkpoint.hasBoundary, hboundary, passed,
        fresh_of_delivered_eq_nil hboundary]
    rw [hreconcile]
    exact .moved hne (.inl hboundary)
  have hreconcile : reconcile (some p) page pageSize = filtered p page pageSize := by
    simp [reconcile, Checkpoint.hasBoundary, hboundary, Page.isEmpty, hne]
  rw [hreconcile, filtered]
  cases hsaturated : saturated? page pageSize with
  | some t =>
    cases hnext : Timestamp.nextSecond t with
    | error e =>
      simp only [hnext]
      exact .stuck t e hboundary hsaturated hnext
    | ok next =>
      simp only [hnext]
      exact .forced t next hboundary hsaturated hnext
  | none =>
    by_cases hfresh : fresh p page.records = []
    · simp only [hfresh, List.isEmpty_nil, if_true]
      exact .stayed hfresh (.inr ⟨hboundary, hsaturated⟩)
    · simp only [List.isEmpty_iff, hfresh, if_false]
      exact .moved hne (.inr ⟨hsaturated, hfresh⟩)

/-- The cursor is forced on only past the timestamp that a full page begins and ends
with. -/
theorem exists_saturated_of_refreshed {previous : Option Checkpoint} {page : Page} {pageSize : ℕ}
    {r : Reconciled} (hr : reconcile previous page pageSize = .ok r)
    (hforced : r.refreshed = true) :
    ∃ t next, saturated? page pageSize = some t ∧ Timestamp.nextSecond t = .ok next ∧
      r.checkpoint = some (Checkpoint.initial next) := by
  cases previous with
  | none =>
    obtain rfl : passed page = r := Except.ok.inj hr
    cases hforced
  | some p =>
    have hend := reconcile_cases p page pageSize
    rw [hr] at hend
    cases hend with
    | forced t next _ hsaturated hnext => exact ⟨t, next, hsaturated, hnext, rfl⟩
    | moved => cases hforced
    | stayed => cases hforced

/-! ## The cursor -/

/-- A checkpoint after some records has the timestamp of one of them. -/
theorem Reconciled.cursor_checkpointAfter {records : List Record} {q : Checkpoint}
    (h : checkpointAfter records = some q) : ∃ r ∈ records, q.cursor = r.timestamp := by
  unfold checkpointAfter at h
  split at h
  · cases h
  · rename_i last before hreverse
    cases h
    have hlast : last ∈ records.reverse := hreverse ▸ List.mem_cons_self
    exact ⟨last, List.mem_reverse.1 hlast, rfl⟩

/-- A page has plain timestamps, none of them before the cursor. -/
def Page.Follows (page : Page) (cursor : String) : Prop :=
  ∀ r ∈ page.records, Timestamp.Plain r.timestamp ∧ cursor ≤ r.timestamp

/-- The cursor of a new checkpoint does not lie before the old one. -/
theorem ReconcileEnd.forward {p : Checkpoint} {page : Page} {pageSize : ℕ} {r : Reconciled}
    (h : ReconcileEnd p page pageSize (.ok r)) (hpage : page.Follows p.cursor) {q : Checkpoint}
    (hq : r.checkpoint = some q) : Timestamp.Plain q.cursor ∧ p.cursor ≤ q.cursor := by
  cases h with
  | forced t next _ hsaturated hnext =>
    obtain ⟨-, -, first, -, hfirst, -, rfl, -⟩ := saturated?_eq_some hsaturated
    obtain ⟨hplain, hle⟩ := hpage first (List.mem_of_mem_head? hfirst)
    obtain ⟨hnextplain, hlt⟩ := hplain.of_nextSecond hnext
    obtain rfl : Checkpoint.initial next = q := Option.some.inj hq
    exact ⟨hnextplain, hle.trans hlt.le⟩
  | moved =>
    obtain ⟨last, hlast, hcursor⟩ := cursor_checkpointAfter hq
    rw [hcursor]
    exact hpage last hlast
  | stayed => cases hq

end Collector
