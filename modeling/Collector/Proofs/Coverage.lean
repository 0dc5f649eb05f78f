import Collector.Proofs.Reconcile

/-!
# What a checkpoint covers

A checkpoint of a job of `harvest-source` covers a record that lies before its cursor, or
at the cursor with an identifier that the checkpoint names
(`Checkpoint.Covers`).  Reconciling a page of a feed in which every timestamp fits on a
page delivers records that are not covered, and the checkpoint that comes out covers what
was covered before and what is delivered, nothing less and nothing more.

Main statements:

* `ReconcileEnd.step`: the step, for each way in which a page is reconciled.
* `exists_reconcile`: such a page is always reconciled, with that step.
-/

namespace Collector

/-- A checkpoint says that a record was delivered: the record lies before the
cursor, or at the cursor and is named. -/
def Checkpoint.Covers (c : Checkpoint) (r : Record) : Prop :=
  r.timestamp < c.cursor ∨ r.timestamp = c.cursor ∧ r.id ∈ c.delivered

theorem Checkpoint.covers_initial {cursor : String} {r : Record} :
    (Checkpoint.initial cursor).Covers r ↔ r.timestamp < cursor := by
  simp only [Covers, initial, ofCursor, List.not_mem_nil, and_false, or_false]

/-- What is covered does not lie after the cursor. -/
theorem Checkpoint.Covers.le {c : Checkpoint} {r : Record} (h : c.Covers r) :
    r.timestamp ≤ c.cursor := by
  rcases h with h | ⟨h, -⟩
  · exact h.le
  · exact h.le

/-- All that a checkpoint names are records of the feed. -/
def Checkpoint.Anchored (c : Checkpoint) (feed : Feed) : Prop :=
  ∀ id ∈ c.delivered, ∃ r ∈ feed, r.timestamp = c.cursor ∧ r.id = id

theorem Checkpoint.anchored_initial (cursor : String) (feed : Feed) :
    (Checkpoint.initial cursor).Anchored feed := by
  intro id hid
  exact absurd hid List.not_mem_nil

/-- A reconciled page takes a checkpoint one step further. -/
structure Reconciled.Step (feed : Feed) (p : Checkpoint) (r : Reconciled) : Prop where
  /-- The cursor does not move backwards. -/
  cursor_le : p.cursor ≤ (r.checkpoint.getD p).cursor
  /-- What is delivered is from the feed and was not covered. -/
  uncovered : ∀ x ∈ r.emit, x ∈ feed ∧ ¬ p.Covers x
  /-- Nothing is delivered twice. -/
  nodup : (r.emit.map Record.key).Nodup
  /-- A new checkpoint names records of the feed. -/
  anchored : ∀ q, r.checkpoint = some q → q.Anchored feed
  /-- Covered afterwards is what was covered before, and what is delivered. -/
  covers : ∀ x ∈ feed, (r.checkpoint.getD p).Covers x ↔ p.Covers x ∨ x ∈ r.emit

namespace Feed

variable {feed : Feed} {n : ℕ} {p : Checkpoint} {page : Page}

theorem IsPage.ascending {c : String} (h : feed.IsPage n c page) : Ascending page.records := by
  obtain ⟨l, -, hl, rfl⟩ := h
  exact hl.sublist (List.take_sublist n l)

/-- A page shows records of the feed, and none before the cursor. -/
theorem IsPage.mem_since {c : String} (h : feed.IsPage n c page) {x : Record}
    (hx : x ∈ page.records) : x ∈ feed.since c := by
  obtain ⟨l, hperm, -, rfl⟩ := h
  exact hperm.mem_iff.1 (List.mem_of_mem_take hx)

/-- A page shows everything before a timestamp that it shows. -/
theorem IsPage.mem_of_lt {c : String} (h : feed.IsPage n c page) {x y : Record}
    (hx : x ∈ feed.since c) (hy : y ∈ page.records) (hlt : x.timestamp < y.timestamp) :
    x ∈ page.records := by
  obtain ⟨l, hperm, hl, rfl⟩ := h
  exact mem_take_of_lt hl (hperm.mem_iff.2 hx) hy hlt

/-- A page shows all of the first timestamp. -/
theorem IsPage.mem_of_first {c : String} (hfits : feed.Fits n) (h : feed.IsPage n c page)
    {t : String} (hfirst : ∀ r ∈ feed.since c, t ≤ r.timestamp) {x : Record} (hx : x ∈ feed.since c)
    (hxt : x.timestamp = t) : x ∈ page.records := by
  obtain ⟨l, hperm, hl, rfl⟩ := h
  refine mem_take_of_bucket hl (fun r hr => hfirst r (hperm.mem_iff.1 hr)) ?_
    (hperm.mem_iff.2 hx) hxt
  calc (bucket l t).length = (bucket (feed.since c) t).length := (hperm.filter _).length_eq
    _ ≤ (bucket feed t).length := (List.filter_sublist.filter _).length_le
    _ ≤ n := hfits t

/-- What a page shows has plain timestamps, none before the cursor. -/
theorem IsPage.follows {c : String} (hfeed : feed.WellFormed) (h : feed.IsPage n c page) :
    page.Follows c := by
  intro r hr
  obtain ⟨hmem, hle⟩ := Feed.mem_since.1 (h.mem_since hr)
  exact ⟨(hfeed.plain r hmem).1, hle⟩

theorem IsPage.nodup {c : String} (hfeed : feed.WellFormed) (h : feed.IsPage n c page) :
    (page.records.map Record.key).Nodup := by
  obtain ⟨l, hperm, -, rfl⟩ := h
  have hsince : ((feed.since c).map Record.key).Nodup :=
    hfeed.nodup.sublist (List.filter_sublist.map _)
  exact ((hperm.map _).nodup_iff.2 hsince).sublist ((List.take_sublist n l).map _)

end Feed

namespace Reconciled

variable {feed : Feed} {n : ℕ} {p : Checkpoint} {page : Page}

/-- The new records of a page are not covered. -/
theorem uncovered_of_mem_fresh (hpage : feed.IsPage n p.cursor page) {x : Record}
    (hx : x ∈ fresh p page.records) : x ∈ feed ∧ ¬ p.Covers x := by
  obtain ⟨hmem, hnew⟩ := mem_fresh.1 hx
  obtain ⟨hfeed, hle⟩ := Feed.mem_since.1 (hpage.mem_since hmem)
  exact ⟨hfeed, fun h => h.elim (fun hlt => absurd hle (not_le.2 hlt)) hnew⟩

/-- A record of a page is covered or new. -/
theorem covers_or_mem_fresh {x : Record} (hx : x ∈ page.records) :
    p.Covers x ∨ x ∈ fresh p page.records := by
  by_cases h : x.timestamp = p.cursor ∧ x.id ∈ p.delivered
  · exact .inl (.inr h)
  · exact .inr (mem_fresh.2 ⟨hx, h⟩)

/-- A checkpoint that covers what lies before the old cursor and what the page
shows covers what was covered, and what is new. -/
theorem covers_iff_of_page (hfits : feed.Fits n) (hpage : feed.IsPage n p.cursor page)
    {q : Checkpoint} (hq : ∀ x ∈ feed, q.Covers x ↔ x.timestamp < p.cursor ∨ x ∈ page.records)
    {x : Record} (hx : x ∈ feed) : q.Covers x ↔ p.Covers x ∨ x ∈ fresh p page.records := by
  rw [hq x hx]
  constructor
  · rintro (hlt | hmem)
    · exact .inl (.inl hlt)
    · exact covers_or_mem_fresh hmem
  · rintro ((hlt | ⟨hcursor, -⟩) | hnew)
    · exact .inl hlt
    · -- what is named stands at the cursor, and all of that is on the page
      exact .inr (hpage.mem_of_first hfits (fun r hr => (Feed.mem_since.1 hr).2)
        (Feed.mem_since.2 ⟨hx, hcursor.ge⟩) hcursor)
    · exact .inr (mem_fresh.1 hnew).1

/-- The checkpoint at the end of a page covers what lies before the old cursor
and what the page shows. -/
theorem covers_checkpointAfter (hfeed : feed.WellFormed) (hpage : feed.IsPage n p.cursor page)
    {last : Record} (hlast : page.records.getLast? = some last) {x : Record} (hx : x ∈ feed) :
    (Checkpoint.ofCursor last.timestamp
        ((Feed.bucket page.records last.timestamp).reverse.map Record.id)).Covers x ↔
      x.timestamp < p.cursor ∨ x ∈ page.records := by
  have hlastmem : last ∈ page.records := List.mem_of_getLast? hlast
  have hlastsince := Feed.mem_since.1 (hpage.mem_since hlastmem)
  constructor
  · rintro (hlt | ⟨hcursor, hnamed⟩)
    · by_cases hbefore : x.timestamp < p.cursor
      · exact .inl hbefore
      · exact .inr (hpage.mem_of_lt (Feed.mem_since.2 ⟨hx, not_lt.1 hbefore⟩) hlastmem hlt)
    · obtain ⟨y, hy, hid⟩ := List.mem_map.1 hnamed
      obtain ⟨hypage, hyt⟩ := Feed.mem_bucket.1 (List.mem_reverse.1 hy)
      have hyfeed := (Feed.mem_since.1 (hpage.mem_since hypage)).1
      have hxy : x = y := hfeed.eq_of_key hx hyfeed (hcursor.trans hyt.symm) hid.symm
      exact .inr (hxy ▸ hypage)
  · rintro (hlt | hmem)
    · exact .inl (hlt.trans_le hlastsince.2)
    · rcases (Feed.le_getLast hpage.ascending hlast hmem).lt_or_eq with hlt | heq
      · exact .inl hlt
      · exact .inr ⟨heq, List.mem_map_of_mem
          (List.mem_reverse.2 (Feed.mem_bucket.2 ⟨hmem, heq⟩))⟩

/-- A page that one timestamp fills shows all of that timestamp, and nothing else
lies between the old cursor and the next timestamp. -/
theorem covers_forced (hfits : feed.Fits n) (hpage : feed.IsPage n p.cursor page)
    {t next : String} (hsaturated : saturated? page n = some t)
    (hnext : ∀ x ∈ feed, x.timestamp < next ↔ x.timestamp ≤ t) {x : Record} (hx : x ∈ feed) :
    (Checkpoint.initial next).Covers x ↔ x.timestamp < p.cursor ∨ x ∈ page.records := by
  obtain ⟨-, -, first, last, hfirst, hlast, hfirstt, hlastt⟩ := saturated?_eq_some hsaturated
  have hfirstmem : first ∈ page.records := List.mem_of_mem_head? hfirst
  have hlastmem : last ∈ page.records := List.mem_of_getLast? hlast
  have hpt : p.cursor ≤ t := hfirstt ▸ (Feed.mem_since.1 (hpage.mem_since hfirstmem)).2
  -- nothing at or after the cursor comes before the page
  have hleast : ∀ r ∈ feed.since p.cursor, t ≤ r.timestamp := by
    intro r hr
    by_contra hlt
    have hrpage := hpage.mem_of_lt hr hfirstmem (hfirstt ▸ not_le.1 hlt)
    exact hlt (hfirstt ▸ Feed.head_le hpage.ascending hfirst hrpage)
  rw [Checkpoint.covers_initial, hnext x hx]
  constructor
  · intro hle
    by_cases hbefore : x.timestamp < p.cursor
    · exact .inl hbefore
    · have hsince := Feed.mem_since.2 ⟨hx, not_lt.1 hbefore⟩
      exact .inr (hpage.mem_of_first hfits hleast hsince (le_antisymm hle (hleast x hsince)))
  · rintro (hlt | hmem)
    · exact hlt.le.trans hpt
    · exact hlastt ▸ Feed.le_getLast hpage.ascending hlast hmem

end Reconciled

open Reconciled

section Step

variable {feed : Feed} {n : ℕ} {p : Checkpoint} {page : Page}

theorem Reconciled.nodup_fresh (hfeed : feed.WellFormed) (hpage : feed.IsPage n p.cursor page) :
    ((fresh p page.records).map Record.key).Nodup :=
  (hpage.nodup hfeed).sublist (List.filter_sublist.map _)

/-- However a page of the feed is reconciled, the checkpoint goes one step further. -/
theorem ReconcileEnd.step (hfeed : feed.WellFormed) (hfits : feed.Fits n)
    (hpage : feed.IsPage n p.cursor page) {result : Except CursorError Reconciled}
    (h : ReconcileEnd p page n result) : ∃ r, result = .ok r ∧ Reconciled.Step feed p r := by
  cases h with
  | stuck t e hboundary hsaturated hnext =>
    -- the timestamp is one of the feed, so that there is a next one
    obtain ⟨-, -, first, -, hfirst, -, rfl, -⟩ := saturated?_eq_some hsaturated
    have hmem := (Feed.mem_since.1 (hpage.mem_since (List.mem_of_mem_head? hfirst))).1
    obtain ⟨hplain, hne⟩ := hfeed.plain first hmem
    obtain ⟨next, hok, -, -⟩ := hplain.exists_nextSecond hne
    rw [hok] at hnext
    cases hnext
  | forced t next hboundary hsaturated hnext =>
    obtain ⟨-, -, first, -, hfirst, -, rfl, -⟩ := saturated?_eq_some hsaturated
    have hsince := Feed.mem_since.1 (hpage.mem_since (List.mem_of_mem_head? hfirst))
    obtain ⟨hplain, hne⟩ := hfeed.plain first hsince.1
    obtain ⟨next', hok, -, hlt⟩ := hplain.exists_nextSecond hne
    have heq : next' = next := Except.ok.inj (hok.symm.trans hnext)
    rw [heq] at hlt
    refine ⟨_, rfl, ?_, fun x hx => uncovered_of_mem_fresh hpage hx, nodup_fresh hfeed hpage,
      ?_, ?_⟩
    · exact hsince.2.trans ((hlt _ hplain).2 le_rfl).le
    · rintro q ⟨⟩
      exact Checkpoint.anchored_initial next feed
    · intro x hx
      exact covers_iff_of_page hfits hpage (fun y hy => covers_forced hfits hpage hsaturated
        (fun z hz => hlt _ (hfeed.plain z hz).1) hy) hx
  | moved hne hcase =>
    have hlast := List.getLast?_eq_some_getLast hne
    have hafter := checkpointAfter_eq hpage.ascending hlast
    have hlastsince := Feed.mem_since.1 (hpage.mem_since (List.mem_of_getLast? hlast))
    rw [hafter]
    refine ⟨_, rfl, hlastsince.2, fun x hx => uncovered_of_mem_fresh hpage hx,
      nodup_fresh hfeed hpage, ?_, ?_⟩
    · rintro q ⟨⟩ id hid
      obtain ⟨x, hx, rfl⟩ := List.mem_map.1 hid
      obtain ⟨hxpage, hxt⟩ := Feed.mem_bucket.1 (List.mem_reverse.1 hx)
      exact ⟨x, (Feed.mem_since.1 (hpage.mem_since hxpage)).1, hxt, rfl⟩
    · intro x hx
      exact covers_iff_of_page hfits hpage
        (fun y hy => covers_checkpointAfter hfeed hpage hlast hy) hx
  | stayed hfresh hcase =>
    refine ⟨_, rfl, le_rfl, ?_, List.nodup_nil, ?_, ?_⟩
    · intro x hx
      exact absurd hx List.not_mem_nil
    · rintro q ⟨⟩
    · intro x hx
      exact ⟨.inl, fun h => h.resolve_right List.not_mem_nil⟩

/-- The cursor of a new checkpoint is a plain timestamp. -/
theorem ReconcileEnd.plain_cursor (hfeed : feed.WellFormed) (hpage : feed.IsPage n p.cursor page)
    {r : Reconciled} (h : ReconcileEnd p page n (.ok r)) {q : Checkpoint}
    (hq : r.checkpoint = some q) : Timestamp.Plain q.cursor :=
  (h.forward (hpage.follows hfeed) hq).1

/-- A page of a feed in which every timestamp fits on a page is reconciled, and the
checkpoint goes one step further. -/
theorem exists_reconcile (hfeed : feed.WellFormed) (hfits : feed.Fits n)
    (hpage : feed.IsPage n p.cursor page) :
    ∃ r, reconcile (some p) page n = .ok r ∧ Reconciled.Step feed p r :=
  (reconcile_cases p page n).step hfeed hfits hpage

end Step

end Collector
