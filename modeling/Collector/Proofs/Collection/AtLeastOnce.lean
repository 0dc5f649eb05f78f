import Mathlib.Logic.Relation
import Collector.Proofs.Checkpoint.Codec
import Collector.Proofs.Collection.Run

/-!
# Nothing is left behind but what a forced cursor skips

Whatever fails around a poll of `harvest-source`, and however often the job is built anew
over its store, the records that a checkpoint covers were written, unless a poll moved the
cursor past a timestamp that fills a page and the writer then refused what was new on that
page: the cursor is held before the records are written.

Main statements:

* `Accounted.poll`, `Accounted.restart`: what one step preserves.
* `covered_written_or_skipped`: what every run preserves.
* `covered_not_written`: a run in which a record is left behind.
-/

namespace Collector.Collection

/-- A step of a job in which anything may fail. -/
inductive Trial : Collection → Collection → Prop
  /-- The job polls. -/
  | poll (c : Collection) (f : Faults) (source : Source)
      (hserves : source.MayServe c.feed c.pageSize) : Trial c (c.poll f source)
  /-- The job is built anew. -/
  | restart (c : Collection) : Trial c c.restart

/-- What a checkpoint covers from the start time on was written or skipped. -/
def Accounts (start : String) (c : Collection) (p : Checkpoint) : Prop :=
  ∀ r ∈ c.feed, start ≤ r.timestamp → p.Covers r → r ∈ c.written ∨ r ∈ c.skipped

/-- The checkpoint in memory and the stored one cover nothing else. -/
structure Accounted (start : String) (c : Collection) : Prop where
  /-- The records of the feed. -/
  feed : c.feed.WellFormed
  /-- The timestamps of the feed. -/
  fits : c.feed.Fits c.pageSize
  /-- The checkpoint in memory. -/
  held : ∀ p, c.site.held = some p → Accounts start c p
  /-- The checkpoint in the store. -/
  saved : Accounts start c c.site.saved

variable {task : Task} {settings : PollSettings} {before : List Bytes} {c : Collection}
  {start : String}

/-- Before the start time there is nothing to account for. -/
theorem accounts_initial (start : String) (c : Collection) :
    Accounts start c (Checkpoint.initial start) := by
  intro r _ hge hcovers
  exact absurd hge (not_le.2 (Checkpoint.covers_initial.1 hcovers))

theorem Accounted.position (h : Accounted start c) (hsound : Sound task settings before c) :
    Accounts start c c.site.position := by
  cases hheld : c.site.held with
  | none =>
    rw [Site.position_of_held_eq_none hheld]
    exact h.saved
  | some p =>
    rw [Site.position_of_held hheld (hsound.cursor p hheld)]
    exact h.held p hheld

/-- What is accounted for stays so when more is written or skipped. -/
theorem Accounts.poll {p : Checkpoint} (h : Accounts start c p) (f : Faults) (source : Source) :
    Accounts start (c.poll f source) p := by
  intro r hr hge hcovers
  rcases h r hr hge hcovers with hwritten | hskipped
  · exact .inl (List.mem_append_left _ hwritten)
  · exact .inr (List.mem_append_left _ hskipped)

/-- The new checkpoint is accounted for once the new records are. -/
theorem Accounts.next {p q : Checkpoint} (h : Accounts start c p) {f : Faults} {source : Source}
    {r : Reconciled} (hstep : r.Step c.feed p) (hq : r.checkpoint = some q)
    (hemit : ∀ x ∈ r.emit, x ∈ (c.site.suffer f).written source ∨
      x ∈ (c.site.suffer f).skipped source) :
    Accounts start (c.poll f source) q := by
  intro x hx hge hcovers
  have hsplit := (hstep.covers x hx).1 (by rwa [hq, Option.getD_some])
  rcases hsplit with hold | hnew
  · exact h.poll f source x hx hge hold
  · rcases hemit x hnew with hwritten | hskipped
    · exact .inl (List.mem_append_right _ hwritten)
    · exact .inr (List.mem_append_right _ hskipped)

/-- The checkpoint that is held ahead of the writer is accounted for. -/
theorem Accounts.ahead {p : Checkpoint} (h : Accounts start c p) {f : Faults} {source : Source}
    {r : Reconciled} (hstep : r.Step c.feed p)
    (hemit : r.refreshed = true → ∀ x ∈ r.emit, x ∈ (c.site.suffer f).written source ∨
      x ∈ (c.site.suffer f).skipped source) :
    Accounts start (c.poll f source) (r.ahead p) := by
  unfold Reconciled.ahead
  by_cases hrefreshed : r.refreshed
  · rw [if_pos hrefreshed]
    cases hnext : r.checkpoint with
    | none => exact h.poll f source
    | some q => exact h.next hstep hnext (hemit hrefreshed)
  · rw [if_neg hrefreshed]
    exact h.poll f source

/-- A reconciled page takes the checkpoint one step further. -/
theorem Accounted.step (h : Accounted start c) {f : Faults} {source : Source}
    (hserves : source.MayServe c.feed c.pageSize) {r : Reconciled}
    (hcollect : (c.site.suffer f).collect source c.site.position = .ok r) :
    r.Step c.feed c.site.position := by
  obtain ⟨page, hpage, hreconcile⟩ := page_of_collect hcollect
  obtain ⟨r', hr', hstep⟩ := exists_reconcile h.feed h.fits (hserves _ page hpage)
  have hsame : reconcile (some c.site.position) page c.pageSize = .ok r := hreconcile
  obtain rfl : r = r' := Except.ok.inj (hsame.symm.trans hr')
  exact hstep

/-- The new records are written unless the writer refuses them. -/
theorem written_of_taken {s : Site} {source : Source} {r : Reconciled}
    (hsome : s.reconciled? source = some r) (htaken : s.Takes ∨ r.emit = []) :
    s.written source = r.emit := by
  simp only [Site.written, hsome]
  rcases htaken with htakes | hnil
  · rw [if_pos htakes]
  · rw [hnil, ite_self]

/-- What the store gives back after a checkpoint was stored. -/
theorem saved_of_blobOf {s t : Site} {next : Checkpoint} (hcursor : next.cursor ≠ "")
    (hblob : t.blob = s.blobOf next) :
    t.saved = next ∨ t.saved = Checkpoint.initial t.reader.cache.initial := by
  rw [Site.saved, hblob, Site.blobOf]
  by_cases hforget : s.backend.store.forgetful
  · rw [if_pos hforget]
    exact .inr rfl
  · rw [if_neg hforget]
    have hempty : next.isEmpty = false := decide_eq_false hcursor
    left
    simp only [CheckpointCache.resume, Checkpoint.decode?_encode, hempty, Bool.false_eq_true,
      if_false]

/-- Whatever fails around it, a poll leaves nothing behind but what it skips. -/
theorem Accounted.poll (h : Accounted settings.nextRecordTime c)
    (hsound : Sound task settings before c) (hstart : settings.nextRecordTime ≠ "") (f : Faults)
    {source : Source} (hserves : source.MayServe c.feed c.pageSize) :
    Accounted settings.nextRecordTime (c.poll f source) := by
  have hposition := h.position hsound
  have hsound' := sound_poll hsound hstart h.feed f hserves
  have hsize : (c.poll f source).pageSize = c.pageSize :=
    congrArg PollSettings.pageSize (hsound'.settings_eq.trans hsound.settings_eq.symm)
  have hfits : (c.poll f source).feed.Fits (c.poll f source).pageSize := hsize ▸ h.fits
  have hinitial : (c.poll f source).site.reader.cache.initial = c.site.reader.cache.initial :=
    hsound'.initial.trans hsound.initial.symm
  -- without a new blob the store gives back what it gave back before
  have hsaved : (c.poll f source).site.blob = c.site.blob →
      Accounts settings.nextRecordTime (c.poll f source) (c.poll f source).site.saved := by
    intro hblob
    have hsame : (c.poll f source).site.saved = c.site.saved := by
      rw [Site.saved, Site.saved, hblob, hinitial]
    rw [hsame]
    exact h.saved.poll f source
  have hone : ∀ {p : Checkpoint}, Accounts settings.nextRecordTime (c.poll f source) p →
      (c.poll f source).site.held = some p → ∀ q, (c.poll f source).site.held = some q →
        Accounts settings.nextRecordTime (c.poll f source) q := by
    intro p hp hheld q hq
    obtain rfl : p = q := Option.some.inj (hheld.symm.trans hq)
    exact hp
  obtain ⟨hend, -, -⟩ := Site.poll_spec (s := c.site.suffer f) hsound.free source
  cases hend with
  | unread e _ _ _ hheld hblob =>
    refine ⟨h.feed, hfits, ?_, hsaved hblob⟩
    intro p hp
    exact (h.held p (hheld.symm.trans hp)).poll f source
  | failed e _ _ _ hheld hblob =>
    exact ⟨h.feed, hfits, hone (hposition.poll f source) hheld, hsaved hblob⟩
  | refused r e _ hcollect hsome hrefused _ hheld hblob =>
    -- what is new is skipped if the cursor was forced
    have hskip : r.refreshed = true → ∀ x ∈ r.emit,
        x ∈ (c.site.suffer f).written source ∨ x ∈ (c.site.suffer f).skipped source := by
      intro hrefreshed x hx
      right
      simpa only [Site.skipped, hsome, if_neg hrefused, hrefreshed, if_true] using hx
    exact ⟨h.feed, hfits, hone (hposition.ahead (h.step hserves hcollect) hskip) hheld,
      hsaved hblob⟩
  | unstored r next e _ hcollect hsome htaken _ hnext hheld hblob =>
    have hwrite := written_of_taken hsome htaken
    exact ⟨h.feed, hfits, hone (hposition.ahead (h.step hserves hcollect) fun _ x hx =>
      .inl (hwrite ▸ hx)) hheld, hsaved hblob⟩
  | stored r next _ hcollect hsome htaken hnext hheld hblob =>
    have hwrite := written_of_taken hsome htaken
    have hdone := hposition.next (h.step hserves hcollect) hnext fun x hx => .inl (hwrite ▸ hx)
    refine ⟨h.feed, hfits, hone hdone hheld, ?_⟩
    rcases saved_of_blobOf (hsound'.cursor next hheld) hblob with hnew | hold
    · exact (show (c.poll f source).site.saved = next from hnew) ▸ hdone
    · rw [show (c.poll f source).site.saved = _ from hold]
      exact (hsound'.initial : (c.poll f source).site.reader.cache.initial = _) ▸
        accounts_initial _ _
  | unchanged r _ _ _ _ _ hheld hblob =>
    exact ⟨h.feed, hfits, hone (hposition.poll f source) hheld, hsaved hblob⟩

/-- A job that is built anew goes on from what is stored. -/
theorem Accounted.restart (h : Accounted settings.nextRecordTime c)
    (hsound : Sound task settings before c) : Accounted settings.nextRecordTime c.restart := by
  have hsame : c.restart.site.saved = c.site.saved := by
    show CheckpointCache.resume c.site.reader.settings.nextRecordTime c.site.blob =
      CheckpointCache.resume c.site.reader.cache.initial c.site.blob
    rw [hsound.initial, hsound.settings_eq]
  refine ⟨h.feed, h.fits, ?_, ?_⟩
  · rintro p ⟨⟩
  · rw [hsame]
    exact h.saved

/-- In every state of a job that began over a store without a blob for it, whatever
failed and however often it was built anew: what the checkpoint in memory or the
stored one covers of the feed, from the start time on, was written, or a poll that
forced the cursor past a timestamp had it refused by the writer. -/
theorem covered_written_or_skipped {feed : Feed} {task : Task} {settings : PollSettings}
    {backend : Backend} (hfeed : feed.WellFormed) (hfits : feed.Fits settings.pageSize)
    (hstart : settings.nextRecordTime ≠ "") (hempty : backend.store.blobs.get? task.identity = none)
    {c : Collection} (hrun : Relation.ReflTransGen Trial (ofSettings feed task settings backend) c)
    {p : Checkpoint} (hp : c.site.held = some p ∨ c.site.saved = p) {r : Record} (hr : r ∈ feed)
    (hge : settings.nextRecordTime ≤ r.timestamp)
    (hcovers : r.timestamp < p.cursor ∨ r.timestamp = p.cursor ∧ r.id ∈ p.delivered) :
    (r ∈ c.written ∨ r ∈ c.skipped) ∧
      c.site.backend.writer.records = backend.writer.records ++ c.written.map Record.line := by
  have hinv : c.feed = feed ∧ Sound task settings backend.writer.records c ∧
      Accounted settings.nextRecordTime c := by
    clear hp
    induction hrun with
    | refl =>
      refine ⟨rfl, sound_ofSettings feed task settings backend, hfeed, hfits, ?_, ?_⟩
      · rintro p ⟨⟩
      · have hposition : (ofSettings feed task settings backend).site.position =
            Checkpoint.initial settings.nextRecordTime := position_ofSettings feed hempty
        rw [Site.position_of_held_eq_none rfl] at hposition
        rw [hposition]
        exact accounts_initial _ _
    | tail _ hstep ih =>
      obtain ⟨hsame, hsound, haccounted⟩ := ih
      cases hstep with
      | poll f source hserves =>
        exact ⟨hsame, sound_poll hsound hstart haccounted.feed f hserves,
          haccounted.poll hsound hstart f hserves⟩
      | restart => exact ⟨hsame, sound_restart hsound, haccounted.restart hsound⟩
  obtain ⟨rfl, hsound, haccounted⟩ := hinv
  refine ⟨?_, hsound.lines⟩
  rcases hp with hheld | rfl
  · exact haccounted.held p hheld r hr hge hcovers
  · exact haccounted.saved r hr hge hcovers

/-- A feed with two records of one second. -/
def twinFeed : Feed :=
  [.plain "a" "2015-01-01 10:00:00", .plain "b" "2015-01-01 10:00:01",
    .plain "c" "2015-01-01 10:00:01"]

/-- The page that ends with the first one is written, and the page with both is
refused. -/
def twinRefused : Collection :=
  ((ofSettings twinFeed smallTask smallSettings {}).poll {} (twinFeed.source 2)).poll
    { write := some .closed } (twinFeed.source 2)

theorem run_twinRefused :
    Relation.ReflTransGen Trial (ofSettings twinFeed smallTask smallSettings {}) twinRefused := by
  have hserves : (twinFeed.source 2).MayServe twinFeed 2 :=
    (Feed.serves_source (by decide) 2).mayServe
  have hsize :
      ((ofSettings twinFeed smallTask smallSettings {}).poll {} (twinFeed.source 2)).pageSize
      = 2 := by decide +kernel
  exact (Relation.ReflTransGen.single (.poll _ {} _ hserves)).tail (.poll _ _ _ (hsize ▸ hserves))

/-- The second record of the second is left behind: the checkpoint in memory lies
after it, and it was not written. -/
theorem covered_not_written :
    Relation.ReflTransGen Trial (ofSettings twinFeed smallTask smallSettings {}) twinRefused ∧
      twinFeed.WellFormed ∧ twinFeed.Fits smallSettings.pageSize ∧
      ∃ p, twinRefused.site.held = some p ∧ ∃ r ∈ twinFeed,
        smallSettings.nextRecordTime ≤ r.timestamp ∧ r.timestamp < p.cursor ∧
          r ∉ twinRefused.written := by
  refine ⟨run_twinRefused, by decide, by decide, .initial "2015-01-01 10:00:02",
    by decide +kernel, .plain "c" "2015-01-01 10:00:01", ?_, by decide, by decide, ?_⟩
  · simp only [twinFeed, List.mem_cons, true_or, or_true]
  · intro hwritten
    have hid : "c" ∈ twinRefused.written.map Record.id := List.mem_map_of_mem hwritten
    exact absurd hid (by decide +kernel)

/-- The record that a refused write has kept back is the one that was skipped. -/
theorem covered_skipped :
    twinRefused.written.map Record.id = ["a", "b"] ∧ twinRefused.skipped.map Record.id = ["c"] ∧
      (Record.plain "c" "2015-01-01 10:00:01" ∈ twinRefused.written ∨
        Record.plain "c" "2015-01-01 10:00:01" ∈ twinRefused.skipped) := by
  have hheld : twinRefused.site.held = some (.initial "2015-01-01 10:00:02") := by decide +kernel
  have h := covered_written_or_skipped (by decide) (by decide) (by decide) (by decide)
    run_twinRefused (.inl hheld) (r := .plain "c" "2015-01-01 10:00:01")
    (by simp only [twinFeed, List.mem_cons, true_or, or_true]) (by decide) (.inl (by decide))
  exact ⟨by decide +kernel, by decide +kernel, h.1⟩

end Collector.Collection
