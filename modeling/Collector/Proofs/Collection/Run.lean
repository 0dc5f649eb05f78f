import Collector.Proofs.Coverage
import Collector.Proofs.Poll.Effect

/-!
# Runs of a job

A job of `harvest-source` polls a source again and again.  Around each poll the store and
the writer may fail (`Faults`), the source may fail or answer with a page of its feed
(`Source.MayServe`), and between two polls the job may be built anew over the same store
(`Collection.restart`).  A `Collection` goes along with the job and notes which records its
polls wrote, and which ones they skipped.

Main statements:

* `Collection.sound_poll`: what the writer has are the records that are noted.
* `Collection.poll_of_reconcile`: a poll in which nothing fails.
-/

namespace Collector

/-- A record as the writer gets it. -/
def Record.line (r : Record) : Bytes := bytesOf r.render

/-- What the calls of one poll fail with. -/
structure Faults where
  /-- What reading the store fails with. -/
  read : Option ClientError := none
  /-- What writing records fails with. -/
  write : Option ClientError := none
  /-- What writing to the store fails with. -/
  store : Option ClientError := none

/-- The source answers every cursor with a page of the feed. -/
def Source.Serves (source : Source) (feed : Feed) (pageSize : ℕ) : Prop :=
  ∀ cursor, ∃ page, source cursor = .ok page ∧ feed.IsPage pageSize cursor page

/-- The source fails, or answers with a page of the feed. -/
def Source.MayServe (source : Source) (feed : Feed) (pageSize : ℕ) : Prop :=
  ∀ cursor page, source cursor = .ok page → feed.IsPage pageSize cursor page

theorem Source.Serves.mayServe {source : Source} {feed : Feed} {n : ℕ}
    (h : source.Serves feed n) : source.MayServe feed n := by
  intro cursor page hok
  obtain ⟨page', hpage', hshows⟩ := h cursor
  obtain rfl : page' = page := Except.ok.inj (hpage'.symm.trans hok)
  exact hshows

/-- A source that answers a cursor with the first records at or after it. -/
def Feed.source (feed : Feed) (n : ℕ) : Source := fun cursor => .ok (feed.page n cursor)

theorem Feed.serves_source {feed : Feed} (h : feed.Ascending) (n : ℕ) :
    (feed.source n).Serves feed n :=
  fun cursor => ⟨feed.page n cursor, rfl, isPage_page h n cursor⟩

namespace Site

/-- The job, with calls that fail. -/
def suffer (s : Site) (f : Faults) : Site :=
  { s with backend := { s.backend with
      writeFault := f.write
      store := { s.backend.store with readFault := f.read, writeFault := f.store } } }

variable (s : Site) (f : Faults)

@[simp] theorem suffer_reader : (s.suffer f).reader = s.reader := rfl

@[simp] theorem suffer_writer : (s.suffer f).backend.writer = s.backend.writer := rfl

@[simp] theorem suffer_held : (s.suffer f).held = s.held := rfl

@[simp] theorem suffer_blob : (s.suffer f).blob = s.blob := rfl

@[simp] theorem suffer_saved : (s.suffer f).saved = s.saved := rfl

@[simp] theorem suffer_position : (s.suffer f).position = s.position := rfl

/-- The records in an envelope of a poll. -/
theorem records_batch (settings : PollSettings) (records : List Record) :
    (batch settings records).flatMap Envelope.records = records.map Record.line := by
  cases records with
  | nil => rfl
  | cons r rs =>
    simp only [batch, List.isEmpty_cons, Bool.false_eq_true, if_false, List.flatMap_cons,
      List.flatMap_nil, List.append_nil]
    rfl

end Site

/-! ## Collections -/

/-- A job and its feed, with what became of the records. -/
structure Collection where
  /-- The feed that the source has. -/
  feed : Feed
  /-- The job, and what it works on. -/
  site : Site
  /-- The records that were written, in order. -/
  written : List Record := []
  /-- The records that were refused although the cursor moved past them. -/
  skipped : List Record := []

namespace Collection

/-- A job that has not polled yet. -/
def ofSettings (feed : Feed) (task : Task) (settings : PollSettings) (backend : Backend) :
    Collection where
  feed := feed
  site := ⟨Reader.ofSettings task settings, backend⟩

/-- A poll of a collection, in which some calls fail. -/
def poll (c : Collection) (f : Faults) (source : Source) : Collection :=
  { c with
    site := ((c.site.suffer f).poll source).2
    written := c.written ++ (c.site.suffer f).written source
    skipped := c.skipped ++ (c.site.suffer f).skipped source }

/-- How that poll ends. -/
def outcome (c : Collection) (f : Faults) (source : Source) : Except PollError PollOutcome :=
  ((c.site.suffer f).poll source).1

/-- The job is built anew over the same backend. -/
def restart (c : Collection) : Collection :=
  { c with site := ⟨Reader.ofSettings c.site.reader.task c.site.reader.settings, c.site.backend⟩ }

/-- The source gets a new record. -/
def arrive (c : Collection) (r : Record) : Collection := { c with feed := r :: c.feed }

/-- The most records that a page holds. -/
def pageSize (c : Collection) : ℕ := c.site.reader.settings.pageSize

/-- A job of this task with these settings between two polls, whose writer had some
records before. -/
structure Sound (task : Task) (settings : PollSettings) (before : List Bytes) (c : Collection) :
    Prop where
  /-- The job has the task. -/
  task_eq : c.site.reader.task = task
  /-- The job polls the source as its task says. -/
  settings_eq : c.site.reader.settings = settings
  /-- The cursor to begin from. -/
  initial : c.site.reader.cache.initial = settings.nextRecordTime
  /-- No poll is on its way. -/
  free : c.site.reader.guard.busy = false
  /-- A checkpoint that is held names a cursor. -/
  cursor : ∀ p, c.site.held = some p → p.cursor ≠ ""
  /-- The writer has what it had before, and then the records that were written. -/
  lines : c.site.backend.writer.records = before ++ c.written.map Record.line

variable {task : Task} {settings : PollSettings} {before : List Bytes} {c : Collection}

theorem sound_ofSettings (feed : Feed) (task : Task) (settings : PollSettings) (backend : Backend) :
    Sound task settings backend.writer.records (ofSettings feed task settings backend) where
  task_eq := rfl
  settings_eq := rfl
  initial := rfl
  free := rfl
  cursor := by rintro p ⟨⟩
  lines := (List.append_nil _).symm

/-- Over a store without a blob for it, a job begins from the configured cursor. -/
theorem position_ofSettings (feed : Feed) {backend : Backend}
    (hempty : backend.store.blobs.get? task.identity = none) :
    (ofSettings feed task settings backend).site.position =
      Checkpoint.initial settings.nextRecordTime := by
  have hblob : (ofSettings feed task settings backend).site.blob = none := by
    show (if backend.store.forgetful then none else backend.store.blobs.get? task.identity) = none
    rw [hempty, ite_self]
  rw [Site.position_of_held_eq_none rfl, Site.saved, hblob]
  rfl

/-- A stored checkpoint names a cursor, or the configured one counts. -/
theorem saved_cursor_ne {s : Site} (h : s.reader.cache.initial ≠ "") : s.saved.cursor ≠ "" := by
  unfold Site.saved CheckpointCache.resume
  split
  · exact h
  · split
    · rename_i state _
      by_cases hempty : state.isEmpty
      · rw [if_pos hempty]
        exact h
      · rw [if_neg hempty]
        exact fun hcursor => hempty (decide_eq_true hcursor)
    · exact h

theorem Sound.position_cursor_ne (h : Sound task settings before c)
    (hstart : settings.nextRecordTime ≠ "") : c.site.position.cursor ≠ "" := by
  cases hheld : c.site.held with
  | none =>
    rw [Site.position_of_held_eq_none hheld]
    exact saved_cursor_ne (h.initial ▸ hstart)
  | some p =>
    rw [Site.position_of_held hheld (h.cursor p hheld)]
    exact h.cursor p hheld

/-- The checkpoints that can be there after a poll are the ones that were there
before it, and the new one. -/
theorem held_poll_cases {s : Site} {source : Source} {result : Except PollError PollOutcome}
    {t : Site} (h : s.PollEnd source result t) :
    t.held = s.held ∨ t.held = some s.position ∨ ∃ r next,
      s.collect source s.position = .ok r ∧ r.checkpoint = some next ∧ t.held = some next := by
  have hahead : ∀ r : Reconciled, r.ahead s.position = s.position ∨
      ∃ next, r.checkpoint = some next ∧ r.ahead s.position = next := by
    intro r
    cases hrefreshed : r.refreshed with
    | false => exact .inl (by simp [Reconciled.ahead, hrefreshed])
    | true =>
      cases hnext : r.checkpoint with
      | none => exact .inl (by simp [Reconciled.ahead, hnext])
      | some next => exact .inr ⟨next, rfl, by simp [Reconciled.ahead, hrefreshed, hnext]⟩
  cases h with
  | unread e _ _ _ hheld => exact .inl hheld
  | failed e _ _ _ hheld => exact .inr (.inl hheld)
  | refused r e _ hcollect _ _ _ hheld =>
    rcases hahead r with heq | ⟨next, hnext, heq⟩
    · exact .inr (.inl (heq ▸ hheld))
    · exact .inr (.inr ⟨r, next, hcollect, hnext, heq ▸ hheld⟩)
  | unstored r next e _ hcollect _ _ _ _ hheld =>
    rcases hahead r with heq | ⟨next', hnext', heq⟩
    · exact .inr (.inl (heq ▸ hheld))
    · exact .inr (.inr ⟨r, next', hcollect, hnext', heq ▸ hheld⟩)
  | stored r next _ hcollect _ _ hnext hheld => exact .inr (.inr ⟨r, next, hcollect, hnext, hheld⟩)
  | unchanged r _ _ _ _ _ hheld => exact .inr (.inl hheld)

/-- A page that is reconciled is one that the source gave. -/
theorem page_of_collect {s : Site} {source : Source} {p : Checkpoint} {r : Reconciled}
    (h : s.collect source p = .ok r) : ∃ page, source p.cursor = .ok page ∧
      reconcile (some p) page s.reader.settings.pageSize = .ok r := by
  unfold Site.collect at h
  cases hpage : source p.cursor with
  | error e =>
    simp only [hpage] at h
    cases h
  | ok page =>
    cases hreconcile : reconcile (some p) page s.reader.settings.pageSize with
    | error e =>
      simp only [hpage, hreconcile] at h
      cases h
    | ok r' =>
      simp only [hpage, hreconcile, Except.ok.injEq] at h
      exact ⟨page, rfl, h ▸ hreconcile⟩

theorem collect_of_page {s : Site} {source : Source} {p : Checkpoint} {page : Page}
    {r : Reconciled} (hpage : source p.cursor = .ok page)
    (h : reconcile (some p) page s.reader.settings.pageSize = .ok r) :
    s.collect source p = .ok r := by
  simp only [Site.collect, hpage, h]

/-- What the writer has are the records that are noted, whatever fails. -/
theorem sound_poll (h : Sound task settings before c) (hstart : settings.nextRecordTime ≠ "")
    (hfeed : c.feed.WellFormed) (f : Faults) {source : Source}
    (hserves : source.MayServe c.feed c.pageSize) :
    Sound task settings before (c.poll f source) := by
  obtain ⟨hend, hagrees, henvelopes⟩ := Site.poll_spec (s := c.site.suffer f) h.free source
  refine ⟨hagrees.task.trans h.task_eq, hagrees.settings.trans h.settings_eq,
    hagrees.initial.trans h.initial, ?_, ?_, ?_⟩
  · exact (congrArg PollGuard.busy hagrees.guard).trans h.free
  · intro p hp
    rcases held_poll_cases hend with hheld | hheld | ⟨r, next, hcollect, hnext, hheld⟩
    · exact h.cursor p (hheld.symm.trans hp)
    · obtain rfl : c.site.position = p := Option.some.inj (hheld.symm.trans hp)
      exact h.position_cursor_ne hstart
    · obtain rfl : next = p := Option.some.inj (hheld.symm.trans hp)
      obtain ⟨page, hpage, hreconcile⟩ := page_of_collect hcollect
      have hcases := reconcile_cases c.site.position page c.pageSize
      have hok : reconcile (some c.site.position) page c.pageSize = .ok r := hreconcile
      rw [hok] at hcases
      exact (hcases.plain_cursor hfeed (hserves _ page hpage) hnext).ne_empty
  · show ((c.site.suffer f).poll source).2.backend.writer.records = _
    simp only [Writer.records, poll, henvelopes, List.flatMap_append, Site.records_batch,
      List.map_append, ← List.append_assoc]
    exact congrArg (· ++ _) h.lines

/-- A poll in which nothing fails goes on from the new checkpoint, if there is one. -/
theorem poll_of_reconcile (source : Source) (h : Sound task settings before c)
    (hreceiver : c.site.backend.writer.receiver ≠ .gone) {page : Page} {r : Reconciled}
    (hpage : source c.site.position.cursor = .ok page)
    (hreconcile : reconcile (some c.site.position) page c.pageSize = .ok r) :
    c.outcome {} source = .ok (Site.outcome r) ∧
      (c.poll {} source).written = c.written ++ r.emit ∧
      (c.poll {} source).site.held = some (r.checkpoint.getD c.site.position) ∧
      (c.poll {} source).site.blob = (r.checkpoint.map c.site.blobOf).getD c.site.blob ∧
      (c.poll {} source).site.backend.writer.receiver ≠ .gone := by
  have htakes : (c.site.suffer {}).Takes := ⟨rfl, hreceiver⟩
  have hcollect : (c.site.suffer {}).collect source (c.site.suffer {}).position = .ok r :=
    collect_of_page hpage hreconcile
  obtain ⟨hresult, hwritten, hheld, hblob⟩ :=
    Site.poll_of_takes (s := c.site.suffer {}) h.free htakes rfl rfl hcollect
  refine ⟨hresult, ?_, hheld, hblob, ?_⟩
  · simp only [poll, hwritten]
  · exact ((Site.poll_spec (s := c.site.suffer {}) h.free source).2.1.takes.2 htakes).2

theorem sound_restart (h : Sound task settings before c) :
    Sound task settings before c.restart where
  task_eq := h.task_eq
  settings_eq := h.settings_eq
  initial := congrArg PollSettings.nextRecordTime h.settings_eq
  free := rfl
  cursor := by rintro p ⟨⟩
  lines := h.lines

theorem sound_arrive (h : Sound task settings before c) (r : Record) :
    Sound task settings before (c.arrive r) :=
  ⟨h.task_eq, h.settings_eq, h.initial, h.free, h.cursor, h.lines⟩

/-! ## A small job -/

/-- A task with nothing but its application and its identity. -/
def smallTask : Task where
  settings := KeyMap.ofList [(Setting.app, "feed"), (Setting.taskKey, "feed-1")]
  app_filled := ⟨"feed", by decide, by decide⟩
  identity_filled := ⟨"feed-1", by decide, by decide⟩

/-- Pages of two records, from the first second of 2015 on. -/
def smallSettings : PollSettings where
  serverUrl := "http://source.example"
  endpoint := "incident"
  timestampField := "ts"
  idField := "id"
  nextRecordTime := "2015-01-01 00:00:00"
  pageSize := 2
  username := none
  password := none

end Collection

end Collector
