import Collector.Proofs.Collection.Run

/-!
# Polls that fail

A poll of `harvest-source` can fail at each of its steps: the store cannot be read, the
source does not answer, its answer cannot be used, the cursor cannot be moved on, the
writer refuses or the store does.  Whichever it is, the store is as it was and the reader
is free.  The writer has one envelope more only if it was the store that refused, after the
new records were written; and the checkpoint in memory is the one that the poll started
from, unless the cursor was forced past a timestamp before.

Main statements:

* `Site.settle_error`: how the steps after the page is reconciled fail.
* `Site.failed_of_error`: what a poll that fails leaves behind.
-/

namespace Collector

/-! ## What the steps leave alone -/

/-- Writing records does not touch the store. -/
theorem Backend.store_deliver (b : Backend) (e : Envelope) : (b.deliver e).2.store = b.store := by
  unfold Backend.deliver
  split
  · rfl
  · split
    · rfl
    · rfl

namespace Site

theorem store_load (s : Site) : s.load.2.backend.store = s.backend.store := by
  cases htrusted : s.reader.cache.trusted? with
  | some state => simp only [load, CheckpointCache.load, htrusted]
  | none =>
    cases hread : s.backend.store.read s.reader.task with
    | error e =>
      simp only [load, CheckpointCache.load, htrusted, Backend.readBlob, hread, Backend.log]
    | ok blob =>
      simp only [load, CheckpointCache.load, htrusted, Backend.readBlob, hread, Backend.log]

theorem backend_advance (s : Site) (r : Reconciled) : (s.advance r).backend = s.backend := by
  unfold advance
  split
  · rfl
  · rfl

theorem store_deliver (s : Site) (r : Reconciled) :
    (s.deliver r).2.backend.store = s.backend.store := by
  have hkeeps := s.backend.store_deliver (envelope s.reader.settings r.emit)
  unfold deliver
  split_ifs
  · rfl
  · split
    · rename_i hdeliver
      rwa [hdeliver] at hkeeps
    · rename_i hdeliver
      rwa [hdeliver] at hkeeps

theorem deliver_of_emit_eq_nil (s : Site) {r : Reconciled} (h : r.emit = []) :
    s.deliver r = (.ok (), s) := by
  simp only [deliver, h, List.isEmpty_nil, if_true]

/-- A store that refuses a checkpoint is as it was. -/
theorem store_of_persist_error {s : Site} {next : Checkpoint} {e : PollError}
    (h : (s.persist next).1 = .error e) : (s.persist next).2.backend.store = s.backend.store := by
  cases hwrite : (s.backend.log .storeWrite).store.write s.reader.task next.encode with
  | error fault =>
    simp only [persist, CheckpointCache.persist, Backend.writeBlob, hwrite]
    rfl
  | ok store =>
    simp only [persist, CheckpointCache.persist, Backend.writeBlob, hwrite] at h
    cases h

/-! ## The steps after the page is reconciled -/

/-- How the steps after the page is reconciled fail: the writer refuses, or it takes
the new records and the store refuses. -/
theorem settle_error {s : Site} {p : Checkpoint} {r : Reconciled} {e : PollError}
    (hheld : s.held = some p) (h : (s.settle r).1 = .error e) :
    (s.settle r).2.backend.store = s.backend.store ∧ (s.settle r).2.held = some (r.ahead p) ∧
      ((∃ fault, e = .write fault ∧ (s.settle r).2.backend.writer = s.backend.writer) ∨
        ∃ fault, e = .checkpoint fault ∧
          (r.emit = [] ∧ (s.settle r).2.backend.writer = s.backend.writer ∨
            r.emit ≠ [] ∧ (s.settle r).2.backend.writer.envelopes =
              s.backend.writer.envelopes ++ [envelope s.reader.settings r.emit])) := by
  obtain ⟨hahead, hadvance⟩ := advance_spec r hheld
  have hstore : (s.advance r).backend.store = s.backend.store :=
    congrArg Backend.store (s.backend_advance r)
  rcases deliver_cases (s.advance r) r with ⟨fault, hdeliver, -, -⟩ |
    ⟨t, hdeliver, -, htheld, -, -, henv⟩
  · -- the writer refuses
    have hsettle : s.settle r = (.error (.write fault), s.advance r) := by
      simp only [settle, hdeliver]
    rw [hsettle] at h ⊢
    exact ⟨hstore, hahead, .inl ⟨fault, (Except.error.inj h).symm, hadvance.writer⟩⟩
  · have htstore : t.backend.store = s.backend.store := by
      have hkeeps := (s.advance r).store_deliver r
      rwa [hdeliver, hstore] at hkeeps
    cases hnext : r.checkpoint with
    | none =>
      have hsettle : s.settle r = (.ok (outcome r), t) := by
        simp only [settle, hdeliver, commit, hnext]
      rw [hsettle] at h
      cases h
    | some next =>
      rcases persist_cases t next with ⟨fault, u, hpersist, -, huheld, hu⟩ | ⟨u, hpersist, -⟩
      · -- the store refuses
        have hsettle : s.settle r = (.error (.checkpoint fault), u) := by
          simp only [settle, hdeliver, commit, hnext, hpersist]
        have hustore := store_of_persist_error (s := t) (congrArg Prod.fst hpersist)
        rw [hpersist, htstore] at hustore
        rw [hsettle] at h ⊢
        refine ⟨hustore, huheld.trans (htheld.trans hahead),
          .inr ⟨fault, (Except.error.inj h).symm, ?_⟩⟩
        by_cases hemit : r.emit = []
        · rw [deliver_of_emit_eq_nil _ hemit] at hdeliver
          obtain rfl : s.advance r = t := congrArg Prod.snd hdeliver
          exact .inl ⟨hemit, hu.writer.trans hadvance.writer⟩
        · have hbatch : batch s.reader.settings r.emit = [envelope s.reader.settings r.emit] := by
            simp only [batch, List.isEmpty_iff, hemit, if_false]
          refine .inr ⟨hemit, ?_⟩
          rw [hu.writer, henv, hadvance.writer, hadvance.settings, hbatch]
      · have hsettle : s.settle r = (.ok (outcome r), u.hold next) := by
          simp only [settle, hdeliver, commit, hnext, hpersist]
        rw [hsettle] at h
        cases h

/-! ## Whole polls -/

/-- The checkpoint that a poll starts from; none if it cannot be read. -/
def loaded? (s : Site) : Option Checkpoint := s.load.1.toOption

/-- The checkpoint that a poll forces past a timestamp, if it does. -/
def forced? (s : Site) (source : Source) : Option Checkpoint :=
  (s.reconciled? source).bind fun r => if r.refreshed then r.checkpoint else none

/-- What a poll that fails with `e` leaves behind, its claim apart. -/
structure Failed (s : Site) (source : Source) (e : PollError) (t : Site) : Prop where
  /-- The store is as it was. -/
  store : t.backend.store = s.backend.store
  /-- The store refused the checkpoint after the new records were written in one
  envelope; or there was no such checkpoint, or nothing new, and the writer is as it
  was. -/
  written : (∃ r fault, s.reconciled? source = some r ∧ r.emit ≠ [] ∧ e = .checkpoint fault ∧
      t.backend.writer.envelopes =
        s.backend.writer.envelopes ++ [envelope s.reader.settings r.emit]) ∨
    (∀ r fault, s.reconciled? source = some r → e = .checkpoint fault → r.emit = []) ∧
      t.backend.writer = s.backend.writer
  /-- What is held is the checkpoint that the poll forced, else the one that it started
  from, else what was held before. -/
  held : t.held = ((s.forced? source).or s.loaded?).or s.held
  /-- A checkpoint is forced only before a write that fails, and it is the next second
  of the timestamp that fills the page, without identifiers. -/
  forced : ∀ c, s.forced? source = some c → (∃ fault, e = .write fault ∨ e = .checkpoint fault) ∧
    ∃ p page timestamp next, s.loaded? = some p ∧ source p.cursor = .ok page ∧
      Reconciled.saturated? page s.reader.settings.pageSize = some timestamp ∧
      Timestamp.nextSecond timestamp = .ok next ∧ c = Checkpoint.initial next

/-- Before a page is reconciled nothing but the loaded checkpoint can have changed. -/
theorem failed_of_reconciled?_eq_none {s t : Site} {source : Source} {e : PollError}
    (hnone : s.reconciled? source = none) (hstore : t.backend.store = s.backend.store)
    (hwriter : t.backend.writer = s.backend.writer) (hheld : t.held = s.loaded?.or s.held) :
    Failed s source e t where
  store := hstore
  written := .inr ⟨fun r _ hr => (by rw [hnone] at hr; cases hr), hwriter⟩
  held := by rw [forced?, hnone, Option.bind_none, Option.none_or, hheld]
  forced := fun c hc => by rw [forced?, hnone] at hc; cases hc

/-- Once a page is reconciled, the steps that follow leave nothing behind either. -/
theorem failed_settle {s t : Site} {source : Source} {r : Reconciled} {e : PollError}
    (hloaded : s.loaded? = some s.position) (hheld : t.held = some s.position)
    (hstore : t.backend.store = s.backend.store) (ht : Untouched s t)
    (hcollect : s.collect source s.position = .ok r) (hsome : s.reconciled? source = some r)
    (h : (t.settle r).1 = .error e) : Failed s source e (t.settle r).2 := by
  obtain ⟨hsettled, hahead, hend⟩ := settle_error hheld h
  rw [ht.writer, ht.settings] at hend
  have hforced : s.forced? source = if r.refreshed then r.checkpoint else none := by
    rw [forced?, hsome, Option.bind_some]
  refine ⟨hsettled.trans hstore, ?_, ?_, ?_⟩
  · rcases hend with ⟨fault, rfl, hwriter⟩ | ⟨fault, rfl, ⟨hnil, hwriter⟩ | ⟨hemit, hone⟩⟩
    · exact .inr ⟨fun _ _ _ he => (by cases he), hwriter⟩
    · refine .inr ⟨fun r' _ hr' _ => ?_, hwriter⟩
      obtain rfl : r = r' := Option.some.inj (hsome.symm.trans hr')
      exact hnil
    · exact .inl ⟨r, fault, hsome, hemit, rfl, hone⟩
  · rw [hahead, hforced, hloaded, Option.or_some, Option.some_or, Reconciled.ahead]
    split
    · rfl
    · rfl
  · intro c hc
    rw [hforced] at hc
    split_ifs at hc with hrefreshed
    obtain ⟨page, hpage, hreconcile⟩ := Collection.page_of_collect hcollect
    obtain ⟨timestamp, next, hsaturated, hnext, hcheckpoint⟩ :=
      exists_saturated_of_refreshed hreconcile hrefreshed
    have hfault : ∃ fault, e = .write fault ∨ e = .checkpoint fault := by
      rcases hend with ⟨fault, he, -⟩ | ⟨fault, he, -⟩
      · exact ⟨fault, .inl he⟩
      · exact ⟨fault, .inr he⟩
    exact ⟨hfault, s.position, page, timestamp, next, hloaded, hpage, hsaturated, hnext,
      Option.some.inj (hc.symm.trans hcheckpoint)⟩

theorem failed_cycle {s : Site} {source : Source} {e : PollError}
    (h : (s.cycle source).1 = .error e) : Failed s source e (s.cycle source).2 := by
  have hload := s.store_load
  rcases s.load_cases with ⟨fault, t, hunread, -, hheld, ht⟩ | ⟨t, hread, hheld, ht⟩
  · -- the store cannot be read
    have hcycle : s.cycle source = (.error (.checkpoint fault), t) := by simp only [cycle, hunread]
    have hloaded : s.loaded? = none := by simp only [loaded?, hunread, Except.toOption]
    rw [hunread] at hload
    rw [hcycle]
    refine failed_of_reconciled?_eq_none ?_ hload ht.writer (by rw [hloaded, hheld, Option.none_or])
    simp only [reconciled?, hunread]
  · have hloaded : s.loaded? = some s.position := by simp only [loaded?, hread, Except.toOption]
    rw [hread] at hload
    cases hcollect : s.collect source s.position with
    | error e' =>
      -- there is no page, or it cannot be reconciled
      have hcycle : s.cycle source = (.error e', t) := by
        simp only [cycle, hread, collect_congr ht.settings, hcollect]
      rw [hcycle]
      refine failed_of_reconciled?_eq_none ?_ hload ht.writer
        (by rw [hloaded, hheld, Option.some_or])
      simp only [reconciled?, hread, hcollect, Except.toOption]
    | ok r =>
      have hcycle : s.cycle source = t.settle r := by
        simp only [cycle, hread, collect_congr ht.settings, hcollect]
      have hsome : s.reconciled? source = some r := by
        simp only [reconciled?, hread, hcollect, Except.toOption]
      rw [hcycle] at h ⊢
      exact failed_settle hloaded hheld hload ht hcollect hsome h

/-- Whatever a poll fails with, it gives the reader back and leaves nothing else
behind. -/
theorem failed_of_error {s : Site} {source : Source} {e : PollError}
    (h : (s.poll source).1 = .error e) :
    (s.poll source).2.reader.guard.busy = false ∧ Failed s source e (s.poll source).2 := by
  cases hbusy : s.reader.guard.busy with
  | true =>
    have hskipped : s.poll source = (.ok .skipped, s) := by
      simp only [poll, claim?, PollGuard.claim?, hbusy, if_true, Option.map_none]
    rw [hskipped] at h
    cases h
  | false =>
    rw [poll_eq hbusy] at h ⊢
    obtain ⟨hstore, hwritten, hheld, hforced⟩ := failed_cycle h
    exact ⟨rfl, hstore, hwritten, hheld, hforced⟩

/-- A page of one timestamp is written, and the store refuses the forced checkpoint: the
store has the one of the poll before, and the job goes on from the next second. -/
theorem failed_of_error_forced :
    let source := Feed.source [.plain "a" "2015-01-01 10:00:00", .plain "b" "2015-01-01 10:00:01",
      .plain "c" "2015-01-01 10:00:01"] 2
    let job : Site := ⟨Reader.ofSettings Collection.smallTask Collection.smallSettings, {}⟩
    let first := (job.poll source).2
    let s := first.suffer { store := some .closed }
    let refused := (s.poll source).2
    (s.poll source).1 = .error (.checkpoint .closed) ∧
      refused.reader.guard.busy = false ∧ refused.backend.store = s.backend.store ∧
      first.held.map Checkpoint.cursor = some "2015-01-01 10:00:01" ∧
      refused.held = some (.initial "2015-01-01 10:00:02") ∧
      refused.backend.writer.envelopes.map Envelope.records =
        [[(Record.plain "a" "2015-01-01 10:00:00").line,
          (Record.plain "b" "2015-01-01 10:00:01").line],
         [(Record.plain "c" "2015-01-01 10:00:01").line]] := by
  intro source job first s refused
  have herror : (s.poll source).1 = .error (.checkpoint .closed) := by decide +kernel
  obtain ⟨hfree, hfailed⟩ := failed_of_error herror
  have hforced : s.forced? source = some (.initial "2015-01-01 10:00:02") := by decide +kernel
  refine ⟨herror, hfree, hfailed.store, by decide +kernel, ?_, by decide +kernel⟩
  rw [hfailed.held, hforced, Option.some_or, Option.some_or]

end Site
end Collector
