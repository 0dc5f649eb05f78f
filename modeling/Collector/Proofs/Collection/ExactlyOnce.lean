import Mathlib.Logic.Relation
import Collector.Proofs.Collection.Run

/-!
# A growing feed is written exactly once

While a job of `harvest-source` polls, its source gets new records at or after the cursor,
and shows those of one timestamp in an order that may change from page to page.  As long as
no timestamp has more records than a page can hold and nothing fails, the records that
were written are those from the start time on that the checkpoint covers, each of them
once.

Main statements:

* `Once.poll`, `Once.arrive`: what one step preserves.
* `written_exactly_once`: what every run preserves.
-/

namespace Collector.Collection

/-- A step of a job in which nothing fails. -/
inductive Growth : Collection → Collection → Prop
  /-- The source gets a record at or after the cursor, and still has no timestamp
  with more records than a page holds. -/
  | arrive (c : Collection) (r : Record) (hlate : c.site.position.cursor ≤ r.timestamp)
      (hfeed : (c.arrive r).feed.WellFormed) (hfits : (c.arrive r).feed.Fits c.pageSize) :
      Growth c (c.arrive r)
  /-- The job polls. -/
  | poll (c : Collection) (source : Source) (hserves : source.Serves c.feed c.pageSize) :
      Growth c (c.poll {} source)

/-- What was written is what the checkpoint covers from the start time on, each
record once. -/
structure Once (start : String) (c : Collection) : Prop where
  /-- The feed is well formed. -/
  feed : c.feed.WellFormed
  /-- Every timestamp of the feed fits on a page. -/
  fits : c.feed.Fits c.pageSize
  /-- The writer takes what it is given. -/
  receiver : c.site.backend.writer.receiver ≠ .gone
  /-- The cursor does not lie before the start time. -/
  start_le : start ≤ c.site.position.cursor
  /-- The checkpoint names records of the feed. -/
  anchored : c.site.position.Anchored c.feed
  /-- No record was written twice. -/
  nodup : (c.written.map Record.key).Nodup
  /-- A record was written exactly if it is of the feed, lies at or after the start time and is
  covered. -/
  mem : ∀ r, r ∈ c.written ↔ r ∈ c.feed ∧ start ≤ r.timestamp ∧ c.site.position.Covers r

variable {task : Task} {settings : PollSettings} {before : List Bytes} {c : Collection}
  {start : String}

/-- A new record is not covered, so that nothing is missing. -/
theorem Once.arrive (h : Once start c) {r : Record} (hlate : c.site.position.cursor ≤ r.timestamp)
    (hfeed : (c.arrive r).feed.WellFormed) (hfits : (c.arrive r).feed.Fits c.pageSize) :
    Once start (c.arrive r) := by
  have huncovered : ¬ c.site.position.Covers r := by
    rintro (hlt | ⟨heq, hnamed⟩)
    · exact absurd hlate (not_le.2 hlt)
    · -- what the checkpoint names was in the feed before, and is no other record
      obtain ⟨x, hx, hxt, hxid⟩ := h.anchored r.id hnamed
      have hkey : Record.key r ∈ c.feed.map Record.key :=
        List.mem_map.2 ⟨x, hx, Prod.ext (hxt.trans heq.symm) hxid⟩
      exact (List.nodup_cons.1 hfeed.nodup).1 hkey
  refine ⟨hfeed, hfits, h.receiver, h.start_le, ?_, h.nodup, fun x => ?_⟩
  · intro id hid
    obtain ⟨x, hx, hxt, hxid⟩ := h.anchored id hid
    exact ⟨x, List.mem_cons_of_mem r hx, hxt, hxid⟩
  · have hmem : x ∈ (c.arrive r).feed ↔ x = r ∨ x ∈ c.feed := List.mem_cons
    show x ∈ c.written ↔ x ∈ (c.arrive r).feed ∧ start ≤ x.timestamp ∧ c.site.position.Covers x
    rw [h.mem x, hmem]
    constructor
    · rintro ⟨hx, hrest⟩
      exact ⟨.inr hx, hrest⟩
    · rintro ⟨rfl | hx, hstart, hcovers⟩
      · exact absurd hcovers huncovered
      · exact ⟨hx, hstart, hcovers⟩

/-- A poll writes what becomes covered. -/
theorem Once.poll (h : Once start c) (hsound : Sound task settings before c)
    (hstart : settings.nextRecordTime ≠ "") {source : Source}
    (hserves : source.Serves c.feed c.pageSize) : Once start (c.poll {} source) := by
  obtain ⟨page, hpage, hshows⟩ := hserves c.site.position.cursor
  obtain ⟨r, hreconcile, hstep⟩ := exists_reconcile h.feed h.fits hshows
  have hsound' := sound_poll hsound hstart h.feed {} hserves.mayServe
  obtain ⟨-, hwritten, hheld, -, hreceiver⟩ :=
    poll_of_reconcile source hsound h.receiver hpage hreconcile
  have hposition : (c.poll {} source).site.position = r.checkpoint.getD c.site.position :=
    Site.position_of_held hheld (hsound'.cursor _ hheld)
  have hsize : (c.poll {} source).pageSize = c.pageSize :=
    congrArg PollSettings.pageSize (hsound'.settings_eq.trans hsound.settings_eq.symm)
  refine ⟨h.feed, hsize ▸ h.fits, hreceiver, ?_, ?_, ?_, fun x => ?_⟩
  · rw [hposition]
    exact h.start_le.trans hstep.cursor_le
  · rw [hposition]
    cases hnext : r.checkpoint with
    | none => exact h.anchored
    | some q => exact hstep.anchored q hnext
  · -- what is new was not covered, and all that was written is
    rw [hwritten, List.map_append]
    refine List.nodup_append'.2 ⟨h.nodup, hstep.nodup, ?_⟩
    intro key hold hnew
    obtain ⟨x, hx, rfl⟩ := List.mem_map.1 hold
    obtain ⟨y, hy, hkey⟩ := List.mem_map.1 hnew
    obtain ⟨hxfeed, -, hcovers⟩ := (h.mem x).1 hx
    obtain ⟨hyfeed, huncovered⟩ := hstep.uncovered y hy
    have hyx : y = x :=
      h.feed.eq_of_key hyfeed hxfeed (congrArg Prod.fst hkey) (congrArg Prod.snd hkey)
    exact huncovered (hyx ▸ hcovers)
  · show x ∈ (c.poll {} source).written ↔
      x ∈ c.feed ∧ start ≤ x.timestamp ∧ (c.poll {} source).site.position.Covers x
    rw [hwritten, hposition, List.mem_append, h.mem x]
    constructor
    · rintro (⟨hx, hfrom, hcovers⟩ | hnew)
      · exact ⟨hx, hfrom, (hstep.covers x hx).2 (.inl hcovers)⟩
      · have hx := (hstep.uncovered x hnew).1
        have hge : c.site.position.cursor ≤ x.timestamp :=
          not_lt.1 fun hlt => (hstep.uncovered x hnew).2 (.inl hlt)
        exact ⟨hx, h.start_le.trans hge, (hstep.covers x hx).2 (.inr hnew)⟩
    · rintro ⟨hx, hfrom, hcovers⟩
      rcases (hstep.covers x hx).1 hcovers with hold | hnew
      · exact .inl ⟨hx, hfrom, hold⟩
      · exact .inr hnew

/-- In every state of a job that began over a store without a blob for it, and that
nothing failed, the writer has the records from the start time on that lie before
the cursor or are named at it, each of them once. -/
theorem written_exactly_once {feed : Feed} {task : Task} {settings : PollSettings}
    {backend : Backend} (hfeed : feed.WellFormed) (hfits : feed.Fits settings.pageSize)
    (hstart : settings.nextRecordTime ≠ "") (hempty : backend.store.blobs.get? task.identity = none)
    (hreceiver : backend.writer.receiver ≠ .gone) {c : Collection}
    (hrun : Relation.ReflTransGen Growth (ofSettings feed task settings backend) c) :
    (c.written.map Record.key).Nodup ∧
      (∀ r, r ∈ c.written ↔ r ∈ c.feed ∧
        (settings.nextRecordTime ≤ r.timestamp ∧ r.timestamp < c.site.position.cursor ∨
          r.timestamp = c.site.position.cursor ∧ r.id ∈ c.site.position.delivered)) ∧
      c.site.backend.writer.records = backend.writer.records ++ c.written.map Record.line := by
  have hinv : Sound task settings backend.writer.records c ∧ Once settings.nextRecordTime c := by
    induction hrun with
    | refl =>
      have hposition : (ofSettings feed task settings backend).site.position =
          Checkpoint.initial settings.nextRecordTime := position_ofSettings feed hempty
      refine ⟨sound_ofSettings feed task settings backend, hfeed, hfits, hreceiver, ?_, ?_,
        List.nodup_nil, fun r => ?_⟩
      · rw [hposition]
        exact le_rfl
      · rw [hposition]
        exact Checkpoint.anchored_initial _ _
      · rw [hposition, Checkpoint.covers_initial]
        exact ⟨fun h => absurd h List.not_mem_nil,
          fun ⟨_, hge, hlt⟩ => absurd hge (not_le.2 hlt)⟩
    | tail _ hstep ih =>
      obtain ⟨hsound, honce⟩ := ih
      cases hstep with
      | arrive r hlate hfeed hfits =>
        exact ⟨sound_arrive hsound r, honce.arrive hlate hfeed hfits⟩
      | poll source hserves =>
        exact ⟨sound_poll hsound hstart honce.feed {} hserves.mayServe,
          honce.poll hsound hstart hserves⟩
  obtain ⟨hsound, honce⟩ := hinv
  refine ⟨honce.nodup, ?_, hsound.lines⟩
  intro r
  rw [honce.mem r]
  refine and_congr_right fun _ => ?_
  constructor
  · rintro ⟨hge, hlt | hat⟩
    · exact .inl ⟨hge, hlt⟩
    · exact .inr hat
  · rintro (⟨hge, hlt⟩ | hat)
    · exact ⟨hge, .inl hlt⟩
    · exact ⟨honce.start_le.trans hat.1.ge, .inr hat⟩

/-- A record arrives that has the timestamp of the cursor and fills the page with it. -/
theorem written_exactly_once_tie :
    let feed : Feed := [.plain "a" "2015-01-01 10:00:00"]
    let c := ((ofSettings feed smallTask smallSettings {}).poll {} (feed.source 2)).arrive
      (.plain "b" "2015-01-01 10:00:00")
    let d := c.poll {} (c.feed.source 2)
    d.site.position.cursor = "2015-01-01 10:00:01" ∧ d.written.map Record.id = ["a", "b"] ∧
      (d.written.map Record.key).Nodup := by
  intro feed c d
  have hfirst : Growth (ofSettings feed smallTask smallSettings {}) _ :=
    .poll _ (feed.source 2) (Feed.serves_source (by decide : feed.Ascending) 2)
  have hsize : c.pageSize = 2 := by decide +kernel
  have hrun : Relation.ReflTransGen Growth (ofSettings feed smallTask smallSettings {}) d :=
    ((Relation.ReflTransGen.single hfirst).tail
      (.arrive _ (.plain "b" "2015-01-01 10:00:00")
        (by decide +kernel) (by decide) (by decide))).tail
      (.poll c (c.feed.source 2)
        (hsize.symm ▸ Feed.serves_source (by decide : c.feed.Ascending) 2))
  have hnodup : (d.written.map Record.key).Nodup :=
    (written_exactly_once (by decide : feed.WellFormed) (by decide) (by decide) (by decide)
      (by decide) hrun).1
  exact ⟨by decide +kernel, by decide +kernel, hnodup⟩

end Collector.Collection
