import Collector.Proofs.Collection.Run
import Collector.Proofs.Feed.Cut

/-!
# A feed is drained

A job of `harvest-source` that polls a source with a fixed feed, without failures, comes
to rest: it has then written the feed from the start time on, in its order, with every
timestamp cut down to as many records as a page holds.  Until it rests, each poll takes it
closer to the end (`Drained.step`): the records that are left, counted twice, less those
of them that were written.

Main statements:

* `Drained.step`: what one poll does to the checkpoint and to what was written.
* `drains`: when the job rests, and what it has written then.
-/

namespace Collector

open Feed Reconciled

/-- A feed is written up to a checkpoint: what lies before the cursor, cut down to
what pages hold, and the first `shown` records at the cursor, which the checkpoint
names. -/
structure Drained (feed : Feed) (n : ℕ) (p : Checkpoint) (written : List Record) (shown : ℕ) :
    Prop where
  /-- A page holds the records that were shown of one timestamp. -/
  le_pageSize : shown ≤ n
  /-- No more records were shown than there are. -/
  le_length : shown ≤ (feed.since p.cursor).length
  /-- The records that were shown stand at the cursor. -/
  cursor : ∀ r ∈ (feed.since p.cursor).take shown, r.timestamp = p.cursor
  /-- The checkpoint names the records that were shown. -/
  delivered : p.delivered = ((feed.since p.cursor).take shown).reverse.map Record.id
  /-- All was written that lies before the cursor, cut down, and then the records that were
  shown. -/
  written : written = (feed.before p.cursor).capped n ++ (feed.since p.cursor).take shown

/-- What is left of a feed: the records at or after the cursor, counted twice, less
the ones that are named. -/
def remaining (feed : Feed) (p : Checkpoint) : ℕ :=
  2 * (feed.since p.cursor).length - p.delivered.length

namespace Feed

variable {l : Feed} {k : ℕ} {d : String}

/-- If a beginning of a feed lies before a cursor, it is no longer than what does. -/
theorem le_length_before (hl : l.Ascending) (hk : k ≤ l.length)
    (h : ∀ r ∈ l.take k, r.timestamp < d) : k ≤ (l.before d).length := by
  by_contra hgt
  have hsplit := before_append_since d hl
  have hlen : (l.before d).length + (l.since d).length = l.length := by
    rw [← List.length_append, hsplit]
  -- the first record that does not lie before the cursor would be among them
  have htake : l.take k = l.before d ++ (l.since d).take (k - (l.before d).length) := by
    conv_lhs => rw [← hsplit]
    rw [List.take_append, List.take_of_length_le (by omega)]
  cases hsince : l.since d with
  | nil =>
    rw [hsince, List.length_nil] at hlen
    omega
  | cons x rest =>
    have hx : x ∈ l.take k := by
      rw [htake, hsince, show k - (l.before d).length = (k - (l.before d).length - 1) + 1 by omega,
        List.take_succ_cons]
      exact List.mem_append_right _ List.mem_cons_self
    have hge : d ≤ x.timestamp := (mem_since.1 (hsince ▸ List.mem_cons_self)).2
    exact absurd (h x hx) (not_lt.2 hge)

/-- What lies before a later cursor, cut down to what pages hold. -/
theorem capped_before {feed : Feed} (hfeed : feed.Ascending) {c d : String} (h : c ≤ d) (n : ℕ) :
    (feed.before d).capped n = (feed.before c).capped n ++ ((feed.since c).before d).capped n := by
  rw [before_eq_append hfeed h]
  refine capped_append ?_
  intro x hx y hy heq
  have hlt : x.timestamp < c := (mem_before.1 hx).2
  have hge : c ≤ y.timestamp := (mem_since.1 (mem_before.1 hy).1).2
  exact absurd (heq ▸ hge) (not_le.2 hlt)

end Feed

namespace Drained

variable {feed : Feed} {n shown : ℕ} {p : Checkpoint} {written : List Record}

theorem length_delivered (h : Drained feed n p written shown) : p.delivered.length = shown := by
  rw [h.delivered, List.length_map, List.length_reverse, List.length_take, min_eq_left h.le_length]

/-- The page begins with what was written at the cursor, and the rest of it is new. -/
theorem fresh_eq (h : Drained feed n p written shown) (hfeed : feed.WellFormed) :
    fresh p ((feed.since p.cursor).take n) = ((feed.since p.cursor).take n).drop shown := by
  have hsplit : (feed.since p.cursor).take n =
      (feed.since p.cursor).take shown ++ ((feed.since p.cursor).take n).drop shown := by
    conv_lhs => rw [← List.take_append_drop shown ((feed.since p.cursor).take n)]
    rw [List.take_take, min_eq_left h.le_pageSize]
  have hkeys : (((feed.since p.cursor).take n).map Record.key).Nodup :=
    hfeed.nodup.sublist (((List.take_sublist _ _).trans List.filter_sublist).map _)
  rw [hsplit, List.map_append] at hkeys
  have hold : fresh p ((feed.since p.cursor).take shown) = [] := by
    refine List.filter_eq_nil_iff.2 ?_
    intro r hr hnew
    have hnamed : r.id ∈ p.delivered := by
      rw [h.delivered]
      exact List.mem_map_of_mem (List.mem_reverse.2 hr)
    exact (mem_fresh.1 (List.mem_filter.2 ⟨hr, hnew⟩)).2 ⟨h.cursor r hr, hnamed⟩
  have hrest : fresh p (((feed.since p.cursor).take n).drop shown) =
      ((feed.since p.cursor).take n).drop shown := by
    refine List.filter_eq_self.2 ?_
    intro r hr
    by_contra hnew
    have hnamed : r.timestamp = p.cursor ∧ r.id ∈ p.delivered := by
      by_contra hnot
      exact hnew (List.mem_filter.1 (mem_fresh.2 ⟨hr, hnot⟩)).2
    rw [h.delivered] at hnamed
    obtain ⟨x, hx, hid⟩ := List.mem_map.1 hnamed.2
    have hxat := h.cursor x (List.mem_reverse.1 hx)
    -- no two records have the same timestamp and identifier
    have hkey : Record.key x = Record.key r := Prod.ext (hxat.trans hnamed.1.symm) hid
    exact (List.nodup_append'.1 hkeys).2.2 (List.mem_map_of_mem (List.mem_reverse.1 hx))
      (hkey ▸ List.mem_map_of_mem hr)
  calc fresh p ((feed.since p.cursor).take n)
      = fresh p ((feed.since p.cursor).take shown) ++
          fresh p (((feed.since p.cursor).take n).drop shown) := by
        conv_lhs => rw [hsplit]
        exact List.filter_append ..
    _ = ((feed.since p.cursor).take n).drop shown := by rw [hold, hrest, List.nil_append]

/-- With what is new, the whole page is written. -/
theorem written_append_fresh (h : Drained feed n p written shown) (hfeed : feed.WellFormed) :
    written ++ fresh p ((feed.since p.cursor).take n) =
      (feed.before p.cursor).capped n ++ (feed.since p.cursor).take n := by
  rw [h.fresh_eq hfeed, h.written, List.append_assoc]
  congr 1
  conv_rhs => rw [← List.take_append_drop shown ((feed.since p.cursor).take n)]
  rw [List.take_take, min_eq_left h.le_pageSize]

/-- At the end of a page that shows something new, everything before its last
timestamp is written, and what the page shows of it; less is left. -/
theorem moved (h : Drained feed n p written shown) (hasc : feed.Ascending) (hfeed : feed.WellFormed)
    {last : Record} (hlast : ((feed.since p.cursor).take n).getLast? = some last)
    (hfresh : fresh p ((feed.since p.cursor).take n) ≠ []) :
    p.cursor ≤ last.timestamp ∧ ∃ shown',
      let q := Checkpoint.ofCursor last.timestamp
        ((bucket ((feed.since p.cursor).take n) last.timestamp).reverse.map Record.id)
      Drained feed n q (written ++ fresh p ((feed.since p.cursor).take n)) shown' ∧
        remaining feed q < remaining feed p := by
  have hnew : written ++ fresh p ((feed.since p.cursor).take n) = _ := h.written_append_fresh hfeed
  have hdelivered := h.length_delivered
  have hlate : shown < ((feed.since p.cursor).take n).length := by
    rw [h.fresh_eq hfeed] at hfresh
    exact not_le.1 fun hle => hfresh (List.drop_eq_nil_of_le hle)
  have hle : p.cursor ≤ last.timestamp :=
    (mem_since.1 (List.mem_of_mem_take (List.mem_of_getLast? hlast))).2
  have hrest : (feed.since p.cursor).since last.timestamp = feed.since last.timestamp :=
    since_since hle
  have hl := ascending_since hasc p.cursor
  have hbound := h.le_length
  have hcursor := h.cursor
  obtain ⟨hlen, htake⟩ := take_eq_of_getLast hl hlast
  have hbucket := bucket_take_of_getLast hl hlast
  have hsplit := congrArg List.length (before_append_since last.timestamp hl)
  rw [List.length_append] at hsplit
  -- what was written at the old cursor lies before the new one, unless they are the same
  have hold : shown ≤ ((feed.since p.cursor).before last.timestamp).length ∨
      ((feed.since p.cursor).before last.timestamp).length = 0 := by
    rcases hle.lt_or_eq with hlt | heq
    · exact .inl (le_length_before hl hbound fun r hr => (hcursor r hr).trans_lt hlt)
    · refine .inr (List.length_eq_zero_iff.2 (before_eq_nil ?_))
      intro r hr
      exact heq ▸ (mem_since.1 hr).2
  set m := n - ((feed.since p.cursor).before last.timestamp).length with hm
  have hpagelen := congrArg List.length htake
  rw [hrest] at htake hbucket hpagelen hsplit
  rw [List.length_append, List.length_take (i := m)] at hpagelen
  have hlastmem : last ∈ (feed.since last.timestamp).take m := by
    rw [← hbucket]
    exact mem_bucket.2 ⟨List.mem_of_getLast? hlast, rfl⟩
  have hpos : 0 < min m (feed.since last.timestamp).length := by
    rw [← List.length_take]
    exact List.length_pos_of_mem hlastmem
  have hmin : (feed.since last.timestamp).take (min m (feed.since last.timestamp).length) =
      (feed.since last.timestamp).take m := by
    rw [← List.take_take, List.take_length]
  refine ⟨hle, min m (feed.since last.timestamp).length, ?_, ?_⟩
  · refine ⟨by omega, min_le_right _ _, ?_, ?_, ?_⟩
    · intro r hr
      simp only [Checkpoint.ofCursor] at hr ⊢
      rw [hmin, ← hbucket] at hr
      exact (mem_bucket.1 hr).2
    · simp only [Checkpoint.ofCursor]
      rw [hmin, hbucket]
    · simp only [Checkpoint.ofCursor]
      rw [hnew, hmin, capped_before hasc hle, capped_of_length hlen, List.append_assoc, ← htake]
  · simp only [remaining, Checkpoint.ofCursor, List.length_map, List.length_reverse, hbucket,
      List.length_take, hdelivered]
    omega

/-- Past a timestamp that fills the page, as much of it is written as a page holds;
less is left. -/
theorem forced (h : Drained feed n p written shown) (hasc : feed.Ascending)
    (hfeed : feed.WellFormed) (hshown : 0 < shown) (hfull : n ≤ (feed.since p.cursor).length)
    (hall : ∀ r ∈ (feed.since p.cursor).take n, r.timestamp = p.cursor) {next : String}
    (hlt : p.cursor < next) (hnext : ∀ r ∈ feed, r.timestamp < next → r.timestamp ≤ p.cursor) :
    Drained feed n (Checkpoint.initial next) (written ++ fresh p ((feed.since p.cursor).take n)) 0 ∧
      remaining feed (Checkpoint.initial next) < remaining feed p := by
  have hnew := h.written_append_fresh hfeed
  have hdelivered := h.length_delivered
  have hpageSize := h.le_pageSize
  have hl := ascending_since hasc p.cursor
  have hrest : (feed.since p.cursor).since next = feed.since next := since_since hlt.le
  have hsplit := before_append_since next hl
  have hlen : n ≤ ((feed.since p.cursor).before next).length :=
    le_length_before hl hfull fun r hr => (hall r hr).trans_lt hlt
  have htake : (feed.since p.cursor).take n = ((feed.since p.cursor).before next).take n := by
    conv_lhs => rw [← hsplit]
    rw [List.take_append_of_le_length hlen]
  have hat : ∀ r ∈ (feed.since p.cursor).before next, r.timestamp = p.cursor := by
    intro r hr
    obtain ⟨hsince, hbefore⟩ := mem_before.1 hr
    obtain ⟨hmem, hge⟩ := mem_since.1 hsince
    exact le_antisymm (hnext r hmem hbefore) hge
  refine ⟨⟨Nat.zero_le _, Nat.zero_le _, ?_, rfl, ?_⟩, ?_⟩
  · intro r hr
    exact absurd hr List.not_mem_nil
  · simp only [Checkpoint.initial, Checkpoint.ofCursor, List.take_zero, List.append_nil]
    rw [hnew, capped_before hasc hlt.le, capped_of_bucket hat, htake]
  · have hsum := congrArg List.length hsplit
    rw [List.length_append, hrest] at hsum
    simp only [remaining, Checkpoint.initial, Checkpoint.ofCursor, List.length_nil, hdelivered]
    omega

/-- If a page shows nothing new and is not full of one timestamp, all is written. -/
theorem stayed (h : Drained feed n p written shown) (hpos : 0 < n) (hasc : feed.Ascending)
    (hfeed : feed.WellFormed) (hfresh : fresh p ((feed.since p.cursor).take n) = [])
    (hcase : (feed.since p.cursor).take n = [] ∨
      saturated? (Page.ofRecords ((feed.since p.cursor).take n)) n = none) :
    written = feed.capped n := by
  have hbound := h.le_length
  have hpageSize := h.le_pageSize
  have hle : ((feed.since p.cursor).take n).length ≤ shown := by
    rw [h.fresh_eq hfeed] at hfresh
    exact List.drop_eq_nil_iff.1 hfresh
  have hshort : (feed.since p.cursor).length ≤ shown := by
    rw [List.length_take] at hle
    by_contra hlong
    -- else the page is full of the records at the cursor
    have heq : shown = n := by omega
    have hne : (feed.since p.cursor).take n ≠ [] := by
      rw [← List.length_pos_iff, List.length_take]
      omega
    have hfirst := List.head?_eq_some_head hne
    have hlast := List.getLast?_eq_some_getLast hne
    have hfull : (Page.ofRecords ((feed.since p.cursor).take n)).fetched = n := by
      show ((feed.since p.cursor).take n).length = n
      rw [List.length_take]
      omega
    have hcursor := h.cursor
    rw [heq] at hcursor
    have htie := (hcursor _ (List.head_mem hne)).trans (hcursor _ (List.getLast_mem hne)).symm
    rw [saturated?_of_tie hpos hfull hfirst hlast htie] at hcase
    rcases hcase with hnil | hnone
    · exact hne hnil
    · cases hnone
  have hall : (feed.since p.cursor).take shown = feed.since p.cursor :=
    List.take_of_length_le hshort
  have hat : ∀ r ∈ feed.since p.cursor, r.timestamp = p.cursor := hall ▸ h.cursor
  have hwritten := h.written
  rw [hall] at hwritten
  rw [hwritten]
  conv_rhs => rw [← before_append_since p.cursor hasc]
  rw [capped_append, capped_of_length (by omega : (feed.since p.cursor).length ≤ n)]
  intro x hx y hy heq
  exact absurd (heq.trans (hat y hy)) (mem_before.1 hx).2.ne

/-- A page that is full of one timestamp is full of the cursor, at which something was
written. -/
theorem full_of_saturated (h : Drained feed n p written shown) (hasc : feed.Ascending) {t : String}
    (hboundary : p.delivered ≠ [])
    (hsaturated : saturated? (Page.ofRecords ((feed.since p.cursor).take n)) n = some t) :
    0 < shown ∧ n ≤ (feed.since p.cursor).length ∧ t = p.cursor ∧
      (∀ r ∈ (feed.since p.cursor).take n, r.timestamp = p.cursor) ∧
      ∃ r ∈ (feed.since p.cursor).take n, r.timestamp = t := by
  have hl := ascending_since hasc p.cursor
  obtain ⟨-, hfetched, first, last, hfirst, hlast, hfirstt, hlastt⟩ :=
    saturated?_eq_some hsaturated
  have hshown : 0 < shown := by
    rw [← h.length_delivered]
    exact List.length_pos_iff.2 hboundary
  have hlen : ((feed.since p.cursor).take n).length = n := hfetched
  rw [List.length_take] at hlen
  have hfirstmem : first ∈ (feed.since p.cursor).take shown := by
    rw [List.head?_eq_some_iff] at hfirst
    obtain ⟨rest, hpage⟩ := hfirst
    have hshow : (feed.since p.cursor).take shown = (first :: rest).take shown := by
      rw [← hpage]
      show _ = ((feed.since p.cursor).take n).take shown
      rw [List.take_take, min_eq_left h.le_pageSize]
    rw [hshow, show shown = (shown - 1) + 1 by omega, List.take_succ_cons]
    exact List.mem_cons_self
  have ht : t = p.cursor := hfirstt ▸ h.cursor first hfirstmem
  refine ⟨hshown, by omega, ht, ?_, last, List.mem_of_getLast? hlast, hlastt⟩
  intro r hr
  refine le_antisymm ?_ (mem_since.1 (List.mem_of_mem_take hr)).2
  rw [← ht, ← hlastt]
  exact le_getLast (hl.sublist (List.take_sublist _ _)) hlast hr

/-- A poll writes what a page shows beyond what was written, and takes the job closer
to the end; or it changes nothing, and all is written. -/
theorem step (h : Drained feed n p written shown) (hpos : 0 < n) (hasc : feed.Ascending)
    (hfeed : feed.WellFormed) :
    ∃ r, reconcile (some p) (Page.ofRecords ((feed.since p.cursor).take n)) n = .ok r ∧
      (r = ⟨[], none, false⟩ ∧ written = feed.capped n ∨
        ∃ q shown', r.checkpoint = some q ∧ p.cursor ≤ q.cursor ∧
          Drained feed n q (written ++ r.emit) shown' ∧ remaining feed q < remaining feed p) := by
  have hends := reconcile_cases p (Page.ofRecords ((feed.since p.cursor).take n)) n
  have hl := ascending_since hasc p.cursor
  have hplain : ∀ r ∈ (feed.since p.cursor).take n,
      Timestamp.Plain r.timestamp ∧ r.timestamp ≠ Timestamp.last :=
    fun r hr => hfeed.plain r (mem_since.1 (List.mem_of_mem_take hr)).1
  cases hresult : reconcile (some p) (Page.ofRecords ((feed.since p.cursor).take n)) n with
  | error e =>
    rw [hresult] at hends
    cases hends with
    | stuck t e hboundary hsaturated hnext =>
      obtain ⟨-, -, -, -, r, hr, rfl⟩ := h.full_of_saturated hasc hboundary hsaturated
      obtain ⟨next, hok, -⟩ := (hplain r hr).1.exists_nextSecond (hplain r hr).2
      rw [hok] at hnext
      cases hnext
  | ok r =>
    rw [hresult] at hends
    refine ⟨r, rfl, ?_⟩
    cases hends with
    | forced t next hboundary hsaturated hnext =>
      obtain ⟨hshown, hlen, rfl, hall, x, hx, hxt⟩ :=
        h.full_of_saturated hasc hboundary hsaturated
      obtain ⟨next', hok, -, hlt⟩ := (hplain x hx).1.exists_nextSecond (hplain x hx).2
      rw [hxt, hnext] at hok
      obtain rfl : next = next' := Except.ok.inj hok
      rw [hxt] at hlt
      have hcursor : p.cursor < next := (hlt _ (hxt ▸ (hplain x hx).1)).2 le_rfl
      obtain ⟨hdrained, hless⟩ := h.forced hasc hfeed hshown hlen hall hcursor
        fun y hy => (hlt _ (hfeed.plain y hy).1).1
      exact .inr ⟨_, 0, rfl, hcursor.le, hdrained, hless⟩
    | moved hne hcase =>
      have hlast := List.getLast?_eq_some_getLast hne
      have hafter := checkpointAfter_eq (hl.sublist (List.take_sublist n _)) hlast
      have hfresh : fresh p ((feed.since p.cursor).take n) ≠ [] := by
        rcases hcase with hnil | ⟨-, hfresh⟩
        · rw [fresh_of_delivered_eq_nil hnil]
          exact hne
        · exact hfresh
      obtain ⟨hle, shown', hdrained, hless⟩ := h.moved hasc hfeed hlast hfresh
      exact .inr ⟨_, shown', hafter, hle, hdrained, hless⟩
    | stayed hfresh hcase =>
      exact .inl ⟨rfl, h.stayed hpos hasc hfeed hfresh (hcase.imp_right And.right)⟩

end Drained

namespace Collection

/-- A number of polls, one after the other, in which nothing fails. -/
def polls (source : Source) (k : ℕ) (c : Collection) : Collection := (poll · {} source)^[k] c

theorem polls_succ (source : Source) (k : ℕ) (c : Collection) :
    polls source (k + 1) c = (polls source k c).poll {} source :=
  Function.iterate_succ_apply' ..

/-- A job whose next page gives nothing new, after it has written everything. -/
structure Rests (start : String) (c : Collection) : Prop where
  /-- The next page gives nothing new. -/
  idle : reconcile (some c.site.position)
      (c.feed.page c.pageSize c.site.position.cursor) c.pageSize =
    .ok ⟨[], none, false⟩
  /-- The feed was written from the start time on, cut down to what pages can hold. -/
  written : c.written = (c.feed.since start).capped c.pageSize

/-- A job on its way through its feed, after `k` polls. -/
structure Draining (start : String) (k : ℕ) (c : Collection) : Prop where
  /-- The feed is in ascending order. -/
  ascending : c.feed.Ascending
  /-- The feed is well formed. -/
  wellFormed : c.feed.WellFormed
  /-- The writer takes what it is given. -/
  receiver : c.site.backend.writer.receiver ≠ .gone
  /-- The cursor does not lie before the start time. -/
  start_le : start ≤ c.site.position.cursor
  /-- The feed is drained up to the checkpoint. -/
  drained : ∃ shown, Drained (c.feed.since start) c.pageSize c.site.position c.written shown
  /-- A poll was made for all that is done, or there is nothing left to do. -/
  progress : remaining (c.feed.since start) c.site.position + k ≤ 2 * c.feed.length ∨ c.Rests start
  /-- The checkpoint is held once there was a poll. -/
  held : 0 < k → c.site.held = some c.site.position

variable {task : Task} {settings : PollSettings} {before : List Bytes} {c : Collection}
  {start : String} {k : ℕ}

/-- What a poll of a job on its way comes to. -/
theorem Draining.exists_reconcile (h : Draining start k c) (hpos : 0 < c.pageSize) :
    ∃ r, reconcile (some c.site.position)
        (c.feed.page c.pageSize c.site.position.cursor) c.pageSize =
        .ok r ∧
      (r = ⟨[], none, false⟩ ∧ c.written = (c.feed.since start).capped c.pageSize ∨
        ∃ q shown, r.checkpoint = some q ∧ c.site.position.cursor ≤ q.cursor ∧
          Drained (c.feed.since start) c.pageSize q (c.written ++ r.emit) shown ∧
          remaining (c.feed.since start) q < remaining (c.feed.since start) c.site.position) := by
  obtain ⟨shown, hdrained⟩ := h.drained
  have hwf : (c.feed.since start).WellFormed :=
    ⟨fun r hr => h.wellFormed.plain r (mem_since.1 hr).1,
      h.wellFormed.nodup.sublist (List.filter_sublist.map _)⟩
  have hstep := hdrained.step hpos (ascending_since h.ascending start) hwf
  rw [since_since h.start_le] at hstep
  exact hstep

/-- Another poll keeps a job on its way. -/
theorem Draining.poll (h : Draining start k c) (hsound : Sound task settings before c)
    (hstart : settings.nextRecordTime ≠ "") (hpos : 0 < c.pageSize) :
    Draining start (k + 1) (c.poll {} (c.feed.source c.pageSize)) ∧
      Sound task settings before (c.poll {} (c.feed.source c.pageSize)) ∧
      ∃ emitted refreshed, c.outcome {} (c.feed.source c.pageSize) =
        .ok (.collected emitted refreshed) := by
  have hsound' := sound_poll hsound hstart h.wellFormed {}
    (serves_source h.ascending c.pageSize).mayServe
  obtain ⟨r, hreconcile, hend⟩ := h.exists_reconcile hpos
  obtain ⟨hresult, hwritten, hheld, -, hreceiver⟩ :=
    poll_of_reconcile (c.feed.source c.pageSize) hsound h.receiver rfl hreconcile
  have hposition := Site.position_of_held hheld (hsound'.cursor _ hheld)
  have hsize : (c.poll {} (c.feed.source c.pageSize)).pageSize = c.pageSize :=
    congrArg PollSettings.pageSize (hsound'.settings_eq.trans hsound.settings_eq.symm)
  have hfeed : (c.poll {} (c.feed.source c.pageSize)).feed = c.feed := rfl
  refine ⟨?_, hsound', _, _, hresult⟩
  rcases hend with ⟨rfl, hall⟩ | ⟨q, shown, hnext, hle, hdrained, hless⟩
  · -- nothing is new: the job rests
    rw [Option.getD_none] at hposition hheld
    rw [List.append_nil] at hwritten
    refine ⟨h.ascending, h.wellFormed, hreceiver, ?_, ?_, .inr ⟨?_, ?_⟩, fun _ => ?_⟩
    · rw [hposition]
      exact h.start_le
    · rw [hposition, hwritten, hsize]
      exact h.drained
    · rw [hposition, hsize]
      exact hreconcile
    · rw [hwritten, hsize]
      exact hall
    · rw [hposition]
      exact hheld
  · rw [hnext, Option.getD_some] at hposition hheld
    refine ⟨h.ascending, h.wellFormed, hreceiver, ?_, ⟨shown, ?_⟩, .inl ?_, fun _ => ?_⟩
    · rw [hposition]
      exact h.start_le.trans hle
    · rw [hposition, hwritten, hsize]
      exact hdrained
    · rcases h.progress with hleft | hrests
      · rw [hposition, hfeed]
        omega
      · -- a job that rests has no new checkpoint
        rw [hrests.idle] at hreconcile
        obtain rfl := Except.ok.inj hreconcile
        cases hnext
    · rw [hposition]
      exact hheld

/-- A job is on its way before its first poll. -/
theorem draining_ofSettings {feed : Feed} {backend : Backend} (hasc : feed.Ascending)
    (hfeed : feed.WellFormed) (hempty : backend.store.blobs.get? task.identity = none)
    (hreceiver : backend.writer.receiver ≠ .gone) :
    Draining settings.nextRecordTime 0 (ofSettings feed task settings backend) := by
  have hposition : (ofSettings feed task settings backend).site.position =
      Checkpoint.initial settings.nextRecordTime := position_ofSettings feed hempty
  have hnil : (feed.since settings.nextRecordTime).before settings.nextRecordTime = [] :=
    before_eq_nil fun r hr => (mem_since.1 hr).2
  have hle : ((feed.since settings.nextRecordTime).since settings.nextRecordTime).length ≤
      feed.length := (List.filter_sublist.trans List.filter_sublist).length_le
  refine ⟨hasc, hfeed, hreceiver, ?_, ⟨0, ?_⟩, .inl ?_, fun h => absurd h (lt_irrefl 0)⟩
  · rw [hposition]
    exact le_rfl
  · rw [hposition]
    refine ⟨Nat.zero_le _, Nat.zero_le _, ?_, rfl, ?_⟩
    · intro r hr
      exact absurd hr List.not_mem_nil
    · show [] = capped ((feed.since settings.nextRecordTime).before settings.nextRecordTime) _ ++ []
      rw [hnil]
      rfl
  · rw [hposition]
    show 2 * ((feed.since settings.nextRecordTime).since settings.nextRecordTime).length - 0 + 0 ≤
      2 * feed.length
    omega

/-- A job without failures never fails a poll.  After two polls for each record of
the feed, and two more, it rests: each poll writes nothing and leaves the checkpoint
in memory and the one in the store as they are; and what the writer got is the feed
from the start time on, in its order, with every timestamp cut down to the first
records that a page holds. -/
theorem drains {feed : Feed} {task : Task} {settings : PollSettings} {backend : Backend}
    (hasc : feed.Ascending) (hfeed : feed.WellFormed) (hpos : 0 < settings.pageSize)
    (hstart : settings.nextRecordTime ≠ "") (hempty : backend.store.blobs.get? task.identity = none)
    (hreceiver : backend.writer.receiver ≠ .gone) (k : ℕ) :
    let source := feed.source settings.pageSize
    let c := polls source k (ofSettings feed task settings backend)
    (∃ emitted refreshed, c.outcome {} source = .ok (.collected emitted refreshed)) ∧
      (2 * feed.length + 2 ≤ k →
        c.outcome {} source = .ok (.collected 0 false) ∧
        (c.poll {} source).site.held = c.site.held ∧
        (c.poll {} source).site.blob = c.site.blob ∧
        c.written = (feed.since settings.nextRecordTime).capped settings.pageSize ∧
        c.site.backend.writer.records = backend.writer.records ++ c.written.map Record.line) := by
  intro source c
  have hrun : ∀ k, Draining settings.nextRecordTime k
        (polls source k (ofSettings feed task settings backend)) ∧
      Sound task settings backend.writer.records
        (polls source k (ofSettings feed task settings backend)) ∧
      (polls source k (ofSettings feed task settings backend)).feed = feed := by
    intro k
    induction k with
    | zero =>
      exact ⟨draining_ofSettings hasc hfeed hempty hreceiver,
        sound_ofSettings feed task settings backend, rfl⟩
    | succ k ih =>
      obtain ⟨hdraining, hsound, hsame⟩ := ih
      have hsize : (polls source k (ofSettings feed task settings backend)).pageSize =
          settings.pageSize := congrArg PollSettings.pageSize hsound.settings_eq
      have hpoll := hdraining.poll hsound hstart (hsize ▸ hpos)
      rw [hsame, hsize] at hpoll
      rw [polls_succ]
      exact ⟨hpoll.1, hpoll.2.1, hsame⟩
  obtain ⟨hdraining, hsound, hsame⟩ := hrun k
  have hsize : c.pageSize = settings.pageSize := congrArg PollSettings.pageSize hsound.settings_eq
  have hpoll := hdraining.poll hsound hstart (hsize ▸ hpos)
  rw [hsame, hsize] at hpoll
  refine ⟨hpoll.2.2, ?_⟩
  intro hk
  have hrests : c.Rests settings.nextRecordTime := by
    rcases hdraining.progress with hleft | hrests
    · rw [hsame] at hleft
      omega
    · exact hrests
  obtain ⟨hidle, hwritten⟩ := hrests
  rw [hsame, hsize] at hidle hwritten
  have hnothing : reconcile (some c.site.position)
      (feed.page settings.pageSize c.site.position.cursor) c.pageSize = .ok ⟨[], none, false⟩ := by
    rw [hsize]
    exact hidle
  obtain ⟨hresult, -, hheld, hblob, -⟩ :=
    poll_of_reconcile source hsound hdraining.receiver rfl hnothing
  exact ⟨hresult, hheld.trans (hdraining.held (by omega)).symm, hblob, hwritten, hsound.lines⟩

/-- A feed with three records of one second, of which a page holds two. -/
def crowdedFeed : Feed :=
  [.plain "a" "2015-01-01 10:00:00", .plain "b" "2015-01-01 10:00:01",
    .plain "c" "2015-01-01 10:00:01", .plain "d" "2015-01-01 10:00:01",
    .plain "e" "2015-01-01 10:00:02"]

/-- The third record of that second is passed over, and nothing else. -/
theorem drains_crowdedFeed :
    let c := polls (crowdedFeed.source 2) 12 (ofSettings crowdedFeed smallTask smallSettings {})
    c.written.map Record.id = ["a", "b", "c", "e"] ∧
      c.outcome {} (crowdedFeed.source 2) = .ok (.collected 0 false) := by
  intro c
  have hpos : 0 < smallSettings.pageSize := by decide
  have hstart : smallSettings.nextRecordTime ≠ "" := by decide
  have hempty : ({} : Backend).store.blobs.get? smallTask.identity = none := by decide
  have h := (drains (by decide : crowdedFeed.Ascending) (by decide) hpos hstart hempty (by decide)
    12).2 (by decide)
  refine ⟨?_, h.1⟩
  rw [show c.written = _ from h.2.2.2.1]
  decide

end Collection

end Collector
