import Collector.Proofs.Poll.Overlap

/-!
# Two polls that begin at once

Polls of `harvest-source` that are run until they wait for their sources, or until they
are over, do one step after another.  So do two polls that begin at once: whatever
`Site.pollPair` gives is given by an order of steps of two overlapping polls.

Main statements:

* `PollRun.exists_runToFetch`, `PollRun.exists_run`: one poll that goes on.
* `PollRun.reaches_pollPair`: two polls that begin at once.
-/

namespace Collector

namespace Stage

/-- A poll that is over has its result. -/
theorem eq_of_result? {stage : Stage} {result : Except PollError PollOutcome}
    (h : stage.result? = some result) : stage = finished result := by
  cases stage with
  | finished r =>
    obtain rfl : r = result := Option.some.inj h
    rfl
  | _ => cases h

theorem result?_of_rank_pos {stage : Stage} (h : 0 < stage.rank) : stage.result? = none := by
  cases hresult : stage.result? with
  | none => rfl
  | some result =>
    rw [eq_of_result? hresult] at h
    exact absurd h (Nat.lt_irrefl 0)

end Stage

namespace PollRun

variable {plan : ℕ → PollPlan} {s : PollRun} {i : ℕ}

/-- What is there when one of the polls has gone on, and nothing else has. -/
structure Goes (plan : ℕ → PollPlan) (s : PollRun) (i : ℕ) (stage : Stage) (site : Site)
    (t : PollRun) : Prop where
  /-- The poll goes on by steps. -/
  reaches : Reaches plan s t
  /-- Only this poll does something else next. -/
  stages : t.stage = Function.update s.stage i stage
  /-- The job is as the poll has left it. -/
  site_eq : t.site = site
  /-- The calls that fail are the same ones. -/
  faults : t.site.faults = s.site.faults

theorem goes_refl (plan : ℕ → PollPlan) (s : PollRun) (i : ℕ) :
    Goes plan s i (s.stage i) s.site s :=
  ⟨.refl, (Function.update_eq_self i s.stage).symm, rfl, rfl⟩

/-- A poll that has done one step goes on from there. -/
theorem Goes.head {stage : Stage} {site : Site} {t : PollRun}
    (hopen : (s.stage i).result? = none) (hfaults : s.site.faults = (plan i).faults)
    (h : Goes plan (s.move plan i) i stage site t) : Goes plan s i stage site t := by
  have hmove : (s.move plan i).site.faults = s.site.faults := by
    show (Stage.step (plan i).source (s.stage i) (s.site.suffer (plan i).faults)).2.faults = _
    rw [Stage.faults_step, Site.faults_suffer, hfaults]
  refine ⟨h.reaches.head (.move i hopen), ?_, h.site_eq, h.faults.trans hmove⟩
  rw [h.stages]
  exact Function.update_idem ..

/-- A poll does a step next to others as it does by itself. -/
theorem move_eq (hfaults : s.site.faults = (plan i).faults) :
    (s.move plan i).stage i = (Stage.step (plan i).source (s.stage i) s.site).1 ∧
      (s.move plan i).site = (Stage.step (plan i).source (s.stage i) s.site).2 := by
  have hsame : s.site.suffer (plan i).faults = s.site := by
    rw [← hfaults]
    exact s.site.suffer_faults
  refine ⟨?_, ?_⟩
  · rw [stage_move_self]
    show (Stage.step (plan i).source (s.stage i) (s.site.suffer (plan i).faults)).1 = _
    rw [hsame]
  · show (Stage.step (plan i).source (s.stage i) (s.site.suffer (plan i).faults)).2 = _
    rw [hsame]

/-- A poll goes on until it waits for its source. -/
theorem exists_runToFetch (hfaults : s.site.faults = (plan i).faults) :
    ∃ t, Goes plan s i (Stage.runToFetch (plan i).source (s.stage i) s.site).1
      (Stage.runToFetch (plan i).source (s.stage i) s.site).2 t := by
  induction hrank : (s.stage i).rank using Nat.strong_induction_on generalizing s with
  | _ rank ih =>
    rw [Stage.runToFetch]
    split_ifs with hpos hfetch
    · exact ⟨s, goes_refl plan s i⟩
    · obtain ⟨hstage, hsite⟩ := move_eq hfaults
      have hopen : (s.stage i).result? = none := Stage.result?_of_rank_pos hpos
      have hless := Stage.rank_step (plan i).source (s.stage i) s.site hpos
      have hmove : (s.move plan i).site.faults = (plan i).faults := by
        rw [hsite, Stage.faults_step, hfaults]
      obtain ⟨t, ht⟩ := ih _ (hrank ▸ hstage ▸ hless) hmove rfl
      rw [hstage, hsite] at ht
      exact ⟨t, ht.head hopen hfaults⟩
    · exact ⟨s, goes_refl plan s i⟩

/-- A poll goes on until it is over. -/
theorem exists_run (hfaults : s.site.faults = (plan i).faults) :
    ∃ t, Goes plan s i (.finished (Stage.run (plan i).source (s.stage i) s.site).1)
      (Stage.run (plan i).source (s.stage i) s.site).2 t := by
  induction hrank : (s.stage i).rank using Nat.strong_induction_on generalizing s with
  | _ rank ih =>
    cases hresult : (s.stage i).result? with
    | some result =>
      have hstage : s.stage i = .finished result := Stage.eq_of_result? hresult
      rw [hstage, Stage.run_over, ← hstage]
      exact ⟨s, goes_refl plan s i⟩
    | none =>
      obtain ⟨hstage, hsite⟩ := move_eq hfaults
      have hless := Stage.rank_step (plan i).source (s.stage i) s.site (Stage.rank_pos hresult)
      have hmove : (s.move plan i).site.faults = (plan i).faults := by
        rw [hsite, Stage.faults_step, hfaults]
      obtain ⟨t, ht⟩ := ih _ (hrank ▸ hstage ▸ hless) hmove rfl
      rw [hstage, hsite] at ht
      rw [Stage.run_of_result?_eq_none hresult]
      exact ⟨t, ht.head hresult hfaults⟩

/-- How a poll begins next to another one: it goes on until it waits for its source,
or until it is over. -/
def opening (waits : Bool) (source : Source) (s : Site) : Stage × Site :=
  if waits then Stage.runToFetch source .claim s
  else (.finished (Stage.run source .claim s).1, (Stage.run source .claim s).2)

theorem exists_opening (waits : Bool) (hfaults : s.site.faults = (plan i).faults)
    (hclaim : s.stage i = .claim) :
    ∃ t, Goes plan s i (opening waits (plan i).source s.site).1
      (opening waits (plan i).source s.site).2 t := by
  cases waits with
  | true =>
    have hgoes := exists_runToFetch hfaults
    rwa [hclaim] at hgoes
  | false =>
    have hgoes := exists_run hfaults
    rwa [hclaim] at hgoes

/-- Two polls that begin at once are two polls that overlap, in one of the orders of
their steps. -/
theorem reaches_pollPair {start : Site} (waits : Bool)
    (hfaults : ∀ i, start.faults = (plan i).faults) :
    let pair := start.pollPair waits (plan 0).source (plan 1).source
    ∃ t, Reaches plan { site := start } t ∧ t.stage 0 = .finished pair.1 ∧
      t.stage 1 = .finished pair.2.1 ∧ t.site = pair.2.2 := by
  obtain ⟨a, ha⟩ := exists_opening (s := { site := start }) waits (hfaults 0) rfl
  have hclaim : a.stage 1 = .claim := by rw [ha.stages]; rfl
  obtain ⟨b, hb⟩ := exists_opening waits (ha.faults.trans (hfaults 1)) hclaim
  -- the first poll is where it was before the second one began
  have hfirst : b.stage 0 = (opening waits (plan 0).source start).1 := by
    rw [hb.stages, Function.update_of_ne Nat.zero_ne_one, ha.stages, Function.update_self]
  obtain ⟨c, hc⟩ := exists_run (hb.faults.trans (ha.faults.trans (hfaults 0)))
  have hsecond : c.stage 1 = (opening waits (plan 1).source a.site).1 := by
    rw [hc.stages, Function.update_of_ne Nat.one_ne_zero, hb.stages, Function.update_self]
  obtain ⟨d, hd⟩ :=
    exists_run (hc.faults.trans (hb.faults.trans (ha.faults.trans (hfaults 1))))
  have hpair : start.pollPair waits (plan 0).source (plan 1).source =
      ((Stage.run (plan 0).source (b.stage 0) b.site).1,
        (Stage.run (plan 1).source (c.stage 1) c.site).1, d.site) := by
    rw [hd.site_eq, hc.site_eq, hsecond, hfirst, hb.site_eq, ha.site_eq]
    cases waits <;> rfl
  refine ⟨d, ((ha.reaches.trans hb.reaches).trans hc.reaches).trans hd.reaches, ?_, ?_, ?_⟩
  · rw [hpair, hd.stages, Function.update_of_ne Nat.zero_ne_one, hc.stages, Function.update_self]
  · rw [hpair, hd.stages, Function.update_self]
  · rw [hpair]

end PollRun

end Collector
