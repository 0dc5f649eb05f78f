import Mathlib.Logic.Relation
import Collector.Proofs.Collection.Run

/-!
# Polls that overlap

Any number of polls of one job of `harvest-source` go on one step at a time, in any order
(`PollRun.Step`), each with the answers of its own source and with calls of its own that
fail.  The run notes every step together with the job before and after it, so that the
order in which the polls claimed the reader can be read off.

One poll at a time has the reader (`PollRun.Serial`): what is left of it, done
without the others, is what the poll does that claims the reader after the polls
before it (`PollRun.Serial.working`).

Main statements:

* `PollRun.Serial.claim`, `Serial.skip`, `Serial.work`: what a step preserves.
* `PollRun.serial_of_reaches`: what every order of steps preserves.
* `PollRun.serialised`: polls that overlap are polls one after another.
-/

namespace Collector

/-! ## Failing calls -/

namespace Site

/-- What the calls of the job fail with. -/
def faults (s : Site) : Faults :=
  ⟨s.backend.store.readFault, s.backend.writeFault, s.backend.store.writeFault⟩

theorem suffer_faults (s : Site) : s.suffer s.faults = s := rfl

theorem faults_suffer (s : Site) (f : Faults) : (s.suffer f).faults = f := rfl

/-- Only the last failures count. -/
theorem suffer_suffer (s : Site) (f g : Faults) : (s.suffer f).suffer g = s.suffer g := rfl

theorem faults_load (s : Site) : s.load.2.faults = s.faults := by
  obtain ⟨reader, backend⟩ := s
  simp only [load, CheckpointCache.load]
  cases reader.cache.trusted? with
  | some state => rfl
  | none =>
    simp only [Backend.readBlob]
    cases backend.store.read reader.task <;> rfl

theorem faults_advance (s : Site) (r : Reconciled) : (s.advance r).faults = s.faults := by
  unfold advance
  split <;> rfl

theorem faults_deliver (s : Site) (r : Reconciled) : (s.deliver r).2.faults = s.faults := by
  obtain ⟨reader, backend⟩ := s
  unfold deliver Backend.deliver
  split
  · rfl
  · cases hfault : backend.writeFault with
    | some e => rfl
    | none =>
      cases hwrite : backend.writer.write (envelope reader.settings r.emit) <;>
        simp only [faults, hfault]

theorem faults_persist (s : Site) (next : Checkpoint) :
    (s.persist next).2.faults = s.faults := by
  obtain ⟨reader, backend⟩ := s
  simp only [persist, CheckpointCache.persist, Backend.writeBlob]
  rcases CheckpointStore.write_cases (backend.log .storeWrite).store reader.task next.encode with
    ⟨e, hwrite, -⟩ | ⟨store, hwrite, -, hread, hfault, -⟩
  · rw [hwrite]
    rfl
  · rw [hwrite]
    exact congrArg₂ (fun r w => Faults.mk r _ w) hread hfault

end Site

/-- A poll changes nothing about what calls fail with. -/
theorem Stage.faults_step (source : Source) (stage : Stage) (s : Site) :
    (stage.step source s).2.faults = s.faults := by
  cases stage with
  | claim =>
    simp only [step]
    cases hclaim : s.claim? with
    | none => rfl
    | some t =>
      simp only [Site.claim?, Option.map_eq_some_iff] at hclaim
      obtain ⟨guard, -, rfl⟩ := hclaim
      rfl
  | load =>
    have hload := s.faults_load
    simp only [step]
    cases hresult : s.load with
    | mk result t =>
      rw [hresult] at hload
      cases result <;> exact hload
  | fetch previous =>
    simp only [step]
    cases s.collect source previous <;> rfl
  | advance r => exact s.faults_advance r
  | deliver r =>
    have hdeliver := s.faults_deliver r
    simp only [step]
    cases hresult : s.deliver r with
    | mk result t =>
      rw [hresult] at hdeliver
      cases result <;> exact hdeliver
  | persist r =>
    simp only [step]
    cases r.checkpoint with
    | none => rfl
    | some next =>
      have hpersist := s.faults_persist next
      simp only
      cases hresult : s.persist next with
      | mk result t =>
        rw [hresult] at hpersist
        cases result <;> exact hpersist
  | hold | release | finished => rfl

/-- While a poll goes on its calls fail as they did. -/
theorem Stage.suffer_step (source : Source) (stage : Stage) (s : Site) (f : Faults) :
    (stage.step source (s.suffer f)).2.suffer f = (stage.step source (s.suffer f)).2 := by
  have hsame := Site.suffer_faults (stage.step source (s.suffer f)).2
  rwa [stage.faults_step, Site.faults_suffer] at hsame

/-! ## Runs -/

namespace Stage

/-- The poll has claimed the reader and not given it back. -/
def holds : Stage → Bool
  | claim => false
  | finished _ => false
  | _ => true

end Stage

/-- What one of the polls meets. -/
structure PollPlan where
  /-- What the source of the poll answers. -/
  source : Source
  /-- What the calls of the poll fail with. -/
  faults : Faults := {}

/-- One step of one of the polls. -/
structure PollMove where
  /-- The number of the poll. -/
  call : ℕ
  /-- What the poll did. -/
  stage : Stage
  /-- What the poll does next. -/
  next : Stage
  /-- The job before the step. -/
  before : Site
  /-- The job after it. -/
  after : Site

/-- The poll claimed the reader. -/
def PollMove.claims (m : PollMove) : Bool :=
  match m.stage, m.next with
  | .claim, .load => true
  | _, _ => false

/-- A job, and the polls that go on, by their numbers. -/
structure PollRun where
  /-- The job, and what it works on. -/
  site : Site
  /-- What each poll does next. -/
  stage : ℕ → Stage := fun _ => .claim
  /-- The steps so far, in order. -/
  moves : List PollMove := []

namespace PollRun

/-- The steps of one poll. -/
def movesOf (s : PollRun) (i : ℕ) : List PollMove := s.moves.filter (·.call = i)

/-- The polls that claimed the reader, in the order in which they did. -/
def claims (s : PollRun) : List ℕ := (s.moves.filter PollMove.claims).map PollMove.call

/-- The next step of one of the polls. -/
def moveOf (plan : ℕ → PollPlan) (s : PollRun) (i : ℕ) : PollMove :=
  let before := s.site.suffer (plan i).faults
  let (next, after) := (s.stage i).step (plan i).source before
  ⟨i, s.stage i, next, before, after⟩

/-- One of the polls does its next step. -/
def move (plan : ℕ → PollPlan) (s : PollRun) (i : ℕ) : PollRun :=
  let m := s.moveOf plan i
  ⟨m.after, Function.update s.stage i m.next, s.moves ++ [m]⟩

/-- One of the polls that are not over does its next step. -/
inductive Step (plan : ℕ → PollPlan) : PollRun → PollRun → Prop
  /-- The poll with this number. -/
  | move {s : PollRun} (i : ℕ) (hopen : (s.stage i).result? = none) : Step plan s (s.move plan i)

/-- What is there after any number of steps. -/
abbrev Reaches (plan : ℕ → PollPlan) (s t : PollRun) : Prop :=
  Relation.ReflTransGen (Step plan) s t

/-- One poll, as its source and its failures have it. -/
def pollOf (plan : ℕ → PollPlan) (i : ℕ) (s : Site) : Except PollError PollOutcome × Site :=
  (s.suffer (plan i).faults).poll (plan i).source

/-- Polls one after another. -/
def serial (plan : ℕ → PollPlan) (s : Site) (order : List ℕ) : Site :=
  order.foldl (fun s i => (pollOf plan i s).2) s

variable {plan : ℕ → PollPlan} {start : Site} {s t : PollRun} {i j : ℕ}

theorem serial_append_singleton (plan : ℕ → PollPlan) (start : Site) (order : List ℕ) (i : ℕ) :
    serial plan start (order ++ [i]) = (pollOf plan i (serial plan start order)).2 := by
  simp only [serial, List.foldl_append, List.foldl_cons, List.foldl_nil]

/-- What failed before a poll makes no difference to it. -/
theorem pollOf_congr {a b : Site} (h : a.suffer {} = b.suffer {}) (i : ℕ) :
    pollOf plan i a = pollOf plan i b := by
  have hsame : a.suffer (plan i).faults = b.suffer (plan i).faults := by
    rw [← Site.suffer_suffer a {}, h, Site.suffer_suffer]
  rw [pollOf, hsame, pollOf]

/-- A poll that finds its reader free is not skipped. -/
theorem poll_ne_skipped {s : Site} (hfree : s.reader.guard.busy = false) (source : Source) :
    (s.poll source).1 ≠ .ok .skipped := by
  obtain ⟨hend, -⟩ := Site.poll_spec hfree source
  intro hskipped
  cases hend with
  | unread e hresult | failed e hresult | refused r e hresult | unstored r next e hresult
  | stored r next hresult | unchanged r hresult =>
    rw [hskipped] at hresult
    cases hresult

/-- One poll at a time has the reader, and all polls that claimed it are polls one
after another, of which the last one is perhaps not over. -/
structure Serial (plan : ℕ → PollPlan) (start : Site) (s : PollRun) : Prop where
  /-- A poll that has not begun has done nothing. -/
  unbegun : ∀ i, s.stage i = .claim → s.movesOf i = []
  /-- A poll that was skipped has found the reader claimed, and done nothing else. -/
  skipped : ∀ i, s.stage i = .finished (.ok .skipped) → ∃ site : Site,
    site.reader.guard.busy = true ∧
      s.movesOf i = [⟨i, .claim, .finished (.ok .skipped), site, site⟩]
  /-- The polls that claimed the reader are the ones that have begun and were not skipped. -/
  claimed : ∀ i, i ∈ s.claims ↔ s.stage i ≠ .claim ∧ s.stage i ≠ .finished (.ok .skipped)
  /-- Each poll claimed the reader at most once. -/
  once : s.claims.Nodup
  /-- While a poll has the reader nobody else can claim it. -/
  busy : ∀ i, (s.stage i).holds → s.site.reader.guard.busy = true
  /-- One poll at a time has the reader. -/
  single : ∀ i j, (s.stage i).holds → (s.stage j).holds → i = j
  /-- While no poll has the reader, the job is as the polls before left it. -/
  resting : (∀ i, (s.stage i).holds = false) →
    s.site.suffer {} = (serial plan start s.claims).suffer {}
  /-- While a poll has the reader, the rest of that poll is what the poll does after the ones before
  it. -/
  working : ∀ i, (s.stage i).holds → ∃ order, s.claims = order ++ [i] ∧
    (serial plan start order).reader.guard.busy = false ∧
    (s.stage i).run (plan i).source (s.site.suffer (plan i).faults) =
      pollOf plan i (serial plan start order)
  /-- A poll that was not skipped ends as it does after the ones before it. -/
  results : ∀ i result, s.stage i = .finished result → result ≠ .ok .skipped →
    ∃ order, order ++ [i] <+: s.claims ∧ result = (pollOf plan i (serial plan start order)).1

/-! ## One step -/

theorem stage_move_self (plan : ℕ → PollPlan) (s : PollRun) (i : ℕ) :
    (s.move plan i).stage i = (s.moveOf plan i).next := Function.update_self ..

theorem stage_move_of_ne (plan : ℕ → PollPlan) (s : PollRun) (h : j ≠ i) :
    (s.move plan i).stage j = s.stage j := Function.update_of_ne h ..

theorem movesOf_move_self (plan : ℕ → PollPlan) (s : PollRun) (i : ℕ) :
    (s.move plan i).movesOf i = s.movesOf i ++ [s.moveOf plan i] := by
  have hcall : (s.moveOf plan i).call = i := rfl
  simp only [movesOf, move, List.filter_append, List.filter_cons, hcall, decide_true, if_true,
    List.filter_nil]

theorem movesOf_move_of_ne (plan : ℕ → PollPlan) (s : PollRun) (h : j ≠ i) :
    (s.move plan i).movesOf j = s.movesOf j := by
  have hcall : (s.moveOf plan i).call ≠ j := Ne.symm h
  simp only [movesOf, move, List.filter_append, List.filter_cons, hcall, decide_false,
    Bool.false_eq_true, if_false, List.filter_nil, List.append_nil]

theorem claims_move (plan : ℕ → PollPlan) (s : PollRun) (i : ℕ) :
    (s.move plan i).claims = s.claims ++ if (s.moveOf plan i).claims then [i] else [] := by
  have hcall : (s.moveOf plan i).call = i := rfl
  simp only [claims, move, List.filter_append, List.filter_cons, List.filter_nil,
    List.map_append]
  split_ifs <;> simp [hcall]

/-- A poll that finds the reader claimed is skipped. -/
theorem moveOf_of_busy (plan : ℕ → PollPlan) (hstage : s.stage i = .claim)
    (hbusy : s.site.reader.guard.busy = true) :
    s.moveOf plan i = ⟨i, .claim, .finished (.ok .skipped), s.site.suffer (plan i).faults,
      s.site.suffer (plan i).faults⟩ := by
  simp only [moveOf, hstage, Stage.step, Site.claim?, PollGuard.claim?, Site.suffer_reader, hbusy,
    if_true, Option.map_none]

/-- A poll that finds the reader free claims it. -/
theorem moveOf_of_free (plan : ℕ → PollPlan) (hstage : s.stage i = .claim)
    (hfree : s.site.reader.guard.busy = false) :
    s.moveOf plan i = ⟨i, .claim, .load, s.site.suffer (plan i).faults,
      (s.site.suffer (plan i).faults).claimed⟩ := by
  simp only [moveOf, hstage, Stage.step, Site.claim?, PollGuard.claim?, Site.suffer_reader, hfree,
    Bool.false_eq_true, if_false, Option.map_some, Site.claimed]

/-- A poll that has the reader does not claim it. -/
theorem claims_moveOf_of_holds (hholds : (s.stage i).holds) : (s.moveOf plan i).claims = false := by
  have hstage : (s.moveOf plan i).stage ≠ .claim := by
    intro hclaim
    rw [show s.stage i = .claim from hclaim] at hholds
    cases hholds
  unfold PollMove.claims
  split
  · rename_i hclaim _
    exact absurd hclaim hstage
  · rfl

/-- What is left of a poll after one of its steps is what was left before. -/
theorem run_move (plan : ℕ → PollPlan) (hopen : (s.stage i).result? = none) :
    ((s.move plan i).stage i).run (plan i).source ((s.move plan i).site.suffer (plan i).faults) =
      (s.stage i).run (plan i).source (s.site.suffer (plan i).faults) := by
  have hsame := (s.stage i).suffer_step (plan i).source s.site (plan i).faults
  rw [Stage.run_of_result?_eq_none hopen, stage_move_self]
  exact congrArg (Stage.run _ _) hsame

/-- A poll that has the reader still has it after a step, or gives it back. -/
theorem holds_moveOf_or (plan : ℕ → PollPlan) (hholds : (s.stage i).holds) :
    (s.moveOf plan i).next.holds ∨ ∃ result, s.stage i = .release result := by
  simp only [moveOf]
  generalize hstage : s.stage i = stage at hholds
  cases stage with
  | claim | finished => cases hholds
  | load | fetch | deliver =>
    left
    simp only [Stage.step]
    split <;> rfl
  | advance | hold => exact .inl rfl
  | persist r =>
    left
    simp only [Stage.step]
    split
    · rfl
    · split <;> rfl
  | release result => exact .inr ⟨result, rfl⟩

/-- A step does not give the reader back if the poll has it afterwards. -/
theorem guard_move (plan : ℕ → PollPlan) (hholds : (s.stage i).holds)
    (hnext : (s.moveOf plan i).next.holds) :
    (s.move plan i).site.reader.guard = s.site.reader.guard := by
  have hsuffer : s.site.reader.guard = (s.site.suffer (plan i).faults).reader.guard := rfl
  rw [hsuffer]
  simp only [move, moveOf] at hnext ⊢
  generalize hstage : s.stage i = stage at hholds hnext ⊢
  generalize s.site.suffer (plan i).faults = site at hnext ⊢
  cases stage with
  | claim | finished => cases hholds
  | release => cases hnext
  | load =>
    simp only [Stage.step]
    rcases site.load_cases with ⟨e, t, hload, -, -, ht⟩ | ⟨t, hload, -, ht⟩
    · rw [hload]
      exact ht.guard
    · rw [hload]
      exact ht.guard
  | fetch previous =>
    simp only [Stage.step]
    split <;> rfl
  | advance r =>
    simp only [Stage.step, Site.advance]
    split <;> rfl
  | deliver r =>
    simp only [Stage.step]
    rcases site.deliver_cases r with ⟨e, hdeliver, -⟩ | ⟨t, hdeliver, -, -, ht, -⟩
    · rw [hdeliver]
    · rw [hdeliver]
      exact ht.guard
  | persist r =>
    simp only [Stage.step]
    cases r.checkpoint with
    | none => rfl
    | some next =>
      rcases site.persist_cases next with ⟨e, t, hpersist, -, -, ht⟩ | ⟨t, hpersist, -, ht, -⟩
      · simp only [hpersist]
        exact ht.guard
      · simp only [hpersist]
        exact ht.guard
  | hold => rfl

namespace Serial

/-- After a step of one poll there is nothing to show about the records of the others. -/
theorem of_move (h : Serial plan start s) (i : ℕ)
    (hbegun : (s.moveOf plan i).next ≠ .claim)
    (hskipped : (s.moveOf plan i).next = .finished (.ok .skipped) → ∃ site : Site,
      site.reader.guard.busy = true ∧
        (s.move plan i).movesOf i = [⟨i, .claim, .finished (.ok .skipped), site, site⟩])
    (hclaimed : i ∈ (s.move plan i).claims ↔ (s.moveOf plan i).next ≠ .finished (.ok .skipped))
    (honce : (s.move plan i).claims.Nodup)
    (hbusy : ∀ j, ((s.move plan i).stage j).holds → (s.move plan i).site.reader.guard.busy = true)
    (hsingle : ∀ j k, ((s.move plan i).stage j).holds → ((s.move plan i).stage k).holds → j = k)
    (hresting : (∀ j, ((s.move plan i).stage j).holds = false) →
      (s.move plan i).site.suffer {} = (serial plan start (s.move plan i).claims).suffer {})
    (hworking : ∀ j, ((s.move plan i).stage j).holds →
      ∃ order, (s.move plan i).claims = order ++ [j] ∧
      (serial plan start order).reader.guard.busy = false ∧
      ((s.move plan i).stage j).run (plan j).source ((s.move plan i).site.suffer (plan j).faults) =
        pollOf plan j (serial plan start order))
    (hresult : ∀ result, (s.moveOf plan i).next = .finished result → result ≠ .ok .skipped →
      ∃ order, order ++ [i] <+: (s.move plan i).claims ∧
        result = (pollOf plan i (serial plan start order)).1) :
    Serial plan start (s.move plan i) := by
  have hclaims := claims_move plan s i
  refine ⟨?_, ?_, ?_, honce, hbusy, hsingle, hresting, hworking, ?_⟩
  · intro j hj
    by_cases hji : j = i
    · subst hji
      exact absurd (stage_move_self plan s j ▸ hj) hbegun
    · rw [movesOf_move_of_ne plan s hji]
      exact h.unbegun j (stage_move_of_ne plan s hji ▸ hj)
  · intro j hj
    by_cases hji : j = i
    · subst hji
      exact hskipped (stage_move_self plan s j ▸ hj)
    · rw [movesOf_move_of_ne plan s hji]
      exact h.skipped j (stage_move_of_ne plan s hji ▸ hj)
  · intro j
    by_cases hji : j = i
    · subst hji
      rw [hclaimed, stage_move_self]
      exact ⟨fun hnext => ⟨hbegun, hnext⟩, fun hnext => hnext.2⟩
    · rw [stage_move_of_ne plan s hji, ← h.claimed, hclaims]
      split_ifs <;> simp [hji]
  · intro j result hj hne
    by_cases hji : j = i
    · subst hji
      exact hresult result (stage_move_self plan s j ▸ hj) hne
    · obtain ⟨order, horder, heq⟩ := h.results j result (stage_move_of_ne plan s hji ▸ hj) hne
      refine ⟨order, horder.trans ?_, heq⟩
      rw [hclaims]
      exact List.prefix_append _ _

/-- A poll that is skipped leaves everything as it was. -/
theorem skip (h : Serial plan start s) (hstage : s.stage i = .claim)
    (hbusy : s.site.reader.guard.busy = true) : Serial plan start (s.move plan i) := by
  have hmove := moveOf_of_busy plan hstage hbusy
  have hself : (s.move plan i).stage i = .finished (.ok .skipped) := by
    rw [stage_move_self, hmove]
  have hsite : (s.move plan i).site = s.site.suffer (plan i).faults := congrArg PollMove.after hmove
  have hclaims : (s.move plan i).claims = s.claims := by
    rw [claims_move, hmove]
    exact List.append_nil _
  -- the polls that have the reader are the ones that had it
  have hholds : ∀ j, ((s.move plan i).stage j).holds = (s.stage j).holds := by
    intro j
    by_cases hji : j = i
    · subst hji
      rw [hself, hstage]
      rfl
    · rw [stage_move_of_ne plan s hji]
  refine h.of_move i ?_ ?_ ?_ (hclaims ▸ h.once) ?_ ?_ ?_ ?_ ?_
  · rw [hmove]
    exact nofun
  · intro _
    refine ⟨s.site.suffer (plan i).faults, hbusy, ?_⟩
    rw [movesOf_move_self, h.unbegun i hstage, hmove, List.nil_append]
  · rw [hclaims, h.claimed, hmove]
    exact ⟨fun hne => absurd hstage hne.1, fun hne => absurd rfl hne⟩
  · intro j hj
    rw [hsite]
    exact h.busy j (hholds j ▸ hj)
  · intro j k hj hk
    exact h.single j k (hholds j ▸ hj) (hholds k ▸ hk)
  · intro hnone
    rw [hsite, hclaims]
    exact h.resting fun j => hholds j ▸ hnone j
  · intro j hj
    rw [hholds] at hj
    have hji : j ≠ i := by
      rintro rfl
      rw [hstage] at hj
      cases hj
    rw [hsite, hclaims, stage_move_of_ne plan s hji]
    exact h.working j hj
  · intro result hnext hne
    rw [hmove, Stage.finished.injEq] at hnext
    exact absurd hnext.symm hne

/-- A poll that claims the reader comes after the ones that claimed it before. -/
theorem claim (h : Serial plan start s) (hstage : s.stage i = .claim)
    (hfree : s.site.reader.guard.busy = false) : Serial plan start (s.move plan i) := by
  have hmove := moveOf_of_free plan hstage hfree
  have hself : (s.move plan i).stage i = .load := by rw [stage_move_self, hmove]
  have hsite : (s.move plan i).site = (s.site.suffer (plan i).faults).claimed :=
    congrArg PollMove.after hmove
  have hclaims : (s.move plan i).claims = s.claims ++ [i] := by rw [claims_move, hmove]; rfl
  have hnew : i ∉ s.claims := fun hi => ((h.claimed i).1 hi).1 hstage
  have hidle : ∀ j, (s.stage j).holds = false := by
    intro j
    by_contra hj
    rw [h.busy j (Bool.of_not_eq_false hj)] at hfree
    cases hfree
  have hholds : ∀ j, ((s.move plan i).stage j).holds → j = i := by
    intro j hj
    by_contra hji
    rw [stage_move_of_ne plan s hji, hidle j] at hj
    cases hj
  have hrest := h.resting hidle
  refine h.of_move i ?_ ?_ ?_ ?_ ?_ ?_ ?_ ?_ ?_
  · rw [hmove]
    exact nofun
  · rw [hmove]
    exact nofun
  · rw [hclaims, hmove]
    simp
  · rw [hclaims, List.nodup_append]
    refine ⟨h.once, List.nodup_singleton i, ?_⟩
    rintro a ha b hb rfl
    exact hnew (List.mem_singleton.1 hb ▸ ha)
  · intro j _
    rw [hsite]
    rfl
  · intro j k hj hk
    rw [hholds j hj, hholds k hk]
  · intro hnone
    have hi := hnone i
    rw [hself] at hi
    cases hi
  · intro j hj
    obtain rfl := hholds j hj
    refine ⟨s.claims, hclaims, ?_, ?_⟩
    · rw [← Site.suffer_reader _ {}, ← hrest]
      exact hfree
    · have hopen : (s.stage j).result? = none := by rw [hstage]; rfl
      rw [run_move plan hopen, hstage, Stage.run_claim]
      exact pollOf_congr hrest j
  · rw [hmove]
    exact nofun

/-- A poll that has the reader goes on alone. -/
theorem work (h : Serial plan start s) (hholds : (s.stage i).holds)
    (hnext : (s.moveOf plan i).next.holds) : Serial plan start (s.move plan i) := by
  have hopen : (s.stage i).result? = none := by
    cases hstage : s.stage i with
    | finished => rw [hstage] at hholds; cases hholds
    | _ => rfl
  have hself := stage_move_self plan s i
  have hclaims : (s.move plan i).claims = s.claims := by
    rw [claims_move, claims_moveOf_of_holds hholds]
    exact List.append_nil _
  have hone : ∀ j, ((s.move plan i).stage j).holds → j = i := by
    intro j hj
    by_contra hji
    exact hji (h.single j i (stage_move_of_ne plan s hji ▸ hj) hholds)
  refine h.of_move i ?_ ?_ ?_ (hclaims ▸ h.once) ?_ ?_ ?_ ?_ ?_
  · intro hclaim
    rw [hclaim] at hnext
    cases hnext
  · intro hskipped
    rw [hskipped] at hnext
    cases hnext
  · rw [hclaims, h.claimed]
    refine ⟨fun _ hskipped => ?_, fun _ => ⟨fun hclaim => ?_, fun hskipped => ?_⟩⟩
    · rw [hskipped] at hnext
      cases hnext
    · rw [hclaim] at hholds
      cases hholds
    · rw [hskipped] at hholds
      cases hholds
  · intro j _
    rw [guard_move plan hholds hnext]
    exact h.busy i hholds
  · intro j k hj hk
    rw [hone j hj, hone k hk]
  · intro hnone
    have hi := hnone i
    rw [hself, hnext] at hi
    cases hi
  · intro j hj
    obtain rfl := hone j hj
    obtain ⟨order, horder, hfree, hrun⟩ := h.working j hholds
    exact ⟨order, hclaims.trans horder, hfree, (run_move plan hopen).trans hrun⟩
  · intro result hfinished
    rw [hfinished] at hnext
    cases hnext

/-- A poll that gives the reader back leaves the job as it does after the polls before
it. -/
theorem giveBack (h : Serial plan start s) {result : Except PollError PollOutcome}
    (hstage : s.stage i = .release result) : Serial plan start (s.move plan i) := by
  have hholds : (s.stage i).holds := by rw [hstage]; rfl
  have hmove : s.moveOf plan i = ⟨i, .release result, .finished result,
      s.site.suffer (plan i).faults, (s.site.suffer (plan i).faults).release⟩ := by
    simp only [moveOf, hstage, Stage.step]
  have hself : (s.move plan i).stage i = .finished result := by rw [stage_move_self, hmove]
  have hsite : (s.move plan i).site = (s.site.suffer (plan i).faults).release :=
    congrArg PollMove.after hmove
  have hclaims : (s.move plan i).claims = s.claims := by
    rw [claims_move, claims_moveOf_of_holds hholds]
    exact List.append_nil _
  have hidle : ∀ j, ((s.move plan i).stage j).holds = false := by
    intro j
    by_cases hji : j = i
    · rw [hji, hself]
      rfl
    · by_contra hj
      rw [stage_move_of_ne plan s hji] at hj
      exact hji (h.single j i (Bool.of_not_eq_false hj) hholds)
  -- what was left of the poll was to give the reader back
  obtain ⟨order, horder, hfree, hrun⟩ := h.working i hholds
  rw [hstage, Stage.run_release] at hrun
  have hresult : result = (pollOf plan i (serial plan start order)).1 := congrArg Prod.fst hrun
  have hne : result ≠ .ok .skipped :=
    hresult ▸ poll_ne_skipped (s := (serial plan start order).suffer (plan i).faults) hfree _
  have hnone : ∀ {p : Prop} (j : ℕ), ((s.move plan i).stage j).holds → p := by
    intro p j hj
    rw [hidle j] at hj
    cases hj
  refine h.of_move i ?_ ?_ ?_ (hclaims ▸ h.once) ?_ ?_ ?_ ?_ ?_
  · rw [hmove]
    intro hclaim
    cases hclaim
  · rw [hmove, Stage.finished.injEq]
    exact fun hskipped => absurd hskipped hne
  · rw [hclaims, horder, hmove, ne_eq, Stage.finished.injEq]
    simp [hne]
  · exact fun j hj => hnone j hj
  · exact fun j k hj _ => hnone j hj
  · intro _
    rw [hclaims, horder, serial_append_singleton, ← hrun, hsite]
  · exact fun j hj => hnone j hj
  · intro result' hfinished _
    rw [hmove, Stage.finished.injEq] at hfinished
    exact ⟨order, by rw [hclaims, horder], hfinished ▸ hresult⟩

/-- No step of a poll breaks the order. -/
theorem step (h : Serial plan start s) (hstep : Step plan s t) : Serial plan start t := by
  cases hstep with
  | move i hopen =>
    by_cases hholds : (s.stage i).holds
    · rcases holds_moveOf_or plan hholds with hnext | ⟨result, hstage⟩
      · exact h.work hholds hnext
      · exact h.giveBack hstage
    · have hstage : s.stage i = .claim := by
        cases hstage : s.stage i with
        | claim => rfl
        | finished => rw [hstage] at hopen; cases hopen
        | _ => rw [hstage] at hholds; exact absurd rfl hholds
      cases hguard : s.site.reader.guard.busy with
      | true => exact h.skip hstage hguard
      | false => exact h.claim hstage hguard

end Serial

/-! ## Runs -/

theorem serial_begin (plan : ℕ → PollPlan) (start : Site) :
    Serial plan start ⟨start, fun _ => .claim, []⟩ where
  unbegun _ _ := rfl
  skipped _ := nofun
  claimed i := by simp [claims]
  once := List.nodup_nil
  busy _ := nofun
  single _ _ := nofun
  resting _ := rfl
  working _ := nofun
  results _ _ := nofun

/-- No order of steps breaks the order of the polls. -/
theorem serial_of_reaches (hrun : Reaches plan { site := start } s) : Serial plan start s := by
  induction hrun with
  | refl => exact serial_begin plan start
  | tail _ hstep ih => exact ih.step hstep

/-- Polls that overlap are polls one after another.  At any time one poll at most has
the reader, which nobody else can claim meanwhile.  A poll that is skipped has found
the reader claimed, and that is all it has done: the job, with the claim of the other
poll, was the same before and after.  And once no poll has the reader, its checkpoint,
the writer and the store are as the polls that claimed it leave them one after
another, in the order of their claims, with the same results. -/
theorem serialised (hrun : Reaches plan { site := start } s) :
    (∀ i, (s.stage i).holds → s.site.reader.guard.busy = true ∧
      ∀ j, (s.stage j).holds → i = j) ∧
    (∀ i, s.stage i = .finished (.ok .skipped) → ∃ site : Site,
      site.reader.guard.busy = true ∧
        s.movesOf i = [⟨i, .claim, .finished (.ok .skipped), site, site⟩]) ∧
    (s.claims.Nodup ∧ ∀ i, i ∈ s.claims ↔
      s.stage i ≠ .claim ∧ s.stage i ≠ .finished (.ok .skipped)) ∧
    ((∀ i, (s.stage i).holds = false) →
      s.site.reader = (serial plan start s.claims).reader ∧
      s.site.backend.writer = (serial plan start s.claims).backend.writer ∧
      s.site.backend.store.blobs = (serial plan start s.claims).backend.store.blobs ∧
      s.site.backend.calls = (serial plan start s.claims).backend.calls) ∧
    ∀ i result, s.stage i = .finished result → result ≠ .ok .skipped →
      ∃ order, order ++ [i] <+: s.claims ∧
        result = (pollOf plan i (serial plan start order)).1 := by
  have h := serial_of_reaches hrun
  refine ⟨fun i hi => ⟨h.busy i hi, fun j hj => h.single i j hi hj⟩, h.skipped,
    ⟨h.once, h.claimed⟩, fun hnone => ?_, h.results⟩
  have hrest := h.resting hnone
  refine ⟨?_, ?_, ?_, ?_⟩
  · exact congrArg (fun site => site.reader) hrest
  · exact congrArg (fun site => site.backend.writer) hrest
  · exact congrArg (fun site => site.backend.store.blobs) hrest
  · exact congrArg (fun site => site.backend.calls) hrest

/-! ## Schedules -/

/-- The polls go on in the order of a list; who is over does nothing more. -/
def follow (plan : ℕ → PollPlan) (s : PollRun) (schedule : List ℕ) : PollRun :=
  schedule.foldl (fun s i => if (s.stage i).result?.isNone then s.move plan i else s) s

/-- Every list of numbers is an order of steps. -/
theorem reaches_follow (plan : ℕ → PollPlan) (s : PollRun) (schedule : List ℕ) :
    Reaches plan s (s.follow plan schedule) := by
  induction schedule generalizing s with
  | nil => exact .refl
  | cons i schedule ih =>
    simp only [follow, List.foldl_cons]
    split_ifs with hopen
    · exact (ih (s.move plan i)).head (.move i (Option.isNone_iff_eq_none.1 hopen))
    · exact ih s

/-- A job that has not polled yet. -/
def smallSite : Site := ⟨Reader.ofSettings Collection.smallTask Collection.smallSettings, {}⟩

/-- Of three polls the last one has a writer that refuses. -/
def smallPlan (i : ℕ) : PollPlan :=
  { source := Feed.source [.plain "a" "2015-01-01 10:00:00", .plain "b" "2015-01-01 10:00:01",
      .plain "c" "2015-01-01 10:00:02"] 2
    faults := if i = 2 then { write := some .closed } else {} }

/-- The first poll claims the reader, the second one comes while it waits for its page,
and the third one after it. -/
def smallRun : PollRun :=
  follow smallPlan { site := smallSite } [0, 0, 1, 0, 0, 0, 0, 0, 0, 2, 2, 2, 2, 2, 2]

theorem serialised_smallRun :
    smallRun.claims = [0, 2] ∧ (smallRun.movesOf 1).length = 1 ∧
      smallRun.site.backend.writer = (serial smallPlan smallSite [0, 2]).backend.writer ∧
      smallRun.site.reader = (serial smallPlan smallSite [0, 2]).reader ∧
      smallRun.site.backend.writer.records.length = 2 := by
  have hclaims : smallRun.claims = [0, 2] := by decide +kernel
  have hfree : smallRun.site.reader.guard.busy = false := by decide +kernel
  obtain ⟨hsingle, hskipped, -, hserial, -⟩ :=
    serialised (reaches_follow smallPlan { site := smallSite }
      [0, 0, 1, 0, 0, 0, 0, 0, 0, 2, 2, 2, 2, 2, 2])
  have hnone : ∀ i, (smallRun.stage i).holds = false := by
    intro i
    by_contra hi
    have hbusy := (hsingle i (Bool.of_not_eq_false hi)).1
    rw [show (follow _ _ _).site.reader.guard.busy = _ from hfree] at hbusy
    cases hbusy
  obtain ⟨hreader, hwriter, -⟩ := hserial hnone
  obtain ⟨site, -, hmoves⟩ := hskipped 1 rfl
  refine ⟨hclaims, congrArg List.length hmoves, ?_, ?_, by decide +kernel⟩
  · rw [← hclaims]
    exact hwriter
  · rw [← hclaims]
    exact hreader

end PollRun

end Collector
