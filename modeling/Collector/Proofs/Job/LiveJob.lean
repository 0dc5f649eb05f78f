import Collector.Proofs.Job.Interleaving

/-!
# One live job for each identity

A job that was made for a call of the job cache of `harvest-core` should be the only one
of its identity, and the one that the cache gives out from then on
(`CacheRun.OneLiveJob`).  That is so if no call of the identity fails to make its job: the
cell of the identity then stays where it is, and one call at a time has it
(`CacheRun.Sole`).

Main statements:

* `Sole.step`: what a step preserves.
* `oneLiveJob_of_made`: no order of steps leaves a job behind if all calls of the
  identity make one.
* `exists_left_behind`: a call that fails and one that does not may leave a job behind.
* `oneLiveJob_iff`: the calls that never do.
-/

namespace Collector

variable {J : Type}

theorem Entries.mem_of_get? {α : Type} {key : String} {value : α} {entries : List (String × α)}
    (h : Entries.get? key entries = some value) : (key, value) ∈ entries := by
  induction entries with
  | nil => cases h
  | cons e rest ih =>
    obtain ⟨k, v⟩ := e
    rw [Entries.get?] at h
    split_ifs at h with hkey
    · rw [hkey, Option.some.inj h]
      exact List.mem_cons_self
    · exact List.mem_cons_of_mem _ (ih h)

/-- What the cache gives out is handed over when it is drained. -/
theorem JobCache.mem_drain_of_get? {c : JobCache J} {x : String} {job : J}
    (h : c.get? x = some job) : job ∈ c.drain.1 := by
  obtain ⟨cell, hslot, hjob⟩ := Option.bind_eq_some_iff.1 h
  have hvalue : cell ∈ c.slots.values :=
    List.mem_map_of_mem (f := Prod.snd) (Entries.mem_of_get? hslot)
  exact List.mem_filterMap.2 ⟨cell, hvalue, hjob⟩

/-- A call at this stage has a cell to itself, or made the job that is in it. -/
inductive CallStage.Engaged : CallStage J → Prop
  /-- A call that makes or starts a job has the cell to itself. -/
  | making {stage : CallStage J} (cell : ℕ) (h : stage.Making cell) : Engaged stage
  /-- A call that is over and made a job has left it in the cell. -/
  | created (job : J) : Engaged (finished (some (.created job)))

theorem CallStage.engaged_of_made? {stage : CallStage J} {job : J} (h : stage.made? = some job) :
    stage.Engaged := by
  unfold CallStage.made? at h
  split at h
  · exact .making _ (.start ..)
  · exact .created _
  · cases h

namespace CacheRun

/-- One call at most made a job of the identity; and the job that a call made, once
it is over, is the one that the cache gives out and hands over. -/
structure OneLiveJob (x : String) (s : CacheRun J) : Prop where
  /-- Of the calls of the identity at most one has made a job. -/
  single : ∀ (i j : ℕ) (a b : CacheCall J), s.calls[i]? = some a → s.calls[j]? = some b →
    a.identity = x → b.identity = x → a.stage.made?.isSome → b.stage.made?.isSome → i = j
  /-- The job that a call of the identity reports as made is the one that the cache gives out and
  hands over. -/
  visible : ∀ a ∈ s.calls, a.identity = x → ∀ job, a.stage = .finished (some (.created job)) →
    s.cache.get? x = some job ∧ job ∈ s.cache.drain.1

/-- The cell of an identity stays where it is, and one call at a time has it. -/
structure Sole (x : String) (s : CacheRun J) : Prop where
  /-- All calls of the identity have to do with the same cell. -/
  slot : ∀ (j : ℕ) (b : CacheCall J), s.calls[j]? = some b → b.identity = x →
    ∀ cell, b.stage.cell? = some cell → s.cache.slots.get? x = some cell
  /-- A cell whose job is being made is taken, and holds none. -/
  busy : ∀ (j : ℕ) (b : CacheCall J), s.calls[j]? = some b → b.identity = x →
    ∀ cell, b.stage.Making cell → s.cache.cells[cell]? = some ⟨none, true⟩
  /-- A job that was made is in the cache. -/
  created : ∀ (j : ℕ) (b : CacheCall J), s.calls[j]? = some b → b.identity = x →
    ∀ job, b.stage = .finished (some (.created job)) → s.cache.get? x = some job
  /-- Of the calls of the identity one at a time has the cell, or has filled it. -/
  single : ∀ (i j : ℕ) (a b : CacheCall J), s.calls[i]? = some a → s.calls[j]? = some b →
    a.identity = x → b.identity = x → a.stage.Engaged → b.stage.Engaged → i = j

variable {x : String} {s t : CacheRun J}

theorem Sole.oneLiveJob (h : Sole x s) : OneLiveJob x s where
  single i j a b ha hb hax hbx hamade hbmade := by
    obtain ⟨job, hjob⟩ := Option.isSome_iff_exists.1 hamade
    obtain ⟨job', hjob'⟩ := Option.isSome_iff_exists.1 hbmade
    exact h.single i j a b ha hb hax hbx (CallStage.engaged_of_made? hjob)
      (CallStage.engaged_of_made? hjob')
  visible a ha hax job hstage := by
    obtain ⟨i, hi⟩ := List.getElem?_of_mem ha
    have hget := h.created i a hi hax job hstage
    exact ⟨hget, JobCache.mem_drain_of_get? hget⟩

/-- While a cell is free and empty no call has it. -/
theorem Sole.not_engaged (h : Sole x s) {cell : ℕ} (hslot : s.cache.slots.get? x = some cell)
    (hjob : s.cache.jobIn? cell = none) (hfree : s.cache.isBusy cell = false) {j : ℕ}
    {b : CacheCall J} (hb : s.calls[j]? = some b) (hbx : b.identity = x) : ¬ b.stage.Engaged := by
  intro hengaged
  cases hstage : b.stage with
  | finished found =>
    rw [hstage] at hengaged
    cases hengaged with
    | making k hmaking => cases hmaking
    | created job =>
      have hget := h.created j b hb hbx job hstage
      rw [JobCache.get?, hslot, Option.bind_some, hjob] at hget
      cases hget
  | _ =>
    obtain ⟨k, hmaking⟩ : ∃ k, b.stage.Making k := by
      rw [hstage] at hengaged ⊢
      cases hengaged with
      | making k hmaking => exact ⟨k, hmaking⟩
    have hk : cell = k :=
      Option.some.inj (hslot.symm.trans (h.slot j b hb hbx k hmaking.cell?_eq))
    have hcell := h.busy j b hb hbx k hmaking
    rw [← hk] at hcell
    rw [JobCache.isBusy, hcell] at hfree
    cases hfree

/-- A step of a call of another identity leaves the cell of this one as it is. -/
theorem Sole.frame {owner : ℕ → String} (h : Sole x s) (hplaced : Placed owner s) {i : ℕ}
    {call : CacheCall J} {stage : CallStage J} {c : JobCache J} (hcall : s.calls[i]? = some call)
    (hframe : Frame owner x s.cache c) (hne : call.identity ≠ x) :
    Sole x ⟨c, s.calls.set i { call with stage }⟩ := by
  -- the calls of this identity are the same
  have hsame : ∀ (j : ℕ) (b : CacheCall J), (s.calls.set i { call with stage })[j]? = some b →
      b.identity = x → s.calls[j]? = some b := by
    intro j b hb hbx
    rcases set_cases hb with ⟨rfl, rfl⟩ | ⟨-, hb⟩
    · exact absurd hbx hne
    · exact hb
  refine ⟨?_, ?_, ?_, ?_⟩
  · intro j b hb hbx cell hcell
    exact hframe.slot.trans (h.slot j b (hsame j b hb hbx) hbx cell hcell)
  · intro j b hb hbx cell hmaking
    obtain ⟨hown, hlt⟩ := hplaced.calls j b (hsame j b hb hbx) cell hmaking.cell?_eq
    exact (hframe.cells cell (hown.trans hbx) hlt).trans
      (h.busy j b (hsame j b hb hbx) hbx cell hmaking)
  · intro j b hb hbx job hstage
    have hget := h.created j b (hsame j b hb hbx) hbx job hstage
    obtain ⟨cell, hslot, hjob⟩ := Option.bind_eq_some_iff.1 hget
    obtain ⟨hown, hlt⟩ := hplaced.slots x cell hslot
    have hsamecell := hframe.cells cell hown hlt
    show (c.slots.get? x).bind c.jobIn? = some job
    rw [hframe.slot, hslot, Option.bind_some, JobCache.jobIn?, hsamecell]
    exact hjob
  · intro j k a b ha hb hax hbx
    exact h.single j k a b (hsame j a ha hax) (hsame k b hb hbx) hax hbx

/-- One call at a time still has the cell if no other one has it when this one gets
it. -/
theorem Sole.single_set (h : Sole x s) {i : ℕ} {call' : CacheCall J}
    (hnew : call'.stage.Engaged → ∀ (j : ℕ) (b : CacheCall J), j ≠ i → s.calls[j]? = some b →
      b.identity = x → b.stage.Engaged → i = j) :
    ∀ (j k : ℕ) (a b : CacheCall J), (s.calls.set i call')[j]? = some a →
      (s.calls.set i call')[k]? = some b → a.identity = x → b.identity = x → a.stage.Engaged →
        b.stage.Engaged → j = k := by
  intro j k a b ha hb hax hbx haengaged hbengaged
  rcases set_cases ha with ⟨rfl, rfl⟩ | ⟨hj, hold⟩
  · rcases set_cases hb with ⟨rfl, -⟩ | ⟨hk, hb⟩
    · rfl
    · exact hnew haengaged k b hk hb hbx hbengaged
  · rcases set_cases hb with ⟨rfl, rfl⟩ | ⟨-, hb⟩
    · exact (hnew hbengaged j a hj hold hax haengaged).symm
    · exact h.single j k a b hold hb hax hbx haengaged hbengaged

/-- A step after which the call is in the same state as far as its cell is concerned,
and which changes nothing that the calls of the identity look at. -/
theorem Sole.of_same (h : Sole x s) {i : ℕ} {call : CacheCall J} {stage : CallStage J}
    {c : JobCache J} (hcall : s.calls[i]? = some call)
    (hslots : ∀ cell, s.cache.slots.get? x = some cell → c.slots.get? x = some cell)
    (hcells : ∀ cell < s.cache.cells.length, c.cells[cell]? = s.cache.cells[cell]?)
    (hslot : ∀ cell, stage.cell? = some cell → c.slots.get? x = some cell)
    (hmaking : ∀ cell, stage.Making cell → call.stage.Making cell)
    (hcreated : ∀ job, stage ≠ .finished (some (.created job))) (hx : call.identity = x) :
    Sole x ⟨c, s.calls.set i { call with stage }⟩ := by
  have hlt : ∀ {cell : ℕ} {value : Cell J}, s.cache.cells[cell]? = some value →
      cell < s.cache.cells.length := fun hcell => (List.getElem?_eq_some_iff.1 hcell).1
  have hengaged : stage.Engaged → call.stage.Engaged := by
    intro hnew
    cases hnew with
    | making cell hcell => exact .making cell (hmaking cell hcell)
    | created job => exact absurd rfl (hcreated job)
  refine ⟨?_, ?_, ?_, ?_⟩
  · intro j b hb hbx cell hcell
    rcases set_cases hb with ⟨rfl, rfl⟩ | ⟨-, hb⟩
    · exact hslot cell hcell
    · exact hslots cell (h.slot j b hb hbx cell hcell)
  · intro j b hb hbx cell hcell
    have hold : s.cache.cells[cell]? = some ⟨none, true⟩ := by
      rcases set_cases hb with ⟨rfl, rfl⟩ | ⟨-, hb⟩
      · exact h.busy j call hcall hx cell (hmaking cell hcell)
      · exact h.busy j b hb hbx cell hcell
    exact (hcells cell (hlt hold)).trans hold
  · intro j b hb hbx job hstage
    rcases set_cases hb with ⟨rfl, rfl⟩ | ⟨-, hb⟩
    · exact absurd hstage (hcreated job)
    · obtain ⟨cell, hcell, hjob⟩ := Option.bind_eq_some_iff.1 (h.created j b hb hbx job hstage)
      obtain ⟨value, hvalue, -⟩ := Option.bind_eq_some_iff.1 hjob
      show (c.slots.get? x).bind c.jobIn? = some job
      rw [hslots cell hcell, Option.bind_some, JobCache.jobIn?, hcells cell (hlt hvalue)]
      exact hjob
  · refine h.single_set ?_
    intro hnew j b _ hb hbx hbengaged
    exact h.single i j call b hcall hb hx hbx (hengaged hnew) hbengaged

/-- A call of the identity takes its cell, which is free. -/
theorem Sole.hold (h : Sole x s) {i : ℕ} {call : CacheCall J} (hcall : s.calls[i]? = some call)
    (hx : call.identity = x) {cell : ℕ} (hstage : call.stage = .wait cell)
    (hlt : cell < s.cache.cells.length) (hjob : s.cache.jobIn? cell = none)
    (hfree : s.cache.isBusy cell = false) :
    Sole x ⟨s.cache.hold cell, s.calls.set i { call with stage := .make cell }⟩ := by
  have hslot := h.slot i call hcall hx cell (by rw [hstage]; rfl)
  -- no other call of the identity has the cell
  have hfreed : ∀ (j : ℕ) (b : CacheCall J), s.calls[j]? = some b → b.identity = x →
      ¬ b.stage.Engaged := fun j b hb hbx => h.not_engaged hslot hjob hfree hb hbx
  refine ⟨?_, ?_, ?_, ?_⟩
  · intro j b hb hbx k hk
    rcases set_cases hb with ⟨rfl, rfl⟩ | ⟨-, hb⟩
    · obtain rfl : cell = k := Option.some.inj hk
      exact hslot
    · exact h.slot j b hb hbx k hk
  · intro j b hb hbx k hk
    rcases set_cases hb with ⟨rfl, rfl⟩ | ⟨-, hb⟩
    · cases hk with
      | make => exact List.getElem?_set_self hlt
    · exact absurd (.making k hk) (hfreed j b hb hbx)
  · intro j b hb hbx job hbstage
    rcases set_cases hb with ⟨rfl, rfl⟩ | ⟨-, hb⟩
    · cases hbstage
    · exact absurd (hbstage ▸ .created job) (hfreed j b hb hbx)
  · refine h.single_set ?_
    intro _ j b _ hb hbx hbengaged
    exact absurd hbengaged (hfreed j b hb hbx)

/-- A call of the identity puts the job that it made into its cell. -/
theorem Sole.fill (h : Sole x s) {i : ℕ} {call : CacheCall J} (hcall : s.calls[i]? = some call)
    (hx : call.identity = x) {cell : ℕ} {job : J} (hstage : call.stage = .start cell job)
    (hlt : cell < s.cache.cells.length) :
    Sole x ⟨s.cache.fill cell job,
      s.calls.set i { call with stage := .finished (some (.created job)) }⟩ := by
  have hslot := h.slot i call hcall hx cell (by rw [hstage]; rfl)
  have hengaged : call.stage.Engaged := hstage ▸ .making cell (.start cell job)
  -- this call has the cell, and no other one
  have hothers : ∀ (j : ℕ) (b : CacheCall J), j ≠ i → s.calls[j]? = some b → b.identity = x →
      ¬ b.stage.Engaged := fun j b hj hb hbx hbengaged =>
    hj (h.single i j call b hcall hb hx hbx hengaged hbengaged).symm
  refine ⟨?_, ?_, ?_, ?_⟩
  · intro j b hb hbx k hk
    rcases set_cases hb with ⟨rfl, rfl⟩ | ⟨-, hb⟩
    · cases hk
    · exact h.slot j b hb hbx k hk
  · intro j b hb hbx k hk
    rcases set_cases hb with ⟨rfl, rfl⟩ | ⟨hj, hb⟩
    · cases hk
    · exact absurd (.making k hk) (hothers j b hj hb hbx)
  · intro j b hb hbx made hbstage
    rcases set_cases hb with ⟨rfl, rfl⟩ | ⟨hj, hb⟩
    · cases hbstage
      have hfilled : (s.cache.fill cell job).cells[cell]? = some ⟨some job, false⟩ :=
        List.getElem?_set_self hlt
      show (s.cache.slots.get? x).bind (s.cache.fill cell job).jobIn? = some job
      rw [hslot, Option.bind_some, JobCache.jobIn?, hfilled]
      rfl
    · exact absurd (hbstage ▸ .created made) (hothers j b hj hb hbx)
  · refine h.single_set ?_
    intro _ j b hj hb hbx hbengaged
    exact absurd hbengaged (hothers j b hj hb hbx)

/-- A step of a call of the identity that is to make a job leaves its cell where it is. -/
theorem Sole.step_self {owner : ℕ → String} (h : Sole x s) (hplaced : Placed owner s) {i : ℕ}
    {call : CacheCall J} {stage : CallStage J} {c : JobCache J} (hcall : s.calls[i]? = some call)
    (hstep : CallStep call s.cache stage c) (hx : call.identity = x) (hmade : call.made ≠ none) :
    Sole x ⟨c, s.calls.set i { call with stage }⟩ := by
  have hplace : ∀ cell, call.stage.cell? = some cell → cell < s.cache.cells.length :=
    fun cell hcell => (hplaced.calls i call hcall cell hcell).2
  cases hstep with
  | found cell hstage hslot =>
    refine h.of_same hcall (fun _ hy => hy) (fun _ _ => rfl) ?_ nofun nofun hx
    intro k hk
    obtain rfl : cell = k := Option.some.inj hk
    exact hx ▸ hslot
  | opened hstage hslot =>
    rw [hx] at hslot
    refine h.of_same hcall ?_ ?_ ?_ nofun nofun hx
    · intro k hk
      rw [hslot] at hk
      cases hk
    · intro k hk
      exact List.getElem?_append_left hk
    · intro k hk
      obtain rfl : s.cache.cells.length = k := Option.some.inj hk
      rw [← hx, KeyMap.get?_insert_self]
  | cached cell job hstage hjob =>
    exact h.of_same hcall (fun _ hy => hy) (fun _ _ => rfl) nofun nofun nofun hx
  | made cell job hstage hjob =>
    refine h.of_same hcall (fun _ hy => hy) (fun _ _ => rfl) ?_ ?_ nofun hx
    · intro k hk
      exact h.slot i call hcall hx k (by rw [hstage]; exact hk)
    · intro k hk
      cases hk with
      | start => exact hstage ▸ .make cell
  | failed cell hstage hnone => exact absurd hnone hmade
  | gaveBack cell hstage =>
    exact absurd (hplaced.failing i call hcall (hstage ▸ .giveBack cell)) hmade
  | forgot cell hstage =>
    exact absurd (hplaced.failing i call hcall (hstage ▸ .forget cell)) hmade
  | held cell hstage hjob hfree =>
    exact h.hold hcall hx hstage (hplace cell (by rw [hstage]; rfl)) hjob hfree
  | filled cell job hstage => exact h.fill hcall hx hstage (hplace cell (by rw [hstage]; rfl))

/-- A step of any call leaves the cell of the identity where it is, if all calls of the identity
make a job. -/
theorem Sole.step {owner : ℕ → String} (h : Sole x s) (hplaced : Placed owner s)
    (hmade : ∀ (j : ℕ) (b : CacheCall J), s.calls[j]? = some b → b.identity = x → b.made ≠ none)
    (hstep : Step s t) : Sole x t := by
  cases hstep with
  | @call i call stage c events hcall hcallstep =>
    have hends := CacheCall.step?_cases hcallstep
    by_cases hx : call.identity = x
    · exact h.step_self hplaced hcall hends hx (hmade i call hcall hx)
    · have howner : ∀ cell, call.stage.cell? = some cell → owner cell = call.identity :=
        fun cell hcell => (hplaced.calls i call hcall cell hcell).1
      exact h.frame hplaced hcall (hends.frame howner hx) hx

/-- What the calls of a run will make is what they were to make. -/
theorem made_of_reaches {calls : List (CacheCall J)} (hrun : Reaches (ofCalls calls) s) {j : ℕ}
    {b : CacheCall J} (hb : s.calls[j]? = some b) :
    ∃ a ∈ calls, a.identity = b.identity ∧ a.made = b.made := by
  induction hrun generalizing b with
  | refl =>
    obtain ⟨a, ha, rfl⟩ := List.mem_map.1 (List.mem_of_getElem? hb)
    exact ⟨a, ha, rfl, rfl⟩
  | tail _ hstep ih =>
    obtain ⟨a, ha, hidentity, hmade⟩ := hstep.same hb
    obtain ⟨a', ha', hidentity', hmade'⟩ := ih ha
    exact ⟨a', ha', hidentity'.trans hidentity, hmade'.trans hmade⟩

/-- If all calls of an identity make a job, no order of steps leaves one behind. -/
theorem oneLiveJob_of_made {calls : List (CacheCall J)}
    (hmade : ∀ a ∈ calls, a.identity = x → a.made ≠ none) (hrun : Reaches (ofCalls calls) s) :
    OneLiveJob x s := by
  refine Sole.oneLiveJob ?_
  induction hrun with
  | refl =>
    refine ⟨?_, ?_, ?_, ?_⟩
    · intro j b hb _ cell hcell
      rw [stage_ofCalls hb] at hcell
      cases hcell
    · intro j b hb _ cell hcell
      rw [stage_ofCalls hb] at hcell
      cases hcell
    · intro j b hb _ job hstage
      rw [stage_ofCalls hb] at hstage
      cases hstage
    · intro i j a b ha _ _ _ hengaged
      rw [stage_ofCalls ha] at hengaged
      cases hengaged with
      | making cell hmaking => cases hmaking
  | tail hrun hstep ih =>
    obtain ⟨owner, hplaced⟩ := exists_placed hrun
    refine ih.step hplaced (fun j b hb hbx => ?_) hstep
    obtain ⟨a, ha, hidentity, hsame⟩ := made_of_reaches hrun hb
    exact hsame ▸ hmade a ha (hidentity.trans hbx)

/-- A call makes the job that it is to make. -/
theorem made?_of_reaches {calls : List (CacheCall J)} (hrun : Reaches (ofCalls calls) s) (j : ℕ)
    (b : CacheCall J) (hb : s.calls[j]? = some b) (job : J) (hjob : b.stage.made? = some job) :
    b.made = some job := by
  induction hrun generalizing j b with
  | refl =>
    rw [stage_ofCalls hb] at hjob
    cases hjob
  | @tail s t _ hstep ih =>
    cases hstep with
    | @call i call stage c events hcall hcallstep =>
      have hold : call.stage.made? = some job → call.made = some job := ih i call hcall
      rcases set_cases hb with ⟨rfl, rfl⟩ | ⟨-, hb⟩
      · cases CacheCall.step?_cases hcallstep with
        | found | opened | cached | held | failed | gaveBack | forgot => cases hjob
        | made cell made hstage hmade => exact hmade.trans hjob
        | filled cell made hstage =>
          refine hold ?_
          rw [hstage]
          exact hjob
      · exact ih j b hb hjob

/-- If no call of an identity makes a job, there is none to leave behind. -/
theorem oneLiveJob_of_not_made {calls : List (CacheCall J)}
    (hmade : ∀ a ∈ calls, a.identity = x → a.made = none) (hrun : Reaches (ofCalls calls) s) :
    OneLiveJob x s := by
  have hnone : ∀ (j : ℕ) (b : CacheCall J), s.calls[j]? = some b → b.identity = x →
      b.stage.made? = none := by
    intro j b hb hbx
    obtain ⟨a, ha, hidentity, hsame⟩ := made_of_reaches hrun hb
    cases hjob : b.stage.made? with
    | none => rfl
    | some job =>
      have hb' := made?_of_reaches hrun j b hb job hjob
      rw [← hsame, hmade a ha (hidentity.trans hbx)] at hb'
      cases hb'
  refine ⟨?_, ?_⟩
  · intro i j a b ha _ hax _ hamade _
    rw [hnone i a ha hax] at hamade
    cases hamade
  · intro a ha hax job hstage
    obtain ⟨i, hi⟩ := List.getElem?_of_mem ha
    have hnot := hnone i a hi hax
    rw [hstage] at hnot
    cases hnot

/-! ## A job that is left behind -/

/-- In a run of at least two calls either of them may do its next step. -/
theorem exists_step (c' : JobCache J) (events : List (CallEvent J)) {i j : ℕ} {a b : CacheCall J}
    {stage : CallStage J} {c : JobCache J} (hs : s.cache = c) (ha : s.calls[i]? = some a)
    (hb : s.calls[j]? = some b) (hij : i ≠ j) (hstep : a.step? c = some (stage, c', events)) :
    ∃ t, Step s t ∧ t.cache = c' ∧ t.calls[i]? = some { a with stage } ∧ t.calls[j]? = some b := by
  have hlt : i < s.calls.length := (List.getElem?_eq_some_iff.1 ha).1
  refine ⟨_, .call i ha (hs ▸ hstep), rfl, ?_, ?_⟩
  · exact List.getElem?_set_self hlt
  · exact (List.getElem?_set_ne hij).trans hb

/-- Two calls look up the same cell.  The first one makes no job and gives the cell
back; before it has the cell forgotten, the second one takes it, and makes its job in
a cell that no look-up finds. -/
theorem exists_left_behind {calls : List (CacheCall J)} {a b : CacheCall J} (ha : a ∈ calls)
    (hb : b ∈ calls) (hax : a.identity = x) (hbx : b.identity = x) (hnone : a.made = none) {job : J}
    (hmade : b.made = some job) :
    ∃ s, Reaches (ofCalls calls) s ∧ s.cache.get? x = none ∧
      ∃ call ∈ s.calls, call.identity = x ∧ call.stage = .finished (some (.created job)) := by
  obtain ⟨i, hi⟩ := List.getElem?_of_mem ha
  obtain ⟨j, hj⟩ := List.getElem?_of_mem hb
  have hij : i ≠ j := by
    rintro rfl
    obtain rfl : a = b := Option.some.inj (hi.symm.trans hj)
    rw [hnone] at hmade
    cases hmade
  obtain ⟨aid, amade, aslow, astage⟩ := a
  obtain ⟨bid, bmade, bslow, bstage⟩ := b
  obtain rfl : aid = x := hax
  obtain rfl : bid = aid := hbx
  obtain rfl : amade = none := hnone
  obtain rfl : bmade = some job := hmade
  have hi0 : (ofCalls calls).calls[i]? = some ⟨bid, none, aslow, .enter⟩ := by
    rw [ofCalls, List.getElem?_map, hi]
    rfl
  have hj0 : (ofCalls calls).calls[j]? = some ⟨bid, some job, bslow, .enter⟩ := by
    rw [ofCalls, List.getElem?_map, hj]
    rfl
  -- the slot of the identity, and its cell while it is free and while it is taken
  have hslot : ((KeyMap.empty : KeyMap ℕ).insert bid 0).get? bid = some 0 :=
    KeyMap.get?_insert_self _ _ _
  let free : JobCache J := ⟨[{}], KeyMap.empty.insert bid 0⟩
  let taken : JobCache J := ⟨[{ busy := true }], KeyMap.empty.insert bid 0⟩
  let forgotten : JobCache J := ⟨[{ busy := true }], (KeyMap.empty.insert bid 0).erase bid⟩
  obtain ⟨s1, h1, hc1, hi1, hj1⟩ := exists_step free [] rfl hi0 hj0 hij rfl
  have hfound : (⟨bid, some job, bslow, .enter⟩ : CacheCall J).step? free =
      some (.wait 0, free, []) := by
    simp only [CacheCall.step?, JobCache.enter, free, hslot]
  obtain ⟨s2, h2, hc2, hj2, hi2⟩ := exists_step free [] hc1 hj1 hi1 hij.symm hfound
  obtain ⟨s3, h3, hc3, hi3, hj3⟩ := exists_step taken [] hc2 hi2 hj2 hij rfl
  obtain ⟨s4, h4, hc4, hi4, hj4⟩ :=
    exists_step taken [.create bid] hc3 hi3 hj3 hij rfl
  obtain ⟨s5, h5, hc5, hi5, hj5⟩ := exists_step free [] hc4 hi4 hj4 hij rfl
  obtain ⟨s6, h6, hc6, hj6, hi6⟩ := exists_step taken [] hc5 hj5 hi5 hij.symm rfl
  have hforget : (⟨bid, none, aslow, .forget 0⟩ : CacheCall J).step? taken =
      some (.finished none, forgotten, []) := by
    have hempty : (taken.jobIn? 0).isNone = true := rfl
    simp only [CacheCall.step?, JobCache.forget, taken, hslot, forgotten]
    rw [if_pos ⟨trivial, hempty⟩]
  obtain ⟨s7, h7, hc7, hi7, hj7⟩ := exists_step forgotten [] hc6 hi6 hj6 hij hforget
  obtain ⟨s8, h8, hc8, hj8, hi8⟩ :=
    exists_step forgotten [.create bid] hc7 hj7 hi7 hij.symm rfl
  obtain ⟨s9, h9, hc9, hj9, -⟩ :=
    exists_step (forgotten.fill 0 job) [.start job] hc8 hj8 hi8 hij.symm rfl
  refine ⟨s9, ?_, ?_, _, List.mem_of_getElem? hj9, rfl, rfl⟩
  · exact ((((((((Relation.ReflTransGen.single h1).tail h2).tail h3).tail h4).tail h5).tail
      h6).tail h7).tail h8).tail h9
  · have hgone : forgotten.slots.get? bid = none := by
      rw [KeyMap.get?_erase, if_pos rfl]
    rw [hc9]
    show (forgotten.slots.get? bid).bind _ = none
    rw [hgone, Option.bind_none]

/-- Calls that begin on an empty cache leave no job of an identity behind, in any
order of their steps, exactly if all of them make a job for it or none does. -/
theorem oneLiveJob_iff (calls : List (CacheCall J)) (x : String) :
    (∀ s, Reaches (ofCalls calls) s → OneLiveJob x s) ↔
      (∀ a ∈ calls, a.identity = x → a.made ≠ none) ∨
        ∀ a ∈ calls, a.identity = x → a.made = none := by
  constructor
  · intro hall
    by_contra hmixed
    push Not at hmixed
    obtain ⟨⟨a, ha, hax, hnone⟩, b, hb, hbx, hsome⟩ := hmixed
    obtain ⟨job, hjob⟩ := Option.ne_none_iff_exists'.1 hsome
    obtain ⟨s, hrun, hget, call, hcall, hcallx, hstage⟩ :=
      exists_left_behind ha hb hax hbx hnone hjob
    have hvisible := ((hall s hrun).visible call hcall hcallx job hstage).1
    rw [hget] at hvisible
    cases hvisible
  · rintro (hmade | hnone) s hrun
    · exact oneLiveJob_of_made hmade hrun
    · exact oneLiveJob_of_not_made hnone hrun

/-- Of two calls for one identity the first makes no job: in some order of their
steps the job of the second is reported as made, and the cache does not have it. -/
theorem left_behind_two_calls :
    ∃ s, Reaches (ofCalls [⟨"x", none, false, .enter⟩, ⟨"x", some "job", false, .enter⟩]) s ∧
      s.cache.get? "x" = none ∧ ¬ OneLiveJob "x" s := by
  obtain ⟨s, hrun, hget, call, hcall, hx, hstage⟩ := exists_left_behind
    (List.mem_cons_self : (⟨"x", none, false, .enter⟩ : CacheCall String) ∈ _)
    (List.mem_cons_of_mem _ (List.mem_singleton_self ⟨"x", some "job", false, .enter⟩))
    rfl rfl rfl rfl
  refine ⟨s, hrun, hget, ?_⟩
  intro hone
  have hvisible := (hone.visible call hcall hx "job" hstage).1
  rw [hget] at hvisible
  cases hvisible

end CacheRun

end Collector
