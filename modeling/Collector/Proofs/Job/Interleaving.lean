import Mathlib.Logic.Relation
import Mathlib.Tactic
import Collector.Job.Cache

/-!
# Calls that overlap

Calls of the job cache of `harvest-core` go on one step at a time, in any order
(`CacheRun.Step`).  What one step of a call does is said once (`CallStep`); the cells of
different identities are different ones (`CacheRun.Placed`), so that a step of a call
touches nothing that belongs to another identity (`CallStep.frame`).

Main statements:

* `CacheCall.step?_cases`: what a step of a call does.
* `CacheRun.exists_placed`: the cells of a run belong to identities.
-/

namespace Collector

variable {J : Type}

/-! ## Steps -/

namespace CallStage

/-- The cell that a call that is not over has to do with. -/
def cell? : CallStage J → Option ℕ
  | enter => none
  | wait cell => some cell
  | make cell => some cell
  | start cell _ => some cell
  | giveBack cell => some cell
  | forget cell => some cell
  | finished _ => none

/-- The call has taken the cell and makes or starts a job. -/
inductive Making : CallStage J → ℕ → Prop
  /-- A call that makes its job has the cell. -/
  | make (cell : ℕ) : Making (make cell) cell
  /-- A call that starts its job has the cell. -/
  | start (cell : ℕ) (job : J) : Making (start cell job) cell

/-- The call could not make a job, and is not over. -/
inductive Failing : CallStage J → Prop
  /-- A call that failed gives its cell back. -/
  | giveBack (cell : ℕ) : Failing (giveBack cell)
  /-- A call that failed has its cell forgotten. -/
  | forget (cell : ℕ) : Failing (forget cell)

/-- The job that a call has made. -/
def made? : CallStage J → Option J
  | start _ job => some job
  | finished (some (.created job)) => some job
  | _ => none

theorem Making.cell?_eq {stage : CallStage J} {cell : ℕ} (h : stage.Making cell) :
    stage.cell? = some cell := by
  cases h with
  | make => rfl
  | start => rfl

end CallStage

/-- What a step of a call does. -/
inductive CallStep (call : CacheCall J) (c : JobCache J) : CallStage J → JobCache J → Prop
  /-- The call finds the cell of its identity. -/
  | found (cell : ℕ) (hstage : call.stage = .enter)
      (hslot : c.slots.get? call.identity = some cell) : CallStep call c (.wait cell) c
  /-- The call gives its identity a cell, since there is none. -/
  | opened (hstage : call.stage = .enter) (hslot : c.slots.get? call.identity = none) :
      CallStep call c (.wait c.cells.length)
        ⟨c.cells ++ [({} : Cell J)], c.slots.insert call.identity c.cells.length⟩
  /-- The call finds a job in the cell, and is over. -/
  | cached (cell : ℕ) (job : J) (hstage : call.stage = .wait cell)
      (hjob : c.jobIn? cell = some job) : CallStep call c (.finished (some (.cached job))) c
  /-- The call takes the cell, which is free and empty. -/
  | held (cell : ℕ) (hstage : call.stage = .wait cell) (hjob : c.jobIn? cell = none)
      (hfree : c.isBusy cell = false) : CallStep call c (.make cell) (c.hold cell)
  /-- The call makes its job. -/
  | made (cell : ℕ) (job : J) (hstage : call.stage = .make cell) (hmade : call.made = some job) :
      CallStep call c (.start cell job) c
  /-- The call can make no job. -/
  | failed (cell : ℕ) (hstage : call.stage = .make cell) (hmade : call.made = none) :
      CallStep call c (.giveBack cell) c
  /-- The call starts its job and puts it into the cell. -/
  | filled (cell : ℕ) (job : J) (hstage : call.stage = .start cell job) :
      CallStep call c (.finished (some (.created job))) (c.fill cell job)
  /-- The call gives the cell back, which is free again. -/
  | gaveBack (cell : ℕ) (hstage : call.stage = .giveBack cell) :
      CallStep call c (.forget cell) (c.giveBack cell)
  /-- The call has its identity forget the cell, if that is empty. -/
  | forgot (cell : ℕ) (hstage : call.stage = .forget cell) :
      CallStep call c (.finished none) (c.forget call.identity cell)

/-- A step that a call can do is one of these (`CallStep`). -/
theorem CacheCall.step?_cases {call : CacheCall J} {c c' : JobCache J} {stage : CallStage J}
    {events : List (CallEvent J)} (h : call.step? c = some (stage, c', events)) :
    CallStep call c stage c' := by
  unfold CacheCall.step? at h
  cases hstage : call.stage with
  | enter =>
    simp only [hstage, JobCache.enter] at h
    cases hslot : c.slots.get? call.identity with
    | none =>
      simp only [hslot, Option.some.injEq, Prod.mk.injEq] at h
      obtain ⟨rfl, rfl, -⟩ := h
      exact .opened hstage hslot
    | some cell =>
      simp only [hslot, Option.some.injEq, Prod.mk.injEq] at h
      obtain ⟨rfl, rfl, -⟩ := h
      exact .found cell hstage hslot
  | wait cell =>
    simp only [hstage] at h
    cases hjob : c.jobIn? cell with
    | some job =>
      simp only [hjob, Option.some.injEq, Prod.mk.injEq] at h
      obtain ⟨rfl, rfl, -⟩ := h
      exact .cached cell job hstage hjob
    | none =>
      simp only [hjob] at h
      cases hfree : c.isBusy cell with
      | true =>
        rw [hfree, if_pos rfl] at h
        cases h
      | false =>
        simp only [hfree, Bool.false_eq_true, if_false, Option.some.injEq, Prod.mk.injEq] at h
        obtain ⟨rfl, rfl, -⟩ := h
        exact .held cell hstage hjob hfree
  | make cell =>
    simp only [hstage] at h
    cases hmade : call.made with
    | some job =>
      simp only [hmade, Option.some.injEq, Prod.mk.injEq] at h
      obtain ⟨rfl, rfl, -⟩ := h
      exact .made cell job hstage hmade
    | none =>
      simp only [hmade, Option.some.injEq, Prod.mk.injEq] at h
      obtain ⟨rfl, rfl, -⟩ := h
      exact .failed cell hstage hmade
  | start cell job =>
    simp only [hstage, Option.some.injEq, Prod.mk.injEq] at h
    obtain ⟨rfl, rfl, -⟩ := h
    exact .filled cell job hstage
  | giveBack cell =>
    simp only [hstage, Option.some.injEq, Prod.mk.injEq] at h
    obtain ⟨rfl, rfl, -⟩ := h
    exact .gaveBack cell hstage
  | forget cell =>
    simp only [hstage, Option.some.injEq, Prod.mk.injEq] at h
    obtain ⟨rfl, rfl, -⟩ := h
    exact .forgot cell hstage
  | finished found =>
    simp only [hstage] at h
    cases h

/-! ## Runs -/

/-- A cache, and the calls that work on it. -/
structure CacheRun (J : Type) where
  /-- The cache that the calls work on. -/
  cache : JobCache J := {}
  /-- The calls, each at the stage that it has come to. -/
  calls : List (CacheCall J)

namespace CacheRun

/-- Calls that have not begun, on a cache without jobs. -/
def ofCalls (calls : List (CacheCall J)) : CacheRun J :=
  { calls := calls.map fun call => { call with stage := .enter } }

/-- One of the calls does its next step. -/
inductive Step : CacheRun J → CacheRun J → Prop
  /-- The call with this number does its next step. -/
  | call {s : CacheRun J} (i : ℕ) {call : CacheCall J} {stage : CallStage J} {c : JobCache J}
      {events : List (CallEvent J)} (hcall : s.calls[i]? = some call)
      (hstep : call.step? s.cache = some (stage, c, events)) :
      Step s ⟨c, s.calls.set i { call with stage }⟩

/-- What is there after any number of steps. -/
abbrev Reaches (s t : CacheRun J) : Prop := Relation.ReflTransGen Step s t

/-- At the start of a run every call is at its first stage. -/
theorem stage_ofCalls {calls : List (CacheCall J)} {j : ℕ} {b : CacheCall J}
    (hb : (ofCalls calls).calls[j]? = some b) : b.stage = .enter := by
  obtain ⟨call, -, rfl⟩ := List.mem_map.1 (List.mem_of_getElem? hb)
  rfl

/-- What is at a place is what was put there, or it is at another place and as it was. -/
theorem set_cases {α : Type} {xs : List α} {i j : ℕ} {x y : α} (hy : (xs.set i x)[j]? = some y) :
    j = i ∧ y = x ∨ j ≠ i ∧ xs[j]? = some y := by
  by_cases hji : j = i
  · subst hji
    have hlt : j < (xs.set j x).length := (List.getElem?_eq_some_iff.1 hy).1
    rw [List.length_set] at hlt
    rw [List.getElem?_set_self hlt] at hy
    exact .inl ⟨rfl, (Option.some.inj hy).symm⟩
  · rw [List.getElem?_set_ne (Ne.symm hji)] at hy
    exact .inr ⟨hji, hy⟩

/-- A step changes neither the identities of the calls nor what they will make. -/
theorem Step.same {s t : CacheRun J} (h : Step s t) {j : ℕ} {b : CacheCall J}
    (hb : t.calls[j]? = some b) :
    ∃ a, s.calls[j]? = some a ∧ a.identity = b.identity ∧ a.made = b.made := by
  cases h with
  | call i hcall hstep =>
    rcases set_cases hb with ⟨rfl, rfl⟩ | ⟨-, hb⟩
    · exact ⟨_, hcall, rfl, rfl⟩
    · exact ⟨b, hb, rfl, rfl⟩

/-! ## Whose cell is whose -/

/-- Every cell belongs to one identity, and calls have to do with cells of their
own identity only. -/
structure Placed (owner : ℕ → String) (s : CacheRun J) : Prop where
  /-- The cell that an identity finds belongs to it, and is there. -/
  slots : ∀ y cell, s.cache.slots.get? y = some cell → owner cell = y ∧ cell < s.cache.cells.length
  /-- The cell that a call has to do with belongs to its identity, and is there. -/
  calls : ∀ (j : ℕ) (b : CacheCall J), s.calls[j]? = some b → ∀ cell, b.stage.cell? = some cell →
    owner cell = b.identity ∧ cell < s.cache.cells.length
  /-- A call that fails makes no job. -/
  failing : ∀ (j : ℕ) (b : CacheCall J), s.calls[j]? = some b → b.stage.Failing → b.made = none

/-- What belongs to an identity is the same in two caches. -/
structure Frame (owner : ℕ → String) (x : String) (c d : JobCache J) : Prop where
  /-- The identity has the same cell in both caches. -/
  slot : d.slots.get? x = c.slots.get? x
  /-- The cells that belong to the identity hold the same in both caches. -/
  cells : ∀ cell, owner cell = x → cell < c.cells.length → d.cells[cell]? = c.cells[cell]?

theorem frame_setCell {owner : ℕ → String} {x : String} (c : JobCache J) {cell : ℕ}
    (h : owner cell ≠ x) (value : Cell J) : Frame owner x c (c.setCell cell value) := by
  refine ⟨rfl, fun other hother _ => List.getElem?_set_ne ?_⟩
  rintro rfl
  exact h hother

end CacheRun

open CacheRun (Placed Frame)

/-- A step of a call touches nothing that belongs to another identity. -/
theorem CallStep.frame {call : CacheCall J} {c c' : JobCache J} {stage : CallStage J}
    {owner : ℕ → String} {x : String} (h : CallStep call c stage c')
    (howner : ∀ cell, call.stage.cell? = some cell → owner cell = call.identity)
    (hne : call.identity ≠ x) : Frame owner x c c' := by
  have hcell : ∀ cell, call.stage.cell? = some cell → owner cell ≠ x :=
    fun cell hstage => howner cell hstage ▸ hne
  cases h with
  | found | cached | made | failed => exact ⟨rfl, fun _ _ _ => rfl⟩
  | opened hstage hslot =>
    refine ⟨?_, fun cell _ hlt => List.getElem?_append_left hlt⟩
    rw [KeyMap.get?_insert, if_neg (Ne.symm hne)]
  | held cell hstage => exact CacheRun.frame_setCell c (hcell cell (by rw [hstage]; rfl)) _
  | filled cell job hstage => exact CacheRun.frame_setCell c (hcell cell (by rw [hstage]; rfl)) _
  | gaveBack cell hstage => exact CacheRun.frame_setCell c (hcell cell (by rw [hstage]; rfl)) _
  | forgot cell hstage =>
    unfold JobCache.forget
    split_ifs
    · refine ⟨?_, fun _ _ _ => rfl⟩
      rw [KeyMap.get?_erase, if_neg (Ne.symm hne)]
    · exact ⟨rfl, fun _ _ _ => rfl⟩

namespace CacheRun

/-- No step takes a cell away. -/
theorem length_le {call : CacheCall J} {c c' : JobCache J} {stage : CallStage J}
    (h : CallStep call c stage c') : c.cells.length ≤ c'.cells.length := by
  cases h with
  | found | cached | made | failed => exact le_rfl
  | opened => simp only [List.length_append, List.length_singleton, Nat.le_add_right]
  | held | filled | gaveBack =>
    simp only [JobCache.hold, JobCache.fill, JobCache.giveBack, JobCache.setCell, List.length_set,
      le_refl]
  | forgot =>
    unfold JobCache.forget
    split_ifs
    · exact le_rfl
    · exact le_rfl

/-- A step that makes no cell leaves the cells with their identities. -/
theorem Placed.keep {owner : ℕ → String} {s : CacheRun J} (h : Placed owner s) {i : ℕ}
    {call : CacheCall J} {stage : CallStage J} {c : JobCache J} (hcall : s.calls[i]? = some call)
    (hlength : s.cache.cells.length ≤ c.cells.length)
    (hslots : ∀ y cell, c.slots.get? y = some cell → s.cache.slots.get? y = some cell)
    (hcell : ∀ cell, stage.cell? = some cell →
      call.stage.cell? = some cell ∨ s.cache.slots.get? call.identity = some cell)
    (hfails : stage.Failing → call.made = none) :
    Placed owner ⟨c, s.calls.set i { call with stage }⟩ := by
  refine ⟨?_, ?_, ?_⟩
  · intro y cell hslot
    obtain ⟨hown, hlt⟩ := h.slots y cell (hslots y cell hslot)
    exact ⟨hown, hlt.trans_le hlength⟩
  · intro j b hb cell hstage
    have hold : owner cell = b.identity ∧ cell < s.cache.cells.length := by
      rcases set_cases hb with ⟨rfl, rfl⟩ | ⟨-, hb⟩
      · rcases hcell cell hstage with hsame | hslot
        · exact h.calls j call hcall cell hsame
        · exact h.slots _ cell hslot
      · exact h.calls j b hb cell hstage
    exact ⟨hold.1, hold.2.trans_le hlength⟩
  · intro j b hb hfailing
    rcases set_cases hb with ⟨rfl, rfl⟩ | ⟨-, hb⟩
    · exact hfails hfailing
    · exact h.failing j b hb hfailing

/-- A new cell belongs to the identity that it is made for. -/
theorem Placed.opened {owner : ℕ → String} {s : CacheRun J} (h : Placed owner s) {i : ℕ}
    (call : CacheCall J) :
    Placed (Function.update owner s.cache.cells.length call.identity)
      ⟨⟨s.cache.cells ++ [({} : Cell J)],
        s.cache.slots.insert call.identity s.cache.cells.length⟩,
        s.calls.set i { call with stage := .wait s.cache.cells.length }⟩ := by
  have hlength : (s.cache.cells ++ [({} : Cell J)]).length = s.cache.cells.length + 1 := by simp
  -- the cells that were there keep their owners
  have hkeep : ∀ {y : String} {k : ℕ}, owner k = y ∧ k < s.cache.cells.length →
      Function.update owner s.cache.cells.length call.identity k = y ∧
        k < (s.cache.cells ++ [({} : Cell J)]).length := by
    rintro y k ⟨hown, hlt⟩
    rw [Function.update_of_ne hlt.ne, hlength]
    exact ⟨hown, Nat.lt_succ_of_lt hlt⟩
  have hnew : Function.update owner s.cache.cells.length call.identity s.cache.cells.length =
      call.identity ∧ s.cache.cells.length < (s.cache.cells ++ [({} : Cell J)]).length := by
    rw [Function.update_self, hlength]
    exact ⟨rfl, Nat.lt_succ_self _⟩
  refine ⟨?_, ?_, ?_⟩
  · intro y k hk
    rw [KeyMap.get?_insert] at hk
    by_cases hy : y = call.identity
    · rw [if_pos hy] at hk
      obtain rfl : s.cache.cells.length = k := Option.some.inj hk
      exact hy ▸ hnew
    · rw [if_neg hy] at hk
      exact hkeep (h.slots y k hk)
  · intro j b hb k hk
    rcases set_cases hb with ⟨rfl, rfl⟩ | ⟨-, hb⟩
    · obtain rfl : s.cache.cells.length = k := Option.some.inj hk
      exact hnew
    · exact hkeep (h.calls j b hb k hk)
  · intro j b hb hfailing
    rcases set_cases hb with ⟨rfl, rfl⟩ | ⟨-, hb⟩
    · cases hfailing
    · exact h.failing j b hb hfailing

/-- After a step every cell still belongs to one identity, to the same one if it was
there before. -/
theorem Placed.step {owner : ℕ → String} {s t : CacheRun J} (h : Placed owner s)
    (hstep : Step s t) :
    ∃ owner', Placed owner' t ∧ ∀ cell < s.cache.cells.length, owner' cell = owner cell := by
  cases hstep with
  | @call i call stage c events hcall hcallstep =>
    have hends := CacheCall.step?_cases hcallstep
    have hlength := length_le hends
    have hkeep : ∀ cell < s.cache.cells.length, owner cell = owner cell := fun _ _ => rfl
    cases hends with
    | found cell hstage hslot =>
      refine ⟨owner, h.keep hcall hlength (fun _ _ hy => hy) (fun k hk => .inr ?_) nofun, hkeep⟩
      obtain rfl : cell = k := Option.some.inj hk
      exact hslot
    | opened hstage hslot =>
      exact ⟨_, h.opened call, fun cell hlt => Function.update_of_ne hlt.ne _ _⟩
    | cached cell job hstage hjob =>
      exact ⟨owner, h.keep hcall hlength (fun _ _ hy => hy) nofun nofun, hkeep⟩
    | filled cell job hstage =>
      exact ⟨owner, h.keep hcall hlength (fun _ _ hy => hy) nofun nofun, hkeep⟩
    | held cell hstage | made cell job hstage =>
      refine ⟨owner, h.keep hcall hlength (fun _ _ hy => hy) (fun k hk => .inl ?_) nofun, hkeep⟩
      rw [hstage]
      exact hk
    | failed cell hstage hmade =>
      refine ⟨owner, h.keep hcall hlength (fun _ _ hy => hy) (fun k hk => .inl ?_) fun _ => hmade,
        hkeep⟩
      rw [hstage]
      exact hk
    | gaveBack cell hstage =>
      have hmade : call.made = none := h.failing i call hcall (hstage ▸ .giveBack cell)
      refine ⟨owner, h.keep hcall hlength (fun _ _ hy => hy) (fun k hk => .inl ?_) fun _ => hmade,
        hkeep⟩
      rw [hstage]
      exact hk
    | forgot cell hstage =>
      refine ⟨owner, h.keep hcall hlength ?_ nofun nofun, hkeep⟩
      intro y k hy
      unfold JobCache.forget at hy
      split_ifs at hy
      · rw [KeyMap.get?_erase] at hy
        split_ifs at hy
        exact hy
      · exact hy

/-- In every run of calls that begin on an empty cache, cells belong to identities. -/
theorem exists_placed {calls : List (CacheCall J)} {s : CacheRun J}
    (h : Reaches (ofCalls calls) s) : ∃ owner, Placed owner s := by
  induction h with
  | refl =>
    refine ⟨fun _ => "", nofun, ?_, ?_⟩
    · intro j b hb cell hcell
      rw [stage_ofCalls hb] at hcell
      cases hcell
    · intro j b hb hfailing
      rw [stage_ofCalls hb] at hfailing
      cases hfailing
  | tail _ hstep ih =>
    obtain ⟨owner, hplaced⟩ := ih
    obtain ⟨owner', hplaced', -⟩ := hplaced.step hstep
    exact ⟨owner', hplaced'⟩

end CacheRun

end Collector
