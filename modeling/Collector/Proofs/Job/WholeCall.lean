import Collector.Proofs.Job.Interleaving

/-!
# Whole calls for jobs

A call of the job cache of `harvest-core` that no other call overlaps either finds the job of its
identity, or makes one, or fails.  The cells and their places do not show in that: the cache is a
map from identities to jobs (`JobCache.toMap`), as long as no two identities have the same cell
(`JobCache.Sound`).  Such a call is the steps of a call that nothing holds up
(`CacheCall.Completes`).

Main statements:

* `JobCache.getOrCreate_cases`: what a whole call gives, and what it leaves.
* `CacheCall.completes_getOrCreate`: a whole call is the steps of a call.
* `CacheRun.Placed.sound`: no order of steps of overlapping calls breaks `JobCache.Sound`.
-/

namespace Collector

/-! ## Maps whose values are looked up elsewhere -/

namespace Entries

variable {α β : Type}

theorem get?_filterMap (f : α → Option β) (k : String) {entries : List (String × α)}
    (hsorted : Sorted entries) :
    get? k (entries.filterMap fun e => (f e.2).map fun b => (e.1, b)) =
      (get? k entries).bind f := by
  induction entries with
  | nil => rfl
  | cons e rest ih =>
    obtain ⟨key, value⟩ := e
    obtain ⟨hfirst, hrest⟩ := List.pairwise_cons.1 hsorted
    have ih := ih hrest
    by_cases hk : k = key
    · subst hk
      cases hvalue : f value with
      | some b => simp [get?, hvalue]
      | none =>
        -- no later entry has the key
        have habsent : get? k rest = none := get?_eq_none_of_forall_lt hfirst
        simpa [get?, hvalue, habsent] using ih
    · cases hvalue : f value with
      | some b => simpa [get?, hvalue, hk] using ih
      | none => simpa [get?, hvalue, hk] using ih

end Entries

namespace KeyMap

variable {α β : Type}

/-- The map with the values that `f` gives, where it gives one. -/
def filterMap (f : α → Option β) (m : KeyMap α) : KeyMap β where
  entries := m.entries.filterMap fun e => (f e.2).map fun b => (e.1, b)
  sorted := by
    refine List.Pairwise.filterMap _ ?_ m.sorted
    intro a a' hlt b hb b' hb'
    obtain ⟨_, -, rfl⟩ := Option.map_eq_some_iff.1 hb
    obtain ⟨_, -, rfl⟩ := Option.map_eq_some_iff.1 hb'
    exact hlt

@[simp] theorem get?_filterMap (f : α → Option β) (m : KeyMap α) (k : String) :
    (m.filterMap f).get? k = (m.get? k).bind f :=
  Entries.get?_filterMap f k m.sorted

theorem values_filterMap (f : α → Option β) (m : KeyMap α) :
    (m.filterMap f).values = m.values.filterMap f := by
  simp only [values, filterMap, List.map_filterMap, List.filterMap_map]
  congr 1
  funext e
  simp [Option.map_map, Function.comp_def]

end KeyMap

/-! ## Caches as maps -/

namespace JobCache

variable {J σ : Type} {c : JobCache J} {x : String} {cell : ℕ}

/-- The jobs by identity. -/
def toMap (c : JobCache J) : KeyMap J := c.slots.filterMap c.jobIn?

@[simp] theorem get?_toMap (c : JobCache J) (x : String) : c.toMap.get? x = c.get? x :=
  KeyMap.get?_filterMap _ _ _

theorem values_toMap (c : JobCache J) : c.toMap.values = c.jobs := KeyMap.values_filterMap _ _

/-- Every identity that has a cell has one of its own. -/
structure Sound (c : JobCache J) : Prop where
  /-- The cell of an identity is one of the cells of the cache. -/
  inRange : ∀ x cell, c.slots.get? x = some cell → cell < c.cells.length
  /-- No two identities have the same cell. -/
  own : ∀ x y cell, c.slots.get? x = some cell → c.slots.get? y = some cell → x = y

theorem sound_empty : Sound ({} : JobCache J) := ⟨nofun, nofun⟩

/-! ## Parts of a call -/

theorem jobIn?_setCell_self (hcell : cell < c.cells.length) (value : Cell J) :
    (c.setCell cell value).jobIn? cell = value.job := by
  simp [jobIn?, setCell, hcell]

theorem jobIn?_setCell_of_ne {other : ℕ} (hne : other ≠ cell) (value : Cell J) :
    (c.setCell cell value).jobIn? other = c.jobIn? other := by
  simp [jobIn?, setCell, List.getElem?_set_ne hne.symm]

theorem Sound.setCell (h : c.Sound) (cell : ℕ) (value : Cell J) : (c.setCell cell value).Sound := by
  refine ⟨?_, h.own⟩
  intro x other hslot
  simpa [JobCache.setCell] using h.inRange x other hslot

/-- What a cell holds is seen by its identity only. -/
theorem Sound.get?_setCell (h : c.Sound) (hslot : c.slots.get? x = some cell) (value : Cell J)
    (y : String) : (c.setCell cell value).get? y = if y = x then value.job else c.get? y := by
  have hlt := h.inRange x cell hslot
  by_cases hy : y = x
  · subst hy
    rw [if_pos rfl, get?, show (c.setCell cell value).slots.get? y = some cell from hslot]
    exact jobIn?_setCell_self hlt value
  · rw [if_neg hy]
    cases hother : c.slots.get? y with
    | none => simp [get?, JobCache.setCell, hother]
    | some other =>
      have hne : other ≠ cell := by
        rintro rfl
        exact hy (h.own y x other hother hslot)
      rw [get?, get?, show (c.setCell cell value).slots.get? y = some other from hother, hother]
      exact jobIn?_setCell_of_ne hne value

/-- After the look-up the identity has the cell; nothing else shows. -/
theorem Sound.enter (h : c.Sound) (x : String) :
    (c.enter x).2.Sound ∧ (c.enter x).2.slots.get? x = some (c.enter x).1 ∧
      ∀ y, (c.enter x).2.get? y = c.get? y := by
  cases hslot : c.slots.get? x with
  | some cell =>
    rw [show c.enter x = (cell, c) by simp [JobCache.enter, hslot]]
    exact ⟨h, hslot, fun _ => rfl⟩
  | none =>
    simp only [JobCache.enter, hslot]
    refine ⟨⟨?_, ?_⟩, KeyMap.get?_insert_self _ _ _, ?_⟩
    · intro y cell hcell
      rw [KeyMap.get?_insert] at hcell
      rw [List.length_append, List.length_singleton]
      split_ifs at hcell
      · obtain rfl := Option.some.inj hcell
        exact Nat.lt_succ_self _
      · exact Nat.lt_succ_of_lt (h.inRange y cell hcell)
    · intro y z cell hy hz
      rw [KeyMap.get?_insert] at hy hz
      -- the new cell is none of the old ones
      split_ifs at hy hz with hyx hzx hzx
      · rw [hyx, hzx]
      · have hlt := h.inRange z cell hz
        obtain rfl := Option.some.inj hy
        exact absurd hlt (lt_irrefl _)
      · have hlt := h.inRange y cell hy
        obtain rfl := Option.some.inj hz
        exact absurd hlt (lt_irrefl _)
      · exact h.own y z cell hy hz
    · intro y
      by_cases hy : y = x
      · subst hy
        simp [get?, jobIn?, hslot]
      · cases hother : c.slots.get? y with
        | none => simp [get?, KeyMap.get?_insert, hy, hother]
        | some other =>
          have hlt := h.inRange y other hother
          simp [get?, jobIn?, KeyMap.get?_insert, hy, hother, List.getElem?_append_left hlt]

theorem Sound.forget (h : c.Sound) (x : String) (cell : ℕ) : (c.forget x cell).Sound := by
  unfold JobCache.forget
  split_ifs
  · refine ⟨?_, ?_⟩
    · intro y other hslot
      rw [KeyMap.get?_erase] at hslot
      split_ifs at hslot
      exact h.inRange y other hslot
    · intro y z other hy hz
      rw [KeyMap.get?_erase] at hy hz
      split_ifs at hy hz
      exact h.own y z other hy hz
  · exact h

/-- A cell that is forgotten holds no job. -/
theorem get?_forget (c : JobCache J) (x : String) (cell : ℕ) (y : String) :
    (c.forget x cell).get? y = c.get? y := by
  unfold JobCache.forget
  split_ifs with hempty
  · obtain ⟨hslot, hjob⟩ := hempty
    by_cases hy : y = x
    · subst hy
      simp [get?, KeyMap.get?_erase, hslot, Option.isNone_iff_eq_none.1 hjob]
    · simp only [get?, KeyMap.get?_erase, hy, if_false]
      rfl
  · rfl

/-! ## Whole calls -/

/-- What a whole call gives, and what it leaves. -/
inductive WholeCall (c : JobCache J) (x : String) (make : σ → Option J × σ) (s : σ) :
    Option (Found J) × JobCache J × σ → Prop
  /-- The job was there, and nothing changes. -/
  | cached (job : J) (hjob : c.get? x = some job) : WholeCall c x make s (some (.cached job), c, s)
  /-- A job was made; the identity has it, and all others have theirs. -/
  | created (job : J) (c' : JobCache J) (s' : σ) (hnone : c.get? x = none)
      (hmake : make s = (some job, s')) (hsound : c'.Sound)
      (hjobs : c'.toMap = c.toMap.insert x job) :
      WholeCall c x make s (some (.created job), c', s')
  /-- No job could be made, and all identities have what they had. -/
  | failed (c' : JobCache J) (s' : σ) (hnone : c.get? x = none) (hmake : make s = (none, s'))
      (hsound : c'.Sound) (hjobs : c'.toMap = c.toMap) : WholeCall c x make s (none, c', s')

/-- A whole call finds a job, makes one or fails (`WholeCall`). -/
theorem getOrCreate_cases (h : c.Sound) (x : String) (make : σ → Option J × σ) (s : σ) :
    WholeCall c x make s (c.getOrCreate x make s) := by
  obtain ⟨hentered, hslot, hsame⟩ := h.enter x
  have hfound : c.get? x = (c.enter x).2.jobIn? (c.enter x).1 := by
    rw [← hsame x, get?, hslot]
    rfl
  unfold getOrCreate
  cases hjob : (c.enter x).2.jobIn? (c.enter x).1 with
  | some job =>
    have hthere : c.get? x = some job := hfound.trans hjob
    -- the identity had its cell before
    obtain ⟨cell, hcell, -⟩ := Option.bind_eq_some_iff.1 hthere
    have hkept : (c.enter x).2 = c := by simp [JobCache.enter, hcell]
    rw [hkept] at hjob
    simp only [hkept, hjob]
    exact .cached job hthere
  | none =>
    have hnone : c.get? x = none := hfound.trans hjob
    obtain ⟨made, s', hmake⟩ : ∃ made s', make s = (made, s') := ⟨_, _, rfl⟩
    cases made with
    | some job =>
      simp only [hjob, hmake]
      refine .created job _ s' hnone hmake (hentered.setCell _ _) ?_
      apply KeyMap.ext_get?
      intro y
      rw [get?_toMap, fill, hentered.get?_setCell hslot, KeyMap.get?_insert, get?_toMap, hsame]
    | none =>
      simp only [hjob, hmake]
      refine .failed _ s' hnone hmake ((hentered.setCell _ _).forget _ _) ?_
      apply KeyMap.ext_get?
      intro y
      rw [get?_toMap, get?_toMap, get?_forget, giveBack, hentered.get?_setCell hslot, hsame]
      split_ifs with hy
      · rw [hy, hnone]
      · rfl

end JobCache

/-! ## Whole calls as steps -/

namespace CacheCall

variable {J : Type} {call : CacheCall J} {c c' : JobCache J} {stage : CallStage J}
  {events : List (CallEvent J)}

/-- The call comes to its end in one turn; what it gives, and the cache that it leaves. -/
def Completes (call : CacheCall J) (c : JobCache J) (found : Option (Found J))
    (after : JobCache J) : Prop :=
  (call.run c).1.stage = .finished found ∧ (call.run c).2.1 = after

variable {found : Option (Found J)} {after : JobCache J} {cell : ℕ}

theorem completes_finished (hstage : call.stage = .finished found) : Completes call c found c := by
  have hnone : call.step? c = none := by simp only [step?, hstage]
  unfold Completes
  rw [run]
  split
  · exact ⟨hstage, rfl⟩
  · rename_i hsome
    rw [hnone] at hsome
    cases hsome

/-- A call that need not wait does its next step, and goes on from there. -/
theorem Completes.head (hstep : call.step? c = some (stage, c', events))
    (hgoes : ({ call with stage } : CacheCall J).isStartingSlowly = false)
    (h : Completes { call with stage } c' found after) : Completes call c found after := by
  unfold Completes
  rw [run]
  split
  · rename_i hnone
    rw [hnone] at hstep
    cases hstep
  · rename_i hsome
    rw [hstep] at hsome
    cases hsome
    simpa [hgoes, Completes] using h

/-- A call that has taken a free cell makes and starts its job, or gives the cell back and has
it forgotten. -/
theorem completes_make (call : CacheCall J) (c : JobCache J) (hstage : call.stage = .make cell)
    (hquick : call.slow = false) :
    Completes call (c.hold cell) (call.made.map .created)
      (match call.made with
        | some job => c.fill cell job
        | none => (c.giveBack cell).forget call.identity cell) := by
  have hfill : ∀ job, (c.hold cell).fill cell job = c.fill cell job := by
    simp [JobCache.fill, JobCache.hold, JobCache.setCell]
  have hback : (c.hold cell).giveBack cell = c.giveBack cell := by
    simp [JobCache.giveBack, JobCache.hold, JobCache.setCell]
  cases hmade : call.made with
  | some job =>
    have hmake : call.step? (c.hold cell) =
        some (.start cell job, c.hold cell, [.create call.identity]) := by
      simp only [step?, hstage, hmade]
    show Completes call _ (some (.created job)) (c.fill cell job)
    rw [← hfill]
    exact .head hmake hquick (.head rfl rfl (completes_finished rfl))
  | none =>
    have hmake : call.step? (c.hold cell) =
        some (.giveBack cell, c.hold cell, [.create call.identity]) := by
      simp only [step?, hstage, hmade]
    show Completes call _ none ((c.giveBack cell).forget call.identity cell)
    rw [← hback]
    exact .head hmake rfl (.head rfl rfl (.head rfl rfl (completes_finished rfl)))

/-- A call that nothing holds up does what a whole call does. -/
theorem completes_getOrCreate (hbegin : call.stage = .enter) (hquick : call.slow = false)
    (hfree : ∀ cell, c.slots.get? call.identity = some cell → c.isBusy cell = false) :
    Completes call c (c.getOrCreate call.identity (fun s : Unit => (call.made, s)) ()).1
      (c.getOrCreate call.identity (fun s : Unit => (call.made, s)) ()).2.1 := by
  obtain ⟨cell, entered, henter⟩ : ∃ cell entered, c.enter call.identity = (cell, entered) :=
    ⟨_, _, rfl⟩
  have hready : entered.isBusy cell = false := by
    unfold JobCache.enter at henter
    cases hslot : c.slots.get? call.identity with
    | some cell' =>
      rw [hslot] at henter
      cases henter
      exact hfree cell hslot
    | none =>
      rw [hslot] at henter
      cases henter
      simp [JobCache.isBusy]
  have hfirst : call.step? c = some (.wait cell, entered, []) := by
    simp only [step?, hbegin, henter]
  refine .head hfirst rfl ?_
  simp only [JobCache.getOrCreate, henter]
  cases hjob : entered.jobIn? cell with
  | some job =>
    have hfound : ({ call with stage := .wait cell } : CacheCall J).step? entered =
        some (.finished (some (.cached job)), entered, []) := by
      simp only [step?, hjob]
    exact .head hfound rfl (completes_finished rfl)
  | none =>
    have htaken : ({ call with stage := .wait cell } : CacheCall J).step? entered =
        some (.make cell, entered.hold cell, []) := by
      simp only [step?, hjob, hready, Bool.false_eq_true, if_false]
    refine .head htaken rfl ?_
    have hmake := completes_make { call with stage := .make cell } entered rfl hquick
    cases hmade : call.made <;> simpa [hmade] using hmake

end CacheCall

/-- What overlapping calls work on is sound at any time. -/
theorem CacheRun.Placed.sound {J : Type} {owner : ℕ → String} {s : CacheRun J}
    (h : Placed owner s) : s.cache.Sound where
  inRange x cell hslot := (h.slots x cell hslot).2
  own x y cell hx hy := (h.slots x cell hx).1.symm.trans (h.slots y cell hy).1

end Collector
