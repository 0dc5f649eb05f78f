import Collector.Proofs.Job.Turns

/-!
# Jobs that are seen are started

Calls of the job cache of `harvest-core` overlap, and between their steps the cache is
asked for the jobs of identities.  What calls did, and what the cache answered, is written
down as it happens (`CacheHistory`); a run is any list of turns (`CacheHistory.follow`).

Whoever gets a job gets one that some call made, started and reported as created before;
nothing else ever puts a job into a cell.  A call that cannot go on waits for a call of
its own identity, which can.

Main statements:

* `CacheHistory.exists_turns`: lists of turns are all the orders of steps there are.
* `CacheHistory.Told.act`: what one turn preserves.
* `CacheHistory.startedFirst`: what holds after any turns.
-/

namespace Collector

variable {J : Type}

/-! ## What a call has done -/

namespace CacheCall

/-- What a call has done by now. -/
def told (call : CacheCall J) : List (CallEvent J) :=
  match call.stage with
  | .enter | .wait _ | .make _ | .finished (some (.cached _)) => []
  | .start _ _ | .giveBack _ | .forget _ | .finished none => [.create call.identity]
  | .finished (some (.created job)) => [.create call.identity, .start job]

/-- A step adds what it does to what the call has done. -/
theorem told_step? {call : CacheCall J} {c c' : JobCache J} {stage : CallStage J}
    {events : List (CallEvent J)} (h : call.step? c = some (stage, c', events)) :
    ({ call with stage } : CacheCall J).told = call.told ++ events := by
  cases hstage : call.stage with
  | enter | start | giveBack | forget =>
    simp only [step?, hstage, Option.some.injEq, Prod.mk.injEq] at h
    obtain ⟨rfl, -, rfl⟩ := h
    simp [told, hstage]
  | wait cell =>
    simp only [step?, hstage] at h
    split at h
    · cases h
      simp [told, hstage]
    · split_ifs at h
      cases h
      simp [told, hstage]
  | make cell =>
    simp only [step?, hstage] at h
    split at h
    · cases h
      simp [told, hstage]
    · cases h
      simp [told, hstage]
  | finished found =>
    simp only [step?, hstage] at h
    cases h

/-- A call cannot go on if it is over, or waits for a cell that another call has. -/
theorem step?_eq_none_iff {call : CacheCall J} {c : JobCache J} : call.step? c = none ↔
    (∃ found, call.stage = .finished found) ∨
      ∃ cell, call.stage = .wait cell ∧ c.jobIn? cell = none ∧ c.isBusy cell = true := by
  cases hstage : call.stage with
  | wait cell =>
    cases hjob : c.jobIn? cell with
    | some job => simp [step?, hstage, hjob]
    | none => simp [step?, hstage, hjob]
  | make cell =>
    cases hmade : call.made with
    | some job => simp [step?, hstage, hmade]
    | none => simp [step?, hstage, hmade]
  | _ => simp [step?, hstage]

/-- What a call has done, as far as starts go. -/
theorem count_told [DecidableEq J] (call : CacheCall J) (job : J) :
    call.told.count (.start job) = if call.found? = some (.created job) then 1 else 0 := by
  cases hstage : call.stage with
  | finished found =>
    cases found with
    | none => simp [told, found?, hstage]
    | some found =>
      cases found with
      | cached made => simp [told, found?, hstage]
      | created made =>
        by_cases hmade : made = job
        · simp [told, found?, hstage, hmade]
        · simp [told, found?, hstage, hmade]
  | _ => simp [told, found?, hstage]

end CacheCall

namespace CallStage

/-- The call has taken the cell, and has not yet put a job into it or given it back. -/
inductive Holding : CallStage J → ℕ → Prop
  /-- A call that makes or starts a job has the cell. -/
  | making {stage : CallStage J} {cell : ℕ} (h : stage.Making cell) : Holding stage cell
  /-- A call that is about to give the cell back has it until then. -/
  | giveBack (cell : ℕ) : Holding (giveBack cell) cell

theorem Holding.cell?_eq {stage : CallStage J} {cell : ℕ} (h : stage.Holding cell) :
    stage.cell? = some cell := by
  cases h with
  | making hmaking => exact hmaking.cell?_eq
  | giveBack => rfl

end CallStage

/-! ## What a step does to cells -/

/-- A cell after a step of a call. -/
inductive CellAfter (call : CacheCall J) (c : JobCache J) (stage : CallStage J) (cell : ℕ) :
    Cell J → Prop
  /-- The cell is as it was, and the call still has it if it had it. -/
  | same (value : Cell J) (h : c.cells[cell]? = some value)
      (hholding : call.stage.Holding cell → stage.Holding cell) : CellAfter call c stage cell value
  /-- The cell is free and empty. -/
  | free : CellAfter call c stage cell {}
  /-- The cell is taken, and the call has it. -/
  | taken (h : stage.Holding cell) : CellAfter call c stage cell { busy := true }
  /-- The call has put its job into the cell. -/
  | filled (job : J) (hcell : call.stage.cell? = some cell)
      (hstage : stage = .finished (some (.created job))) :
      CellAfter call c stage cell { job := some job }

theorem CallStep.cellAfter {call : CacheCall J} {c c' : JobCache J} {stage : CallStage J}
    {cell : ℕ} {value : Cell J} (h : CallStep call c stage c')
    (hvalue : c'.cells[cell]? = some value) : CellAfter call c stage cell value := by
  -- a call that ends to have one cell did not have another one
  have hother : ∀ {k : ℕ}, call.stage.cell? = some k → cell ≠ k →
      call.stage.Holding cell → stage.Holding cell := by
    intro k hk hne hholding
    exact absurd (Option.some.inj (hholding.cell?_eq.symm.trans hk)) hne
  cases h with
  | found k hstage | cached k job hstage => exact .same value hvalue (by rw [hstage]; rintro ⟨⟨⟩⟩)
  | opened hstage =>
    rcases Nat.lt_or_ge cell c.cells.length with hlt | hge
    · rw [List.getElem?_append_left hlt] at hvalue
      exact .same value hvalue (by rw [hstage]; rintro ⟨⟨⟩⟩)
    · rw [List.getElem?_append_right hge, List.getElem?_singleton] at hvalue
      split_ifs at hvalue
      cases hvalue
      exact .free
  | held k hstage =>
    rcases CacheRun.set_cases hvalue with ⟨rfl, rfl⟩ | ⟨-, hold⟩
    · exact .taken (.making (.make _))
    · exact .same value hold (by rw [hstage]; rintro ⟨⟨⟩⟩)
  | made k job hstage =>
    refine .same value hvalue ?_
    rw [hstage]
    rintro ⟨⟨⟩⟩
    exact .making (.start ..)
  | failed k hstage =>
    refine .same value hvalue ?_
    rw [hstage]
    rintro ⟨⟨⟩⟩
    exact .giveBack _
  | filled k job hstage =>
    have hk : call.stage.cell? = some k := by rw [hstage]; rfl
    rcases CacheRun.set_cases hvalue with ⟨rfl, rfl⟩ | ⟨hne, hold⟩
    · exact .filled job hk rfl
    · exact .same value hold (hother hk hne)
  | gaveBack k hstage =>
    have hk : call.stage.cell? = some k := by rw [hstage]; rfl
    rcases CacheRun.set_cases hvalue with ⟨rfl, rfl⟩ | ⟨hne, hold⟩
    · exact .free
    · exact .same value hold (hother hk hne)
  | forgot k hstage =>
    have hsame : c.cells[cell]? = some value := by
      unfold JobCache.forget at hvalue
      split_ifs at hvalue
      · exact hvalue
      · exact hvalue
    exact .same value hsame (by rw [hstage]; rintro ⟨⟨⟩⟩)

/-! ## Runs that are written down -/

/-- A cache, the calls that work on it, and what happened. -/
structure CacheHistory (J : Type) extends CacheRun J where
  /-- What the calls did, each with the number of the call. -/
  events : List (ℕ × CallEvent J) := []
  /-- What the cache answered when it was asked for the job of an identity. -/
  answers : List (String × Option J) := []

namespace CacheHistory

/-- One turn of a history of calls. -/
inductive Turn where
  /-- The call with this number does its next step, if it can go on. -/
  | call (i : ℕ)
  /-- The cache is asked for the job of an identity. -/
  | look (identity : String)

/-- The history after one turn. -/
def act (s : CacheHistory J) : Turn → CacheHistory J
  | .look identity => { s with answers := s.answers ++ [(identity, s.cache.get? identity)] }
  | .call i =>
    match s.calls[i]? with
    | none => s
    | some call =>
      match call.step? s.cache with
      | none => s
      | some (stage, cache, events) =>
        { s with
          cache, calls := s.calls.set i { call with stage }
          events := s.events ++ events.map fun event => (i, event) }

/-- The history after any turns. -/
def follow (turns : List Turn) (s : CacheHistory J) : CacheHistory J := turns.foldl act s

/-- Calls that have not begun, on a cache without jobs; nothing has happened. -/
def ofCalls (calls : List (CacheCall J)) : CacheHistory J := { CacheRun.ofCalls calls with }

variable {s t : CacheHistory J} {calls : List (CacheCall J)}

theorem act_call {i : ℕ} {call : CacheCall J} {stage : CallStage J} {c : JobCache J}
    {events : List (CallEvent J)} (hcall : s.calls[i]? = some call)
    (hstep : call.step? s.cache = some (stage, c, events)) :
    s.act (.call i) = ⟨⟨c, s.calls.set i { call with stage }⟩,
      s.events ++ events.map fun event => (i, event), s.answers⟩ := by
  simp only [act, hcall, hstep]

/-- How a history changes in one turn. -/
inductive Acted (s : CacheHistory J) : CacheHistory J → Prop
  /-- A call does its next step, which is noted. -/
  | call {i : ℕ} {call : CacheCall J} {stage : CallStage J} {c : JobCache J}
      {events : List (CallEvent J)} (hcall : s.calls[i]? = some call)
      (hstep : call.step? s.cache = some (stage, c, events)) :
      Acted s ⟨⟨c, s.calls.set i { call with stage }⟩,
        s.events ++ events.map fun event => (i, event), s.answers⟩
  /-- Nothing happens if the call cannot go on, or there is none with that number. -/
  | nothing : Acted s s
  /-- The cache is asked for the job of an identity, and the answer is noted. -/
  | look (identity : String) :
      Acted s { s with answers := s.answers ++ [(identity, s.cache.get? identity)] }

theorem act_cases (s : CacheHistory J) (turn : Turn) : Acted s (s.act turn) := by
  cases turn with
  | look identity => exact .look identity
  | call i =>
    cases hcall : s.calls[i]? with
    | none =>
      simp only [act, hcall]
      exact .nothing
    | some call =>
      cases hstep : call.step? s.cache with
      | none =>
        simp only [act, hcall, hstep]
        exact .nothing
      | some result =>
        obtain ⟨stage, c, events⟩ := result
        rw [act_call hcall hstep]
        exact .call hcall hstep

theorem Acted.reaches (h : Acted s t) : CacheRun.Reaches s.toCacheRun t.toCacheRun := by
  cases h with
  | call hcall hstep => exact .single (.call _ hcall hstep)
  | nothing => exact .refl
  | look => exact .refl

theorem follow_concat (turns : List Turn) (turn : Turn) (s : CacheHistory J) :
    follow (turns ++ [turn]) s = (follow turns s).act turn := List.foldl_concat ..

/-- Turns are steps of calls. -/
theorem reaches_follow (turns : List Turn) (calls : List (CacheCall J)) :
    CacheRun.Reaches (CacheRun.ofCalls calls) (follow turns (ofCalls calls)).toCacheRun := by
  induction turns using List.reverseRecOn with
  | nil => exact .refl
  | append_singleton turns turn ih =>
    rw [follow_concat]
    exact ih.trans (act_cases _ turn).reaches

/-- All orders of the steps of calls are turns. -/
theorem exists_turns {run : CacheRun J} (h : CacheRun.Reaches (CacheRun.ofCalls calls) run) :
    ∃ turns, (follow turns (ofCalls calls)).toCacheRun = run := by
  induction h with
  | refl => exact ⟨[], rfl⟩
  | tail _ hstep ih =>
    obtain ⟨turns, rfl⟩ := ih
    cases hstep with
    | call i hcall hcallstep =>
      refine ⟨turns ++ [.call i], ?_⟩
      rw [follow_concat, act_call hcall hcallstep]

/-! ## Who made what is there -/

/-- A call of the identity has reported that it created the job. -/
def Created (s : CacheHistory J) (x : String) (job : J) : Prop :=
  ∃ (k : ℕ) (b : CacheCall J), s.calls[k]? = some b ∧ b.identity = x ∧
    b.stage = .finished (some (.created job))

/-- What a call did, in order. -/
def eventsOf (s : CacheHistory J) (k : ℕ) : List (CallEvent J) :=
  (s.events.filter fun e => e.1 = k).map Prod.snd

/-- What is in cells, what calls and the cache have answered, and who has a cell, all
goes back to what calls did. -/
structure Told (owner : ℕ → String) (s : CacheHistory J) : Prop where
  /-- Cells belong to identities. -/
  placed : CacheRun.Placed owner s.toCacheRun
  /-- The calls did what they are over with. -/
  told : ∀ (k : ℕ) (b : CacheCall J), s.calls[k]? = some b → s.eventsOf k = b.told
  /-- A call that gave nothing was to make nothing. -/
  failed : ∀ (k : ℕ) (b : CacheCall J), s.calls[k]? = some b → b.stage = .finished none →
    b.made = none
  /-- A job in a cell was created. -/
  cells : ∀ (cell : ℕ) (job : J), s.cache.jobIn? cell = some job → s.Created (owner cell) job
  /-- A call has the cell that is taken. -/
  busy : ∀ cell : ℕ, s.cache.isBusy cell = true →
    ∃ (k : ℕ) (b : CacheCall J), s.calls[k]? = some b ∧ b.stage.Holding cell
  /-- A job that a call found was created. -/
  cached : ∀ (k : ℕ) (b : CacheCall J) (job : J), s.calls[k]? = some b →
    b.stage = .finished (some (.cached job)) → s.Created b.identity job
  /-- A job that the cache answered with was created. -/
  answers : ∀ (x : String) (job : J), (x, some job) ∈ s.answers → s.Created x job

theorem eventsOf_append (s : CacheHistory J) (i k : ℕ) (events : List (CallEvent J))
    (run : CacheRun J) (answers : List (String × Option J)) :
    eventsOf ⟨run, s.events ++ events.map fun event => (i, event), answers⟩ k =
      s.eventsOf k ++ if k = i then events else [] := by
  have hnew : ((events.map fun event => (i, event)).filter fun e => e.1 = k).map Prod.snd =
      if k = i then events else [] := by
    by_cases hk : k = i
    · simp [hk, List.filter_map, Function.comp_def]
    · simp [hk, Ne.symm hk, List.filter_map, Function.comp_def]
  rw [eventsOf, List.filter_append, List.map_append, hnew]
  rfl

/-- A call that is over stays as it is. -/
theorem Created.set {x : String} {job : J} (h : s.Created x job) {i : ℕ} {call : CacheCall J}
    {stage : CallStage J} {c : JobCache J} {events : List (CallEvent J)}
    (hcall : s.calls[i]? = some call) (hstep : call.step? s.cache = some (stage, c, events))
    (log : List (ℕ × CallEvent J)) (answers : List (String × Option J)) :
    Created ⟨⟨c, s.calls.set i { call with stage }⟩, log, answers⟩ x job := by
  obtain ⟨k, b, hb, hx, hstage⟩ := h
  have hne : i ≠ k := by
    rintro rfl
    obtain rfl : call = b := Option.some.inj (hcall.symm.trans hb)
    rw [CacheCall.step?_eq_none_iff.2 (.inl ⟨_, hstage⟩)] at hstep
    cases hstep
  exact ⟨k, b, (List.getElem?_set_ne hne).trans hb, hx, hstage⟩

namespace Told

variable {owner : ℕ → String}

section Step

variable {i : ℕ} {call : CacheCall J} {stage : CallStage J} {c : JobCache J}
  {events : List (CallEvent J)}

/-- A job that is in a cell after a step was there before, or the call has created it. -/
theorem cells_step (h : Told owner s) (hcall : s.calls[i]? = some call)
    (hstep : call.step? s.cache = some (stage, c, events)) {cell : ℕ} {job : J}
    (hjob : c.jobIn? cell = some job) (log : List (ℕ × CallEvent J))
    (answers : List (String × Option J)) :
    cell < s.cache.cells.length ∧
      Created ⟨⟨c, s.calls.set i { call with stage }⟩, log, answers⟩ (owner cell) job := by
  obtain ⟨value, hvalue, hvaluejob⟩ := Option.bind_eq_some_iff.1 hjob
  cases (CacheCall.step?_cases hstep).cellAfter hvalue with
  | same _ hold =>
    refine ⟨(List.getElem?_eq_some_iff.1 hold).1, (h.cells cell job ?_).set hcall hstep _ _⟩
    rw [JobCache.jobIn?, hold]
    exact hvaluejob
  | free => cases hvaluejob
  | taken => cases hvaluejob
  | filled made hcell hstage =>
    obtain rfl : made = job := Option.some.inj hvaluejob
    obtain ⟨hown, hlt⟩ := h.placed.calls i call hcall cell hcell
    exact ⟨hlt, i, _, List.getElem?_set_self (List.getElem?_eq_some_iff.1 hcall).1, hown.symm,
      hstage⟩

/-- A cell that is taken after a step is the one that the call has, or another call has
had it before. -/
theorem busy_step (h : Told owner s) (hcall : s.calls[i]? = some call)
    (hstep : call.step? s.cache = some (stage, c, events)) {cell : ℕ}
    (hbusy : c.isBusy cell = true) : ∃ (k : ℕ) (b : CacheCall J),
      (s.calls.set i { call with stage })[k]? = some b ∧ b.stage.Holding cell := by
  have hself : stage.Holding cell → ∃ (k : ℕ) (b : CacheCall J),
      (s.calls.set i { call with stage })[k]? = some b ∧ b.stage.Holding cell := fun hholding =>
    ⟨i, _, List.getElem?_set_self (List.getElem?_eq_some_iff.1 hcall).1, hholding⟩
  obtain ⟨value, hvalue, hvaluebusy⟩ := (Option.any_eq_true _ _).1 hbusy
  cases (CacheCall.step?_cases hstep).cellAfter hvalue with
  | same _ hold hkeep =>
    obtain ⟨k, b, hb, hholding⟩ :=
      h.busy cell ((Option.any_eq_true _ _).2 ⟨value, hold, hvaluebusy⟩)
    by_cases hk : i = k
    · subst hk
      obtain rfl : call = b := Option.some.inj (hcall.symm.trans hb)
      exact hself (hkeep hholding)
    · exact ⟨k, b, (List.getElem?_set_ne hk).trans hb, hholding⟩
  | free => cases hvaluebusy
  | taken hholding => exact hself hholding
  | filled => cases hvaluebusy

/-- A step of a call is told as well. -/
theorem step (h : Told owner s) (hcall : s.calls[i]? = some call)
    (hstep : call.step? s.cache = some (stage, c, events)) :
    ∃ owner', Told owner' ⟨⟨c, s.calls.set i { call with stage }⟩,
      s.events ++ events.map fun event => (i, event), s.answers⟩ := by
  obtain ⟨owner', hplaced, hsame⟩ := h.placed.step (.call i hcall hstep)
  refine ⟨owner', hplaced, ?_, ?_, ?_, fun cell hbusy => h.busy_step hcall hstep hbusy, ?_, ?_⟩
  · intro k b hb
    rw [eventsOf_append]
    rcases CacheRun.set_cases hb with ⟨rfl, rfl⟩ | ⟨hne, hb⟩
    · rw [if_pos rfl, h.told k call hcall]
      exact (CacheCall.told_step? hstep).symm
    · rw [if_neg hne, List.append_nil]
      exact h.told k b hb
  · intro k b hb hstage
    rcases CacheRun.set_cases hb with ⟨rfl, rfl⟩ | ⟨-, hb⟩
    · cases CacheCall.step?_cases hstep with
      | forgot cell hforget => exact h.placed.failing k call hcall (hforget ▸ .forget cell)
      | _ => cases hstage
    · exact h.failed k b hb hstage
  · intro cell job hjob
    obtain ⟨hlt, hcreated⟩ := h.cells_step hcall hstep hjob _ _
    rw [hsame cell hlt]
    exact hcreated
  · intro k b job hb hstage
    rcases CacheRun.set_cases hb with ⟨rfl, rfl⟩ | ⟨-, hb⟩
    · cases CacheCall.step?_cases hstep with
      | cached cell found hwait hjob =>
        cases hstage
        obtain ⟨hown, -⟩ := h.placed.calls k call hcall cell (by rw [hwait]; rfl)
        have hcreated : s.Created call.identity job := hown ▸ h.cells cell job hjob
        exact hcreated.set hcall hstep _ _
      | _ => cases hstage
    · exact (h.cached k b job hb hstage).set hcall hstep _ _
  · intro x job hanswer
    exact (h.answers x job hanswer).set hcall hstep _ _

end Step

/-- An answer of the cache is told as well. -/
theorem look (h : Told owner s) (identity : String) :
    Told owner { s with answers := s.answers ++ [(identity, s.cache.get? identity)] } := by
  refine ⟨h.placed, h.told, h.failed, h.cells, h.busy, h.cached, ?_⟩
  intro x job hanswer
  rcases List.mem_append.1 hanswer with hold | hnew
  · exact h.answers x job hold
  · obtain ⟨rfl, hget⟩ := Prod.mk.inj (List.mem_singleton.1 hnew)
    obtain ⟨cell, hslot, hjob⟩ := Option.bind_eq_some_iff.1 hget.symm
    obtain ⟨hown, -⟩ := h.placed.slots x cell hslot
    rw [← hown]
    exact h.cells cell job hjob

/-- One turn of a history that is told leaves one that is told. -/
theorem acted (h : Told owner s) (hacted : Acted s t) : ∃ owner', Told owner' t := by
  cases hacted with
  | call hcall hstep => exact h.step hcall hstep
  | nothing => exact ⟨owner, h⟩
  | look identity => exact ⟨owner, h.look identity⟩

end Told

/-- Whatever turns calls take on an empty cache, the history is told. -/
theorem exists_told (turns : List Turn) (calls : List (CacheCall J)) :
    ∃ owner, Told owner (follow turns (ofCalls calls)) := by
  induction turns using List.reverseRecOn with
  | nil =>
    obtain ⟨owner, hplaced⟩ := CacheRun.exists_placed (.refl : CacheRun.Reaches (.ofCalls calls) _)
    have hbegin : ∀ (k : ℕ) (b : CacheCall J), (CacheRun.ofCalls calls).calls[k]? = some b →
        b.stage = .enter := fun k b hb => CacheRun.stage_ofCalls hb
    refine ⟨owner, hplaced, ?_, ?_, nofun, nofun, ?_, nofun⟩
    · intro k b hb
      rw [CacheCall.told, hbegin k b hb]
      rfl
    · intro k b hb hstage
      rw [hbegin k b hb] at hstage
      cases hstage
    · intro k b job hb hstage
      rw [hbegin k b hb] at hstage
      cases hstage
  | append_singleton turns turn ih =>
    obtain ⟨owner, htold⟩ := ih
    rw [follow_concat]
    exact htold.acted (act_cases _ turn)

/-! ## How often a job is started -/

section Starts

variable [DecidableEq J]

/-- How often a job was started. -/
def starts (s : CacheHistory J) (job : J) : ℕ := (s.events.map Prod.snd).count (.start job)

/-- How many calls have reported that they created a job. -/
def reports (s : CacheHistory J) (job : J) : ℕ :=
  s.calls.countP fun b => b.found? = some (.created job)

/-- One turn starts a job as often as it has a call report it. -/
theorem Acted.starts_eq (h : Acted s t) {job : J} (hs : s.starts job = s.reports job) :
    t.starts job = t.reports job := by
  cases h with
  | nothing => exact hs
  | look => exact hs
  | @call i call stage c events hcall hstep =>
    obtain ⟨hlt, hget⟩ := List.getElem?_eq_some_iff.1 hcall
    have htold := congrArg (List.count (CallEvent.start job)) (CacheCall.told_step? hstep)
    rw [List.count_append, CacheCall.count_told, CacheCall.count_told] at htold
    have hfew : (if call.found? = some (.created job) then 1 else 0) ≤ s.reports job := by
      split_ifs with hfound
      · exact List.countP_pos_iff.2 ⟨call, List.mem_of_getElem? hcall, by simpa using hfound⟩
      · exact Nat.zero_le _
    simp only [starts, reports, List.map_append, List.map_map, List.count_append,
      List.countP_set hlt, hget, decide_eq_true_eq] at hs hfew ⊢
    have hevents : List.map (Prod.snd ∘ fun event => (i, event)) events = events := by
      simp [Function.comp_def]
    rw [hevents, hs]
    omega

/-- A job is started as often as calls report that they created it. -/
theorem starts_eq_reports (turns : List Turn) (calls : List (CacheCall J)) (job : J) :
    (follow turns (ofCalls calls)).starts job = (follow turns (ofCalls calls)).reports job := by
  induction turns using List.reverseRecOn with
  | nil =>
    refine (List.countP_eq_zero.2 fun b hb => ?_).symm
    obtain ⟨k, hk⟩ := List.getElem?_of_mem hb
    simp [CacheCall.found?, CacheRun.stage_ofCalls hk]
  | append_singleton turns turn ih =>
    rw [follow_concat]
    exact (act_cases _ turn).starts_eq ih

/-- If only one call could report a job, and does, there is one report. -/
theorem reports_eq_one {k : ℕ} {b : CacheCall J} {job : J} (hb : s.calls[k]? = some b)
    (hstage : b.stage = .finished (some (.created job)))
    (honly : ∀ (j : ℕ) (a : CacheCall J), s.calls[j]? = some a → a.stage.made? = some job → j = k) :
    s.reports job = 1 := by
  have hnot : ∀ (j : ℕ) (a : CacheCall J), s.calls[j]? = some a → j ≠ k →
      a.found? ≠ some (.created job) := by
    intro j a ha hjk hfound
    refine hjk (honly j a ha ?_)
    unfold CacheCall.found? at hfound
    split at hfound
    · next found hover => rw [hover, hfound]; rfl
    · cases hfound
  obtain ⟨l, r, hcalls, hk⟩ : ∃ l r, s.calls = l ++ b :: r ∧ l.length = k := by
    obtain ⟨hlt, rfl⟩ := List.getElem?_eq_some_iff.1 hb
    exact ⟨s.calls.take k, s.calls.drop (k + 1), by simp, by simpa using hlt.le⟩
  have hleft : l.countP (fun b => b.found? = some (.created job)) = 0 := by
    refine List.countP_eq_zero.2 fun a ha => ?_
    obtain ⟨j, hj⟩ := List.getElem?_of_mem ha
    have hlt : j < l.length := (List.getElem?_eq_some_iff.1 hj).1
    have ha' : s.calls[j]? = some a := by rw [hcalls, List.getElem?_append_left hlt, hj]
    simpa using hnot j a ha' (hk ▸ hlt.ne)
  have hright : r.countP (fun b => b.found? = some (.created job)) = 0 := by
    refine List.countP_eq_zero.2 fun a ha => ?_
    obtain ⟨j, hj⟩ := List.getElem?_of_mem ha
    have ha' : s.calls[l.length + (j + 1)]? = some a := by
      rw [hcalls, List.getElem?_append_right (Nat.le_add_right _ _), Nat.add_sub_cancel_left,
        List.getElem?_cons_succ, hj]
    simpa using hnot _ a ha' (by omega)
  have hself : b.found? = some (.created job) := by rw [CacheCall.found?, hstage]
  rw [reports, hcalls, List.countP_append, hleft, List.countP_cons_of_pos (by simpa using hself),
    hright]

end Starts

/-! ## What callers see -/

/-- A call for the identity, or the cache when it was asked, gave the job. -/
def Obtained (s : CacheHistory J) (x : String) (job : J) : Prop :=
  (∃ b ∈ s.calls, b.identity = x ∧ ∃ found, b.stage = .finished (some found) ∧ found.job = job) ∨
    (x, some job) ∈ s.answers

/-- Nobody gets a job that is not started, and calls of other identities are not in the
way. -/
structure StartedFirst [DecidableEq J] (s : CacheHistory J) : Prop where
  /-- A job that anybody got was created by a call of its identity. -/
  obtained : ∀ (x : String) (job : J), s.Obtained x job → s.Created x job
  /-- A call reports as created what it was to make, and has made and started it. -/
  created : ∀ (k : ℕ) (b : CacheCall J) (job : J), s.calls[k]? = some b →
    b.stage = .finished (some (.created job)) →
      b.made = some job ∧ s.eventsOf k = [.create b.identity, .start job]
  /-- A job is started as often as it is reported as created. -/
  starts : ∀ job : J, s.starts job = s.reports job
  /-- If one call only is to make a job that anybody got, it was started once, and this
  call reports it; no other call reports or starts it. -/
  once : ∀ job : J, (∀ (i j : ℕ) (a b : CacheCall J), s.calls[i]? = some a → s.calls[j]? = some b →
      a.made = some job → b.made = some job → i = j) →
    ∀ x : String, s.Obtained x job → s.starts job = 1 ∧
      ∃ (k : ℕ) (b : CacheCall J), s.calls[k]? = some b ∧
        b.stage = .finished (some (.created job)) ∧
        ∀ (j : ℕ) (a : CacheCall J), s.calls[j]? = some a → a.stage.made? = some job → j = k
  /-- A call that reports a job as found has made nothing, and another call reports it as
  created. -/
  cached : ∀ (k : ℕ) (b : CacheCall J) (job : J), s.calls[k]? = some b →
    b.stage = .finished (some (.cached job)) → s.eventsOf k = [] ∧
      ∃ (j : ℕ) (a : CacheCall J), j ≠ k ∧ s.calls[j]? = some a ∧ a.identity = b.identity ∧
        a.stage = .finished (some (.created job))
  /-- A call that gives nothing was to make nothing, and has tried. -/
  failed : ∀ (k : ℕ) (b : CacheCall J), s.calls[k]? = some b → b.stage = .finished none →
    b.made = none ∧ s.eventsOf k = [.create b.identity]
  /-- A call that cannot go on is over, or waits for one of its own identity that can. -/
  waits : ∀ (k : ℕ) (b : CacheCall J), s.calls[k]? = some b → b.step? s.cache = none →
    (∃ found, b.stage = .finished found) ∨
      ∃ (j : ℕ) (a : CacheCall J) (cell : ℕ), j ≠ k ∧ s.calls[j]? = some a ∧
        a.identity = b.identity ∧ b.stage = .wait cell ∧ a.stage.Holding cell ∧
        a.step? s.cache ≠ none
  /-- A step of a call does not change whether a call of another identity can go on. -/
  apart : ∀ (i k : ℕ) (a b : CacheCall J), s.calls[i]? = some a → s.calls[k]? = some b →
    a.identity ≠ b.identity → (s.act (.call i)).calls[k]? = some b ∧
      (b.step? (s.act (.call i)).cache = none ↔ b.step? s.cache = none)

namespace Told

variable {owner : ℕ → String}

theorem obtained (h : Told owner s) {x : String} {job : J} (hjob : s.Obtained x job) :
    s.Created x job := by
  rcases hjob with ⟨b, hb, rfl, found, hstage, rfl⟩ | hanswer
  · obtain ⟨k, hk⟩ := List.getElem?_of_mem hb
    cases found with
    | cached job => exact h.cached k b job hk hstage
    | created job => exact ⟨k, b, hk, rfl, hstage⟩
  · exact h.answers x job hanswer

/-- A call that waits waits for one of its own identity. -/
theorem waits (h : Told owner s) {k : ℕ} {b : CacheCall J} (hb : s.calls[k]? = some b)
    (hstep : b.step? s.cache = none) : (∃ found, b.stage = .finished found) ∨
      ∃ (j : ℕ) (a : CacheCall J) (cell : ℕ), j ≠ k ∧ s.calls[j]? = some a ∧
        a.identity = b.identity ∧ b.stage = .wait cell ∧ a.stage.Holding cell ∧
        a.step? s.cache ≠ none := by
  rcases CacheCall.step?_eq_none_iff.1 hstep with hover | ⟨cell, hwait, -, hbusy⟩
  · exact .inl hover
  · obtain ⟨j, a, ha, hholding⟩ := h.busy cell hbusy
    obtain ⟨howner, -⟩ := h.placed.calls j a ha cell hholding.cell?_eq
    obtain ⟨hownerb, -⟩ := h.placed.calls k b hb cell (by rw [hwait]; rfl)
    refine .inr ⟨j, a, cell, ?_, ha, howner.symm.trans hownerb, hwait, hholding, ?_⟩
    · rintro rfl
      obtain rfl : a = b := Option.some.inj (ha.symm.trans hb)
      rw [hwait] at hholding
      rcases hholding with ⟨⟨⟩⟩
    · intro hnone
      rcases CacheCall.step?_eq_none_iff.1 hnone with ⟨found, hover⟩ | ⟨other, hother, -⟩
      · rw [hover] at hholding
        rcases hholding with ⟨⟨⟩⟩
      · rw [hother] at hholding
        rcases hholding with ⟨⟨⟩⟩

/-- A step of a call is none that a call of another identity would notice. -/
theorem apart (h : Told owner s) {i k : ℕ} {a b : CacheCall J} (ha : s.calls[i]? = some a)
    (hb : s.calls[k]? = some b) (hne : a.identity ≠ b.identity) :
    (s.act (.call i)).calls[k]? = some b ∧
      (b.step? (s.act (.call i)).cache = none ↔ b.step? s.cache = none) := by
  cases hstep : a.step? s.cache with
  | none =>
    have hsame : s.act (.call i) = s := by simp only [act, ha, hstep]
    rw [hsame]
    exact ⟨hb, Iff.rfl⟩
  | some result =>
    obtain ⟨stage, c, events⟩ := result
    have hik : i ≠ k := by
      rintro rfl
      exact hne (congrArg CacheCall.identity (Option.some.inj (ha.symm.trans hb)))
    have hframe := (CacheCall.step?_cases hstep).frame
      (fun cell hcell => (h.placed.calls i a ha cell hcell).1) hne
    rw [act_call ha hstep]
    refine ⟨(List.getElem?_set_ne hik).trans hb, ?_⟩
    rw [CacheCall.step?_eq_none_iff, CacheCall.step?_eq_none_iff]
    -- the cell that the other call waits for is as it was
    have hcell : ∀ cell, b.stage = .wait cell → c.cells[cell]? = s.cache.cells[cell]? := by
      intro cell hwait
      obtain ⟨howner, hlt⟩ := h.placed.calls k b hb cell (by rw [hwait]; rfl)
      exact hframe.cells cell howner hlt
    refine or_congr Iff.rfl (exists_congr fun cell => and_congr_right fun hwait => ?_)
    rw [JobCache.jobIn?, JobCache.jobIn?, JobCache.isBusy, JobCache.isBusy, hcell cell hwait]

end Told

/-- Whatever calls there are, whatever they are to make, and in whatever order they go
on: nobody gets a job that is not started. -/
theorem startedFirst [DecidableEq J] (calls : List (CacheCall J)) (turns : List Turn) :
    StartedFirst (follow turns (ofCalls calls)) := by
  obtain ⟨owner, htold⟩ := exists_told turns calls
  have hmade := CacheRun.made?_of_reaches (reaches_follow turns calls)
  refine ⟨fun x job hjob => htold.obtained hjob, ?_, starts_eq_reports turns calls, ?_, ?_, ?_,
    fun k b hb hstep => htold.waits hb hstep, fun i k a b ha hb hne => htold.apart ha hb hne⟩
  · intro k b job hb hstage
    refine ⟨hmade k b hb job (by rw [hstage]; rfl), ?_⟩
    rw [htold.told k b hb, CacheCall.told, hstage]
  · intro job hone x hjob
    obtain ⟨k, b, hb, -, hstage⟩ := htold.obtained hjob
    have hbmade := hmade k b hb job (by rw [hstage]; rfl)
    have honly : ∀ (j : ℕ) (a : CacheCall J), (follow turns (ofCalls calls)).calls[j]? = some a →
        a.stage.made? = some job → j = k := fun j a ha hajob =>
      hone j k a b ha hb (hmade j a ha job hajob) hbmade
    rw [starts_eq_reports]
    exact ⟨reports_eq_one hb hstage honly, k, b, hb, hstage, honly⟩
  · intro k b job hb hstage
    obtain ⟨j, a, ha, hax, hastage⟩ := htold.cached k b job hb hstage
    refine ⟨?_, j, a, ?_, ha, hax, hastage⟩
    · rw [htold.told k b hb, CacheCall.told, hstage]
    · rintro rfl
      obtain rfl : a = b := Option.some.inj (ha.symm.trans hb)
      rw [hstage] at hastage
      cases hastage
  · intro k b hb hstage
    refine ⟨htold.failed k b hb hstage, ?_⟩
    rw [htold.told k b hb, CacheCall.told, hstage]

/-- The first call makes no job while the second one waits for the cell; the cache answers
with the job of the second one when that is started, not before. -/
example :
    let s := follow [.call 0, .call 1, .call 0, .call 1, .call 0, .call 0, .call 1, .call 1,
      .look "x", .call 1, .look "x"]
      (ofCalls [⟨"x", none, false, .enter⟩, ⟨"x", some "job", true, .enter⟩])
    s.answers = [("x", none), ("x", some "job")] ∧
      s.events = [(0, .create "x"), (1, .create "x"), (1, .start "job")] := by
  decide +kernel

end CacheHistory

end Collector
