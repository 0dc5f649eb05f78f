import Mathlib.Tactic
import Collector.Supervision

/-!
# The moves of a supervised loop

A loop that `harvest-core` supervises makes its attempts one at a time.  Attempts end when
and how they do, and the loop may be cancelled before them, in them and in the delays
between them, even in the moment in which a delay is over (`Supervision.Step`).  What has
happened until a loop stands where it stands is said once for each stage
(`Supervision.Told`), and what is still to come after a cancellation is bounded by the
stage (`Supervision.Leads.late`).

Main statements:

* `Supervision.Step.ends_cases`: what follows the end of an attempt, whatever the delays are.
* `Supervision.account_of_leads`: what the moves of a loop tell about it.
* `Supervision.Leads.late`: what may come after a cancellation.
-/

namespace Collector

namespace Supervision

/-! ## Ends that a restart may mend -/

/-- A restart may mend it. -/
inductive Mendable : Except Exit Unit → Prop
  /-- An attempt has failed. -/
  | fail (reason : String) : Mendable (.error (.fail reason))
  /-- An attempt took too long. -/
  | timeout (seconds : ℕ) : Mendable (.error (.timeout seconds))

theorem mendable_error_iff {e : Exit} : Mendable (.error e) ↔ e.retryable = true := by
  constructor
  · intro h
    cases h <;> rfl
  · cases e with
    | timeout seconds => exact fun _ => .timeout seconds
    | fail reason => exact fun _ => .fail reason
    | fatal reason => exact nofun
    | canceled => exact nofun

theorem stageAfter_of_mendable {result : Except Exit Unit} (h : Mendable result) (b : Backoff)
    (previous : Option ℕ) : stageAfter (verdict b previous false result) = .resting := by
  cases h <;> rfl

theorem verdict_of_not_mendable {result : Except Exit Unit} (h : ¬ Mendable result) (b : Backoff)
    (previous : Option ℕ) (cancelled : Bool) :
    verdict b previous cancelled result = .finished result := by
  cases result with
  | ok => rfl
  | error e => simp [verdict, mendable_error_iff.not.1 h]

/-! ## Steps -/

variable {s r t : Standing} {m : Move} {moves before after : List Move}
  {result : Except Exit Unit}

/-- An attempt that a restart may mend is followed by a delay unless the loop is cancelled,
any other one ends the loop. -/
theorem Step.ends_cases (h : Step s (.ends result) t) :
    s.stage = .attempting ∧ t.cancelled = s.cancelled ∧
      (Mendable result ∧ s.cancelled = false ∧ t.stage = .resting ∨
        (Mendable result → s.cancelled = true) ∧ t.stage = .finished result) := by
  cases h with
  | ends b previous hstage =>
    refine ⟨hstage, rfl, ?_⟩
    by_cases hmend : Mendable result
    · cases hcancelled : s.cancelled with
      | false => exact .inl ⟨hmend, rfl, stageAfter_of_mendable hmend b previous⟩
      | true =>
        refine .inr ⟨fun _ => rfl, ?_⟩
        simp only [verdict_of_cancelled, stageAfter]
    · refine .inr ⟨fun h => absurd h hmend, ?_⟩
      simp only [verdict_of_not_mendable hmend, stageAfter]

/-- An attempt begins before all others, or after a delay. -/
theorem Step.begins_cases (h : Step s .begins t) :
    (s.stage = .fresh ∨ s.stage = .resting) ∧ t = { s with stage := .attempting } := by
  cases h with
  | first hstage => exact ⟨.inl hstage, rfl⟩
  | again hstage => exact ⟨.inr hstage, rfl⟩

theorem leads_append_iff :
    Leads s (before ++ after) t ↔ ∃ r, Leads s before r ∧ Leads r after t := by
  induction before generalizing s with
  | nil =>
    constructor
    · exact fun h => ⟨s, .nil, h⟩
    · rintro ⟨r, ⟨⟩, h⟩
      exact h
  | cons m before ih =>
    constructor
    · rintro (_ | ⟨hstep, hrest⟩)
      obtain ⟨r, hbefore, hafter⟩ := ih.1 hrest
      exact ⟨r, .cons hstep hbefore, hafter⟩
    · rintro ⟨r, _ | ⟨hstep, hbefore⟩, hafter⟩
      exact .cons hstep (ih.2 ⟨r, hbefore, hafter⟩)

theorem leads_concat_iff : Leads s (moves ++ [m]) t ↔ ∃ r, Leads s moves r ∧ Step r m t := by
  rw [leads_append_iff]
  refine exists_congr fun r => and_congr_right fun _ => ?_
  constructor
  · rintro (_ | ⟨hstep, ⟨⟩⟩)
    exact hstep
  · exact fun hstep => .cons hstep .nil

@[simp] theorem begun_append (before after : List Move) :
    begun (before ++ after) = begun before + begun after := List.countP_append

@[simp] theorem outcomes_append (before after : List Move) :
    outcomes (before ++ after) = outcomes before ++ outcomes after := List.filterMap_append

theorem outcomes_concat (h : m.outcome? = none) : outcomes (moves ++ [m]) = outcomes moves := by
  simp [outcomes, h]

/-! ## What has happened -/

/-- All moves are cancellations. -/
def OnlyCancels (moves : List Move) : Prop := ∀ m ∈ moves, m = .cancel

/-- The last attempt ended in a way that a restart may mend, and before the loop was
cancelled; nothing but cancellations has come after it. -/
def Mends (moves : List Move) : Prop :=
  ∃ earlier result cancels, moves = earlier ++ .ends result :: cancels ∧ Mendable result ∧
    .cancel ∉ earlier ∧ OnlyCancels cancels

/-- What has happened to a loop, by its stage. -/
inductive Told (moves : List Move) : Stage → Prop
  /-- A loop that was at most cancelled stands before its first attempt. -/
  | fresh (h : OnlyCancels moves) : Told moves .fresh
  /-- An attempt has begun and not ended (`Account.counted`). -/
  | attempting : Told moves .attempting
  /-- The last attempt may be mended. -/
  | resting (h : Mends moves) : Told moves .resting
  /-- The last attempt was not to be mended, or the loop was cancelled by its end. -/
  | ended {earlier cancels : List Move} {result : Except Exit Unit}
      (hmoves : moves = earlier ++ .ends result :: cancels) (hcancels : OnlyCancels cancels)
      (hresult : Mendable result → .cancel ∈ earlier)
      (hearlier : ∀ r ∈ outcomes earlier, Mendable r) : Told moves (.finished result)
  /-- The delay after an attempt was cut short. -/
  | cut {earlier cancels : List Move} (hmoves : moves = earlier ++ .cut :: cancels)
      (hcancels : OnlyCancels cancels) (hmends : Mends earlier) (hcancel : .cancel ∈ earlier) :
      Told moves (.finished (.error .canceled))

theorem OnlyCancels.concat (h : OnlyCancels moves) : OnlyCancels (moves ++ [.cancel]) := by
  intro m hm
  rcases List.mem_append.1 hm with hm | hm
  · exact h m hm
  · exact List.mem_singleton.1 hm

theorem OnlyCancels.begun_eq (h : OnlyCancels moves) : begun moves = 0 := by
  refine List.countP_eq_zero.2 fun m hm => ?_
  rw [h m hm]
  exact Bool.false_ne_true

theorem OnlyCancels.outcomes_eq (h : OnlyCancels moves) : outcomes moves = [] := by
  refine List.filterMap_eq_nil_iff.2 fun m hm => ?_
  rw [h m hm]
  rfl

theorem concat_cancel {earlier cancels : List Move} (h : moves = earlier ++ m :: cancels) :
    moves ++ [.cancel] = earlier ++ m :: (cancels ++ [.cancel]) := by
  rw [h, List.append_assoc, List.cons_append]

theorem Mends.concat (h : Mends moves) : Mends (moves ++ [.cancel]) := by
  obtain ⟨earlier, result, cancels, hmoves, hmend, hearlier, hcancels⟩ := h
  exact ⟨earlier, result, _, concat_cancel hmoves, hmend, hearlier, hcancels.concat⟩

/-- A cancellation does not change what has happened otherwise. -/
theorem Told.concat {stage : Stage} (h : Told moves stage) :
    Told (moves ++ [.cancel]) stage := by
  cases h with
  | fresh h => exact .fresh h.concat
  | attempting => exact .attempting
  | resting h => exact .resting h.concat
  | ended hmoves hcancels hresult hearlier =>
    exact .ended (concat_cancel hmoves) hcancels.concat hresult hearlier
  | cut hmoves hcancels hmends hcancel =>
    exact .cut (concat_cancel hmoves) hcancels.concat hmends hcancel

/-- The attempts that are on their way. -/
def Stage.underWay : Stage → ℕ
  | attempting => 1
  | _ => 0

/-- What the moves of a loop tell about it. -/
structure Account (moves : List Move) (s : Standing) : Prop where
  /-- The loop is cancelled exactly if a cancellation was among its moves. -/
  cancelled : s.cancelled = true ↔ .cancel ∈ moves
  /-- Attempts are made one at a time. -/
  counted : begun moves = (outcomes moves).length + s.stage.underWay
  /-- A loop goes on as long as restarts may mend its attempts. -/
  mendable : (∀ result, s.stage ≠ .finished result) → ∀ r ∈ outcomes moves, Mendable r
  /-- What has happened tells where the loop stands. -/
  told : Told moves s.stage

/-- An attempt begins at the very beginning, or when the last one may be mended. -/
theorem Account.begins (h : Account moves s) (hstep : Step s .begins t) :
    (OnlyCancels moves ∨ Mends moves) ∧ Account (moves ++ [.begins]) t := by
  obtain ⟨hstage, rfl⟩ := hstep.begins_cases
  have htold := h.told
  have houtcomes : outcomes (moves ++ [.begins]) = outcomes moves := outcomes_concat rfl
  have hcounted : begun moves = (outcomes moves).length := by
    rw [h.counted]
    rcases hstage with hstage | hstage <;> rw [hstage] <;> rfl
  have hmendable : ∀ r ∈ outcomes moves, Mendable r := by
    refine h.mendable fun result hresult => ?_
    rw [hresult] at hstage
    rcases hstage with hstage | hstage <;> cases hstage
  refine ⟨?_, by simpa using h.cancelled, ?_, ?_, .attempting⟩
  · rcases hstage with hstage | hstage <;> rw [hstage] at htold
    · cases htold with
      | fresh honly => exact .inl honly
    · cases htold with
      | resting hmends => exact .inr hmends
  · rw [begun_append, hcounted, houtcomes]
    rfl
  · rw [houtcomes]
    exact fun _ => hmendable

theorem Account.ends (h : Account moves s) (hstep : Step s (.ends result) t) :
    Account (moves ++ [.ends result]) t := by
  obtain ⟨hstage, hcancelled, hnext⟩ := hstep.ends_cases
  have hcount : begun (moves ++ [.ends result]) = begun moves := begun_append moves _
  have houtcomes : outcomes (moves ++ [.ends result]) = outcomes moves ++ [result] :=
    outcomes_append moves _
  have hmendable : ∀ r ∈ outcomes moves, Mendable r := by
    refine h.mendable fun result hresult => ?_
    rw [hstage] at hresult
    cases hresult
  have hbegun : begun moves = (outcomes moves).length + 1 := by
    rw [h.counted, hstage]
    rfl
  have hnone : OnlyCancels [] := nofun
  refine ⟨?_, ?_, ?_, ?_⟩
  · rw [hcancelled, h.cancelled]
    simp
  · rw [hcount, houtcomes, List.length_append, hbegun]
    rcases hnext with ⟨-, -, ht⟩ | ⟨-, ht⟩ <;> rw [ht] <;> rfl
  · intro hgoes r hr
    rw [houtcomes] at hr
    rcases List.mem_append.1 hr with hr | hr
    · exact hmendable r hr
    · rw [List.mem_singleton.1 hr]
      rcases hnext with ⟨hmend, -, -⟩ | ⟨-, ht⟩
      · exact hmend
      · exact absurd ht (hgoes result)
  · rcases hnext with ⟨hmend, hrunning, ht⟩ | ⟨hresult, ht⟩
    · rw [ht]
      refine .resting ⟨moves, result, [], rfl, hmend, ?_, hnone⟩
      rw [← h.cancelled, hrunning]
      exact Bool.false_ne_true
    · rw [ht]
      exact .ended rfl hnone (fun hmend => h.cancelled.1 (hresult hmend)) hmendable

theorem Account.step (h : Account moves s) (hstep : Step s m t) : Account (moves ++ [m]) t := by
  cases m with
  | begins => exact (h.begins hstep).2
  | ends result => exact h.ends hstep
  | cancel =>
    have houtcomes : outcomes (moves ++ [.cancel]) = outcomes moves := outcomes_concat rfl
    cases hstep
    refine ⟨by simp, ?_, ?_, h.told.concat⟩
    · rw [houtcomes]
      exact (begun_append moves _).trans h.counted
    · rw [houtcomes]
      exact h.mendable
  | cut =>
    have houtcomes : outcomes (moves ++ [.cut]) = outcomes moves := outcomes_concat rfl
    have htold := h.told
    have hbegun := h.counted
    cases hstep with
    | cut hstage hcancelled =>
      rw [hstage] at htold hbegun
      cases htold with
      | resting hmends =>
        have hcancel := h.cancelled.1 hcancelled
        refine ⟨by simpa using h.cancelled, ?_, ?_, .cut rfl nofun hmends hcancel⟩
        · rw [houtcomes]
          exact (begun_append moves _).trans hbegun
        · exact fun hgoes => absurd rfl (hgoes _)

/-- What the moves of a loop tell about it. -/
theorem account_of_leads (h : Leads {} moves s) : Account moves s := by
  induction moves using List.reverseRecOn generalizing s with
  | nil =>
    cases h
    exact ⟨by simp, rfl, nofun, .fresh nofun⟩
  | append_singleton moves m ih =>
    obtain ⟨r, hmoves, hstep⟩ := leads_concat_iff.1 h
    exact (ih hmoves).step hstep

/-! ## After a cancellation -/

/-- Nothing happens to a loop that has ended. -/
theorem Leads.of_finished (h : Leads s moves t) (hstage : s.stage = .finished result) :
    t.stage = .finished result ∧ OnlyCancels moves := by
  induction h with
  | nil => exact ⟨hstage, nofun⟩
  | cons hstep _ ih =>
    cases hstep with
    | cancel =>
      obtain ⟨ht, honly⟩ := ih hstage
      exact ⟨ht, List.forall_mem_cons.2 ⟨rfl, honly⟩⟩
    | first h | again h | ends _ _ h | cut h => rw [hstage] at h; cases h

/-- How many moves are no cancellations. -/
def others (moves : List Move) : ℕ := moves.countP fun m => !m.isCancel

theorem others_append (before after : List Move) :
    others (before ++ after) = others before + others after := List.countP_append

theorem OnlyCancels.others_eq (h : OnlyCancels moves) : others moves = 0 := by
  refine List.countP_eq_zero.2 fun m hm => ?_
  rw [h m hm]
  exact Bool.false_ne_true

/-- How often an attempt may still begin once the loop is cancelled. -/
def Stage.begins : Stage → ℕ
  | fresh | resting => 1
  | attempting | finished _ => 0

/-- A cancelled loop begins at most one more attempt, and has ended with its end. -/
theorem Leads.late (h : Leads s moves t) (hcancelled : s.cancelled = true) :
    begun moves ≤ s.stage.begins ∧ others moves ≤ s.stage.begins + 1 ∧
      ∀ result ∈ outcomes moves, t.stage = .finished result := by
  induction h with
  | nil => exact ⟨Nat.zero_le _, Nat.zero_le _, nofun⟩
  | @cons s r t m moves hstep hrest ih =>
    have hbegun : begun (m :: moves) = begun [m] + begun moves := begun_append [m] moves
    have hothers : others (m :: moves) = others [m] + others moves := others_append [m] moves
    have houtcomes : outcomes (m :: moves) = outcomes [m] ++ outcomes moves :=
      outcomes_append [m] moves
    rw [hbegun, hothers, houtcomes]
    cases hstep with
    | cancel =>
      obtain ⟨hbegins, hmoves, hends⟩ := ih rfl
      refine ⟨?_, ?_, hends⟩
      · rwa [show begun [.cancel] = 0 from rfl, Nat.zero_add]
      · rwa [show others [.cancel] = 0 from rfl, Nat.zero_add]
    | first hstage | again hstage =>
      obtain ⟨hbegins, hmoves, hends⟩ := ih hcancelled
      rw [hstage]
      exact ⟨Nat.add_le_add_left hbegins 1, Nat.add_le_add_left hmoves 1, hends⟩
    | @ends b previous result hstage =>
      have hlast : stageAfter (verdict b previous s.cancelled result) = .finished result := by
        rw [hcancelled, verdict_of_cancelled]
        rfl
      -- nothing but cancellations can follow
      obtain ⟨ht, honly⟩ := hrest.of_finished hlast
      rw [hstage, honly.begun_eq, honly.others_eq, honly.outcomes_eq]
      refine ⟨le_rfl, le_rfl, fun r hr => ?_⟩
      rw [ht, List.mem_singleton.1 hr]
    | cut hstage =>
      obtain ⟨ht, honly⟩ := hrest.of_finished rfl
      rw [hstage, honly.begun_eq, honly.others_eq, honly.outcomes_eq]
      exact ⟨Nat.zero_le 1, Nat.le_succ 1, nofun⟩

end Supervision

end Collector
