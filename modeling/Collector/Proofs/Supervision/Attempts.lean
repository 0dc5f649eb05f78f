import Mathlib.Tactic
import Collector.Proofs.Supervision.Moves

/-!
# The attempts of a supervised loop

From the moves of a loop that `harvest-core` supervises it follows which attempts it has made and
how it has ended (`Supervision.Supervised`).  A loop whose attempts are known beforehand makes
such moves: its attempts end in them as they are known to (`Supervision.Ends`), and it is
cancelled in them when it is to be (`Supervision.Course`).

Main statements:

* `Supervision.exists_leads_of_run`, `Supervision.run_ends`: attempts that are known
  beforehand.
* `Supervision.supervised`: which attempts a loop makes, and how it ends.
-/

namespace Collector

namespace Supervision

variable {s t : Standing} {moves before after : List Move} {result : Except Exit Unit}

/-! ## Attempts that are known beforehand -/

/-- The moves of an attempt, in which the loop may be cancelled. -/
def attemptMoves (cancelled : Bool) (result : Except Exit Unit) : List Move :=
  .begins :: ((if cancelled then [.cancel] else []) ++ [.ends result])

/-- A loop that is about to make an attempt can make it, and be cancelled in it. -/
theorem leads_attemptMoves (b : Backoff) (previous : Option ℕ) (cancelled : Bool)
    (result : Except Exit Unit) (hstage : s.stage = .fresh ∨ s.stage = .resting)
    (hrunning : s.cancelled = false) :
    Leads s (attemptMoves cancelled result)
      ⟨stageAfter (verdict b previous cancelled result), cancelled⟩ := by
  have hbegin : Step s .begins ⟨.attempting, false⟩ := by
    rw [← hrunning]
    exact hstage.elim .first .again
  cases cancelled with
  | false => exact .cons hbegin (.cons (.ends b previous rfl) .nil)
  | true => exact .cons hbegin (.cons .cancel (.cons (.ends b previous rfl) .nil))

@[simp] theorem begun_attemptMoves (cancelled : Bool) (result : Except Exit Unit) :
    begun (attemptMoves cancelled result) = 1 := by
  cases cancelled <;> rfl

@[simp] theorem outcomes_attemptMoves (cancelled : Bool) (result : Except Exit Unit) :
    outcomes (attemptMoves cancelled result) = [result] := by
  cases cancelled <;> rfl

/-! ### Time -/

/-- The delay before the attempt that has `k` attempts before it; none before the first one. -/
def delayBefore (b : Backoff) : ℕ → Option ℕ
  | 0 => none
  | k + 1 => some (b.next (delayBefore b k))

/-- When the attempt begins that has `k` attempts before it: attempts that are followed by a delay
end at once. -/
def beginOf (b : Backoff) : ℕ → ℕ
  | 0 => 0
  | k + 1 => beginOf b k + b.next (delayBefore b k)

/-- The loop is cancelled by the end of the attempt that has `k` attempts before it: it is to be
cancelled in this attempt, or was to be before the attempt began, or the attempt waits for it. -/
def CancelledIn (b : Backoff) (c : Cancellation) (attempts : List Attempt) (k : ℕ) : Prop :=
  c.inAttempt = some (k + 1) ∨ c.reached (beginOf b k) = true ∨
    attemptAt? attempts (k + 1) = some .waits

/-- The loop is cancelled before the delay is over that follows the attempt with `k` attempts
before it. -/
def CancelledBehind (b : Backoff) (c : Cancellation) (k : ℕ) : Prop :=
  ∃ t, c.afterMs = some t ∧ t < beginOf b (k + 1)

/-- Some results are those of attempts, from the attempt on that has `k` attempts before it. -/
def Ends (b : Backoff) (c : Cancellation) (attempts : List Attempt) (k : ℕ)
    (rs : List (Except Exit Unit)) : Prop :=
  ∀ i r, rs[i]? = some r → ∃ late,
    (attemptAt? attempts (k + i + 1)).bind (ending c (k + i + 1) (beginOf b (k + i))) =
      some (r, late)

/-- The moves of the last attempt, which has `k` attempts before it, and of what follows it; the
result is that of the loop. -/
inductive LastMoves (b : Backoff) (c : Cancellation) (attempts : List Attempt) (k : ℕ) :
    Except Exit Unit → List Move → Prop
  /-- The attempt ends before the loop is cancelled. -/
  | ends (result : Except Exit Unit) (h : ¬ CancelledIn b c attempts k) :
      LastMoves b c attempts k result [.begins, .ends result]
  /-- The loop is cancelled in the attempt. -/
  | cancelled (result : Except Exit Unit) (h : CancelledIn b c attempts k) :
      LastMoves b c attempts k result [.begins, .cancel, .ends result]
  /-- The loop is cancelled in the delay behind the attempt. -/
  | cut (r : Except Exit Unit) (h : ¬ CancelledIn b c attempts k) (hcut : CancelledBehind b c k) :
      LastMoves b c attempts k (.error .canceled) [.begins, .ends r, .cancel, .cut]

/-- The moves of a loop from the attempt on that has `k` attempts before it: the loop is not
cancelled until its last attempt begins, and then it is if it is to be. -/
def Course (b : Backoff) (c : Cancellation) (attempts : List Attempt) (k : ℕ)
    (result : Except Exit Unit) (moves : List Move) : Prop :=
  ∃ (earlier : List (Except Exit Unit)) (last : List Move),
    moves = earlier.flatMap (attemptMoves false) ++ last ∧
    (∀ i < earlier.length,
      ¬ CancelledIn b c attempts (k + i) ∧ ¬ CancelledBehind b c (k + i)) ∧
    LastMoves b c attempts (k + earlier.length) result last

theorem cancelledBehind_iff {b : Backoff} {c : Cancellation} {k : ℕ} :
    CancelledBehind b c k ↔ c.afterMs.any (· < beginOf b (k + 1)) = true := by
  simp [CancelledBehind, Option.any_eq_true]

theorem eq_of_verdict_finished {b : Backoff} {previous : Option ℕ} {cancelled : Bool}
    {r : Except Exit Unit} (h : verdict b previous cancelled r = .finished result) :
    r = result := by
  cases r with
  | ok =>
    cases h
    rfl
  | error e =>
    rw [verdict] at h
    split_ifs at h
    cases h
    rfl

theorem of_verdict_rest {b : Backoff} {previous : Option ℕ} {cancelled : Bool}
    {r : Except Exit Unit} {ms : ℕ} (h : verdict b previous cancelled r = .rest ms) :
    cancelled = false ∧ ms = b.next previous := by
  cases r with
  | ok => cases h
  | error e =>
    rw [verdict] at h
    split_ifs at h with hgoes
    cases h
    exact ⟨by simpa using (Bool.and_eq_true_iff.1 hgoes).2, rfl⟩

theorem Ends.cons {b : Backoff} {c : Cancellation} {attempts : List Attempt} {k : ℕ}
    {r : Except Exit Unit} {rs : List (Except Exit Unit)} {late : ℕ × Bool}
    (hr : (attemptAt? attempts (k + 1)).bind (ending c (k + 1) (beginOf b k)) = some (r, late))
    (hrs : Ends b c attempts (k + 1) rs) : Ends b c attempts k (r :: rs) := by
  rintro (_ | i) r' hr'
  · cases hr'
    exact ⟨late, hr⟩
  · rw [show k + (i + 1) = k + 1 + i by omega]
    exact hrs i r' hr'

/-- A loop that makes one more attempt before all others does so by the moves of that attempt. -/
theorem Course.cons {b : Backoff} {c : Cancellation} {attempts : List Attempt} {k : ℕ}
    (h : Course b c attempts (k + 1) result moves) (hend : ¬ CancelledIn b c attempts k)
    (hdelay : ¬ CancelledBehind b c k) (r : Except Exit Unit) :
    Course b c attempts k result (attemptMoves false r ++ moves) := by
  obtain ⟨earlier, last, rfl, hearlier, hlast⟩ := h
  refine ⟨r :: earlier, last, ?_, ?_, ?_⟩
  · rw [List.flatMap_cons, List.append_assoc]
  · rintro (_ | i) hi
    · exact ⟨hend, hdelay⟩
    · have hnext := hearlier i (Nat.lt_of_succ_lt_succ hi)
      rwa [show k + 1 + i = k + (i + 1) by omega] at hnext
  · rwa [List.length_cons, show k + (earlier.length + 1) = k + 1 + earlier.length by omega]

/-- Whether the loop is cancelled by the end of an attempt; if it is not, the attempt has ended at
once. -/
theorem cancelled_of_ending {b : Backoff} {c : Cancellation} {attempts : List Attempt}
    {k now : ℕ} {r : Except Exit Unit} {late : Bool}
    (h : (attemptAt? attempts (k + 1)).bind (ending c (k + 1) (beginOf b k)) =
      some (r, now, late)) :
    (late = true ↔ CancelledIn b c attempts k) ∧ (late = false → now = beginOf b k) := by
  cases hattempt : attemptAt? attempts (k + 1) with
  | none =>
    rw [hattempt] at h
    cases h
  | some a =>
    rw [hattempt, Option.bind_some] at h
    cases a with
    | ends result =>
      cases h
      simp [CancelledIn, hattempt]
    | waits =>
      have hlate : late = true := by
        rw [ending] at h
        split_ifs at h
        · cases h
          rfl
        · obtain ⟨t, -, ht⟩ := Option.map_eq_some_iff.1 h
          cases ht
          rfl
      simp [CancelledIn, hattempt, hlate]

/-- A loop that is followed from one of its attempts on makes moves. -/
theorem exists_leads_of_runFrom (b : Backoff) (c : Cancellation) (attempts : List Attempt)
    {fuel k count : ℕ} (hstage : s.stage = .fresh ∨ s.stage = .resting)
    (hrunning : s.cancelled = false)
    (h : runFrom b c attempts fuel (k + 1) (beginOf b k) (delayBefore b k) =
      some (result, count)) :
    ∃ moves t, Leads s moves t ∧ t.stage = .finished result ∧ k + begun moves = count ∧
      Ends b c attempts k (outcomes moves) ∧ Course b c attempts k result moves := by
  induction fuel generalizing s k with
  | zero => cases h
  | succ fuel ih =>
    rw [runFrom] at h
    split at h
    · cases h
    · rename_i ended reached cancelled hending
      have hattempt := leads_attemptMoves b (delayBefore b k) cancelled ended hstage hrunning
      have hone : Ends b c attempts k [ended] := .cons hending nofun
      obtain ⟨hcancelled, hreached⟩ := cancelled_of_ending hending
      split at h
      · rename_i last hverdict
        cases h
        obtain rfl := eq_of_verdict_finished hverdict
        rw [hverdict] at hattempt
        refine ⟨_, _, hattempt, rfl, by rw [begun_attemptMoves], ?_, [], _, rfl, nofun, ?_⟩
        · rwa [outcomes_attemptMoves]
        · cases cancelled with
          | true => exact .cancelled _ (hcancelled.1 rfl)
          | false => exact .ends _ fun h => Bool.false_ne_true (hcancelled.2 h)
      · rename_i ms hverdict
        obtain ⟨rfl, rfl⟩ := of_verdict_rest hverdict
        obtain rfl := hreached rfl
        have hgoes : ¬ CancelledIn b c attempts k := fun h => Bool.false_ne_true (hcancelled.2 h)
        rw [hverdict] at hattempt
        -- the next attempt begins when the delay is over
        rw [← beginOf, ← delayBefore] at h
        split_ifs at h with hbehind
        · -- the delay is cut short
          cases h
          refine ⟨_, _, leads_append_iff.2 ⟨_, hattempt, .cons .cancel (.cons (.cut rfl rfl) .nil)⟩,
            rfl, ?_, ?_, [], _, rfl, nofun,
            .cut ended hgoes (cancelledBehind_iff.2 hbehind)⟩
          · rw [begun_append, begun_attemptMoves]
            rfl
          · rwa [outcomes_append, outcomes_attemptMoves]
        · obtain ⟨moves, t, hmoves, ht, hcount, hends, hcourse⟩ :=
            ih (s := ⟨.resting, false⟩) (.inr rfl) rfl h
          refine ⟨_, t, leads_append_iff.2 ⟨_, hattempt, hmoves⟩, ht, ?_, ?_,
            hcourse.cons hgoes (cancelledBehind_iff.not.2 hbehind) ended⟩
          · rw [begun_append, begun_attemptMoves, ← hcount]
            omega
          · rw [outcomes_append, outcomes_attemptMoves]
            exact .cons hending hends

/-- What becomes of attempts that are known beforehand can become of the loop. -/
theorem exists_leads_of_run {b : Backoff} {c : Cancellation} {attempts : List Attempt} {count : ℕ}
    (h : run b c attempts = some (result, count)) :
    ∃ moves t, Leads {} moves t ∧ t.stage = .finished result ∧ begun moves = count ∧
      Ends b c attempts 0 (outcomes moves) ∧ Course b c attempts 0 result moves := by
  obtain ⟨moves, t, hmoves, ht, hcount, hcourse⟩ :=
    exists_leads_of_runFrom (s := {}) b c attempts (.inl rfl) rfl h
  exact ⟨moves, t, hmoves, ht, by omega, hcourse⟩

theorem attemptAt?_of_drop {attempts rest : List Attempt} {a : Attempt} {n : ℕ}
    (h : attempts.drop n = a :: rest) : attemptAt? attempts (n + 1) = some a := by
  have hget : attempts[n]? = some a := by
    have hfirst := congrArg (·[0]?) h
    rwa [List.getElem?_drop] at hfirst
  rw [attemptAt?, Nat.add_sub_cancel, hget]
  rfl

theorem runFrom_ends (b : Backoff) {earlier later : List (Except Exit Unit)}
    (hearlier : ∀ r ∈ earlier, Mendable r) (hresult : ¬ Mendable result) {attempts : List Attempt}
    {fuel n : ℕ} (now : ℕ) (previous : Option ℕ) (hfuel : earlier.length < fuel)
    (hattempts : attempts.drop n = (earlier ++ result :: later).map .ends) :
    runFrom b {} attempts fuel (n + 1) now previous = some (result, n + earlier.length + 1) := by
  induction earlier generalizing fuel n now previous with
  | nil =>
    obtain ⟨fuel, rfl⟩ := Nat.exists_eq_add_of_lt hfuel
    have hattempt := attemptAt?_of_drop hattempts
    simp [runFrom, hattempt, ending, verdict_of_not_mendable hresult]
  | cons r earlier ih =>
    cases fuel with
    | zero => exact absurd hfuel (Nat.not_lt_zero _)
    | succ fuel =>
      obtain ⟨hr, hearlier⟩ := List.forall_mem_cons.1 hearlier
      have hattempt := attemptAt?_of_drop hattempts
      have hrest : attempts.drop (n + 1) = (earlier ++ result :: later).map .ends := by
        rw [← List.tail_drop, hattempts]
        rfl
      obtain ⟨ms, hms⟩ : ∃ ms, verdict b previous false r = .rest ms := by
        cases hr <;> exact ⟨_, rfl⟩
      have hlater := ih hearlier (now + ms) (some ms)
        (Nat.lt_of_succ_lt_succ hfuel) hrest
      rw [List.length_cons, show n + (earlier.length + 1) + 1 = n + 1 + earlier.length + 1 by omega]
      simp [runFrom, hattempt, ending, Cancellation.reached, hms, hlater]

/-- A loop that is not cancelled makes its attempts up to the first one that a restart cannot
mend. -/
theorem run_ends (b : Backoff) {earlier later : List (Except Exit Unit)}
    (hearlier : ∀ r ∈ earlier, Mendable r) (hresult : ¬ Mendable result) :
    run b {} ((earlier ++ result :: later).map .ends) = some (result, earlier.length + 1) := by
  generalize hattempts : (earlier ++ result :: later).map Attempt.ends = attempts
  have hfuel : earlier.length < attempts.length + 1 := by
    simp [← hattempts]
  have hdrop : attempts.drop 0 = (earlier ++ result :: later).map .ends := hattempts.symm
  have h := runFrom_ends b hearlier hresult 0 none hfuel hdrop
  simpa [run] using h

/-! ## All attempts of a loop -/

/-- What is true of a loop that has made some moves. -/
structure Supervised (moves : List Move) (s : Standing) : Prop where
  /-- At any time at most one attempt has begun and not ended. -/
  one_at_a_time : ∀ before after, moves = before ++ after →
    (outcomes before).length ≤ begun before ∧ begun before ≤ (outcomes before).length + 1
  /-- An attempt that is not the first one begins only when the last one has failed or taken
  too long, and has done so before the loop was cancelled. -/
  restarted : ∀ before after, moves = before ++ .begins :: after →
    OnlyCancels before ∨ Mends before
  /-- A loop ends as its last attempt did, unless it was cancelled and its delay cut short. -/
  result : ∀ result, s.stage = .finished result →
    (∃ earlier cancels, moves = earlier ++ .ends result :: cancels ∧ OnlyCancels cancels) ∨
    result = .error .canceled ∧ ∃ earlier cancels, moves = earlier ++ .cut :: cancels ∧
      OnlyCancels cancels ∧ Mends earlier ∧ .cancel ∈ earlier
  /-- A loop that is not cancelled goes on up to the first attempt that a restart cannot
  mend. -/
  uncancelled : .cancel ∉ moves →
    (∀ r ∈ outcomes moves, Mendable r) ∧ (∀ result, s.stage ≠ .finished result) ∨
    ∃ earlier result, outcomes moves = earlier ++ [result] ∧ (∀ r ∈ earlier, Mendable r) ∧
      ¬ Mendable result ∧ s.stage = .finished result ∧ begun moves = earlier.length + 1
  /-- After a cancellation at most one more attempt begins; an attempt that ends is the last
  one, and the loop has ended with it. -/
  late : ∀ before after, moves = before ++ .cancel :: after →
    begun after ≤ 1 ∧ others after ≤ 2 ∧ ∀ result ∈ outcomes after, s.stage = .finished result
  /-- A loop that has not ended can go on, and a cancelled one need not wait any longer. -/
  onward : (∃ result, s.stage = .finished result) ∨
    (∀ result, ∃ t, Step s (.ends result) t) ∨ (∃ t, Step s .begins t) ∧
      (.cancel ∈ moves → begun moves = 0 ∨ ∃ t, Step s .cut t)

theorem Leads.one_at_a_time (h : Leads {} moves s) (hmoves : moves = before ++ after) :
    (outcomes before).length ≤ begun before ∧ begun before ≤ (outcomes before).length + 1 := by
  obtain ⟨r, hbefore, -⟩ := leads_append_iff.1 (hmoves ▸ h)
  have hcount := (account_of_leads hbefore).counted
  have hunderWay : r.stage.underWay ≤ 1 := by
    cases r.stage <;> simp [Stage.underWay]
  omega

theorem Leads.restarted (h : Leads {} moves s) (hmoves : moves = before ++ .begins :: after) :
    OnlyCancels before ∨ Mends before := by
  obtain ⟨r, hbefore, hrest⟩ := leads_append_iff.1 (hmoves ▸ h)
  cases hrest with
  | cons hstep _ => exact ((account_of_leads hbefore).begins hstep).1

theorem Told.ends_or_cut (h : Told moves (.finished result)) :
    (∃ earlier cancels, moves = earlier ++ .ends result :: cancels ∧ OnlyCancels cancels) ∨
      result = .error .canceled ∧ ∃ earlier cancels, moves = earlier ++ .cut :: cancels ∧
        OnlyCancels cancels ∧ Mends earlier ∧ .cancel ∈ earlier := by
  cases h with
  | ended hmoves hcancels => exact .inl ⟨_, _, hmoves, hcancels⟩
  | cut hmoves hcancels hmends hcancel => exact .inr ⟨rfl, _, _, hmoves, hcancels, hmends, hcancel⟩

/-- A loop that has ended without being cancelled has made attempts up to the first one that a
restart cannot mend. -/
theorem Account.uncancelled (h : Account moves s) (hcancel : .cancel ∉ moves)
    (hstage : s.stage = .finished result) :
    ∃ earlier, outcomes moves = earlier ++ [result] ∧ (∀ r ∈ earlier, Mendable r) ∧
      ¬ Mendable result ∧ begun moves = earlier.length + 1 := by
  have htold := h.told
  have hcounted := h.counted
  rw [hstage] at htold hcounted
  cases htold with
  | @ended earlier cancels _ hmoves hcancels hresult hearlier =>
    have houtcomes : outcomes moves = outcomes earlier ++ [result] := by
      have hlast : outcomes (.ends result :: cancels) = [result] :=
        congrArg (result :: ·) hcancels.outcomes_eq
      rw [hmoves, outcomes_append, hlast]
    refine ⟨outcomes earlier, houtcomes, hearlier, fun hmend => hcancel ?_, ?_⟩
    · rw [hmoves]
      exact List.mem_append_left _ (hresult hmend)
    · rw [hcounted, houtcomes, List.length_append]
      rfl
  | cut hmoves _ _ hearlier =>
    refine absurd ?_ hcancel
    rw [hmoves]
    exact List.mem_append_left _ hearlier

theorem Leads.late_of_append (h : Leads {} moves s) (hmoves : moves = before ++ .cancel :: after) :
    begun after ≤ 1 ∧ others after ≤ 2 ∧
      ∀ result ∈ outcomes after, s.stage = .finished result := by
  obtain ⟨r, -, hrest⟩ := leads_append_iff.1 (hmoves ▸ h)
  cases hrest with
  | cons hstep hafter =>
    cases hstep
    have hbegins : r.stage.begins ≤ 1 := by
      cases r.stage <;> simp [Stage.begins]
    obtain ⟨hbegun, hothers, hends⟩ := hafter.late rfl
    exact ⟨hbegun.trans hbegins, hothers.trans (Nat.succ_le_succ hbegins), hends⟩

theorem Account.onward (h : Account moves s) : (∃ result, s.stage = .finished result) ∨
    (∀ result, ∃ t, Step s (.ends result) t) ∨ (∃ t, Step s .begins t) ∧
      (.cancel ∈ moves → begun moves = 0 ∨ ∃ t, Step s .cut t) := by
  have htold := h.told
  cases hstage : s.stage with
  | fresh =>
    rw [hstage] at htold
    cases htold with
    | fresh honly => exact .inr (.inr ⟨⟨_, .first hstage⟩, fun _ => .inl honly.begun_eq⟩)
  | attempting => exact .inr (.inl fun result => ⟨_, .ends ⟨0, 0⟩ none hstage⟩)
  | resting =>
    refine .inr (.inr ⟨⟨_, .again hstage⟩, fun hcancel => .inr ⟨_, .cut hstage ?_⟩⟩)
    exact h.cancelled.2 hcancel
  | finished result => exact .inl ⟨result, rfl⟩

/-- **Supervision.**  What is true of a loop after any moves, whatever its delays are and
whenever it is cancelled (`Supervised`).  What becomes of attempts that are known beforehand
is one of the things that can become of the loop: its attempts end as they are known to at the
moments at which they begin (`Ends`), and it is cancelled if it is to be and when it is to be
(`Course`).  And such a loop that is not cancelled makes its attempts up to the first one that a
restart cannot mend. -/
theorem supervised :
    (∀ moves s, Leads {} moves s → Supervised moves s) ∧
    (∀ b c attempts result count, run b c attempts = some (result, count) →
      ∃ moves s, Leads {} moves s ∧ s.stage = .finished result ∧ begun moves = count ∧
        Ends b c attempts 0 (outcomes moves) ∧ Course b c attempts 0 result moves) ∧
    ∀ b earlier result later, (∀ r ∈ earlier, Mendable r) → ¬ Mendable result →
      run b {} ((earlier ++ result :: later).map .ends) = some (result, earlier.length + 1) := by
  refine ⟨fun moves s h => ?_, fun _ _ _ _ _ h => exists_leads_of_run h,
    fun b _ _ _ hearlier hresult => run_ends b hearlier hresult⟩
  have haccount := account_of_leads h
  refine ⟨fun _ _ => h.one_at_a_time, fun _ _ => h.restarted, fun result hstage => ?_,
    fun hcancel => ?_, fun _ _ => h.late_of_append, haccount.onward⟩
  · exact Told.ends_or_cut (hstage ▸ haccount.told)
  · by_cases hended : ∃ result, s.stage = .finished result
    · obtain ⟨result, hstage⟩ := hended
      obtain ⟨earlier, houtcomes, hearlier, hresult, hcount⟩ := haccount.uncancelled hcancel hstage
      exact .inr ⟨earlier, result, houtcomes, hearlier, hresult, hstage, hcount⟩
    · rw [not_exists] at hended
      exact .inl ⟨haccount.mendable hended, hended⟩

/-- How an attempt ends that may be mended. -/
def down : Except Exit Unit := .error (.fail "down")

/-- A loop is cancelled in the moment in which its first delay is over, and one while it
waits; a third one is not cancelled. -/
theorem supervised_at_restart :
    (Leads {} [.begins, .ends down, .cancel, .begins, .ends (.error (.timeout 3))]
        ⟨.finished (.error (.timeout 3)), true⟩ ∧
      Mends [.begins, .ends down, .cancel] ∧ begun [.begins, .ends (.error (.timeout 3))] ≤ 1) ∧
    (run ⟨10, 20⟩ { afterMs := some 5 } [.ends down] = some (.error .canceled, 1) ∧
      ∃ moves s, Leads {} moves s ∧ s.stage = .finished (.error .canceled) ∧ begun moves = 1 ∧
        Course ⟨10, 20⟩ { afterMs := some 5 } [.ends down] 0 (.error .canceled) moves) ∧
    run ⟨10, 20⟩ {} [.ends down, .ends (.error (.timeout 3)), .ends (.ok ()), .ends down] =
      some (.ok (), 3) := by
  obtain ⟨hsupervised, hrun, hends⟩ := supervised
  have hleads : Leads {} [.begins, .ends down, .cancel, .begins, .ends (.error (.timeout 3))]
      ⟨.finished (.error (.timeout 3)), true⟩ :=
    .cons (.first rfl) (.cons (.ends ⟨10, 20⟩ none rfl) (.cons .cancel
      (.cons (.again rfl) (.cons (.ends ⟨10, 20⟩ (some 10) rfl) .nil))))
  have hgiven : run ⟨10, 20⟩ { afterMs := some 5 } [.ends down] = some (.error .canceled, 1) := rfl
  refine ⟨⟨hleads, ?_, ?_⟩, ⟨hgiven, ?_⟩, ?_⟩
  · refine ((hsupervised _ _ hleads).restarted _ _ rfl).resolve_left fun honly => ?_
    cases honly .begins (List.mem_cons_self ..)
  · exact ((hsupervised _ _ hleads).late [.begins, .ends down] _ rfl).1
  · obtain ⟨moves, s, hmoves, hs, hcount, -, hcourse⟩ := hrun _ _ _ _ _ hgiven
    exact ⟨moves, s, hmoves, hs, hcount, hcourse⟩
  · refine hends ⟨10, 20⟩ [down, .error (.timeout 3)] (.ok ()) [down] ?_ nofun
    exact List.forall_mem_cons.2 ⟨.fail "down", List.forall_mem_singleton.2 (.timeout 3)⟩

end Supervision

end Collector
