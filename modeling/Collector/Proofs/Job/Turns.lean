import Collector.Proofs.Job.LiveJob

/-!
# Turns of calls

On one thread the calls of the job cache of `harvest-core` take turns: each call goes on
until it has to wait, for another call or for the start of its job, and then it is the
turn of another one (`CacheCall.runInTurn`).  In whatever order the calls have their turns,
they come to what some order of their steps comes to, so that what holds after every order
of steps holds of them.

Main statements:

* `reaches_runInTurn`: turns are an order of steps.
* `oneLiveJob_runInTurn`: calls that all make a job leave none behind.
-/

namespace Collector.CacheRun

open CacheCall (run runInTurn)

variable {J : Type}

/-- The turn of one call is some of its steps; the other calls are as they were. -/
theorem reaches_run {call : CacheCall J} (c : JobCache J) {calls : List (CacheCall J)} {i : ℕ}
    (hcall : calls[i]? = some call) :
    Reaches ⟨c, calls⟩ ⟨(call.run c).2.1, calls.set i (call.run c).1⟩ := by
  fun_induction run call c generalizing calls with
  | case1 call c =>
    obtain ⟨hi, rfl⟩ := List.getElem?_eq_some_iff.1 hcall
    rw [List.set_getElem_self]
  | case2 call c stage c' events hstep _ => exact .single (.call i hcall hstep)
  | case3 call c stage c' events hstep call' _ _ _ _ _ hrun =>
    rename_i ih
    have hi : i < calls.length := (List.getElem?_eq_some_iff.1 hcall).1
    have hrest := ih (List.getElem?_set_self hi)
    rw [hrun, List.set_set] at hrest
    exact .head (.call i hcall hstep) hrest

/-- What calls come to that take turns is what some order of their steps comes to. -/
theorem reaches_runInTurn (places : List ℕ) (calls : List (CacheCall J)) (c : JobCache J) :
    Reaches ⟨c, calls⟩ ⟨(runInTurn places calls c).2.1, (runInTurn places calls c).1⟩ := by
  induction places generalizing calls c with
  | nil => exact .refl
  | cons place places ih =>
    rw [runInTurn]
    cases hcall : calls[place]? with
    | none => exact ih calls c
    | some call => exact (reaches_run c hcall).trans (ih _ _)

/-- Calls that take turns on a cache without jobs, and all make a job for an identity, leave
no job of the identity behind. -/
theorem oneLiveJob_runInTurn (places : List ℕ) {calls : List (CacheCall J)} {x : String}
    (hbegin : ∀ a ∈ calls, a.stage = .enter) (hmade : ∀ a ∈ calls, a.identity = x → a.made ≠ none) :
    OneLiveJob x ⟨(runInTurn places calls {}).2.1, (runInTurn places calls {}).1⟩ := by
  have hcalls : ofCalls calls = ⟨{}, calls⟩ := by
    refine congrArg (CacheRun.mk {})
      ((List.map_congr_left fun a ha => ?_).trans (List.map_id calls))
    rw [← hbegin a ha]
    rfl
  refine oneLiveJob_of_made hmade ?_
  rw [hcalls]
  exact reaches_runInTurn places calls {}

end Collector.CacheRun
