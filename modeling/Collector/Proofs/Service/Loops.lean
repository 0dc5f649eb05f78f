import Mathlib.Tactic
import Collector.Proofs.Heartbeat.Loop
import Collector.Proofs.Listener.Delivery
import Collector.Service.Lifecycle

/-!
# What loops do to a worker

The loops of `harvest-service` begin, fail, begin again and are cancelled, and none of that has
to do with the jobs: the dispatcher is as it was, and what is done concerns partitions, nodes and
writers only (`Worker.Quiet`).  A loop stays what it is for, and one that was begun is under way
until it is cancelled (`Loop.Begun`).  The one thing that loops do to jobs is to dispatch what
they read.

Main statements:

* `Crew.loops_beginAll`, `Crew.quiet_beginAll`, `Crew.begun_beginAll`: loops that are begun one
  after another.
* `Crew.quiet_cancel`, `Crew.finished_cancel`: loops that are cancelled.
* `Crew.settle_worker`: loops that do all they can dispatch the envelopes that they take in.
-/

namespace Collector

variable {J : Type}

/-- Whether an event is one of those with which loops begin, report and end. -/
def Event.ofLoops : Event J → Bool
  | opened _ _ | nodeCreated _ | writerMade _ _ | writerStarted | writerStopped
  | partitionsAsked _ => true
  | _ => false

/-! ## Workers whose jobs are left alone -/

namespace Worker

/-- A worker goes on in a way that leaves the jobs alone. -/
structure Quiet (w w' : Worker J) : Prop where
  /-- The dispatcher is the same. -/
  dispatcher : w'.dispatcher = w.dispatcher
  /-- What was done concerns loops only. -/
  trace : ∃ events, w'.trace = w.trace ++ events ∧ ∀ e ∈ events, e.ofLoops = true

variable {w w' w'' : Worker J}

theorem quiet_of_eq (hdispatcher : w'.dispatcher = w.dispatcher) (htrace : w'.trace = w.trace) :
    Quiet w w' :=
  ⟨hdispatcher, [], by simp [htrace], nofun⟩

theorem Quiet.refl (w : Worker J) : Quiet w w := quiet_of_eq rfl rfl

theorem Quiet.trans (h : Quiet w w') (h' : Quiet w' w'') : Quiet w w'' := by
  obtain ⟨events, htrace, hevents⟩ := h.trace
  obtain ⟨more, htrace', hmore⟩ := h'.trace
  refine ⟨h'.dispatcher.trans h.dispatcher, events ++ more, ?_, ?_⟩
  · rw [htrace', htrace, List.append_assoc]
  · intro e he
    rcases List.mem_append.1 he with he | he
    · exact hevents e he
    · exact hmore e he

/-- What was done before is not undone while the jobs are left alone. -/
theorem Quiet.trace_subset (h : Quiet w w') : w.trace ⊆ w'.trace := by
  obtain ⟨events, htrace, -⟩ := h.trace
  rw [htrace]
  exact List.subset_append_left _ _

theorem quiet_log (w : Worker J) {events : List (Event J)} (h : ∀ e ∈ events, e.ofLoops = true) :
    Quiet w (w.log events) :=
  ⟨rfl, events, rfl, h⟩

theorem quiet_openPartition (w : Worker J) (topic : String) (partition : ℤ) :
    Quiet w (w.openPartition topic partition).2 := by
  obtain ⟨hdispatcher, htrace⟩ := Listener.openPartition_spec w topic partition
  exact ⟨hdispatcher, _, htrace, by simp [Event.ofLoops]⟩

theorem quiet_makeWriter (w : Worker J) (topic key : String) :
    Quiet w (w.makeWriter topic key).2 := by
  have hlog : Quiet w (w.log [.writerMade topic key]) := quiet_log w (by simp [Event.ofLoops])
  unfold makeWriter
  dsimp only
  split
  · exact hlog
  · exact hlog.trans (quiet_of_eq rfl rfl)

end Worker

open Worker (Quiet quiet_log quiet_of_eq)

/-! ## Loops -/

namespace Loop

/-- A loop stays what it is for, and leaves the jobs alone. -/
structure Steady (l : Loop) (w : Worker J) (result : Loop × Worker J) : Prop where
  /-- The loop is for the same. -/
  duty : result.1.duty = l.duty
  /-- The loop has the same delays between its attempts. -/
  backoff : result.1.backoff = l.backoff
  /-- The jobs of the worker are left alone. -/
  quiet : w.Quiet result.2

theorem steady_afterAttempt (l : Loop) (now : ℕ) (previous : Option ℕ) (result : Except Exit Unit) :
    (l.afterAttempt now previous result).duty = l.duty ∧
      (l.afterAttempt now previous result).backoff = l.backoff := by
  unfold afterAttempt
  split
  · exact ⟨rfl, rfl⟩
  · split <;> exact ⟨rfl, rfl⟩

theorem quiet_tick (config : HeartbeatConfig) (writer : Option ℕ) (w : Worker J) :
    w.Quiet (tick config writer w) := by
  unfold tick
  dsimp only
  split
  · have hnodes : ∀ e ∈ (Reporter.nodeEvents config.root (w.heartbeats config.host) :
        List (Event J)), e.ofLoops = true := by
      intro e he
      obtain ⟨beat, -, rfl⟩ := List.mem_map.1 he
      rfl
    exact (quiet_log w hnodes).trans (quiet_of_eq rfl rfl)
  · split
    · exact Quiet.refl w
    · exact quiet_of_eq rfl rfl

theorem quiet_beginReport (config : HeartbeatConfig) (w : Worker J) :
    w.Quiet (beginReport config w).2 := by
  unfold beginReport
  split
  · exact quiet_tick config none w
  · have hmade := w.quiet_makeWriter config.topic config.topic
    split
    · rename_i w' hmake
      rwa [hmake] at hmade
    · rename_i place w' hmake
      rw [hmake] at hmade
      have hstarted : w'.Quiet (w'.log [.writerStarted]) := quiet_log w' (by simp [Event.ofLoops])
      exact hmade.trans (hstarted.trans (quiet_tick config (some place) (w'.log [.writerStarted])))

theorem quiet_beginListen (topic : String) (partition : ℤ) (w : Worker J) :
    w.Quiet (beginListen topic partition w).2 := by
  have hopened := w.quiet_openPartition topic partition
  unfold beginListen
  split
  · rename_i e w' hopen
    rwa [hopen] at hopened
  · rename_i stream w' hopen
    rwa [hopen] at hopened

theorem steady_attemptOnce (l : Loop) (previous : Option ℕ) (w : Worker J) :
    l.Steady w (l.attemptOnce previous w) := by
  obtain ⟨duty, backoff, state⟩ := l
  cases duty with
  | listen topic partition =>
    have hquiet := quiet_beginListen topic partition w
    simp only [attemptOnce]
    split
    · exact ⟨rfl, rfl, hquiet⟩
    · obtain ⟨hduty, hbackoff⟩ := steady_afterAttempt _ _ _ _
      exact ⟨hduty, hbackoff, hquiet⟩
  | report config =>
    have hquiet := quiet_beginReport config w
    simp only [attemptOnce]
    split
    · exact ⟨rfl, rfl, hquiet⟩
    · obtain ⟨hduty, hbackoff⟩ := steady_afterAttempt _ _ _ _
      exact ⟨hduty, hbackoff, hquiet⟩

theorem steady_attemptUpTo (more : ℕ) (l : Loop) (previous : Option ℕ) (w : Worker J) :
    l.Steady w (attemptUpTo previous more l w) := by
  induction more generalizing l previous w with
  | zero => exact steady_attemptOnce l previous w
  | succ more ih =>
    have hfirst := steady_attemptOnce l previous w
    rw [attemptUpTo]
    split
    · rename_i duty backoff due w' hattempt
      rw [hattempt] at hfirst
      have hrest := ih ⟨duty, backoff, .resting w'.now 0⟩ (some 0) w'
      exact ⟨hrest.duty.trans hfirst.duty, hrest.backoff.trans hfirst.backoff,
        hfirst.quiet.trans hrest.quiet⟩
    · exact hfirst

theorem steady_attempt (l : Loop) (previous : Option ℕ) (w : Worker J) :
    l.Steady w (l.attempt previous w) :=
  steady_attemptUpTo _ l previous w

theorem begin_spec (duty : Duty) (backoff : Option Backoff) (cancelled : Bool) (w : Worker J) :
    (Loop.begin duty backoff cancelled w).1.duty = duty ∧
      w.Quiet (Loop.begin duty backoff cancelled w).2 := by
  unfold Loop.begin
  dsimp only
  split_ifs
  · exact ⟨rfl, Quiet.refl w⟩
  · have h := steady_attempt ⟨duty, backoff, .finished (.error .canceled)⟩ none w
    exact ⟨h.duty, h.quiet⟩

theorem quiet_letGo (activity : Activity) (w : Worker J) : w.Quiet (letGo activity w) := by
  unfold letGo
  split
  · exact quiet_of_eq rfl rfl
  · exact quiet_of_eq rfl rfl
  · exact quiet_of_eq rfl rfl
  · exact Quiet.refl w

theorem steady_cancel (l : Loop) (w : Worker J) : l.Steady w (l.cancel w) := by
  unfold cancel
  split
  · rename_i writer tick previous hstate
    have hstopped : w.Quiet (w.log [.writerStopped]) := quiet_log w (by simp [Event.ofLoops])
    exact ⟨rfl, rfl, hstopped.trans (quiet_letGo (.ticking (some writer) tick) _)⟩
  · exact ⟨rfl, rfl, quiet_letGo _ w⟩
  · exact ⟨rfl, rfl, Quiet.refl w⟩
  · exact ⟨rfl, rfl, Quiet.refl w⟩

/-- A loop that is cancelled has ended. -/
theorem finished_cancel (l : Loop) (w : Worker J) :
    ∃ result, (l.cancel w).1.state = .finished result := by
  unfold cancel
  split
  · exact ⟨_, rfl⟩
  · exact ⟨_, rfl⟩
  · exact ⟨_, rfl⟩
  · rename_i result hstate
    exact ⟨result, hstate⟩

/-! ### Loops that were begun -/

/-- Where a loop stands that was begun and not cancelled, by what it is for. -/
inductive UnderWay : Duty → LoopState → Prop
  /-- A listener has its partition. -/
  | listens (topic : String) (partition : ℤ) (stream : Stream) (previous : Option ℕ) :
      UnderWay (.listen topic partition) (.active (.reading stream) previous)
  /-- A reporter waits for its next tick. -/
  | reports (config : HeartbeatConfig) (writer : Option ℕ) (due : ℕ) (previous : Option ℕ) :
      UnderWay (.report config) (.active (.ticking writer due) previous)
  /-- An attempt has failed, and there will be another one. -/
  | rests (duty : Duty) (due ms : ℕ) : UnderWay duty (.resting due ms)
  /-- An attempt has failed for good. -/
  | failed (duty : Duty) {e : Exit} (he : e ≠ .canceled) : UnderWay duty (.finished (.error e))

end Loop

/-- What a loop asks the broker for when it begins: a listener for its partition, and a reporter
for its writer if it needs one. -/
def Duty.asks : Duty → List (Event J)
  | listen topic partition => [.opened topic partition]
  | report config =>
    match config.transport with
    | .coordination => []
    | .eventLog => [.writerMade config.topic config.topic]

namespace Loop

/-- A loop was begun, and has not been cancelled. -/
structure Begun (l : Loop) (w : Worker J) : Prop where
  /-- The loop is under way, or has failed. -/
  underWay : UnderWay l.duty l.state
  /-- The broker was asked for what the loop needs. -/
  asked : ∀ e ∈ l.duty.asks, e ∈ w.trace

variable {l : Loop} {w w' : Worker J} {b : Backoff}

theorem Begun.mono (h : l.Begun w) (htrace : w.trace ⊆ w'.trace) : l.Begun w' :=
  ⟨h.underWay, fun e he => htrace (h.asked e he)⟩

/-- A failed attempt does not count as a cancellation. -/
theorem underWay_afterAttempt (hbackoff : l.backoff = some b) (now : ℕ) (previous : Option ℕ)
    (reason : String) (e : ClientError) :
    UnderWay l.duty (l.afterAttempt now previous (.error (.ofClient reason e))).state := by
  have hfailed : Exit.ofClient reason e ≠ .canceled := by
    cases e <;> exact nofun
  simp only [afterAttempt, hbackoff, Supervision.verdict]
  split
  · rename_i result hverdict
    split_ifs at hverdict
    cases hverdict
    exact .failed _ hfailed
  · exact .rests ..

/-- To begin to listen is to ask for the partition. -/
theorem begun_attemptOnce_listen (hbackoff : l.backoff = some b) (previous : Option ℕ)
    (w : Worker J) {topic : String} {partition : ℤ} (hduty : l.duty = .listen topic partition) :
    (l.attemptOnce previous w).1.Begun (l.attemptOnce previous w).2 := by
  obtain ⟨duty, backoff, state⟩ := l
  dsimp only at hbackoff hduty
  subst hduty
  have hasked : Event.opened topic partition ∈ (w.openPartition topic partition).2.trace := by
    rw [(Listener.openPartition_spec w topic partition).2]
    simp
  obtain ⟨opened, w', hopen⟩ : ∃ opened w', w.openPartition topic partition = (opened, w') :=
    ⟨_, _, rfl⟩
  rw [hopen] at hasked
  cases opened with
  | error e =>
    simp only [attemptOnce, beginListen, hopen]
    refine ⟨?_, ?_⟩
    · rw [(steady_afterAttempt _ _ _ _).1]
      exact underWay_afterAttempt hbackoff ..
    · rw [(steady_afterAttempt _ _ _ _).1]
      simpa [Duty.asks] using hasked
  | ok stream =>
    simp only [attemptOnce, beginListen, hopen]
    exact ⟨.listens topic partition stream previous, by simpa [Duty.asks] using hasked⟩

/-- To begin to report is to ask for a writer if one is needed. -/
theorem begun_attemptOnce_report (hbackoff : l.backoff = some b) (previous : Option ℕ)
    (w : Worker J) {config : HeartbeatConfig} (hduty : l.duty = .report config) :
    (l.attemptOnce previous w).1.Begun (l.attemptOnce previous w).2 := by
  obtain ⟨duty, backoff, state⟩ := l
  dsimp only at hbackoff hduty
  subst hduty
  cases htransport : config.transport with
  | coordination =>
    simp only [attemptOnce, beginReport, htransport]
    exact ⟨.reports .., by simp [Duty.asks, htransport]⟩
  | eventLog =>
    obtain ⟨made, broker, hmade, -⟩ := Reporter.makeWriter_spec w config.topic config.topic
    cases made with
    | error e =>
      simp only [attemptOnce, beginReport, htransport, hmade]
      refine ⟨?_, ?_⟩
      · rw [(steady_afterAttempt _ _ _ _).1]
        exact underWay_afterAttempt hbackoff ..
      · rw [(steady_afterAttempt _ _ _ _).1]
        simp [Duty.asks, htransport, Worker.log]
    | ok place =>
      simp only [attemptOnce, beginReport, htransport, hmade]
      refine ⟨.reports .., fun e he => (quiet_tick config (some place) _).trace_subset ?_⟩
      simp only [Duty.asks, htransport, List.mem_singleton] at he
      simp [he, Worker.log]

theorem begun_attemptOnce (hbackoff : l.backoff = some b) (previous : Option ℕ) (w : Worker J) :
    (l.attemptOnce previous w).1.Begun (l.attemptOnce previous w).2 := by
  cases hduty : l.duty with
  | listen topic partition => exact begun_attemptOnce_listen hbackoff previous w hduty
  | report config => exact begun_attemptOnce_report hbackoff previous w hduty

theorem begun_attemptUpTo (more : ℕ) (hbackoff : l.backoff = some b) (previous : Option ℕ)
    (w : Worker J) :
    (attemptUpTo previous more l w).1.Begun (attemptUpTo previous more l w).2 := by
  induction more generalizing l previous w with
  | zero => exact begun_attemptOnce hbackoff previous w
  | succ more ih =>
    have hfirst := begun_attemptOnce hbackoff previous w
    have hsteady := steady_attemptOnce l previous w
    rw [attemptUpTo]
    split
    · rename_i duty backoff due w' hattempt
      rw [hattempt] at hsteady
      exact ih (l := ⟨duty, backoff, .resting w'.now 0⟩) (hsteady.backoff.trans hbackoff)
        (some 0) w'
    · exact hfirst

/-- A loop that begins is under way unless it was cancelled before. -/
theorem begun_begin (duty : Duty) (b : Backoff) (w : Worker J) :
    (Loop.begin duty (some b) false w).1.Begun (Loop.begin duty (some b) false w).2 :=
  begun_attemptUpTo _ rfl none w

/-! ### What loops read -/

/-- The envelopes that a loop takes in when it does what it can do now. -/
def intake (l : Loop) (w : Worker J) : List Envelope :=
  match l.state with
  | .active (.reading stream) _ => Listener.envelopes (Listener.stretch (pending stream w).1).1
  | _ => []

/-- A loop that does what it can do now dispatches the envelopes that it takes in. -/
theorem settle_worker (l : Loop) (w : Worker J) :
    (l.settle w).2.dispatcher = (w.dispatcher.dispatchAll (l.intake w)).1 ∧
      (l.settle w).2.trace = w.trace ++ (w.dispatcher.dispatchAll (l.intake w)).2.flatten := by
  obtain ⟨duty, backoff, state⟩ := l
  have hnone : w.trace = w.trace ++ (w.dispatcher.dispatchAll []).2.flatten :=
    (List.append_nil _).symm
  cases state with
  | active activity previous =>
    cases activity with
    | reading stream => exact Listener.read_worker _ stream previous w
    | retrying _ _ | ticking _ _ => exact ⟨rfl, hnone⟩
  | resting _ _ | finished _ => exact ⟨rfl, hnone⟩

end Loop

/-! ## Crews -/

namespace Crew

theorem quiet_eachLoop {act : Loop → Worker J → Loop × Worker J}
    (h : ∀ l, ∀ w : Worker J, w.Quiet (act l w).2) (ls : List Loop) (w : Worker J) :
    w.Quiet (eachLoop act ls w).2 := by
  induction ls generalizing w with
  | nil => exact Quiet.refl w
  | cons l ls ih => exact (h l w).trans (ih (act l w).2)

/-- The jobs do not notice that the loops are cancelled. -/
theorem quiet_cancel (c : Crew J) : c.worker.Quiet c.cancel.worker :=
  quiet_eachLoop (fun l w => (Loop.steady_cancel l w).quiet) c.loops c.worker

/-- Beginning a loop adds one more, for the duty that it is begun for. -/
theorem loops_begin (c : Crew J) (duty : Duty) (backoff : Option Backoff) (cancelled : Bool) :
    (c.begin duty backoff cancelled).loops.map Loop.duty = c.loops.map Loop.duty ++ [duty] := by
  simp [Crew.begin, (Loop.begin_spec duty backoff cancelled c.worker).1]

theorem quiet_begin (c : Crew J) (duty : Duty) (backoff : Option Backoff) (cancelled : Bool) :
    c.worker.Quiet (c.begin duty backoff cancelled).worker :=
  (Loop.begin_spec duty backoff cancelled c.worker).2

/-- The loops have ended when they are cancelled. -/
theorem finished_cancel (c : Crew J) :
    ∀ l ∈ c.cancel.loops, ∃ result, l.state = .finished result := by
  have heach : ∀ (ls : List Loop) (w : Worker J), ∀ l ∈ (eachLoop Loop.cancel ls w).1,
      ∃ result, l.state = .finished result := by
    intro ls
    induction ls with
    | nil => exact fun _ => nofun
    | cons l ls ih =>
      intro w l' hl'
      rcases List.mem_cons.1 hl' with rfl | hl'
      · exact l.finished_cancel w
      · exact ih _ l' hl'
  exact heach c.loops c.worker

/-- One more loop is begun, and the others go on. -/
theorem begun_begin {c : Crew J} (h : ∀ l ∈ c.loops, l.Begun c.worker) (duty : Duty) (b : Backoff) :
    ∀ l ∈ (c.begin duty (some b) false).loops, l.Begun (c.begin duty (some b) false).worker := by
  intro l hl
  rcases List.mem_append.1 hl with hl | hl
  · exact (h l hl).mono (c.quiet_begin duty (some b) false).trace_subset
  · rw [List.mem_singleton.1 hl]
    exact Loop.begun_begin duty b c.worker

theorem loops_beginAll (c : Crew J) (backoff : Backoff) (duties : List Duty) :
    (Service.beginAll c backoff duties).loops.map Loop.duty = c.loops.map Loop.duty ++ duties := by
  induction duties generalizing c with
  | nil => simp [Service.beginAll]
  | cons duty duties ih =>
    have hrest := ih (c.begin duty (some backoff) false)
    rw [loops_begin, List.append_assoc] at hrest
    exact hrest

/-- Loops that are begun one after another are all begun afterwards. -/
theorem begun_beginAll {c : Crew J} (h : ∀ l ∈ c.loops, l.Begun c.worker) (b : Backoff)
    (duties : List Duty) :
    ∀ l ∈ (Service.beginAll c b duties).loops, l.Begun (Service.beginAll c b duties).worker := by
  induction duties generalizing c with
  | nil => exact h
  | cons duty duties ih => exact ih (begun_begin h duty b)

theorem quiet_beginAll (c : Crew J) (backoff : Backoff) (duties : List Duty) :
    c.worker.Quiet (Service.beginAll c backoff duties).worker := by
  induction duties generalizing c with
  | nil => exact Quiet.refl c.worker
  | cons duty duties ih =>
    exact (c.quiet_begin duty (some backoff) false).trans (ih (c.begin duty (some backoff) false))

/-- The envelopes that loops take in when they do what they can do now, one after another. -/
def intake : List Loop → Worker J → List Envelope
  | [], _ => []
  | l :: ls, w => l.intake w ++ intake ls (l.settle w).2

/-- Loops that do what they can do now dispatch the envelopes that they take in. -/
theorem settle_worker (c : Crew J) :
    c.settle.worker.dispatcher = (c.worker.dispatcher.dispatchAll (intake c.loops c.worker)).1 ∧
      c.settle.worker.trace = c.worker.trace ++
        (c.worker.dispatcher.dispatchAll (intake c.loops c.worker)).2.flatten := by
  have heach : ∀ (ls : List Loop) (w : Worker J),
      (eachLoop Loop.settle ls w).2.dispatcher = (w.dispatcher.dispatchAll (intake ls w)).1 ∧
        (eachLoop Loop.settle ls w).2.trace =
          w.trace ++ (w.dispatcher.dispatchAll (intake ls w)).2.flatten := by
    intro ls
    induction ls with
    | nil => exact fun w => ⟨rfl, (List.append_nil _).symm⟩
    | cons l ls ih =>
      intro w
      obtain ⟨hfirst, hfirstTrace⟩ := l.settle_worker w
      obtain ⟨hrest, hrestTrace⟩ := ih (l.settle w).2
      refine ⟨?_, ?_⟩
      · rw [intake, Dispatcher.dispatchAll_append, ← hfirst]
        exact hrest
      · rw [intake, Dispatcher.dispatchAll_append, ← hfirst, List.flatten_append,
          ← List.append_assoc, ← hfirstTrace]
        exact hrestTrace
  exact heach c.loops c.worker

end Crew

end Collector
