import Collector.Proofs.Service.Loops

/-!
# The life of a service

A service of `harvest-service` is started and stopped any number of times, takes envelopes
in while it runs, and callbacks return whenever they do (`Service.Act`).  Until it is
stopped its jobs are those of the envelopes, every callback is on its way or has returned,
and nothing was stopped or closed (`Service.Tended`); what stopping it leaves does not
change any more (`Service.Halted`).

Main statements:

* `Service.Tended.quiet`, `Service.Tended.dispatch`, `Service.Tended.endCallback`: what loops,
  envelopes and returning callbacks preserve.
* `Service.Live.act`, `Service.Live.stop`: what one act does to a service that is not stopped.
* `Service.lifecycle`: the life of a service from its beginning on.
-/

namespace Collector

variable {J : Type}

/-! ## Effects -/

namespace Event

/-- The job whose callback an event reports as returned. -/
def returnedJob? : Event J → Option J
  | returned job => some job
  | _ => none

/-- Whether an event stops a job, or closes something. -/
def isEnding : Event J → Bool
  | stopped _ | builderClosed _ | brokerClosed | coordinationClosed => true
  | _ => false

theorem not_ofDispatch_of_ofLoops {e : Event J} (h : e.ofLoops = true) : e.ofDispatch = false := by
  cases e <;> first | rfl | cases h

theorem not_isEnding_of_ofLoops {e : Event J} (h : e.ofLoops = true) : e.isEnding = false := by
  cases e <;> first | rfl | cases h

theorem not_isEnding_of_ofDispatch {e : Event J} (h : e.ofDispatch = true) :
    e.isEnding = false := by
  cases e <;> first | rfl | cases h

theorem calledJob?_of_ofLoops {e : Event J} (h : e.ofLoops = true) : e.calledJob? = none := by
  cases e <;> first | rfl | cases h

theorem returnedJob?_of_ofLoops {e : Event J} (h : e.ofLoops = true) : e.returnedJob? = none := by
  cases e <;> first | rfl | cases h

theorem returnedJob?_of_ofDispatch {e : Event J} (h : e.ofDispatch = true) :
    e.returnedJob? = none := by
  cases e <;> first | rfl | cases h

end Event

/-- Jobs are started by dispatching only. -/
theorem filterMap_startedJob?_filter (events : List (Event J)) :
    (events.filter Event.ofDispatch).filterMap Event.startedJob? =
      events.filterMap Event.startedJob? := by
  rw [List.filterMap_filter]
  congr 1
  funext e
  cases e <;> rfl

/-! ## Jobs that were started -/

namespace Entries

variable {α : Type}

/-- A new key brings one more value. -/
theorem perm_insert {key : String} {value : α} {entries : List (String × α)}
    (h : get? key entries = none) :
    ((insert key value entries).map Prod.snd).Perm (value :: entries.map Prod.snd) := by
  induction entries with
  | nil => exact List.Perm.refl _
  | cons e rest ih =>
    obtain ⟨k, v⟩ := e
    rw [get?] at h
    split_ifs at h with hk
    rw [insert]
    split_ifs
    · exact List.Perm.refl _
    · exact ((ih h).cons v).trans (List.Perm.swap value v _)

end Entries

theorem KeyMap.perm_values_insert {α : Type} {m : KeyMap α} {key : String} (h : m.get? key = none)
    (value : α) : (m.insert key value).values.Perm (value :: m.values) :=
  Entries.perm_insert h

namespace Roster

/-- Every job was started once. -/
def Started (r : Roster J) : Prop := (r.effects.filterMap Event.startedJob?).Perm r.jobs.values

theorem Started.sightTask {r : Roster J} (h : r.Started) (builders : KeyMap (Builder J))
    (t : Task) :
    (r.sightTask builders t).Started := by
  unfold Roster.sightTask
  cases hjob : r.jobs.get? t.identity with
  | some job => simpa [Started, Roster.log, Event.startedJob?, List.filterMap_cons] using h
  | none =>
    cases builders.get? t.app with
    | none => exact h
    | some b =>
      simp only [Roster.build]
      cases b.build r.turn t with
      | error e => simpa [Started, Roster.log, Event.startedJob?, List.filterMap_cons] using h
      | ok job =>
        have hnew := KeyMap.perm_values_insert hjob job
        simp only [Started, Roster.log, List.filterMap_append]
        exact (h.append_right [job]).trans ((List.perm_append_singleton job _).trans hnew.symm)

theorem Started.sightAll {r : Roster J} (h : r.Started) (builders : KeyMap (Builder J))
    (records : List Bytes) : (r.sightAll builders records).Started := by
  induction records generalizing r with
  | nil => exact h
  | cons record records ih =>
    refine ih ?_
    unfold Roster.sight
    cases Task.ofBytes record with
    | error e => exact h
    | ok t => exact h.sightTask builders t

end Roster

namespace Service

/-! ## Workers of a service that is not stopped -/

/-- What the worker of a service has that took some envelopes in and was not stopped. -/
structure Tended (d : Dispatcher J) (es : List Envelope) (w : Worker J) : Prop where
  /-- The jobs of the worker are those of the envelopes. -/
  tracks : d.Tracks (Dispatcher.recordsFor d.host es) w.dispatcher
    (w.trace.filter Event.ofDispatch)
  /-- Every callback is on its way or has returned. -/
  callbacks : (w.dispatcher.callbacks ++ w.trace.filterMap Event.returnedJob?).Perm
    (w.trace.filterMap Event.calledJob?)
  /-- Nothing was stopped or closed. -/
  working : ∀ e ∈ w.trace, e.isEnding = false

variable {d : Dispatcher J} {es : List Envelope} {w w' : Worker J}

/-- What loops do makes no difference. -/
theorem Tended.quiet (h : Tended d es w) (hquiet : w.Quiet w') : Tended d es w' := by
  obtain ⟨hdispatcher, events, htrace, hevents⟩ := hquiet
  have hdispatch : events.filter Event.ofDispatch = [] := by
    rw [List.filter_eq_nil_iff]
    intro e he
    simp [Event.not_ofDispatch_of_ofLoops (hevents e he)]
  have hcalled : events.filterMap Event.calledJob? = [] :=
    List.filterMap_eq_nil_iff.2 fun e he => Event.calledJob?_of_ofLoops (hevents e he)
  have hreturned : events.filterMap Event.returnedJob? = [] :=
    List.filterMap_eq_nil_iff.2 fun e he => Event.returnedJob?_of_ofLoops (hevents e he)
  refine ⟨?_, ?_, ?_⟩
  · rw [hdispatcher, htrace, List.filter_append, hdispatch, List.append_nil]
    exact h.tracks
  · rw [hdispatcher, htrace, List.filterMap_append, List.filterMap_append, hcalled, hreturned,
      List.append_nil, List.append_nil]
    exact h.callbacks
  · intro e he
    rw [htrace] at he
    rcases List.mem_append.1 he with he | he
    · exact h.working e he
    · exact Event.not_isEnding_of_ofLoops (hevents e he)

/-- An envelope that is taken in changes the jobs as its records do. -/
theorem Tended.dispatch (h : Tended d es w) (e : Envelope) :
    Tended d (es ++ [e])
      ({ w with dispatcher := (w.dispatcher.dispatch e).1 }.log (w.dispatcher.dispatch e).2) := by
  have hfollows := Dispatcher.follows_dispatch h.tracks.sound e
  have hreturned : (w.dispatcher.dispatch e).2.filterMap Event.returnedJob? = [] :=
    List.filterMap_eq_nil_iff.2 fun event hevent =>
      Event.returnedJob?_of_ofDispatch (hfollows.dispatched event hevent)
  refine ⟨?_, ?_, ?_⟩
  · have htracks := h.tracks.append hfollows.toTracks
    rw [h.tracks.host] at htracks
    simp only [Worker.log, List.filter_append, Dispatcher.recordsFor, List.flatMap_append,
      List.flatMap_singleton]
    rw [List.filter_eq_self.2 hfollows.dispatched]
    exact htracks
  · simp only [Worker.log, List.filterMap_append, hreturned, List.append_nil, hfollows.callbacks]
    rw [List.append_assoc]
    refine (List.perm_append_comm.append_left _).trans ?_
    rw [← List.append_assoc]
    exact h.callbacks.append_right _
  · intro event hevent
    rcases List.mem_append.1 hevent with hevent | hevent
    · exact h.working event hevent
    · exact Event.not_isEnding_of_ofDispatch (hfollows.dispatched event hevent)

/-- A callback that returns leaves the jobs as they are. -/
theorem Tended.endCallback (h : Tended d es w) (i : ℕ) : Tended d es (Service.endCallback i w) := by
  unfold Service.endCallback
  cases hjob : w.dispatcher.callbacks[i]? with
  | none => exact h
  | some job =>
    obtain ⟨hi, rfl⟩ := List.getElem?_eq_some_iff.1 hjob
    refine ⟨?_, ?_, ?_⟩
    · simp only [Worker.log, List.filter_append]
      have hnone : [Event.returned w.dispatcher.callbacks[i]].filter Event.ofDispatch = [] := rfl
      rw [hnone, List.append_nil]
      exact ⟨h.tracks.sound, h.tracks.host, h.tracks.builders, h.tracks.roster,
        h.tracks.dispatched⟩
    · have herase := List.getElem_cons_eraseIdx_perm hi
      simp only [Worker.log, List.filterMap_append, List.filterMap_cons, Event.returnedJob?,
        Event.calledJob?, List.filterMap_nil, List.append_nil]
      rw [← List.append_assoc]
      refine (List.perm_append_singleton _ _).trans ?_
      exact (herase.append_right _).trans h.callbacks
    · intro e he
      rcases List.mem_append.1 he with he | he
      · exact h.working e he
      · rw [List.mem_singleton.1 he]
        rfl

theorem Tended.endCallbacks (h : Tended d es w) (order : List ℕ) :
    Tended d es (Service.endCallbacks order w) := by
  unfold Service.endCallbacks
  induction order generalizing w with
  | nil => exact h
  | cons i order ih => exact ih (h.endCallback i)

theorem Tended.awaitCallbacks (h : Tended d es w) (order : List ℕ) :
    Tended d es (Service.awaitCallbacks order w) :=
  (h.endCallbacks order).endCallbacks _

/-- A callback that returns undoes nothing. -/
theorem trace_endCallback (i : ℕ) (w : Worker J) : w.trace ⊆ (endCallback i w).trace := by
  unfold Service.endCallback
  split
  · exact List.Subset.refl _
  · exact List.subset_append_left _ _

/-- As many callbacks as are on their way return, the first one first. -/
theorem callbacks_endCallbacks_replicate (n : ℕ) (w : Worker J) :
    (endCallbacks (List.replicate n 0) w).dispatcher.callbacks = w.dispatcher.callbacks.drop n := by
  induction n generalizing w with
  | zero => rfl
  | succ n ih =>
    have hrest := ih (endCallback 0 w)
    have hfirst : (endCallback 0 w).dispatcher.callbacks = w.dispatcher.callbacks.tail := by
      unfold endCallback
      cases hcallbacks : w.dispatcher.callbacks with
      | nil => simpa using hcallbacks
      | cons job rest => simp [Worker.log]
    rw [hfirst, List.drop_tail] at hrest
    exact hrest

/-- Once the callbacks have been awaited none is on its way any more. -/
theorem callbacks_awaitCallbacks (order : List ℕ) (w : Worker J) :
    (awaitCallbacks order w).dispatcher.callbacks = [] := by
  unfold awaitCallbacks
  rw [callbacks_endCallbacks_replicate, List.drop_length]

/-! ## Acts -/

/-- What can happen to a service. -/
inductive Act where
  /-- The service is to start; what the broker answers if it is asked for partitions. -/
  | start (answer : PartitionAnswer)
  /-- An envelope comes for a listener of the service. -/
  | deliver (e : Envelope)
  /-- A callback that is on its way returns. -/
  | callbackEnds (i : ℕ)
  /-- The service is to stop; the order in which callbacks return that are still on their way. -/
  | stop (order : List ℕ)

/-- The service after an act. -/
def act (s : Service J) : Act → Service J
  | .start answer => (s.startWith answer).2
  | .deliver e => s.deliver e
  | .callbackEnds i => s.mapWorker (endCallback i)
  | .stop order => s.stopAfter order

/-- The service after acts. -/
def run (s : Service J) (acts : List Act) : Service J := acts.foldl act s

/-- The envelopes that the listeners of a service take in when they do what they can. -/
def intake (s : Service J) : List Envelope := Crew.intake s.crew.loops s.worker

/-- Envelopes that come while the service runs are dispatched one after another. -/
theorem run_deliver {s : Service J} (h : s.state = .running) (es : List Envelope) :
    (s.run (es.map .deliver)).worker.dispatcher = (s.worker.dispatcher.dispatchAll es).1 ∧
      (s.run (es.map .deliver)).worker.trace =
        s.worker.trace ++ (s.worker.dispatcher.dispatchAll es).2.flatten := by
  induction es generalizing s with
  | nil => exact ⟨rfl, (List.append_nil _).symm⟩
  | cons e es ih =>
    have hact : s.act (.deliver e) = s.mapWorker fun w =>
        { w with dispatcher := (w.dispatcher.dispatch e).1 }.log (w.dispatcher.dispatch e).2 := by
      simp only [Service.act, deliver, h]
    obtain ⟨hrest, htrace⟩ := ih (s := s.act (.deliver e)) (by rw [hact]; exact h)
    rw [hact] at hrest htrace
    refine ⟨?_, ?_⟩
    · show ((s.act (.deliver e)).run (es.map .deliver)).worker.dispatcher = _
      rw [hact, hrest]
      rfl
    · show ((s.act (.deliver e)).run (es.map .deliver)).worker.trace = _
      rw [hact, htrace]
      exact List.append_assoc _ _ _

/-- The envelopes that an act brings in. -/
def taken (s : Service J) (a : Act) : List Envelope :=
  match a, s.state with
  | .deliver e, .running => [e]
  | _, _ => []

/-- The envelopes that acts bring in. -/
def received (s : Service J) : List Act → List Envelope
  | [] => []
  | a :: acts => s.taken a ++ received (s.act a) acts

/-- The service would start with this answer of the broker. -/
def Accepts (s : Service J) (answer : PartitionAnswer) : Prop :=
  (∃ partitions, s.taskPartitions answer = .ok partitions) ∧
    ∃ reporter, s.reporterConfig = .ok reporter

/-- What becomes of an idle service that is to start. -/
inductive StartEnd (s : Service J) (answer : PartitionAnswer) :
    Except ServiceError Unit × Service J → Prop
  /-- A service that would not start with this answer stays idle. -/
  | refused (e : ServiceError) (h : ¬ s.Accepts answer) : StartEnd s answer (.error e, s.asked)
  /-- A service that starts begins a listener for each partition, and a reporter. -/
  | begun (partitions : List ℤ) (reporter : HeartbeatConfig)
      (hpartitions : s.taskPartitions answer = .ok partitions)
      (hreporter : s.reporterConfig = .ok reporter) :
      StartEnd s answer (.ok (), { s.asked with
        state := .running
        crew := beginAll s.asked.crew s.config.backoff (s.duties partitions reporter) })

theorem startIdle_cases (s : Service J) (answer : PartitionAnswer) :
    StartEnd s answer (s.startIdle answer) := by
  -- asking the broker changes neither the settings nor the name
  have hpartitions' : s.asked.taskPartitions answer = s.taskPartitions answer := rfl
  have hreporter' : s.asked.reporterConfig = s.reporterConfig := rfl
  unfold startIdle
  dsimp only
  rw [hpartitions', hreporter']
  cases hpartitions : s.taskPartitions answer with
  | error e =>
    refine .refused e ?_
    rintro ⟨⟨partitions, hok⟩, -⟩
    rw [hpartitions] at hok
    cases hok
  | ok partitions =>
    cases hreporter : s.reporterConfig with
    | error e =>
      refine .refused e ?_
      rintro ⟨-, reporter, hok⟩
      rw [hreporter] at hok
      cases hok
    | ok reporter => exact .begun partitions reporter hpartitions hreporter

/-! ## Before the stop -/

/-- A service that has done some acts, took some envelopes in, and was not stopped. -/
structure Live (s₀ : Service J) (acts : List Act) (es : List Envelope) (s : Service J) : Prop where
  /-- The service has the settings that it had. -/
  config : s.config = s₀.config
  /-- The service was not stopped. -/
  unstopped : s.state ≠ .stopped
  /-- The worker of the service has the jobs of the envelopes, and stopped and closed nothing. -/
  tended : Tended s₀.worker.dispatcher es s.worker
  /-- While the service is idle it has no loops, and was not started in earnest. -/
  idle : s.state = .idle → s.crew.loops = [] ∧
    ∀ answer, Act.start answer ∈ acts → ¬ s₀.Accepts answer
  /-- While the service runs it has the loops of its start, and all of them were begun. -/
  running : s.state = .running → ∃ answer partitions reporter, Act.start answer ∈ acts ∧
    s₀.taskPartitions answer = .ok partitions ∧ s₀.reporterConfig = .ok reporter ∧
      s.crew.loops.map Loop.duty = s₀.duties partitions reporter ∧
      ∀ l ∈ s.crew.loops, l.Begun s.worker

variable {s₀ s t : Service J} {acts : List Act} {es' : List Envelope}

/-- An act that leaves the state and the loops as they are. -/
theorem Live.keep (h : Live s₀ acts es s) {a : Act} (hconfig : t.config = s.config)
    (hstate : t.state = s.state) (hloops : t.crew.loops = s.crew.loops)
    (htended : Tended s₀.worker.dispatcher es' t.worker)
    (htrace : s.worker.trace ⊆ t.worker.trace)
    (hrefused : s.state = .idle → ∀ answer, a = .start answer → ¬ s₀.Accepts answer) :
    Live s₀ (acts ++ [a]) es' t := by
  refine ⟨hconfig.trans h.config, hstate ▸ h.unstopped, htended, ?_, ?_⟩
  · intro hidle
    rw [hstate] at hidle
    obtain ⟨hnone, hold⟩ := h.idle hidle
    refine ⟨hloops.trans hnone, ?_⟩
    intro answer hanswer
    rcases List.mem_append.1 hanswer with hanswer | hanswer
    · exact hold answer hanswer
    · exact hrefused hidle answer (List.mem_singleton.1 hanswer).symm
  · intro hrunning
    rw [hstate] at hrunning
    obtain ⟨answer, partitions, reporter, hmem, hpartitions, hreporter, hduties, hbegun⟩ :=
      h.running hrunning
    refine ⟨answer, partitions, reporter, List.mem_append_left _ hmem, hpartitions, hreporter,
      by rw [hloops, hduties], fun l hl => ?_⟩
    rw [hloops] at hl
    exact (hbegun l hl).mono htrace

theorem Live.taskPartitions (h : Live s₀ acts es s) (answer : PartitionAnswer) :
    s.taskPartitions answer = s₀.taskPartitions answer := by
  simp only [Service.taskPartitions, h.config]

theorem Live.reporterConfig (h : Live s₀ acts es s) : s.reporterConfig = s₀.reporterConfig := by
  have hhost : s.host = s₀.host := h.tended.tracks.host
  simp only [Service.reporterConfig, h.config, hhost]

/-- An idle service that is to start either stays idle or runs. -/
theorem Live.startIdle (h : Live s₀ acts es s) (hidle : s.state = .idle)
    (answer : PartitionAnswer) :
    Live s₀ (acts ++ [.start answer]) es (s.startIdle answer).2 := by
  have hasked : s.worker.Quiet s.asked.worker := Worker.quiet_log _ (by simp [Event.ofLoops])
  have hcases := startIdle_cases s answer
  generalize s.startIdle answer = result at hcases ⊢
  cases hcases with
  | refused e hrefused =>
    refine h.keep rfl rfl rfl (h.tended.quiet hasked) hasked.trace_subset ?_
    rintro - answer' hanswer
    cases hanswer
    rwa [Accepts, h.taskPartitions, h.reporterConfig] at hrefused
  | begun partitions reporter hpartitions hreporter =>
    have hbegun := Crew.quiet_beginAll s.asked.crew s.config.backoff (s.duties partitions reporter)
    have hnone : s.asked.crew.loops = [] := (h.idle hidle).1
    refine ⟨h.config, ?_, h.tended.quiet (hasked.trans hbegun), ?_, ?_⟩
    · intro hstopped
      cases hstopped
    · intro hstill
      cases hstill
    · intro _
      refine ⟨answer, partitions, reporter, List.mem_append_right _ List.mem_cons_self, ?_, ?_, ?_,
        ?_⟩
      · rw [← h.taskPartitions, hpartitions]
      · rw [← h.reporterConfig, hreporter]
      · rw [Crew.loops_beginAll, hnone]
        simp [duties, h.config]
      · have hall : ∀ l ∈ s.asked.crew.loops, l.Begun s.asked.crew.worker := by
          intro l hl
          rw [hnone] at hl
          cases hl
        exact Crew.begun_beginAll hall s.config.backoff (s.duties partitions reporter)

/-- After any act but a stop the service is still one that was not stopped. -/
theorem Live.act (h : Live s₀ acts es s) {a : Act} (ha : ∀ order, a ≠ .stop order) :
    Live s₀ (acts ++ [a]) (es ++ s.taken a) (s.act a) := by
  cases a with
  | start answer =>
    have htaken : s.taken (.start answer) = [] := rfl
    rw [htaken, List.append_nil]
    show Live s₀ _ es (s.startWith answer).2
    cases hstate : s.state with
    | idle =>
      simp only [startWith, hstate]
      exact h.startIdle hstate answer
    | running =>
      simp only [startWith, hstate]
      exact h.keep rfl rfl rfl h.tended (List.Subset.refl _) (by simp [hstate])
    | stopped => exact absurd hstate h.unstopped
  | deliver e =>
    show Live s₀ _ _ (s.deliver e)
    cases hstate : s.state with
    | idle =>
      simp only [deliver, taken, hstate, List.append_nil]
      exact h.keep rfl rfl rfl h.tended (List.Subset.refl _) nofun
    | running =>
      simp only [deliver, taken, hstate]
      exact h.keep rfl rfl rfl (h.tended.dispatch e) (List.subset_append_left _ _) nofun
    | stopped => exact absurd hstate h.unstopped
  | callbackEnds i =>
    have htaken : s.taken (.callbackEnds i) = [] := rfl
    rw [htaken, List.append_nil]
    exact h.keep rfl rfl rfl (h.tended.endCallback i) (trace_endCallback i s.worker) nofun
  | stop order => exact absurd rfl (ha order)

/-! ## After the stop -/

/-- A service that took some envelopes in before it was stopped. -/
structure Halted (s₀ : Service J) (es : List Envelope) (s : Service J) : Prop where
  /-- The service was stopped. -/
  state : s.state = .stopped
  /-- All loops have ended. -/
  loops : ∀ l ∈ s.crew.loops, ∃ result, l.state = .finished result
  /-- The service has no jobs any more. -/
  cache : s.worker.dispatcher.cache.jobs = []
  /-- No callback is on its way. -/
  callbacks : s.worker.dispatcher.callbacks = []
  /-- The builders have released what jobs share. -/
  builders : s.worker.dispatcher.factory.builders =
    s₀.worker.dispatcher.factory.builders.map Builder.close
  /-- The broker was closed. -/
  broker : s.worker.broker.closed = true
  /-- The coordination service was closed. -/
  coordination : s.worker.coordination.closed = true
  /-- The jobs were left in peace until all callbacks had returned; then they were stopped, and
  everything was closed. -/
  trace : ∃ w : Worker J, Tended s₀.worker.dispatcher es w ∧ w.dispatcher.callbacks = [] ∧
    s.worker.trace = w.trace ++ w.dispatcher.cache.jobs.map .stopped ++
      s₀.worker.dispatcher.factory.builders.keys.map .builderClosed ++
        [.brokerClosed, .coordinationClosed]

/-- A service that was not stopped, and is now, is halted. -/
theorem Live.stop (h : Live s₀ acts es s) (order : List ℕ) : Halted s₀ es (s.stopAfter order) := by
  -- what is there when everything that was on its way has ended
  let w := awaitCallbacks order s.crew.cancel.worker
  have htended : Tended s₀.worker.dispatcher es w :=
    (h.tended.quiet s.crew.quiet_cancel).awaitCallbacks order
  have hbuilders := htended.tracks.builders
  have hworker : (s.stopAfter order).worker = shutDown w := by
    unfold stopAfter
    cases hstate : s.state with
    | stopped => exact absurd hstate h.unstopped
    | idle => rfl
    | running => rfl
  have hloops : (s.stopAfter order).crew.loops = s.crew.cancel.loops := by
    unfold stopAfter
    cases hstate : s.state with
    | stopped => exact absurd hstate h.unstopped
    | idle => rfl
    | running => rfl
  refine ⟨state_stopAfter order s, ?_, ?_, ?_, ?_, ?_, ?_, w, htended,
    callbacks_awaitCallbacks order _, ?_⟩
  · rw [hloops]
    exact s.crew.finished_cancel
  · rw [hworker]
    rfl
  · rw [hworker]
    exact callbacks_awaitCallbacks order s.crew.cancel.worker
  · rw [hworker, ← hbuilders]
    rfl
  · rw [hworker]
    simp only [shutDown, closeCoordination, closeBroker, Worker.log, Broker.close]
    split_ifs with hclosed
    · exact hclosed
    · rfl
  · rw [hworker]
    simp only [shutDown, closeCoordination, Worker.log, Coordination.close]
    split_ifs with hclosed
    · exact hclosed
    · rfl
  · rw [hworker, ← hbuilders]
    simp [shutDown, closeCoordination, closeBroker, closeBuilders, stopJobs, Worker.log,
      JobCache.drain, Factory.closing]

/-- A service that was stopped does nothing any more. -/
theorem Halted.act (h : Halted s₀ es s) (a : Act) : s.act a = s := by
  cases a with
  | start answer =>
    show (s.startWith answer).2 = s
    rw [startWith_of_stopped h.state]
  | deliver e =>
    show s.deliver e = s
    simp only [deliver, h.state]
  | callbackEnds i =>
    have hnone : endCallback i s.crew.worker = s.crew.worker := by
      have hcallbacks : s.crew.worker.dispatcher.callbacks = [] := h.callbacks
      simp [endCallback, hcallbacks]
    show s.mapWorker (endCallback i) = s
    rw [mapWorker, hnone]
  | stop order => exact stopAfter_of_stopped h.state order

theorem Halted.run (h : Halted s₀ es s) (acts : List Act) :
    s.run acts = s ∧ s.received acts = [] := by
  induction acts with
  | nil => exact ⟨rfl, rfl⟩
  | cons a acts ih =>
    have htaken : s.taken a = [] := by
      cases a <;> simp [taken, h.state]
    have hact := h.act a
    refine ⟨?_, ?_⟩
    · show (s.act a).run acts = s
      rw [hact, ih.1]
    · rw [received, htaken, hact, ih.2]
      rfl

/-! ## Whole lives -/

/-- After any acts a service is halted if a stop was among them, and goes on if not. -/
theorem Live.run (h : Live s₀ acts es s) (more : List Act) :
    ((∀ order, Act.stop order ∉ more) ∧
        Live s₀ (acts ++ more) (es ++ s.received more) (s.run more)) ∨
      ((∃ order, Act.stop order ∈ more) ∧ Halted s₀ (es ++ s.received more) (s.run more)) := by
  induction more generalizing acts es s with
  | nil =>
    refine .inl ⟨nofun, ?_⟩
    simpa [received, Service.run] using h
  | cons a more ih =>
    have hrun : s.run (a :: more) = (s.act a).run more := rfl
    rw [hrun, received]
    by_cases ha : ∃ order, a = .stop order
    · obtain ⟨order, rfl⟩ := ha
      have hhalted := h.stop order
      obtain ⟨hsame, hnone⟩ := hhalted.run more
      refine .inr ⟨⟨order, List.mem_cons_self⟩, ?_⟩
      have htaken : s.taken (.stop order) = [] := rfl
      rw [show s.act (.stop order) = s.stopAfter order from rfl, hsame, hnone, htaken]
      simpa using hhalted
    · rw [not_exists] at ha
      rcases ih (h.act ha) with ⟨hnone, hlive⟩ | ⟨⟨order, hmem⟩, hhalted⟩
      · refine .inl ⟨?_, ?_⟩
        · intro order hmem
          rcases List.mem_cons.1 hmem with heq | hmem
          · exact ha order heq.symm
          · exact hnone order hmem
        · simpa using hlive
      · exact .inr ⟨⟨order, List.mem_cons_of_mem _ hmem⟩, by simpa using hhalted⟩

/-- A service as it is built. -/
structure Fresh (s : Service J) : Prop where
  /-- A service that is built is idle. -/
  state : s.state = .idle
  /-- A service that is built has no loops. -/
  loops : s.crew.loops = []
  /-- A service that is built has no jobs. -/
  cache : s.worker.dispatcher.cache = {}
  /-- No callback is on its way. -/
  callbacks : s.worker.dispatcher.callbacks = []
  /-- A service that is built has done nothing. -/
  trace : s.worker.trace = []

theorem fresh_ofWorker {c : ServiceConfig} {system : Except JobError String}
    (h : ofWorker c system w = .ok s) (htrace : w.trace = []) : Fresh s := by
  unfold ofWorker at h
  split at h
  · cases h
  · split at h
    · cases h
    · cases h
      exact ⟨rfl, rfl, rfl, rfl, htrace⟩

theorem Fresh.live (h : Fresh s) : Live s [] [] s := by
  have hsound : s.worker.dispatcher.cache.Sound := by
    rw [h.cache]
    exact JobCache.sound_empty
  refine ⟨rfl, ?_, ⟨?_, ?_, ?_⟩, ?_, ?_⟩
  · rw [h.state]
    nofun
  · rw [h.trace]
    exact Dispatcher.tracks_nil hsound
  · simp [h.trace, h.callbacks]
  · simp [h.trace]
  · exact fun _ => ⟨h.loops, nofun⟩
  · rw [h.state]
    nofun

/-- The jobs that the records of envelopes create, by identity. -/
def created (s : Service J) (es : List Envelope) : KeyMap J :=
  ((s.worker.dispatcher.roster []).sightAll s.worker.dispatcher.factory.builders
    (Dispatcher.recordsFor s.host es)).jobs

/-- The jobs that a worker has are those that were created, and each was started once. -/
theorem Tended.jobs (h : Fresh s) (htended : Tended s.worker.dispatcher es w) :
    w.dispatcher.cache.jobs = (s.created es).values ∧
      (w.trace.filterMap Event.startedJob?).Perm (s.created es).values := by
  have hroster := htended.tracks.roster []
  have hjobs : w.dispatcher.cache.toMap = s.created es := congrArg Roster.jobs hroster
  have heffects := congrArg Roster.effects hroster
  have hbegin : (s.worker.dispatcher.roster []).Started := by
    rw [Dispatcher.roster, h.cache]
    exact List.Perm.refl _
  have hstarted := hbegin.sightAll s.worker.dispatcher.factory.builders
    (Dispatcher.recordsFor s.worker.dispatcher.host es)
  rw [Roster.Started, ← heffects] at hstarted
  refine ⟨?_, ?_⟩
  · rw [← JobCache.values_toMap, hjobs]
  · rw [← filterMap_startedJob?_filter]
    exact hstarted

/-- How the state of a service may change. -/
inductive Moves : ServiceState → ServiceState → Prop
  /-- The state of a service may stay what it is. -/
  | stays (state : ServiceState) : Moves state state
  /-- An idle service starts. -/
  | starts : Moves .idle .running
  /-- A service that runs is stopped. -/
  | stops : Moves .running .stopped
  /-- An idle service is stopped. -/
  | givesUp : Moves .idle .stopped

theorem moves_act (s : Service J) (a : Act) : Moves s.state (s.act a).state := by
  cases a with
  | start answer =>
    show Moves s.state (s.startWith answer).2.state
    cases hstate : s.state with
    | idle =>
      simp only [startWith, hstate]
      have hcases := startIdle_cases s answer
      generalize s.startIdle answer = result at hcases ⊢
      cases hcases with
      | refused e _ =>
        have hsame : s.asked.state = .idle := hstate
        rw [hsame]
        exact .stays _
      | begun _ _ _ _ => exact .starts
    | running =>
      simp only [startWith, hstate]
      exact .stays _
    | stopped =>
      simp only [startWith, hstate]
      exact .stays _
  | deliver e =>
    show Moves s.state (s.deliver e).state
    cases hstate : s.state with
    | running =>
      have hsame : (s.deliver e).state = .running := by simp only [deliver, hstate, mapWorker]
      rw [hsame]
      exact .stays _
    | _ =>
      simp only [deliver, hstate]
      exact .stays _
  | callbackEnds i => exact .stays _
  | stop order =>
    show Moves s.state (s.stopAfter order).state
    rw [state_stopAfter]
    cases s.state with
    | idle => exact .givesUp
    | running => exact .stops
    | stopped => exact .stays _

/-- The life of a service that has done some acts. -/
structure Life (s : Service J) (acts : List Act) (after : Service J) : Prop where
  /-- The service is stopped from the first stop on. -/
  stopped_iff : after.state = .stopped ↔ ∃ order, Act.stop order ∈ acts
  /-- Until it is stopped the service runs from the first start on that the broker's answer
  allows. -/
  running_iff : after.state = .running ↔ (∀ order, Act.stop order ∉ acts) ∧
    ∃ answer, Act.start answer ∈ acts ∧ s.Accepts answer
  /-- The state of the service goes on and never back. -/
  moves : ∀ a, Moves after.state (after.act a).state
  /-- While the service is idle, there are no loops. -/
  idle : after.state = .idle → after.crew.loops = []
  /-- While the service runs, there are a listener for each partition that the broker named when
  the service was started, and a reporter; all of them were begun, and none was cancelled; and
  another start changes nothing. -/
  running : after.state = .running → (∀ answer, after.startWith answer = (.ok (), after)) ∧
    ∃ answer partitions reporter, Act.start answer ∈ acts ∧
      s.taskPartitions answer = .ok partitions ∧ s.reporterConfig = .ok reporter ∧
      after.crew.loops.map Loop.duty =
        partitions.map (Duty.listen s.config.taskTopic) ++ [.report reporter] ∧
      ∀ l ∈ after.crew.loops, l.Begun after.worker
  /-- While the service runs, to do what the loops can do is to deliver the envelopes that the
  listeners take in. -/
  delivers : after.state = .running →
    after.crew.settle.worker.dispatcher =
        (after.run (after.intake.map .deliver)).worker.dispatcher ∧
      after.crew.settle.worker.trace = (after.run (after.intake.map .deliver)).worker.trace
  /-- Until the service is stopped, each job that was created was started once and is kept, and
  nothing is stopped or closed. -/
  working : after.state ≠ .stopped → (∀ e ∈ after.worker.trace, e.isEnding = false) ∧
    after.worker.dispatcher.cache.jobs = (s.created (s.received acts)).values ∧
    (after.worker.trace.filterMap Event.startedJob?).Perm (s.created (s.received acts)).values
  /-- Once the service is stopped, nothing changes any more, and a start is refused. -/
  rests : after.state = .stopped → (∀ a, after.act a = after) ∧
    ∀ answer, after.startWith answer = (.error .closed, after)
  /-- Once the service is stopped, all loops have ended. -/
  ended : after.state = .stopped → ∀ l ∈ after.crew.loops, ∃ result, l.state = .finished result
  /-- Once the service is stopped, there are no jobs and no callbacks, and everything is closed. -/
  closed : after.state = .stopped → after.worker.dispatcher.cache.jobs = [] ∧
    after.worker.dispatcher.callbacks = [] ∧
    after.worker.dispatcher.factory.builders =
      s.worker.dispatcher.factory.builders.map Builder.close ∧
    after.worker.broker.closed = true ∧ after.worker.coordination.closed = true
  /-- When the service was stopped, each job that was created had been started once, and all its
  callbacks had returned; then each job was stopped once, then each builder was closed once, and
  then the broker and the coordination service. -/
  ending : after.state = .stopped →
    ∃ (before : List (Event J)) (jobs : List J) (apps : List String),
    after.worker.trace = before ++ jobs.map .stopped ++ apps.map .builderClosed ++
      [.brokerClosed, .coordinationClosed] ∧
    (∀ e ∈ before, e.isEnding = false) ∧
    (before.filterMap Event.startedJob?).Perm (s.created (s.received acts)).values ∧
    (before.filterMap Event.returnedJob?).Perm (before.filterMap Event.calledJob?) ∧
    jobs.Perm (s.created (s.received acts)).values ∧
    apps.Perm s.worker.dispatcher.factory.builders.keys

/-- The life of a service, from its beginning on. -/
theorem lifecycle (h : Fresh s) (acts : List Act) : Life s acts (s.run acts) := by
  rcases h.live.run acts with ⟨hnone, hlive⟩ | ⟨hstop, hhalted⟩
  · rw [List.nil_append, List.nil_append] at hlive
    obtain ⟨hjobs, hstarted⟩ := hlive.tended.jobs h
    have hopen := hlive.unstopped
    refine ⟨?_, ?_, moves_act _, fun hidle => (hlive.idle hidle).1, ?_, fun hrunning => ?_, ?_, ?_,
      ?_, ?_, ?_⟩
    · exact ⟨fun hstopped => absurd hstopped hopen, fun ⟨order, hmem⟩ => absurd hmem (hnone order)⟩
    · refine ⟨?_, ?_⟩
      · intro hrunning
        obtain ⟨answer, partitions, reporter, hmem, hpartitions, hreporter, -⟩ :=
          hlive.running hrunning
        exact ⟨hnone, answer, hmem, ⟨partitions, hpartitions⟩, reporter, hreporter⟩
      · rintro ⟨-, answer, hmem, haccepts⟩
        cases hstate : (s.run acts).state with
        | idle => exact absurd haccepts ((hlive.idle hstate).2 answer hmem)
        | running => rfl
        | stopped => exact absurd hstate hopen
    · intro hrunning
      refine ⟨fun answer => by simp only [startWith, hrunning], ?_⟩
      exact hlive.running hrunning
    · obtain ⟨hdispatcher, htrace⟩ := (s.run acts).crew.settle_worker
      obtain ⟨hsame, hsameTrace⟩ := run_deliver hrunning (s.run acts).intake
      exact ⟨hdispatcher.trans hsame.symm, htrace.trans hsameTrace.symm⟩
    · exact fun _ => ⟨hlive.tended.working, hjobs, hstarted⟩
    · exact fun hstopped => absurd hstopped hopen
    · exact fun hstopped => absurd hstopped hopen
    · exact fun hstopped => absurd hstopped hopen
    · exact fun hstopped => absurd hstopped hopen
  · rw [List.nil_append] at hhalted
    have hstopped := hhalted.state
    have hnot : ∀ {state : ServiceState}, (s.run acts).state = state → state ≠ .stopped → False :=
      fun hstate hne => hne (hstate.symm.trans hstopped)
    refine ⟨⟨fun _ => hstop, fun _ => hstopped⟩, ?_, moves_act _, ?_, ?_, ?_, ?_, ?_,
      fun _ => hhalted.loops, ?_, ?_⟩
    · refine ⟨fun hrunning => (hnot hrunning nofun).elim, ?_⟩
      rintro ⟨hnone, -⟩
      obtain ⟨order, hmem⟩ := hstop
      exact absurd hmem (hnone order)
    · exact fun hidle => (hnot hidle nofun).elim
    · exact fun hrunning => (hnot hrunning nofun).elim
    · exact fun hrunning => (hnot hrunning nofun).elim
    · exact fun hopen => absurd hstopped hopen
    · exact fun _ => ⟨hhalted.act, startWith_of_stopped hstopped⟩
    · exact fun _ => ⟨hhalted.cache, hhalted.callbacks, hhalted.builders, hhalted.broker,
        hhalted.coordination⟩
    · intro _
      obtain ⟨w, htended, hcallbacks, htrace⟩ := hhalted.trace
      obtain ⟨hjobs, hstarted⟩ := htended.jobs h
      have hreturned := htended.callbacks
      rw [hcallbacks, List.nil_append] at hreturned
      exact ⟨w.trace, w.dispatcher.cache.jobs, s.worker.dispatcher.factory.builders.keys, htrace,
        htended.working, hstarted, hreturned, hjobs ▸ List.Perm.refl _, List.Perm.refl _⟩

/-- A service whose builders do not always make a job. -/
def hesitant : Service String where
  config := { host := some "h1" }
  crew := {
    worker :=
      { dispatcher := Dispatcher.hesitant, broker := .ofCapacity 1, machine := ⟨"linux", 1⟩ } }

/-- The broker fails, names no partition of the topic, and then two; two envelopes come;
one callback returns before the service is stopped, and two afterwards. -/
def troubledActs : List Act :=
  [.start (.error .closed), .start (.ok KeyMap.empty),
    .start (.ok (KeyMap.ofList [(Setting.tasksTopic, [0, 1])])), .start (.error .closed)] ++
    Dispatcher.mixedEnvelopes.map .deliver ++
    [.callbackEnds 1, .stop [1], .start (.ok KeyMap.empty), .stop []]

theorem lifecycle_troubled :
    Fresh hesitant ∧ (hesitant.run troubledActs).state = .stopped ∧
      (∃ (before : List (Event String)) (jobs apps : List String),
        (hesitant.run troubledActs).worker.trace =
          before ++ jobs.map .stopped ++ apps.map .builderClosed ++
            [.brokerClosed, .coordinationClosed] ∧
        (before.filterMap Event.startedJob?).Perm ["feed-1"] ∧ jobs.Perm ["feed-1"] ∧
        apps.Perm ["broken", "feed"]) := by
  have hfresh : Fresh hesitant := ⟨rfl, rfl, rfl, rfl, rfl⟩
  have hlife := lifecycle hfresh troubledActs
  have hstopped := hlife.stopped_iff.2 ⟨[1], by simp [troubledActs]⟩
  have hcreated : (hesitant.created (hesitant.received troubledActs)).values = ["feed-1"] := by
    decide +kernel
  have hkeys : hesitant.worker.dispatcher.factory.builders.keys = ["broken", "feed"] := by
    decide +kernel
  obtain ⟨before, jobs, apps, htrace, -, hstarted, -, hjobs, happs⟩ := hlife.ending hstopped
  rw [hcreated] at hstarted hjobs
  rw [hkeys] at happs
  exact ⟨hfresh, hstopped, before, jobs, apps, htrace, hstarted, hjobs, happs⟩

end Service

end Collector
