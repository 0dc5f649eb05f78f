import Collector.Proofs.Service.Lifecycle
import Collector.Proofs.Text.Trimmed

/-!
# Starts that fail

A start of a service of `harvest-service` that fails has asked the broker for partitions
and done nothing else: the service is idle, and is to be started as if it had never been
tried (`Service.Untouched`).  It can fail because of the broker's answer
(`Service.Hindered`); the settings of the reporter are never at fault if the service has
got a name in its own settings, because what the service accepts the reporter accepts too.

Main statements:

* `ServiceConfig.validate_heartbeatConfig`: the reporter accepts settings that the service accepts.
* `Service.startWith_behind`: what a start does does not depend on what was done before.
* `Service.run_of_idle`: a service that is still idle was only tried to start.
* `Service.startWith_eq_error_iff`, `Service.failed_start`: when a start fails, and what it leaves.
-/

namespace Collector

variable {J : Type}

/-! ## What was done before -/

/-- The worker, when something else was done before. -/
def Worker.behind (before : List (Event J)) (w : Worker J) : Worker J :=
  { w with trace := before ++ w.trace }

/-- The crew, when something else was done before. -/
def Crew.behind (before : List (Event J)) (c : Crew J) : Crew J :=
  { c with worker := c.worker.behind before }

/-- The service, when something else was done before. -/
def Service.behind (before : List (Event J)) (s : Service J) : Service J :=
  { s with crew := s.crew.behind before }

section Behind

variable (before : List (Event J)) (w : Worker J)

theorem Worker.log_behind (events : List (Event J)) :
    (w.behind before).log events = (w.log events).behind before := by
  simp [Worker.log, Worker.behind]

theorem Worker.openPartition_behind (topic : String) (partition : ℤ) :
    (w.behind before).openPartition topic partition =
      Prod.map id (Worker.behind before) (w.openPartition topic partition) := by
  unfold Worker.openPartition
  rw [Worker.log_behind]
  dsimp only [Worker.behind, Worker.log]
  split
  · rfl
  · rfl
  · split <;> rfl

theorem Worker.makeWriter_behind (topic key : String) :
    (w.behind before).makeWriter topic key =
      Prod.map id (Worker.behind before) (w.makeWriter topic key) := by
  unfold Worker.makeWriter
  rw [Worker.log_behind]
  dsimp only [Worker.behind, Worker.log]
  split <;> rfl

end Behind

namespace Loop

variable (before : List (Event J))

theorem tick_behind (config : HeartbeatConfig) (writer : Option ℕ) (w : Worker J) :
    tick config writer (w.behind before) = (tick config writer w).behind before := by
  unfold tick
  cases writer with
  | none =>
    dsimp only
    rw [Worker.log_behind]
    rfl
  | some place =>
    have hbroker : (w.behind before).broker = w.broker := rfl
    dsimp only
    rw [hbroker]
    split <;> rfl

theorem beginReport_behind (config : HeartbeatConfig) (w : Worker J) :
    beginReport config (w.behind before) =
      Prod.map id (Worker.behind before) (beginReport config w) := by
  unfold beginReport
  split
  · rw [tick_behind]
    rfl
  · rw [Worker.makeWriter_behind]
    obtain ⟨made, w'⟩ := w.makeWriter config.topic config.topic
    cases made with
    | error e => rfl
    | ok place =>
      simp only [Prod.map, id, Worker.log_behind, tick_behind]
      rfl

theorem beginListen_behind (topic : String) (partition : ℤ) (w : Worker J) :
    beginListen topic partition (w.behind before) =
      Prod.map id (Worker.behind before) (beginListen topic partition w) := by
  unfold beginListen
  rw [Worker.openPartition_behind]
  obtain ⟨opened, w'⟩ := w.openPartition topic partition
  cases opened <;> rfl

theorem attemptOnce_behind (l : Loop) (previous : Option ℕ) (w : Worker J) :
    l.attemptOnce previous (w.behind before) =
      Prod.map id (Worker.behind before) (l.attemptOnce previous w) := by
  obtain ⟨duty, backoff, state⟩ := l
  cases duty with
  | listen topic partition =>
    simp only [attemptOnce, beginListen_behind]
    obtain ⟨started, w'⟩ := beginListen topic partition w
    cases started <;> rfl
  | report config =>
    simp only [attemptOnce, beginReport_behind]
    obtain ⟨started, w'⟩ := beginReport config w
    cases started <;> rfl

theorem attemptUpTo_behind (more : ℕ) (l : Loop) (previous : Option ℕ) (w : Worker J) :
    attemptUpTo previous more l (w.behind before) =
      Prod.map id (Worker.behind before) (attemptUpTo previous more l w) := by
  induction more generalizing l previous w with
  | zero => exact attemptOnce_behind before l previous w
  | succ more ih =>
    rw [attemptUpTo, attemptUpTo, attemptOnce_behind]
    obtain ⟨⟨duty, backoff, state⟩, w'⟩ := l.attemptOnce previous w
    cases state with
    | active activity previous => rfl
    | finished result => rfl
    | resting due ms =>
      cases ms with
      | zero => exact ih _ _ w'
      | succ ms => rfl

theorem begin_behind (duty : Duty) (backoff : Option Backoff) (cancelled : Bool) (w : Worker J) :
    Loop.begin duty backoff cancelled (w.behind before) =
      Prod.map id (Worker.behind before) (Loop.begin duty backoff cancelled w) := by
  cases cancelled with
  | true => rfl
  | false => exact attemptUpTo_behind before _ _ none w

end Loop

namespace Crew

variable (before : List (Event J))

theorem begin_behind (c : Crew J) (duty : Duty) (backoff : Option Backoff) (cancelled : Bool) :
    (c.behind before).begin duty backoff cancelled =
      (c.begin duty backoff cancelled).behind before := by
  have hbegin := Loop.begin_behind before duty backoff cancelled c.worker
  have hworker : (c.behind before).worker = c.worker.behind before := rfl
  simp only [Crew.begin, hworker, hbegin]
  rfl

theorem beginAll_behind (c : Crew J) (backoff : Backoff) (duties : List Duty) :
    Service.beginAll (c.behind before) backoff duties =
      (Service.beginAll c backoff duties).behind before := by
  unfold Service.beginAll
  induction duties generalizing c with
  | nil => rfl
  | cons duty duties ih =>
    rw [List.foldl_cons, List.foldl_cons, begin_behind, ih]

end Crew

namespace Service

/-- What a start does does not depend on what was done before. -/
theorem startWith_behind (before : List (Event J)) (s : Service J) (answer : PartitionAnswer) :
    (s.behind before).startWith answer =
      Prod.map id (Service.behind before) (s.startWith answer) := by
  have hstate : (s.behind before).state = s.state := rfl
  have hasked : (s.behind before).asked = s.asked.behind before := by
    have hlog := s.crew.worker.log_behind before [.partitionsAsked s.config.taskTopic]
    simp only [asked, mapWorker, behind, Crew.behind, hlog]
  unfold startWith
  rw [hstate]
  cases s.state with
  | running => rfl
  | stopped => rfl
  | idle =>
    have hpartitions : (s.asked.behind before).taskPartitions answer =
        s.asked.taskPartitions answer := rfl
    have hreporter : (s.asked.behind before).reporterConfig = s.asked.reporterConfig := rfl
    simp only [startIdle, hasked, hpartitions, hreporter]
    cases s.asked.taskPartitions answer with
    | error e => rfl
    | ok partitions =>
      cases s.asked.reporterConfig with
      | error e => rfl
      | ok reporter =>
        have hbegun := Crew.beginAll_behind before s.asked.crew s.asked.config.backoff
          (s.asked.duties partitions reporter)
        exact congrArg (fun crew => (Except.ok (), { s.asked with state := .running, crew })) hbegun

end Service

/-! ## Settings -/

namespace ServiceConfig

variable {c : ServiceConfig}

/-- The settings that the service accepts. -/
theorem validate_eq_ok_iff :
    c.validate = .ok () ↔ Text.trim c.taskTopic ≠ "" ∧ 0 < c.heartbeatIntervalMs ∧
      0 < c.restartDelayMs ∧ c.restartDelayMs ≤ c.restartMaxDelayMs ∧
      ∀ name ∈ c.host, Text.trim name ≠ "" := by
  have hhost : (c.host.any Text.isBlank = true) ↔ ¬ ∀ name ∈ c.host, Text.trim name ≠ "" := by
    cases c.host <;> simp [Text.isBlank_iff]
  unfold validate
  split_ifs with htopic hinterval hdelays hname
  · simp [Text.isBlank_iff.1 htopic]
  · simp [hinterval]
  · simp only [false_iff, not_and]
    omega
  · simp only [false_iff, not_and]
    exact fun _ _ _ _ => hhost.1 hname
  · simp only [true_iff]
    exact ⟨fun h => htopic (Text.isBlank_iff.2 h), by omega, by omega, by omega,
      not_not.1 (hhost.not.1 hname)⟩

/-- The reporter accepts settings that the service accepts, if the host has a name. -/
theorem validate_heartbeatConfig (hvalid : c.validate = .ok ()) (host : String) :
    (c.heartbeatConfig host).validate =
      if Text.trim host = "" then .error (.invalidConfig "host is empty") else .ok () := by
  obtain ⟨-, hinterval, -⟩ := validate_eq_ok_iff.1 hvalid
  have hname : (c.heartbeatConfig host).host = host := rfl
  have hpositive : (c.heartbeatConfig host).intervalMs ≠ 0 := hinterval.ne'
  have htopic : (c.heartbeatConfig host).topic ≠ "" := (by decide : Setting.statsTopic ≠ "")
  have hroot : (c.heartbeatConfig host).root.toList.head? = some '/' :=
    (by decide : Setting.heartbeatRoot.toList.head? = some '/')
  simp only [HeartbeatConfig.validate, Text.isBlank_iff, hname, if_neg hpositive, if_neg htopic,
    if_pos hroot]
  split_ifs
  · rfl
  · split <;> rfl

end ServiceConfig

namespace Service

variable {c : ServiceConfig} {system : Except JobError String} {w : Worker J} {s : Service J}
  {acts : List Act} {answer : PartitionAnswer} {e : ServiceError}

/-! ## Services that were only tried to start -/

/-- A service as it is built from accepted settings. -/
structure Built (c : ServiceConfig) (s : Service J) : Prop where
  /-- The service has these settings. -/
  config : s.config = c
  /-- The settings are accepted. -/
  valid : c.validate = .ok ()
  /-- The name of the service is the one that its settings give, if they give one. -/
  named : ∀ name ∈ c.host, s.host = Text.trim name
  /-- A service that is built is idle. -/
  state : s.state = .idle
  /-- A service that is built has no loops. -/
  loops : s.crew.loops = []
  /-- A service that is built has no jobs. -/
  jobs : s.worker.dispatcher.cache.jobs = []
  /-- No callback is on its way. -/
  callbacks : s.worker.dispatcher.callbacks = []

theorem built_ofWorker (h : ofWorker c system w = .ok s) : Built c s := by
  unfold ofWorker at h
  split at h
  · cases h
  · rename_i hvalid
    split at h
    · cases h
    · rename_i host hhost
      cases h
      refine ⟨rfl, hvalid, fun name hname => ?_, rfl, rfl, rfl, rfl⟩
      unfold hostOf at hhost
      rw [Option.mem_def.1 hname] at hhost
      exact (Except.ok.inj hhost).symm

/-- Whether an act is to start the service. -/
def Act.isStart : Act → Bool
  | start _ => true
  | _ => false

/-- How many of the acts are to start the service. -/
def starts (acts : List Act) : ℕ := acts.countP Act.isStart

theorem run_concat (s : Service J) (acts : List Act) (a : Act) :
    s.run (acts ++ [a]) = (s.run acts).act a := by
  simp [run]

/-- A service that asked for partitions some times has noted it so often, and done nothing else. -/
theorem asked_iterate (n : ℕ) (s : Service J) :
    asked^[n] s = s.mapWorker fun w =>
      w.log (List.replicate n (.partitionsAsked s.config.taskTopic)) := by
  induction n generalizing s with
  | zero => simp [mapWorker, Worker.log]
  | succ n ih =>
    rw [Function.iterate_succ_apply, ih, List.replicate_succ]
    simp [asked, mapWorker, Worker.log]

/-- A service that is still idle was only tried to start. -/
theorem run_of_idle (h : Built c s) (hidle : (s.run acts).state = .idle) :
    s.run acts = asked^[starts acts] s := by
  induction acts using List.reverseRecOn with
  | nil => rfl
  | append_singleton acts a ih =>
    rw [run_concat] at hidle ⊢
    have hbefore : (s.run acts).state = .idle := by
      have hmoves := moves_act (s.run acts) a
      rw [hidle] at hmoves
      generalize (s.run acts).state = before at hmoves
      cases hmoves
      rfl
    have hsame := ih hbefore
    cases a with
    | start answer =>
      have hstarts : starts (acts ++ [.start answer]) = starts acts + 1 := by
        simp [starts, Act.isStart]
      have hcases := startIdle_cases (s.run acts) answer
      have hact : (s.run acts).act (.start answer) = ((s.run acts).startIdle answer).2 := by
        simp only [act, startWith, hbefore]
      rw [hact] at hidle ⊢
      generalize (s.run acts).startIdle answer = result at hcases hidle ⊢
      cases hcases with
      | refused e _ => rw [hstarts, Function.iterate_succ_apply', ← hsame]
      | begun => cases hidle
    | deliver e =>
      have hstarts : starts (acts ++ [.deliver e]) = starts acts := by simp [starts, Act.isStart]
      rw [hstarts, ← hsame]
      simp only [act, deliver, hbefore]
    | callbackEnds i =>
      have hstarts : starts (acts ++ [.callbackEnds i]) = starts acts := by
        simp [starts, Act.isStart]
      have hnone : (s.run acts).crew.worker.dispatcher.callbacks = [] := by
        rw [hsame, asked_iterate]
        exact h.callbacks
      rw [hstarts, ← hsame]
      simp only [act, mapWorker, endCallback, hnone, List.getElem?_nil]
    | stop order =>
      have hstopped := state_stopAfter order (s.run acts)
      rw [show (s.run acts).act (.stop order) = (s.run acts).stopAfter order from rfl,
        hstopped] at hidle
      cases hidle

/-! ## Starts that fail -/

/-- What keeps a service with these settings and this name from starting. -/
inductive Hindered (c : ServiceConfig) (host : String) : PartitionAnswer → ServiceError → Prop
  /-- The broker fails. -/
  | client (cause : ClientError) : Hindered c host (.error cause) (.client cause)
  /-- The broker's answer names no partition of the topic, or not even the topic. -/
  | noPartitions {topics : KeyMap (List ℤ)} (hnone : (topics.get? c.taskTopic).getD [] = []) :
      Hindered c host (.ok topics) (.noPartitions c.taskTopic)
  /-- The service has the name of the system, and that one is blank. -/
  | nameless {topics : KeyMap (List ℤ)} (hsome : (topics.get? c.taskTopic).getD [] ≠ [])
      (hhost : c.host = none) (hblank : Text.trim host = "") :
      Hindered c host (.ok topics) (.heartbeat (.invalidConfig "host is empty"))

/-- The service finds no partitions to listen to exactly if the broker fails, or its answer names
none. -/
theorem taskPartitions_eq_error_iff :
    s.taskPartitions answer = .error e ↔
      (∃ cause, answer = .error cause ∧ e = .client cause) ∨
        ∃ topics, answer = .ok topics ∧ (topics.get? s.config.taskTopic).getD [] = [] ∧
          e = .noPartitions s.config.taskTopic := by
  unfold taskPartitions
  cases answer with
  | error cause =>
    constructor
    · rintro ⟨⟩
      exact .inl ⟨cause, rfl, rfl⟩
    · rintro (⟨_, ⟨⟩, rfl⟩ | ⟨_, ⟨⟩, -⟩)
      rfl
  | ok topics =>
    constructor
    · intro h
      dsimp only at h
      split at h
      · rename_i hnone
        cases h
        exact .inr ⟨topics, rfl, hnone, rfl⟩
      · cases h
    · rintro (⟨_, ⟨⟩, -⟩ | ⟨_, ⟨⟩, hnone, rfl⟩)
      simp only [hnone]

/-- The reporter cannot be set up exactly if the service has the name of the system, and that one is
blank. -/
theorem Built.reporterConfig_eq_error_iff (h : Built c s) :
    s.reporterConfig = .error e ↔ c.host = none ∧ Text.trim s.host = "" ∧
      e = .heartbeat (.invalidConfig "host is empty") := by
  have hvalid := ServiceConfig.validate_heartbeatConfig h.valid s.host
  -- a name that is given is not blank
  have hblank : Text.trim s.host = "" → c.host = none := by
    intro hnil
    rw [Option.eq_none_iff_forall_ne_some]
    intro name hname
    obtain ⟨-, -, -, -, hgiven⟩ := ServiceConfig.validate_eq_ok_iff.1 h.valid
    refine hgiven name hname ?_
    rwa [← Text.isBlank_iff, ← Text.isBlank_trim, ← h.named name hname, Text.isBlank_iff]
  unfold reporterConfig
  simp only [h.config, hvalid]
  constructor
  · intro herror
    split_ifs at herror with hnil
    cases herror
    exact ⟨hblank hnil, hnil, rfl⟩
  · rintro ⟨-, hnil, rfl⟩
    simp only [if_pos hnil]

/-- An idle service does not start exactly if it finds no partitions, or the reporter cannot be set
up. -/
theorem startIdle_eq_error_iff (s : Service J) (answer : PartitionAnswer) (e : ServiceError) :
    (s.startIdle answer).1 = .error e ↔ s.taskPartitions answer = .error e ∨
      (∃ partitions, s.taskPartitions answer = .ok partitions) ∧ s.reporterConfig = .error e := by
  have hpartitions : s.asked.taskPartitions answer = s.taskPartitions answer := rfl
  have hreporter : s.asked.reporterConfig = s.reporterConfig := rfl
  simp only [startIdle, hpartitions, hreporter]
  cases s.taskPartitions answer with
  | error cause => simp
  | ok partitions => cases s.reporterConfig <;> simp

/-- What hinders a service is what `startIdle` finds. -/
theorem Built.hindered_iff (h : Built c s) :
    Hindered c s.host answer e ↔ (s.startIdle answer).1 = .error e := by
  rw [startIdle_eq_error_iff, taskPartitions_eq_error_iff, h.reporterConfig_eq_error_iff, h.config]
  constructor
  · rintro (cause | ⟨hnone⟩ | ⟨hsome, hhost, hblank⟩)
    · exact .inl (.inl ⟨cause, rfl, rfl⟩)
    · exact .inl (.inr ⟨_, rfl, hnone, rfl⟩)
    · refine .inr ⟨?_, hhost, hblank, rfl⟩
      simp only [taskPartitions, h.config]
      exact ⟨_, rfl⟩
  · rintro ((⟨cause, rfl, rfl⟩ | ⟨topics, rfl, hnone, rfl⟩) |
      ⟨⟨partitions, hok⟩, hhost, hblank, rfl⟩)
    · exact .client cause
    · exact .noPartitions hnone
    · cases answer with
      | error cause => cases hok
      | ok topics =>
        refine .nameless (fun hnone => ?_) hhost hblank
        simp only [taskPartitions, h.config, hnone] at hok
        cases hok

/-- A service that was not stopped does not start exactly if it is idle and something hinders it. -/
theorem startWith_eq_error_iff (h : Built c s) (hopen : (s.run acts).state ≠ .stopped) :
    ((s.run acts).startWith answer).1 = .error e ↔
      (s.run acts).state = .idle ∧ Hindered c s.host answer e := by
  cases hstate : (s.run acts).state with
  | stopped => exact absurd hstate hopen
  | running => simp [startWith, hstate]
  | idle =>
    -- its settings and its name are those it was built with
    have hsame := run_of_idle h hstate
    rw [asked_iterate] at hsame
    have hpartitions : (s.run acts).taskPartitions answer = s.taskPartitions answer := by
      rw [hsame]
      rfl
    have hreporter : (s.run acts).reporterConfig = s.reporterConfig := by
      rw [hsame]
      rfl
    simp only [startWith, hstate, true_and]
    rw [h.hindered_iff, startIdle_eq_error_iff, startIdle_eq_error_iff, hpartitions, hreporter]

/-- A service that was tried to start so often, each time in vain. -/
structure Untouched (s : Service J) (tries : ℕ) (after : Service J) : Prop where
  /-- The service is idle. -/
  state : after.state = .idle
  /-- The service has no loops. -/
  loops : after.crew.loops = []
  /-- The service has no jobs. -/
  jobs : after.worker.dispatcher.cache.jobs = []
  /-- The service has the same settings and the same name. -/
  same : after.config = s.config ∧ after.host = s.host
  /-- The broker was asked for partitions that often, and nothing else was done: no client was
  closed. -/
  worker : after.worker = s.worker.log (List.replicate tries (.partitionsAsked s.config.taskTopic))
  /-- The service is to be started as if it had never been tried: the result is the same, and so is
  all that the start does. -/
  later : ∀ answer, ∃ (result : Except ServiceError Unit) (started : Service J),
    s.startWith answer = (result, started.behind s.worker.trace) ∧
      after.startWith answer = (result, started.behind after.worker.trace)

theorem untouched_iterate (h : Built c s) (tries : ℕ) : Untouched s tries (asked^[tries] s) := by
  rw [asked_iterate]
  refine ⟨h.state, h.loops, h.jobs, ⟨rfl, rfl⟩, rfl, fun answer => ?_⟩
  -- the service as if nothing had been done yet
  let unused := s.mapWorker fun w => { w with trace := [] }
  have hs : s = unused.behind s.worker.trace := by
    simp [unused, behind, Crew.behind, Worker.behind, mapWorker, worker]
  have hafter : (s.mapWorker fun w => w.log
      (List.replicate tries (.partitionsAsked s.config.taskTopic))) =
        unused.behind (s.worker.log
          (List.replicate tries (.partitionsAsked s.config.taskTopic))).trace := by
    simp [unused, behind, Crew.behind, Worker.behind, Worker.log, mapWorker, worker]
  refine ⟨(unused.startWith answer).1, (unused.startWith answer).2, ?_, ?_⟩
  · conv_lhs => rw [hs]
    exact startWith_behind s.worker.trace unused answer
  · conv_lhs => rw [hafter]
    exact startWith_behind _ unused answer

/-- When a service that is built from accepted settings does not start, and what is left of it
then. -/
structure FailedStart (c : ServiceConfig) (s : Service J) (acts : List Act)
    (answer : PartitionAnswer) : Prop where
  /-- The service does not start exactly if it is idle and something hinders it. -/
  refused_iff : ∀ e, ((s.run acts).startWith answer).1 = .error e ↔
    (s.run acts).state = .idle ∧ Hindered c s.host answer e
  /-- With a name in its settings, only the broker hinders the service. -/
  named : c.host ≠ none → ∀ e, ((s.run acts).startWith answer).1 = .error e →
    (∃ cause, answer = .error cause ∧ e = .client cause) ∨
      ∃ topics, answer = .ok topics ∧ (topics.get? c.taskTopic).getD [] = [] ∧
        e = .noPartitions c.taskTopic
  /-- A start that fails changes nothing. -/
  untouched : ∀ e, ((s.run acts).startWith answer).1 = .error e →
    Untouched s (starts acts + 1) ((s.run acts).startWith answer).2

/-- The reporter accepts what the service accepts, and a start that fails changes nothing. -/
theorem failed_start (h : ofWorker c system w = .ok s) :
    (∀ host, Text.trim host ≠ "" → (c.heartbeatConfig host).validate = .ok ()) ∧
      ∀ acts answer, (s.run acts).state ≠ .stopped → FailedStart c s acts answer := by
  have hbuilt := built_ofWorker h
  refine ⟨?_, ?_⟩
  · intro host hhost
    rw [ServiceConfig.validate_heartbeatConfig hbuilt.valid, if_neg hhost]
  · intro acts answer hopen
    have hrefused : ∀ e, ((s.run acts).startWith answer).1 = .error e ↔
        (s.run acts).state = .idle ∧ Hindered c s.host answer e :=
      fun e => startWith_eq_error_iff hbuilt hopen
    refine ⟨hrefused, ?_, ?_⟩
    · intro hnamed e herror
      obtain ⟨-, cause | hnone | ⟨-, hhost, -⟩⟩ := (hrefused e).1 herror
      · exact .inl ⟨cause, rfl, rfl⟩
      · exact .inr ⟨_, rfl, hnone, rfl⟩
      · exact absurd hhost hnamed
    · intro e herror
      have hidle := ((hrefused e).1 herror).1
      have hstart : ((s.run acts).startWith answer).2 = (s.run acts).asked := by
        have hcases := startIdle_cases (s.run acts) answer
        simp only [startWith, hidle] at herror ⊢
        generalize (s.run acts).startIdle answer = result at hcases herror ⊢
        cases hcases with
        | refused => rfl
        | begun => cases herror
      rw [hstart, run_of_idle hbuilt hidle, ← Function.iterate_succ_apply' asked]
      exact untouched_iterate hbuilt _

/-- The broker fails, then it names no partition of the topic: both starts fail, the third one
does not. -/
theorem failed_start_twice :
    ∃ s : Service String, ofWorker hesitant.config (.ok "system") hesitant.worker = .ok s ∧
      Untouched s 2 ((s.run [.start (.error .closed)]).startWith (.ok KeyMap.empty)).2 ∧
      (s.run [.start (.error .closed), .start (.ok KeyMap.empty),
        .start (.ok (KeyMap.ofList [(Setting.tasksTopic, [0, 1])]))]).state = .running := by
  obtain ⟨s, hs⟩ : ∃ s, ofWorker hesitant.config (.ok "system") hesitant.worker = .ok s :=
    ⟨_, rfl⟩
  obtain ⟨-, hfailed⟩ := failed_start hs
  have hs' := hs
  cases hs'
  have hidle := hfailed [.start (.error .closed)] (.ok KeyMap.empty) (by decide +kernel)
  exact ⟨_, hs, hidle.untouched (.noPartitions Setting.tasksTopic) (by decide +kernel),
    by decide +kernel⟩

end Service

end Collector
