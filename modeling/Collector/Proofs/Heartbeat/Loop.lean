import Collector.Proofs.Broker.Seats
import Collector.Proofs.Heartbeat.Ticks
import Collector.Worker

/-!
# The reporter of a worker

The loop of a worker that runs the reporter of `harvest-heartbeat` begins, ticks and ends as a
reporter does (`Reporter.Plays`): at a tick it attempts the heartbeats of this moment
(`Reporter.tickMoves`), and what is published reaches the coordination service, or the broker
through the writer.  A worker cannot publish if its coordination service is closed
(`Reporter.refuses`); of a reporter by itself any heartbeats may fail (`Reporter.failing`).

Main statements:

* `Reporter.exists_goes_nodes`, `Reporter.exists_goes_messages`: to publish heartbeats, of which
  some fail, is to do some steps.
* `Reporter.exists_ticked`: a tick of a worker is a tick of a reporter.
* `Reporter.exists_began`, `Reporter.exists_plays_fire`, `Reporter.exists_plays_cancel`: the loop
  begins, has something to do, and is cancelled.
* `Reporter.reports`: what is true of reporters, and of the loops of workers.
-/

namespace Collector

variable {J : Type}

/-! ## Envelopes -/

namespace Broker

/-- A writer takes envelopes one after another. -/
def writeAll (b : Broker) (w : ChannelWriter) (es : List Envelope) : Broker :=
  es.foldl (fun b e => b.write w e) b

variable {b : Broker} {w : ChannelWriter}

/-- What the writer at a place takes, if there is one. -/
def writeAt (b : Broker) (writer : Option ℕ) (es : List Envelope) : Broker :=
  match writer.bind b.writer? with
  | some cw => b.writeAll cw es
  | none => b

/-- A channel that is read keeps each envelope that a writer takes, with the key of the writer. -/
theorem sentTo_writeAll (hcount : b.readerCount w.channel ≠ 0) (hlt : w.channel < b.sent.length)
    (es : List Envelope) : (b.writeAll w es).sentTo w.channel =
      b.sentTo w.channel ++ es.map (·.withMeta Setting.writerKey w.key) := by
  unfold writeAll
  induction es generalizing b with
  | nil => simp
  | cons e es ih =>
    have hcount' : (b.write w e).readerCount w.channel ≠ 0 := by
      unfold readerCount write
      rwa [readers_send]
    have hlt' : w.channel < (b.write w e).sent.length := by
      unfold write
      rwa [length_sent_send]
    rw [List.foldl_cons, ih hcount' hlt', write, sentTo_send_self hcount hlt, List.append_assoc]
    rfl

theorem writer?_writeAll (es : List Envelope) (place : ℕ) :
    (b.writeAll w es).writer? place = b.writer? place := by
  unfold writeAll
  induction es generalizing b with
  | nil => rfl
  | cons e es ih =>
    rw [List.foldl_cons, ih]
    simp only [writer?, write, writers_send]

end Broker

namespace Reporter

variable {config : HeartbeatConfig} {machine : Heartbeat.Machine} {c : Coordination}
  {s t r : Reporting} {moves more : List Move} {w : Worker J} {l : Loop} {writer : Option ℕ}

/-! ## Failures -/

/-- Publishing, if some heartbeats cannot be published whatever else is true. -/
def failing {σ : Type} (fails : Heartbeat → Option ClientError)
    (publish : σ → Heartbeat → Except ClientError σ) (s : σ) (b : Heartbeat) :
    Except ClientError σ :=
  match fails b with
  | some e => .error e
  | none => publish s b

/-- What is done for heartbeats of which some cannot be published. -/
def attempts (fails : Heartbeat → Option ClientError) (beats : List Heartbeat) : List Move :=
  beats.map fun b => .attempt b (fails b)

/-- What is in the way of a node. -/
def refusal (c : Coordination) (_ : Heartbeat) : Option ClientError :=
  if c.closed then some .closed else none

variable {fails : Heartbeat → Option ClientError} {left : List Heartbeat}

/-- A closed coordination service refuses every node, an open one none. -/
theorem publishAll_refusal (root : String) (c : Coordination) (beats : List Heartbeat) :
    publishAll (failing (refusal c) (publishNode root)) c beats =
      publishAll (publishNode root) c beats := by
  induction beats generalizing c with
  | nil => rfl
  | cons b beats ih =>
    cases hclosed : c.closed with
    | true =>
      have hrefused : publishNode root c b = .error .closed := by
        simp [publishNode, Coordination.create, hclosed]
      have hfails : failing (refusal c) (publishNode root) c b = .error .closed := by
        simp [failing, refusal, hclosed]
      simp only [publishAll, hrefused, hfails]
      exact ih c
    | false =>
      obtain ⟨c', hc'⟩ := Heartbeat.exists_publishNode hclosed root b
      have hfails : failing (refusal c) (publishNode root) c b = .ok c' := by
        simp [failing, refusal, hclosed, hc']
      have hsame : refusal c = refusal c' := by
        funext b'
        simp [refusal, closed_of_publishNode hc']
      simp only [publishAll, hc', hfails]
      rw [hsame]
      exact ih c'

/-- The writer takes the heartbeats that do not fail. -/
theorem publishAll_messages (fails : Heartbeat → Option ClientError) (cw : ChannelWriter)
    (b : Broker) (beats : List Heartbeat) :
    publishAll (failing fails (publishMessage cw)) b beats =
      b.writeAll cw ((beats.filter fun h => (fails h).isNone).map envelope) := by
  induction beats generalizing b with
  | nil => rfl
  | cons h beats ih =>
    cases hfails : fails h with
    | some e =>
      simp only [publishAll, failing, hfails]
      rw [List.filter_cons_of_neg (by simp [hfails])]
      exact ih b
    | none =>
      simp only [publishAll, failing, hfails, publishMessage]
      rw [List.filter_cons_of_pos (by simp [hfails]), List.map_cons]
      exact ih _

/-! ## Going on -/

/-- A reporter goes on by some moves. -/
structure Goes (config : HeartbeatConfig) (machine : Heartbeat.Machine) (s : Reporting)
    (moves : List Move) (t : Reporting) : Prop where
  /-- Steps of the reporter lead from one state to the other. -/
  reaches : Reaches config machine s t
  /-- The moves that were made on the way are the given ones. -/
  moves_eq : t.moves = s.moves ++ moves

theorem goes_nil (config : HeartbeatConfig) (machine : Heartbeat.Machine) (s : Reporting) :
    Goes config machine s [] s := ⟨.refl, (List.append_nil _).symm⟩

theorem Goes.append (h : Goes config machine s moves r) (h' : Goes config machine r more t) :
    Goes config machine s (moves ++ more) t :=
  ⟨h.reaches.trans h'.reaches, by rw [h'.moves_eq, h.moves_eq, List.append_assoc]⟩

theorem Goes.concat {m : Move} (h : Goes config machine s moves r) (hstep : Step config machine r t)
    (hm : t.moves = r.moves ++ [m]) : Goes config machine s (moves ++ [m]) t :=
  ⟨h.reaches.tail hstep, by rw [hm, h.moves_eq, List.append_assoc]⟩

theorem Goes.of_step {m : Move} (hstep : Step config machine s t) (hm : t.moves = s.moves ++ [m]) :
    Goes config machine s [m] t := ⟨.single hstep, hm⟩

/-- One heartbeat is published as a node, or it fails. -/
theorem exists_step_node (machine : Heartbeat.Machine) {b : Heartbeat}
    (htransport : config.transport = .coordination) (hstage : s.stage = .publishing (b :: left))
    (hopen : fails b = none → s.coordination.closed = false) :
    ∃ r, Step config machine s r ∧ r.stage = .publishing left ∧
      r.moves = s.moves ++ attempts fails [b] ∧
      r.coordination = publishAll (failing fails (publishNode config.root)) s.coordination [b] ∧
      r.coordination.closed = s.coordination.closed ∧ r.written = s.written := by
  cases hfails : fails b with
  | some e =>
    refine ⟨_, .fail e hstage, rfl, ?_, ?_, rfl, rfl⟩
    · simp [Reporting.after, attempts, hfails]
    · simp [Reporting.after, publishAll, failing, hfails]
  | none =>
    obtain ⟨c, hc⟩ := Heartbeat.exists_publishNode (hopen hfails) config.root b
    have hpublish : publish config s b = .ok { s with coordination := c } := by
      simp only [publish, htransport, hc]
      rfl
    refine ⟨_, .succeed hstage hpublish, rfl, ?_, ?_, closed_of_publishNode hc, rfl⟩
    · simp [Reporting.after, attempts, hfails]
    · simp [Reporting.after, publishAll, failing, hfails, hc]

/-- Heartbeats are published as nodes one after another, but for those that fail. -/
theorem exists_goes_nodes (machine : Heartbeat.Machine)
    (htransport : config.transport = .coordination) (hstage : s.stage = .publishing left)
    (hopen : ∀ b, fails b = none → s.coordination.closed = false) :
    ∃ t, Goes config machine s (attempts fails left) t ∧ t.stage = .publishing [] ∧
      t.coordination =
        publishAll (failing fails (publishNode config.root)) s.coordination left ∧
      t.written = s.written := by
  induction left generalizing s with
  | nil => exact ⟨s, goes_nil config machine s, hstage, rfl, rfl⟩
  | cons b left ih =>
    obtain ⟨r, hstep, hr, hmoves, hnode, hclosed, hkept⟩ :=
      exists_step_node machine htransport hstage (hopen b)
    obtain ⟨t, hgoes, ht, hnodes, hwritten⟩ := ih hr (by rwa [hclosed])
    refine ⟨t, (Goes.of_step hstep hmoves).append hgoes, ht, ?_, hwritten.trans hkept⟩
    rw [hnodes, hnode, ← publishAll_append]
    rfl

/-- One heartbeat is given to the writer, or it fails. -/
theorem exists_step_message (machine : Heartbeat.Machine) {b : Heartbeat}
    (htransport : config.transport = .eventLog) (fails : Heartbeat → Option ClientError)
    (hstage : s.stage = .publishing (b :: left)) :
    ∃ r, Step config machine s r ∧ r.stage = .publishing left ∧
      r.moves = s.moves ++ attempts fails [b] ∧ r.coordination = s.coordination ∧
      r.written = s.written ++ ([b].filter fun b => (fails b).isNone).map envelope := by
  cases hfails : fails b with
  | some e =>
    refine ⟨_, .fail e hstage, rfl, ?_, rfl, ?_⟩
    · simp [Reporting.after, attempts, hfails]
    · simp [Reporting.after, hfails]
  | none =>
    have hpublish : publish config s b = .ok { s with written := s.written ++ [envelope b] } := by
      simp only [publish, htransport]
    refine ⟨_, .succeed hstage hpublish, rfl, ?_, rfl, ?_⟩
    · simp [Reporting.after, attempts, hfails]
    · simp [Reporting.after, hfails]

/-- Heartbeats are given to the writer one after another, but for those that fail. -/
theorem exists_goes_messages (machine : Heartbeat.Machine)
    (htransport : config.transport = .eventLog) (fails : Heartbeat → Option ClientError)
    (hstage : s.stage = .publishing left) :
    ∃ t, Goes config machine s (attempts fails left) t ∧ t.stage = .publishing [] ∧
      t.coordination = s.coordination ∧
      t.written = s.written ++ (left.filter fun b => (fails b).isNone).map envelope := by
  induction left generalizing s with
  | nil => exact ⟨s, goes_nil config machine s, hstage, rfl, (List.append_nil _).symm⟩
  | cons b left ih =>
    obtain ⟨r, hstep, hr, hmoves, hsame, hone⟩ :=
      exists_step_message machine htransport fails hstage
    obtain ⟨t, hgoes, ht, hnodes, hwritten⟩ := ih hr
    refine ⟨t, (Goes.of_step hstep hmoves).append hgoes, ht, hnodes.trans hsame, ?_⟩
    rw [hwritten, hone, List.append_assoc, ← List.map_append, ← List.filter_append]
    rfl

/-! ## Ticks -/

/-- The time of the worker fits a heartbeat. -/
def Clocked (w : Worker J) : Prop := w.now * 1000000 < Nat.pow 2 Heartbeat.timestampWidth

instance (w : Worker J) : Decidable (Clocked w) := inferInstanceAs (Decidable (_ < _))

/-- What a worker publishes through: nothing but the coordination service, or the writer at this
place. -/
inductive Holds (config : HeartbeatConfig) (b : Broker) : Option ℕ → Prop
  /-- Nodes need no writer. -/
  | nodes (htransport : config.transport = .coordination) : Holds config b none
  /-- Messages go through a writer. -/
  | messages (htransport : config.transport = .eventLog) {place : ℕ} {cw : ChannelWriter}
      (hwriter : b.writer? place = some cw) : Holds config b (some place)

/-- Why a worker cannot publish a heartbeat, through nothing but the coordination service or
through a writer: a closed service refuses every node, and a writer takes every envelope. -/
def refuses (w : Worker J) : Option ℕ → Heartbeat → Option ClientError
  | none => refusal w.coordination
  | some _ => fun _ => none

/-- The tick that a worker has now, with the applications that it serves by now. -/
def tickNow (w : Worker J) (hclock : Clocked w) : Tick :=
  ⟨w.dispatcher.factory.served, w.now * 1000000, hclock⟩

/-- What happens when a tick comes to a worker: each heartbeat of the moment is attempted once, in
order, and is published unless something is in its way. -/
def tickMoves (config : HeartbeatConfig) (writer : Option ℕ) (w : Worker J) (hclock : Clocked w) :
    List Move :=
  .tick (tickNow w hclock) ::
    attempts (refuses w writer) ((tickNow w hclock).beats w.machine config.host)

/-- A reporter has had the tick that a worker has now. -/
structure Ticked (config : HeartbeatConfig) (writer : Option ℕ) (w : Worker J) (hclock : Clocked w)
    (s t : Reporting) : Prop where
  /-- The reporter waits again. -/
  stage : t.stage = .publishing []
  /-- The tick came to the reporter, and each heartbeat of this moment was attempted. -/
  goes : Goes config w.machine s (tickMoves config writer w hclock) t
  /-- The worker has the nodes of the reporter, its broker has got what the writer has taken, its
  trace has got the attempts, and nothing else of the worker has changed. -/
  worker : ∃ envelopes, t.written = s.written ++ envelopes ∧
    Loop.tick config writer w = { w with
      coordination := t.coordination
      broker := w.broker.writeAt writer envelopes
      trace := w.trace ++ (tickMoves config writer w hclock).flatMap (Move.events config) }
  /-- A writer that was there is still there. -/
  holds : Holds config (Loop.tick config writer w).broker writer

theorem Ticked.coordination {hclock : Clocked w} (h : Ticked config writer w hclock s t) :
    t.coordination = (Loop.tick config writer w).coordination := by
  obtain ⟨envelopes, -, htick⟩ := h.worker
  rw [htick]

/-- The effects of heartbeats that are to be published. -/
theorem events_attempts (fails : Heartbeat → Option ClientError) (beats : List Heartbeat) :
    (attempts fails beats).flatMap (Move.events config) =
      match config.transport with
      | .coordination => (nodeEvents config.root beats : List (Event J))
      | .eventLog => [] := by
  cases htransport : config.transport with
  | coordination =>
    simp only [attempts, List.flatMap_map, Move.events, htransport, nodeEvents]
    exact List.map_eq_flatMap.symm
  | eventLog => simp [attempts, List.flatMap_map, Move.events, htransport]

/-- A tick of a worker is a tick of a reporter. -/
theorem exists_ticked (hholds : Holds config w.broker writer) (hclock : Clocked w)
    (hstage : s.stage = .publishing []) (hcoordination : s.coordination = w.coordination) :
    ∃ t, Ticked config writer w hclock s t := by
  have hbeats : (tickNow w hclock).beats w.machine config.host = w.heartbeats config.host := rfl
  have htick : Step config w.machine s _ := .tick (tickNow w hclock) hstage
  cases hholds with
  | nodes htransport =>
    have hopen : ∀ b, refuses w none b = none → s.coordination.closed = false := by
      intro b hb
      rw [hcoordination]
      simpa [refuses, refusal] using hb
    obtain ⟨t, hgoes, ht, hnodes, hwritten⟩ :=
      exists_goes_nodes w.machine htransport (s := Reporting.after _ _ _) rfl hopen
    refine ⟨t, ht, (Goes.of_step htick rfl).append hgoes,
      ⟨[], hwritten.trans (List.append_nil _).symm, ?_⟩, .nodes htransport⟩
    have htrace : (tickMoves config none w hclock).flatMap (Move.events config) =
        (nodeEvents config.root (w.heartbeats config.host) : List (Event J)) := by
      rw [tickMoves, List.flatMap_cons, events_attempts, htransport, hbeats]
      rfl
    rw [htrace, hnodes, hbeats]
    simp only [Reporting.after, hcoordination, refuses, publishAll_refusal]
    rfl
  | @messages htransport place cw hwriter =>
    obtain ⟨t, hgoes, ht, hnodes, hwritten⟩ := exists_goes_messages w.machine htransport
      (refuses w (some place)) (s := Reporting.after _ _ _) rfl
    have htrace : (tickMoves config (some place) w hclock).flatMap (Move.events (J := J) config) =
        [] := by
      rw [tickMoves, List.flatMap_cons, events_attempts, htransport]
      rfl
    have hbroker : Loop.tick config (some place) w = { w with
        broker := w.broker.writeAll cw ((w.heartbeats config.host).map envelope) } := by
      have hnone := publishAll_messages (fun _ => none) cw w.broker (w.heartbeats config.host)
      simp only [Option.isNone_none, List.filter_true] at hnone
      rw [← hnone]
      simp only [Loop.tick, hwriter]
      rfl
    refine ⟨t, ht, (Goes.of_step htick rfl).append hgoes, ⟨_, hwritten, ?_⟩, ?_⟩
    · have hsame : t.coordination = w.coordination := hnodes.trans hcoordination
      rw [hbroker, htrace, hsame]
      simp [Broker.writeAt, refuses, hwriter, hbeats]
    · have hkept : (Loop.tick config (some place) w).broker.writer? place = some cw := by
        rw [hbroker, Broker.writer?_writeAll]
        exact hwriter
      exact .messages htransport hkept

/-! ## The loop of a worker -/

/-- A loop of a worker stands where a reporter stands. -/
inductive Shows (config : HeartbeatConfig) (b : Broker) : LoopState → Stage → Prop
  /-- A loop that waits for the next tick is a reporter with nothing left to attempt. -/
  | waiting {writer : Option ℕ} (hholds : Holds config b writer) (due : ℕ) (previous : Option ℕ) :
      Shows config b (.active (.ticking writer due) previous) (.publishing [])
  /-- A loop that has ended is a reporter that has ended with the same result. -/
  | finished (result : Except Exit Unit) : Shows config b (.finished result) (.finished result)

/-- A loop of a worker is a reporter. -/
structure Plays (config : HeartbeatConfig) (l : Loop) (w : Worker J) (s : Reporting) : Prop where
  /-- The loop is one that reports. -/
  duty : l.duty = .report config
  /-- The loop stands where the reporter stands. -/
  state : Shows config w.broker l.state s.stage
  /-- The worker has the nodes that the reporter has. -/
  coordination : s.coordination = w.coordination

/-- Where a loop that makes one attempt stands when it has begun. -/
def begun : Except Exit Activity → LoopState
  | .ok activity => .active activity none
  | .error e => .finished (.error e)

theorem begin_report (config : HeartbeatConfig) (w : Worker J) :
    Loop.begin (.report config) none false w =
      (⟨.report config, none, begun (Loop.beginReport config w).1⟩,
        (Loop.beginReport config w).2) := by
  have honce : ∀ state : LoopState, Loop.attemptOnce ⟨.report config, none, state⟩ none w =
      (⟨.report config, none, begun (Loop.beginReport config w).1⟩,
        (Loop.beginReport config w).2) := by
    intro state
    unfold Loop.attemptOnce
    dsimp only
    cases (Loop.beginReport config w).1 <;> rfl
  unfold Loop.begin Loop.attempt
  simp only [Bool.false_eq_true, if_false]
  cases w.outage.opens.length with
  | zero => exact honce _
  | succ more =>
    rw [Loop.attemptUpTo, honce]
    -- a loop without delays does not rest
    cases (Loop.beginReport config w).1 <;> rfl

/-- To ask for a writer changes nothing but the broker, and a writer that is given is there. -/
theorem makeWriter_spec (w : Worker J) (topic key : String) :
    ∃ result b, w.makeWriter topic key =
        (result, { w.log [.writerMade topic key] with broker := b }) ∧
      ∀ place, result = .ok place → ∃ cw, b.writer? place = some cw := by
  unfold Worker.makeWriter
  dsimp only
  split
  · exact ⟨_, _, rfl, nofun⟩
  · refine ⟨_, _, rfl, fun place hplace => ?_⟩
    revert hplace
    unfold Broker.makeWriter
    dsimp only
    split
    · exact nofun
    · split
      · exact nofun
      · rename_i channel _
        rintro ⟨⟩
        exact ⟨⟨channel, key⟩, by simp [Broker.writer?, Worker.log]⟩

/-- How a loop begins that makes one attempt at reporting: what happens, where the loop stands
then, and the broker by then, if the new writer has taken some envelopes. -/
inductive Begins (config : HeartbeatConfig) (w : Worker J) (hclock : Clocked w)
    (written : List Envelope) : Bool → List Move → LoopState → Broker → Prop
  /-- A loop that was cancelled before does nothing. -/
  | refused : Begins config w hclock written true [.cancel, .refuse]
      (.finished (.error .canceled)) w.broker
  /-- A loop that publishes nodes ticks at once. -/
  | nodes (htransport : config.transport = .coordination) :
      Begins config w hclock written false (.enter :: tickMoves config none w hclock)
        (.active (.ticking none (w.now + config.intervalMs)) none) w.broker
  /-- A loop that gets no writer has ended. -/
  | denied (htransport : config.transport = .eventLog) {e : ClientError}
      (hmade : (w.makeWriter config.topic config.topic).1 = .error e) :
      Begins config w hclock written false [.ask (some e)] (.finished (.error (writerFailed e)))
        (w.makeWriter config.topic config.topic).2.broker
  /-- A loop that gets a writer starts it and ticks at once, through this writer. -/
  | messages (htransport : config.transport = .eventLog) {place : ℕ} {cw : ChannelWriter}
      (hmade : (w.makeWriter config.topic config.topic).1 = .ok place)
      (hwriter : (w.makeWriter config.topic config.topic).2.broker.writer? place = some cw) :
      Begins config w hclock written false
        (.ask none :: .start :: tickMoves config (some place) w hclock)
        (.active (.ticking (some place) (w.now + config.intervalMs)) none)
        ((w.makeWriter config.topic config.topic).2.broker.writeAll cw written)

/-- A loop of a worker has begun to report as a reporter has. -/
structure Began (config : HeartbeatConfig) (w : Worker J) (hclock : Clocked w) (cancelled : Bool)
    (result : Loop × Worker J) (moves : List Move) (t : Reporting) : Prop where
  /-- The reporter has begun with the coordination service of the worker, by these moves. -/
  goes : Goes config w.machine { coordination := w.coordination } moves t
  /-- The moves of the reporter are those with which the loop begins, and lead to where the loop
  stands. -/
  begins : Begins config w hclock t.written cancelled moves result.1.state result.2.broker
  /-- The loop is the reporter. -/
  plays : Plays config result.1 result.2 t
  /-- The effects of the moves are what the worker has done. -/
  trace : result.2.trace = w.trace ++ moves.flatMap (Move.events config)
  /-- The jobs of the worker are left alone. -/
  dispatcher : result.2.dispatcher = w.dispatcher

/-- A loop that publishes nodes begins as a reporter does. -/
theorem exists_began_nodes (htransport : config.transport = .coordination) (w : Worker J)
    (hclock : Clocked w) :
    ∃ t moves, Began config w hclock false (Loop.begin (.report config) none false w) moves t := by
  have hbegin : Loop.beginReport config w =
      (.ok (.ticking none (w.now + config.intervalMs)), Loop.tick config none w) := by
    simp only [Loop.beginReport, htransport]
  obtain ⟨r, hr, hsame, henter⟩ : ∃ r, r.stage = .publishing [] ∧
      r.coordination = w.coordination ∧ Goes config w.machine _ _ r :=
    ⟨_, rfl, rfl, (goes_nil config w.machine { coordination := w.coordination }).concat
      (.enter rfl rfl htransport) rfl⟩
  obtain ⟨t, hticked⟩ := exists_ticked (.nodes htransport) hclock hr hsame
  obtain ⟨envelopes, -, htick⟩ := hticked.worker
  rw [begin_report, hbegin]
  refine ⟨t, _, henter.append hticked.goes, ?_, ⟨rfl, ?_, hticked.coordination⟩, ?_, ?_⟩
  · rw [htick]
    exact .nodes htransport
  · rw [hticked.stage]
    exact .waiting hticked.holds _ _
  · rw [htick]
    rfl
  · rw [htick]

/-- A loop that gets no writer ends as a reporter does. -/
theorem exists_began_denied (htransport : config.transport = .eventLog) (w : Worker J)
    (hclock : Clocked w) {e : ClientError}
    (hasked : (w.makeWriter config.topic config.topic).1 = .error e) :
    ∃ t moves, Began config w hclock false (Loop.begin (.report config) none false w) moves t := by
  obtain ⟨result, b, hmade, -⟩ := makeWriter_spec w config.topic config.topic
  obtain rfl : result = .error e := by rwa [hmade] at hasked
  have hbegin : Loop.beginReport config w =
      (.error (writerFailed e), (w.makeWriter config.topic config.topic).2) := by
    simp only [Loop.beginReport, htransport, hmade]
  have hdenied := (goes_nil config w.machine { coordination := w.coordination }).concat
    (.denied e rfl rfl htransport) rfl
  rw [begin_report, hbegin]
  refine ⟨_, _, hdenied, .denied htransport hasked, ⟨rfl, .finished _, ?_⟩, ?_, ?_⟩
  · rw [hmade]
    rfl
  · rw [hmade]
    rfl
  · rw [hmade]
    rfl

/-- A loop that gets a writer starts it, and then ticks through it. -/
theorem exists_started (htransport : config.transport = .eventLog) (w : Worker J) {place : ℕ}
    (hasked : (w.makeWriter config.topic config.topic).1 = .ok place) :
    ∃ (started : Worker J) (cw : ChannelWriter),
      started = { w with
        broker := (w.makeWriter config.topic config.topic).2.broker
        trace := w.trace ++ [.writerMade config.topic config.topic, .writerStarted] } ∧
      started.broker.writer? place = some cw ∧
      Loop.beginReport config w = (.ok (.ticking (some place) (w.now + config.intervalMs)),
        Loop.tick config (some place) started) := by
  obtain ⟨result, b, hmade, hwriter⟩ := makeWriter_spec w config.topic config.topic
  obtain rfl : result = .ok place := by rwa [hmade] at hasked
  obtain ⟨cw, hcw⟩ := hwriter place rfl
  refine ⟨_, cw, rfl, by rwa [hmade], ?_⟩
  simp only [Loop.beginReport, htransport, hmade, Worker.log, List.append_assoc]
  rfl

/-- A loop that gets a writer begins as a reporter does. -/
theorem exists_began_messages (htransport : config.transport = .eventLog) (w : Worker J)
    (hclock : Clocked w) {place : ℕ}
    (hasked : (w.makeWriter config.topic config.topic).1 = .ok place) :
    ∃ t moves, Began config w hclock false (Loop.begin (.report config) none false w) moves t := by
  obtain ⟨started, cw, hstarted, hwriter, hbegin⟩ := exists_started htransport w hasked
  -- a tick finds all it needs as it was before the writer was made
  have hready : Clocked started := by rwa [hstarted]
  have hmoves : tickMoves config (some place) started hready =
      tickMoves config (some place) w hclock := by
    subst hstarted
    rfl
  obtain ⟨r, hr, hsame, hnone, hstart⟩ : ∃ r, r.stage = .publishing [] ∧
      r.coordination = started.coordination ∧ r.written = [] ∧
      Goes config started.machine { coordination := w.coordination } [.ask none, .start] r := by
    rw [hstarted]
    exact ⟨_, rfl, rfl, rfl, ((goes_nil config w.machine { coordination := w.coordination }).concat
      (.ask rfl rfl htransport) rfl).concat (.start rfl) rfl⟩
  obtain ⟨t, hticked⟩ := exists_ticked (.messages htransport hwriter) hready hr hsame
  obtain ⟨envelopes, hwritten, htick⟩ := hticked.worker
  have hgoes := hstart.append hticked.goes
  rw [hnone, List.nil_append] at hwritten
  rw [hmoves] at htick hgoes
  have hbroker : (Loop.tick config (some place) started).broker =
      started.broker.writeAll cw t.written := by
    rw [htick, hwritten]
    simp [Broker.writeAt, hwriter]
  rw [begin_report, hbegin]
  refine ⟨t, _, by rwa [hstarted] at hgoes, ?_, ⟨rfl, ?_, hticked.coordination⟩, ?_, ?_⟩
  · rw [hbroker]
    rw [hstarted] at hwriter ⊢
    exact .messages htransport hasked hwriter
  · rw [hticked.stage]
    exact .waiting hticked.holds _ _
  · rw [htick, hstarted]
    simp [Move.events]
  · rw [htick, hstarted]

/-- A loop begins as a reporter does. -/
theorem exists_began (config : HeartbeatConfig) (w : Worker J) (cancelled : Bool)
    (hclock : Clocked w) :
    ∃ t moves,
      Began config w hclock cancelled (Loop.begin (.report config) none cancelled w) moves t := by
  cases cancelled with
  | true =>
    have hrefuse := ((goes_nil config w.machine { coordination := w.coordination }).concat
      .cancel rfl).concat (.refuse rfl rfl) rfl
    exact ⟨_, _, hrefuse, .refused, ⟨rfl, .finished _, rfl⟩, (List.append_nil _).symm, rfl⟩
  | false =>
    cases htransport : config.transport with
    | coordination => exact exists_began_nodes htransport w hclock
    | eventLog =>
      cases hasked : (w.makeWriter config.topic config.topic).1 with
      | error e => exact exists_began_denied htransport w hclock hasked
      | ok place => exact exists_began_messages htransport w hclock hasked

/-- A loop ticks as a reporter does, and waits for its next tick. -/
theorem exists_plays_fire (h : Plays config l w s) (hdue : l.due? = some w.now)
    (hclock : Clocked w) :
    ∃ t writer previous, l.state = .active (.ticking writer w.now) previous ∧
      Ticked config writer w hclock s t ∧ Plays config (l.fire w).1 (l.fire w).2 t ∧
      (l.fire w).1.state = .active (.ticking writer (w.now + config.intervalMs)) previous ∧
      (l.fire w).2 = Loop.tick config writer w := by
  obtain ⟨hduty, hstate, hcoordination⟩ := h
  obtain ⟨duty, backoff, state⟩ := l
  dsimp only at hduty hstate
  subst hduty
  generalize hstage : s.stage = stage at hstate
  cases hstate with
  | @waiting writer hholds due previous =>
    obtain ⟨t, hticked⟩ := exists_ticked hholds hclock hstage hcoordination
    have hfire : Loop.fire ⟨.report config, backoff, .active (.ticking writer due) previous⟩ w =
        (⟨.report config, backoff, .active (.ticking writer (due + config.intervalMs)) previous⟩,
          Loop.tick config writer w) := by
      simp only [Loop.fire, hdue]
      exact if_neg (not_not_intro rfl)
    obtain rfl : due = w.now := Option.some.inj hdue
    rw [hfire]
    refine ⟨t, _, previous, rfl, hticked, ⟨rfl, ?_, hticked.coordination⟩, rfl, rfl⟩
    rw [hticked.stage]
    exact .waiting hticked.holds _ previous
  | finished result => cases hdue

/-- What happens when a reporter is cancelled that waits, or has ended. -/
def lastMoves : Stage → List Move
  | .finished _ => []
  | _ => [.cancel, .leave]

/-- A loop ends as a reporter does, and nothing more is sent. -/
theorem exists_plays_cancel (h : Plays config l w s) :
    ∃ t, Goes config machine s (lastMoves s.stage) t ∧
      Plays config (l.cancel w).1 (l.cancel w).2 t ∧
      (l.cancel w).2.trace = w.trace ++ (lastMoves s.stage).flatMap (Move.events config) ∧
      (l.cancel w).2.broker.sent = w.broker.sent ∧
      t.written = s.written ∧ ∃ result, t.stage = .finished result := by
  obtain ⟨hduty, hstate, hcoordination⟩ := h
  obtain ⟨duty, backoff, state⟩ := l
  dsimp only at hduty hstate
  generalize hstage : s.stage = stage at hstate
  have hcancel := (goes_nil config machine s).concat .cancel rfl
  cases hstate with
  | waiting hholds due previous =>
    have hleave := hcancel.concat (.leave hstage rfl) rfl
    cases hholds with
    | nodes htransport =>
      refine ⟨_, hleave, ⟨hduty, .finished _, hcoordination⟩, ?_, rfl, rfl, _, rfl⟩
      simp [lastMoves, Loop.cancel, Loop.letGo, Move.events, htransport]
    | messages htransport hwriter =>
      refine ⟨_, hleave, ⟨hduty, .finished _, hcoordination⟩, ?_, rfl, rfl, _, rfl⟩
      simp [lastMoves, Loop.cancel, Loop.letGo, Move.events, htransport, Worker.log]
  | finished result =>
    refine ⟨s, goes_nil config machine s, ⟨hduty, ?_, hcoordination⟩,
      (List.append_nil _).symm, rfl, rfl, result, hstage⟩
    rw [hstage]
    exact .finished result

/-- **Heartbeats.**  What is true of a reporter wherever it stands, whatever cannot be published
and whenever it is cancelled (`Reported`).  The heartbeats of a tick are those of the applications
that are served by then, in the order of the bytes of their names, and different applications of
the worker have different nodes.  An envelope has the heartbeat as its one record and tells its
host and its application; whoever reads the channel of the writer gets it.  Whichever heartbeats
fail, `publishAll` attempts all of them as such a reporter does.

And a loop of a worker is such a reporter.  It begins and ticks at once unless it was cancelled
before (`Began`); whenever a tick is due it attempts each heartbeat of this moment once, and none
of them fails unless the coordination service is closed that is to hold it (`Ticked`); and when it
is cancelled it stops its writer and ends. -/
theorem reports (config : HeartbeatConfig) (machine : Heartbeat.Machine)
    (hcpus : machine.cpuCount < Nat.pow 2 Heartbeat.cpuWidth) (c : Coordination) :
    (∀ s, Reaches config machine { coordination := c } s → Reported config machine c s) ∧
    (∀ t : Tick, (t.beats machine config.host).map Heartbeat.app = t.served.keys ∧
      (t.served.keys.map bytesOf).Pairwise (· < ·)) ∧
    (∀ app app', Heartbeat.nodePath config.root config.host app =
      Heartbeat.nodePath config.root config.host app' ↔ app = app') ∧
    (∀ b, (envelope b).records = [b.encode] ∧ (envelope b).meta? Setting.host = some b.host ∧
      (envelope b).meta? Setting.app = some b.app) ∧
    (∀ (b : Broker) (cw : ChannelWriter) (es : List Envelope), b.readerCount cw.channel ≠ 0 →
      cw.channel < b.sent.length → (b.writeAll cw es).sentTo cw.channel =
        b.sentTo cw.channel ++ es.map (·.withMeta Setting.writerKey cw.key)) ∧
    (∀ (s : Reporting) (left : List Heartbeat) (fails : Heartbeat → Option ClientError),
      s.stage = .publishing left →
      (config.transport = .coordination →
        (∀ b, fails b = none → s.coordination.closed = false) →
        ∃ t, Goes config machine s (attempts fails left) t ∧ t.stage = .publishing [] ∧
          t.coordination =
            publishAll (failing fails (publishNode config.root)) s.coordination left) ∧
      (config.transport = .eventLog →
        ∃ t es, Goes config machine s (attempts fails left) t ∧ t.stage = .publishing [] ∧
          t.written = s.written ++ es ∧ ∀ (b : Broker) (cw : ChannelWriter),
            publishAll (failing fails (publishMessage cw)) b left = b.writeAll cw es)) ∧
    (∀ (w : Worker J) (cancelled : Bool) (hclock : Clocked w), ∃ t moves,
      Began config w hclock cancelled (Loop.begin (.report config) none cancelled w) moves t) ∧
    ∀ (l : Loop) (w : Worker J) (s : Reporting), Plays config l w s →
      (∀ hclock : Clocked w, l.due? = some w.now →
        ∃ t writer previous, l.state = .active (.ticking writer w.now) previous ∧
          Ticked config writer w hclock s t ∧ Plays config (l.fire w).1 (l.fire w).2 t ∧
          (l.fire w).1.state = .active (.ticking writer (w.now + config.intervalMs)) previous ∧
          (l.fire w).2 = Loop.tick config writer w) ∧
      ∃ t, Goes config machine s (lastMoves s.stage) t ∧
        Plays config (l.cancel w).1 (l.cancel w).2 t ∧
        (l.cancel w).2.trace = w.trace ++ (lastMoves s.stage).flatMap (Move.events config) ∧
        (l.cancel w).2.broker.sent = w.broker.sent ∧
        t.written = s.written ∧ ∃ result, t.stage = .finished result := by
  refine ⟨fun s => reported_of_reaches hcpus, fun t => ⟨t.apps_beats config.host, t.ordered⟩,
    fun _ _ => Heartbeat.nodePath_inj_app, envelope_spec,
    fun _ _ es hcount hlt => Broker.sentTo_writeAll hcount hlt es, ?_, ?_, ?_⟩
  · intro s left fails hstage
    refine ⟨fun htransport hopen => ?_, fun htransport => ?_⟩
    · obtain ⟨t, hgoes, ht, hnodes, -⟩ := exists_goes_nodes machine htransport hstage hopen
      exact ⟨t, hgoes, ht, hnodes⟩
    · obtain ⟨t, hgoes, ht, -, hwritten⟩ := exists_goes_messages machine htransport fails hstage
      exact ⟨t, _, hgoes, ht, hwritten, fun b cw => publishAll_messages fails cw b left⟩
  · exact fun w cancelled hclock => exists_began config w cancelled hclock
  · exact fun l w s h =>
      ⟨fun hclock hdue => exists_plays_fire h hdue hclock, exists_plays_cancel h⟩

/-- One of two applications is published at the first tick, the other one at the second, and
one has a mark in its name: both have their nodes.  And a worker that serves an application begins
to report it: its node is there at once, and the worker ticks again after a while. -/
theorem reports_after_failures :
    let config : HeartbeatConfig := { host := "h1", root := "/h/" }
    let machine : Heartbeat.Machine := ⟨"linux", 4⟩
    let first : Heartbeat := ⟨"h1", "linux", "a!b", 4, 1⟩
    let second : Heartbeat := ⟨"h1", "linux", "c", 4, 2⟩
    let third : Heartbeat := ⟨"h1", "linux", "c", 4, 1000000⟩
    let w : Worker String :=
      { dispatcher := { host := "h1", factory := { served := KeyMap.ofList [("c", ())] } }
        broker := { capacity := 1 }, machine, now := 1 }
    let begun := Loop.begin (.report config) none false w
    (∃ s, Reaches config machine { coordination := {} } s ∧ s.stage = .finished (.ok ()) ∧
      s.coordination.get? "/h/h1!a!b" = some ⟨first.encode, true⟩ ∧
      s.coordination.get? "/h/h1!c" = some ⟨second.encode, true⟩ ∧
      Heartbeat.decode? first.encode = some first) ∧
    ∃ t, Plays config begun.1 begun.2 t ∧ t.stage = .publishing [] ∧
      begun.1.due? = some (1 + config.intervalMs) ∧
      begun.2.coordination.get? "/h/h1!c" = some ⟨third.encode, true⟩ := by
  intro config machine first second third w begun
  obtain ⟨hreported, -, -, -, -, -, hbegin, -⟩ :=
    reports (J := String) config machine (by decide) {}
  refine ⟨?_, ?_⟩
  · let apps : KeyMap Unit := KeyMap.ofList [("c", ()), ("a!b", ())]
    have hrun : Reaches config machine { coordination := {} } _ :=
      .tail (.tail (.tail (.tail (.tail (.tail (.tail (.tail (.tail .refl
        (.enter rfl rfl rfl)) (.tick ⟨apps, 1, by decide⟩ rfl)) (.succeed rfl rfl))
        (.fail .closed rfl)) (.tick ⟨apps, 2, by decide⟩ rfl)) (.fail .closed rfl))
        (.succeed rfl rfl)) .cancel) (.leave rfl rfl)
    have hfacts := hreported _ hrun
    obtain ⟨-, hnodes⟩ := hfacts.nodes rfl
    refine ⟨_, hrun, rfl, ?_, ?_, ?_⟩
    · exact (hnodes _ _).2 (.inl ⟨first, ⟨[], [second], rfl, by decide⟩, by decide, rfl⟩)
    · exact (hnodes _ _).2 (.inl ⟨second, ⟨[first], [], rfl, nofun⟩, by decide, rfl⟩)
    · exact (hfacts.payload first (by decide)).2
  · have hclock : Clocked w := by decide
    obtain ⟨t, moves, hgoes, hbegins, hplays, -, -⟩ := hbegin w false hclock
    obtain ⟨state, hstate⟩ : ∃ state, begun.1.state = state := ⟨_, rfl⟩
    obtain ⟨b, hb⟩ : ∃ b, begun.2.broker = b := ⟨_, rfl⟩
    have hbegun : Begins config w hclock t.written false moves state b := by
      rw [← hstate, ← hb]
      exact hbegins
    cases hbegun with
    | nodes =>
      have hshows : Shows config begun.2.broker begun.1.state t.stage := hplays.state
      have hcoordination : t.coordination = begun.2.coordination := hplays.coordination
      obtain ⟨-, hnodes⟩ := (hreported t hgoes.reaches).nodes rfl
      rw [hstate] at hshows
      refine ⟨t, hplays, ?_, ?_, ?_⟩
      · generalize t.stage = stage at hshows
        cases hshows
        rfl
      · simp only [Loop.due?, hstate]
        rfl
      · have hmoves : t.moves = .enter :: tickMoves config none w hclock := hgoes.moves_eq
        have hbeats : (tickNow w hclock).beats w.machine config.host = [third] := by
          have happs : w.dispatcher.factory.served.keys = ["c"] := rfl
          simp [Tick.beats, tickNow, Heartbeat.ofApps, happs, config, machine, third, w]
        have hpublished : published t.moves = [] ++ third :: [] := by
          rw [hmoves, tickMoves, hbeats]
          rfl
        rw [← hcoordination]
        exact (hnodes _ _).2 (.inl ⟨third, ⟨[], [], hpublished, nofun⟩, by decide, rfl⟩)
    | denied htransport | messages htransport => cases htransport

end Reporter

end Collector
