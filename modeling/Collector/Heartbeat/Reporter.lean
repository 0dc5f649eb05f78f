import Collector.Broker
import Collector.Coordination
import Collector.Heartbeat.Config
import Collector.Heartbeat.Record
import Collector.Trace

/-!
# Reporting heartbeats

At every tick the reporter of `harvest-heartbeat` publishes one heartbeat for each
application that the worker has built a job for, in order.  One that cannot be published is
left out, and the others still are.

* `Reporter.publishAll` publishes the heartbeats of one tick.
* `Reporter.Step` is one step of a reporter: any heartbeat may fail to be published, and the
  reporter may be cancelled at any moment.

Main statements:

* `Reporter.publishAll_append`: heartbeats are published one after another.
-/

namespace Collector.Reporter

/-- What a reporter is called. -/
def name : String := "harvest-heartbeat"

/-- The exit of a reporter that got no writer. -/
def writerFailed (e : ClientError) : Exit :=
  Exit.ofClient ("failed to create heartbeat writer: " ++ e.message) e

/-! ## One heartbeat -/

/-- Publishes a heartbeat as a node. -/
def publishNode (root : String) (c : Coordination) (h : Heartbeat) :
    Except ClientError Coordination :=
  c.create (Heartbeat.nodePath root h.host h.app) ⟨h.encode, true⟩ true

/-- The envelope of a heartbeat. -/
def envelope (h : Heartbeat) : Envelope :=
  ((Envelope.single h.encode).withMeta Setting.host h.host).withMeta Setting.app h.app

/-- Publishes a heartbeat as a message. -/
def publishMessage (w : ChannelWriter) (b : Broker) (h : Heartbeat) : Except ClientError Broker :=
  .ok (b.write w (envelope h))

/-! ## One tick -/

/-- Publishes heartbeats one after another; one that fails changes nothing. -/
def publishAll {σ : Type} (publish : σ → Heartbeat → Except ClientError σ) :
    σ → List Heartbeat → σ
  | s, [] => s
  | s, h :: hs =>
    match publish s h with
    | .ok s => publishAll publish s hs
    | .error _ => publishAll publish s hs

theorem publishAll_append {σ : Type} (publish : σ → Heartbeat → Except ClientError σ) (s : σ)
    (xs ys : List Heartbeat) :
    publishAll publish s (xs ++ ys) = publishAll publish (publishAll publish s xs) ys := by
  induction xs generalizing s with
  | nil => rfl
  | cons h hs ih =>
    simp only [List.cons_append, publishAll]
    split <;> exact ih _

/-- The effects of publishing heartbeats as nodes. -/
def nodeEvents {J : Type} (root : String) (hs : List Heartbeat) : List (Event J) :=
  hs.map fun h => .nodeCreated (Heartbeat.nodePath root h.host h.app)

/-! ## Steps -/

/-- One tick of a reporter. -/
structure Tick where
  /-- The applications that a job was built for by then. -/
  served : KeyMap Unit
  /-- Nanoseconds since the epoch. -/
  timestamp : Nat
  /-- The clock counts so far. -/
  fits : timestamp < Nat.pow 2 Heartbeat.timestampWidth

/-- The heartbeats of a tick. -/
def Tick.beats (machine : Heartbeat.Machine) (host : String) (t : Tick) : List Heartbeat :=
  Heartbeat.ofApps machine host t.served.keys t.timestamp

/-- Where a reporter stands. -/
inductive Stage where
  /-- The reporter has not begun. -/
  | fresh
  /-- The reporter has got its writer, and has not started it. -/
  | starting
  /-- The reporter publishes the heartbeats of a tick, of which some are left; or it waits, if none
  is. -/
  | publishing (left : List Heartbeat)
  /-- The reporter has ended. -/
  | finished (result : Except Exit Unit)

/-- What a reporter does, or what is done to it. -/
inductive Move where
  /-- The reporter is cancelled. -/
  | cancel
  /-- The reporter was cancelled before it began, and ends. -/
  | refuse
  /-- The reporter begins, with no writer. -/
  | enter
  /-- The reporter asks the broker for a writer, which may be refused. -/
  | ask (refusal : Option ClientError)
  /-- The reporter starts its writer. -/
  | start
  /-- A tick comes. -/
  | tick (t : Tick)
  /-- The reporter tries to publish a heartbeat, which may fail. -/
  | attempt (h : Heartbeat) (failure : Option ClientError)
  /-- The reporter stops its writer if it has one, and ends. -/
  | leave

/-- A reporter and what it works on. -/
structure Reporting where
  /-- Where the reporter stands. -/
  stage : Stage := .fresh
  /-- Whether the reporter was cancelled. -/
  cancelled : Bool := false
  /-- The coordination service. -/
  coordination : Coordination
  /-- The envelopes that the writer has taken. -/
  written : List Envelope := []
  /-- What the reporter has done and what was done to it, in order. -/
  moves : List Move := []

/-- The reporter after a move. -/
def Reporting.after (s : Reporting) (m : Move) (stage : Stage) : Reporting :=
  { s with stage, moves := s.moves ++ [m] }

/-- A heartbeat is published. -/
def publish (config : HeartbeatConfig) (s : Reporting) (h : Heartbeat) :
    Except ClientError Reporting :=
  match config.transport with
  | .coordination =>
    (publishNode config.root s.coordination h).map fun coordination => { s with coordination }
  | .eventLog => .ok { s with written := s.written ++ [envelope h] }

/-- One step of a reporter. -/
inductive Step (config : HeartbeatConfig) (machine : Heartbeat.Machine) (s : Reporting) :
    Reporting → Prop
  /-- The reporter may be cancelled at any moment. -/
  | cancel : Step config machine s { s.after .cancel s.stage with cancelled := true }
  /-- The reporter was cancelled before it began. -/
  | refuse (hstage : s.stage = .fresh) (hcancelled : s.cancelled = true) :
      Step config machine s (s.after .refuse (.finished (.error .canceled)))
  /-- The reporter is to publish nodes, and needs no writer. -/
  | enter (hstage : s.stage = .fresh) (hcancelled : s.cancelled = false)
      (htransport : config.transport = .coordination) :
      Step config machine s (s.after .enter (.publishing []))
  /-- The reporter asks for a writer and gets none. -/
  | denied (e : ClientError) (hstage : s.stage = .fresh) (hcancelled : s.cancelled = false)
      (htransport : config.transport = .eventLog) :
      Step config machine s (s.after (.ask (some e)) (.finished (.error (writerFailed e))))
  /-- The reporter asks for a writer and gets one. -/
  | ask (hstage : s.stage = .fresh) (hcancelled : s.cancelled = false)
      (htransport : config.transport = .eventLog) :
      Step config machine s (s.after (.ask none) .starting)
  /-- The reporter starts its writer. -/
  | start (hstage : s.stage = .starting) :
      Step config machine s (s.after .start (.publishing []))
  /-- A tick comes; the reporter may have been cancelled in the same moment. -/
  | tick (t : Tick) (hstage : s.stage = .publishing []) :
      Step config machine s (s.after (.tick t) (.publishing (t.beats machine config.host)))
  /-- A heartbeat is published. -/
  | succeed {h : Heartbeat} {left : List Heartbeat} {r : Reporting}
      (hstage : s.stage = .publishing (h :: left)) (hpublish : publish config s h = .ok r) :
      Step config machine s (r.after (.attempt h none) (.publishing left))
  /-- A heartbeat cannot be published. -/
  | fail {h : Heartbeat} {left : List Heartbeat} (e : ClientError)
      (hstage : s.stage = .publishing (h :: left)) :
      Step config machine s (s.after (.attempt h (some e)) (.publishing left))
  /-- The reporter was cancelled while it waited. -/
  | leave (hstage : s.stage = .publishing []) (hcancelled : s.cancelled = true) :
      Step config machine s (s.after .leave (.finished (.ok ())))

/-- The effects of a move. -/
def Move.events {J : Type} (config : HeartbeatConfig) : Move → List (Event J)
  | .cancel | .refuse | .enter | .tick _ => []
  | .ask _ => [.writerMade config.topic config.topic]
  | .start => [.writerStarted]
  | .attempt h _ =>
    match config.transport with
    | .coordination => nodeEvents config.root [h]
    | .eventLog => []
  | .leave =>
    match config.transport with
    | .coordination => []
    | .eventLog => [.writerStopped]

end Collector.Reporter
