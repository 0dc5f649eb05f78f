import Collector.Failure
import Collector.Setting
import Collector.Text.Blank
import Collector.Text.Quoted

/-!
# Settings of the heartbeat reporter

The settings of `harvest-heartbeat`: how often a worker reports, and where to: a node of
the coordination service for each application, or a message on the stats topic.
-/

namespace Collector

/-- Where heartbeats are published. -/
inductive Transport where
  /-- A node of the coordination service. -/
  | coordination
  /-- A message on the stats topic. -/
  | eventLog
  deriving DecidableEq, Repr

/-- Reads a transport: three names select the event log in any case and between
blanks, and any other text the coordination service. -/
def Transport.ofName (name : String) : Transport :=
  if Text.lower (Text.trim name) ∈ ["kafka", "event-log", "eventlog"] then .eventLog
  else .coordination

/-- The time between two reports if nothing else is set, in milliseconds. -/
def HeartbeatConfig.defaultIntervalMs : Nat := 6000

/-- Settings of the reporter of one worker. -/
structure HeartbeatConfig where
  /-- The worker. -/
  host : String
  /-- The time between two reports, in milliseconds. -/
  intervalMs : Nat := HeartbeatConfig.defaultIntervalMs
  /-- Where heartbeats are published. -/
  transport : Transport := .coordination
  /-- The stats topic. -/
  topic : String := Setting.statsTopic
  /-- The path under which nodes are created. -/
  root : String := Setting.heartbeatRoot
  deriving DecidableEq, Repr

namespace HeartbeatConfig

/-- Checks settings: the worker has a name, time passes between reports, and the
place that the transport needs is given. -/
def validate (c : HeartbeatConfig) : Except HeartbeatError Unit :=
  if Text.isBlank c.host then .error (.invalidConfig "host is empty")
  else if c.intervalMs = 0 then .error (.invalidConfig "interval must be positive")
  else
    match c.transport with
    | .eventLog =>
      if c.topic = "" then .error (.invalidConfig "stats topic is empty") else .ok ()
    | .coordination =>
      if c.root.toList.head? = some '/' then .ok ()
      else .error (.invalidConfig ("root " ++ Text.quoted c.root ++ " is not absolute"))

end HeartbeatConfig

end Collector
