import Collector.Backoff
import Collector.Heartbeat.Config
import Collector.Json.Fields
import Collector.Json.Printer

/-!
# Settings of the service

The settings of `harvest-service` are what one worker is told when it is started: the
topic of its tasks, how it reports, how long it waits before a failed loop is started
again, and where the external clients are.  Every setting has a default, and the settings
are read from a JSON record.
-/

namespace Collector

/-- Settings of the service. -/
structure ServiceConfig where
  /-- The topic of task definitions. -/
  taskTopic : String := Setting.tasksTopic
  /-- The name of the heartbeat transport. -/
  heartbeat : String := "zookeeper"
  /-- The time between two heartbeats, in milliseconds. -/
  heartbeatIntervalMs : Nat := HeartbeatConfig.defaultIntervalMs
  /-- The first delay before a restart, in milliseconds. -/
  restartDelayMs : Nat := 1000
  /-- The longest delay before a restart, in milliseconds. -/
  restartMaxDelayMs : Nat := 30000
  /-- A name for this host, instead of the one that the system knows. -/
  host : Option String := none
  /-- Addresses of the broker. -/
  brokers : List String := []
  /-- Addresses of the coordination service. -/
  coordination : List String := []
  deriving DecidableEq, Repr

namespace ServiceConfig

/-! ## Stored form -/

/-- The names of the stored fields, in their order. -/
def fieldNames : List String :=
  ["task_topic", "heartbeat", "heartbeat_interval_ms", "restart_delay_ms",
    "restart_max_delay_ms", "host", "brokers", "coordination"]

/-- The width of a time, in bits. -/
def timeWidth : Nat := 64

/-- A time as a JSON value. -/
def timeJson (ms : Nat) : Json := .number (.integer ms)

/-- A list of addresses as a JSON value. -/
def addressesJson (addresses : List String) : Json := .array (addresses.map .string)

/-- The stored form as a JSON value. -/
def toJson (c : ServiceConfig) : Json :=
  .object [("task_topic", .string c.taskTopic), ("heartbeat", .string c.heartbeat),
    ("heartbeat_interval_ms", timeJson c.heartbeatIntervalMs),
    ("restart_delay_ms", timeJson c.restartDelayMs),
    ("restart_max_delay_ms", timeJson c.restartMaxDelayMs),
    ("host", c.host.elim .null .string), ("brokers", addressesJson c.brokers),
    ("coordination", addressesJson c.coordination)]

/-- The stored form. -/
def encode (c : ServiceConfig) : Bytes := c.toJson.toBytes

/-- Reads a field, which has the value of the default settings if it is
missing. -/
def field? {α : Type} (default : ServiceConfig → α) (read : Json.Node → Option α)
    (slot : Option Json.Node) : Option α :=
  Json.Node.optional? (default {}) read slot

/-- Reads the tree of a stored form. -/
def ofNode? (node : Json.Node) : Option ServiceConfig :=
  match node.slots? fieldNames with
  | some [topic, heartbeat, interval, first, longest, host, brokers, coordination] =>
    match field? taskTopic Json.Node.string? topic,
        field? ServiceConfig.heartbeat Json.Node.string? heartbeat,
        field? heartbeatIntervalMs (Json.Node.natural? timeWidth) interval,
        field? restartDelayMs (Json.Node.natural? timeWidth) first,
        field? restartMaxDelayMs (Json.Node.natural? timeWidth) longest,
        field? ServiceConfig.host Json.Node.nullableString? host,
        field? ServiceConfig.brokers Json.Node.strings? brokers,
        field? ServiceConfig.coordination Json.Node.strings? coordination with
    | some t, some h, some i, some f, some l, some n, some b, some c =>
      some ⟨t, h, i, f, l, n, b, c⟩
    | _, _, _, _, _, _, _, _ => none
  | _ => none

/-- Reads a stored form. -/
def decode? (bytes : Bytes) : Option ServiceConfig := (Json.Node.ofBytes? bytes).bind ofNode?

/-! ## Use -/

/-- Checks settings: the task topic has a name, times are positive and ordered,
and a given host has a name. -/
def validate (c : ServiceConfig) : Except ServiceError Unit :=
  if Text.isBlank c.taskTopic then .error (.invalidConfig "task topic is empty")
  else if c.heartbeatIntervalMs = 0 then
    .error (.invalidConfig "heartbeat interval must be positive")
  else if c.restartDelayMs = 0 ∨ c.restartMaxDelayMs < c.restartDelayMs then
    .error (.invalidConfig "restart delays must be positive and ordered")
  else if c.host.any Text.isBlank then .error (.invalidConfig "host override is empty")
  else .ok ()

/-- Where heartbeats are published. -/
def transport (c : ServiceConfig) : Transport := .ofName c.heartbeat

/-- The delays between restarts of a failed loop. -/
def backoff (c : ServiceConfig) : Backoff := ⟨c.restartDelayMs, c.restartMaxDelayMs⟩

/-- The settings of the reporter of a host. -/
def heartbeatConfig (c : ServiceConfig) (host : String) : HeartbeatConfig :=
  { host, transport := c.transport, intervalMs := c.heartbeatIntervalMs }

end ServiceConfig

end Collector
