import Collector.Failure
import Collector.Json.Fields
import Collector.Json.Printer
import Collector.Text.Slashes

/-!
# Heartbeats

The heartbeat of `harvest-model` is what a worker tells about itself for each application
that it serves.  All fields are strings in the stored form, so that every transport carries
the same payload; the two numbers are written in decimal.
-/

namespace Collector

/-- The sign of life of one worker for one application. -/
structure Heartbeat where
  /-- The worker. -/
  host : String
  /-- The operating system it runs on. -/
  platform : String
  /-- The application. -/
  app : String
  /-- The number of processors it may use. -/
  cpuCount : Nat
  /-- Nanoseconds since the epoch. -/
  timestamp : Nat
  deriving DecidableEq, Repr

namespace Heartbeat

/-- The names of the stored fields, in their order. -/
def fieldNames : List String := ["host", "platform", "app", "cpuCount", "timestamp"]

/-- The width of a processor count, in bits. -/
def cpuWidth : Nat := 64

/-- The width of a timestamp, in bits. -/
def timestampWidth : Nat := 128

/-- The numbers fit their fields. -/
def Fits (h : Heartbeat) : Prop :=
  h.cpuCount < Nat.pow 2 cpuWidth ∧ h.timestamp < Nat.pow 2 timestampWidth

/-- The stored form as a JSON value. -/
def toJson (h : Heartbeat) : Json :=
  .object [("host", .string h.host), ("platform", .string h.platform), ("app", .string h.app),
    ("cpuCount", .string (Decimal.ofNat h.cpuCount)),
    ("timestamp", .string (Decimal.ofNat h.timestamp))]

/-- The stored form. -/
def encode (h : Heartbeat) : Bytes := h.toJson.toBytes

/-- A number of at most `width` bits, written in decimal in a string. -/
def decimalString? (width : Nat) (node : Json.Node) : Option Nat :=
  node.string?.bind (Decimal.read? width)

/-- Reads the tree of a stored form. -/
def ofNode? (node : Json.Node) : Option Heartbeat :=
  match node.slots? fieldNames with
  | some [host, platform, app, cpuCount, timestamp] =>
    match Json.Node.required? Json.Node.string? host,
        Json.Node.required? Json.Node.string? platform,
        Json.Node.required? Json.Node.string? app,
        Json.Node.required? (decimalString? cpuWidth) cpuCount,
        Json.Node.required? (decimalString? timestampWidth) timestamp with
    | some h, some p, some a, some c, some t => some ⟨h, p, a, c, t⟩
    | _, _, _, _, _ => none
  | _ => none

/-- Reads a stored form. -/
def decode? (bytes : Bytes) : Option Heartbeat := (Json.Node.ofBytes? bytes).bind ofNode?

/-! ## Where heartbeats go -/

/-- The coordination node of one worker and one application. -/
def nodePath (root host app : String) : String :=
  Text.trimSlashes root ++ "/" ++ host ++ "!" ++ app

/-- What a worker runs on. -/
structure Machine where
  /-- The operating system. -/
  platform : String
  /-- The number of processors. -/
  cpuCount : Nat

/-- One heartbeat for each application. -/
def ofApps (machine : Machine) (host : String) (apps : List String) (timestamp : Nat) :
    List Heartbeat :=
  apps.map fun app => ⟨host, machine.platform, app, machine.cpuCount, timestamp⟩

end Heartbeat

end Collector
