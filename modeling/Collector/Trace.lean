import Collector.Text.Decimal

/-!
# What a worker does

The effects of a worker of `harvest-service` on jobs and on external clients, as
data.  Everything that runs returns the list of its effects in order, so that an order can
be stated as a property of a list.
-/

namespace Collector

/-- One effect; `J` is what a job is. -/
inductive Event (J : Type) where
  /-- The builder of an application was asked for a job. -/
  | asked (app identity : String)
  /-- A job was started. -/
  | started (job : J)
  /-- A job was called back for one sighting of its task. -/
  | called (job : J)
  /-- A callback of a job returned. -/
  | returned (job : J)
  /-- A job was stopped. -/
  | stopped (job : J)
  /-- A builder released what its jobs share. -/
  | builderClosed (app : String)
  /-- The broker was asked for the partitions of a topic. -/
  | partitionsAsked (topic : String)
  /-- A partition was to be opened. -/
  | opened (topic : String) (partition : Int)
  /-- A coordination node was to be created. -/
  | nodeCreated (path : String)
  /-- A writer was asked for. -/
  | writerMade (topic key : String)
  /-- A writer was started. -/
  | writerStarted
  /-- A writer was stopped. -/
  | writerStopped
  /-- The broker was closed. -/
  | brokerClosed
  /-- The coordination service was closed. -/
  | coordinationClosed
  deriving DecidableEq, Repr

namespace Event

/-- One line that tells an effect, given the names of jobs. -/
def line {J : Type} (name : J → String) : Event J → String
  | asked _ identity => "build " ++ identity
  | started job => "start " ++ name job
  | called job => "callback " ++ name job
  | returned job => "return " ++ name job
  | stopped job => "stop " ++ name job
  | builderClosed app => "close_builder " ++ app
  | partitionsAsked topic => "partitions " ++ topic
  | opened topic partition => "open " ++ topic ++ "/" ++ Decimal.ofInt partition ++ " Newest"
  | nodeCreated path => "create_node " ++ path ++ " ephemeral=true overwrite=true"
  | writerMade topic key => "writer " ++ topic ++ " " ++ key
  | writerStarted => "writer.start"
  | writerStopped => "writer.stop"
  | brokerClosed => "close_broker"
  | coordinationClosed => "close_coordination"

end Event

end Collector
