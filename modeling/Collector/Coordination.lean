import Collector.Failure
import Collector.KeyMap
import Collector.Text.Utf8

/-!
# A coordination service in memory

The memory coordination service of `harvest-core`.  Nodes are blobs by path.  A node may be
ephemeral; closing the service ends the session that such nodes belong to, and they
vanish.
-/

namespace Collector

/-- What is kept under a path. -/
structure CoordinationNode where
  /-- The content. -/
  payload : Bytes
  /-- Whether the node vanishes with the session. -/
  ephemeral : Bool
  deriving DecidableEq

/-- Nodes by path. -/
structure Coordination where
  /-- The nodes. -/
  nodes : KeyMap CoordinationNode := KeyMap.empty
  /-- Whether the service was closed. -/
  closed : Bool := false

namespace Coordination

/-- Creates a node; an older one is replaced if that is allowed. -/
def create (c : Coordination) (path : String) (node : CoordinationNode) (overwrite : Bool) :
    Except ClientError Coordination :=
  if c.closed then .error .closed
  else if !overwrite && c.nodes.contains path then .error (.alreadyExists path)
  else .ok { c with nodes := c.nodes.insert path node }

/-- The node under a path. -/
def get? (c : Coordination) (path : String) : Option CoordinationNode := c.nodes.get? path

/-- The paths that begin with a text, in order. -/
def paths (c : Coordination) (start : String) : List String :=
  c.nodes.keys.filter fun p => start.toList.isPrefixOf p.toList

/-- Closes the service; what is ephemeral vanishes. -/
def close (c : Coordination) : Coordination :=
  if c.closed then c else ⟨c.nodes.filter fun n => !n.ephemeral, true⟩

end Coordination

end Collector
