/-
RedisLink.Topology.Cluster — a cluster of servers.

A cluster is known by some of its nodes, a sequence without repetition; until
one has been given they are left to the environment, and reading them may fail
there.
-/
import RedisLink.Topology.Credentials
import RedisLink.Topology.NodeSetting

namespace RedisLink

/-- A cluster: what has been set of its credentials and its nodes. -/
structure Cluster where
  credentials : Credentials
  nodes : NodeSetting

instance : Inhabited Cluster := ⟨⟨default, default⟩⟩

namespace Cluster

/-- The variable that names the nodes. -/
def environmentName : String := "REDIS_CLUSTER_NODES"

/-- Nothing has been set. -/
def unset : Cluster := ⟨.unset, .unset⟩

/-- A cluster with nodes, a password and a database. -/
def make (nodes password database : Value) : Except Failure Cluster :=
  match Credentials.make password database with
  | .error e => .error e
  | .ok credentials =>
    match NodeSetting.ofItems nodes with
    | .error e => .error e
    | .ok nodes => .ok ⟨credentials, nodes⟩

/-- Add a node. -/
def addNode (c : Cluster) (host port : Value) : Except Failure Cluster :=
  match Node.ofArguments host port with
  | .error e => .error e
  | .ok n => .ok { c with nodes := c.nodes.add n }

/-- The nodes: those given, else those that a variable names. -/
def clusterNodesIn (c : Cluster) (env : Environment) : Except Failure (List Node) :=
  c.nodes.readIn env environmentName

/-- The settings by name, as they are read now. -/
def fieldsIn (c : Cluster) (env : Environment) : Except Failure (List (String × Value)) :=
  match c.clusterNodesIn env with
  | .error e => .error e
  | .ok nodes => .ok (("cluster_nodes", Node.texts nodes) :: c.credentials.fieldsIn env)

/-- The cluster as it is shown. -/
def shownIn (c : Cluster) (env : Environment) : Except Failure String :=
  match c.clusterNodesIn env with
  | .error e => .error e
  | .ok nodes =>
    .ok ("ClusterConfiguration(nodes=[" ++ String.intercalate ", " (nodes.map Node.text) ++ "])")

end Cluster

end RedisLink
