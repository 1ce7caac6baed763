/-
RedisLink.Topology.NodeSetting — nodes that may be given or left to the environment.

Until a node has been given, the nodes are those that an environment variable
names at the moment they are read. The first node that is given hides the
variable, and from then on the setting is what has been given, in order and
without repetition.
-/
import RedisLink.Node.Sequence

namespace RedisLink

/-- The nodes that have been given, if any have. -/
structure NodeSetting where
  given : Option (List Node)

instance : Inhabited NodeSetting := ⟨⟨none⟩⟩

/-- The node that two arguments name: a node by itself, or a host with a port. -/
def Node.ofArguments (host port : Value) : Except Failure Node :=
  match host with
  | .node host port => Node.make host (.int port)
  | host => Node.make host port

/-- Nodes as texts in a list. -/
def Node.texts (nodes : List Node) : Value := .list (nodes.map fun n => .text n.text)

namespace NodeSetting

/-- No node has been given. -/
def unset : NodeSetting := ⟨none⟩

/-- The setting that is given the items of a value; nothing is given if it has no items. -/
def ofItems (values : Value) : Except Failure NodeSetting :=
  match values.items with
  | .error e => .error e
  | .ok [] => .ok unset
  | .ok items =>
    match Node.readInto [] items with
    | .error e => .error e
    | .ok nodes => .ok ⟨some nodes⟩

/-- Give one more node. -/
def add (setting : NodeSetting) (n : Node) : NodeSetting :=
  ⟨some (Node.addTo (setting.given.getD []) n)⟩

/-- The nodes: those given, else those that a variable names. -/
def readIn (setting : NodeSetting) (env : Environment) (name : String) :
    Except Failure (List Node) :=
  match setting.given with
  | some nodes => .ok nodes
  | none => Node.ofEnvironment env name

end NodeSetting

end RedisLink
