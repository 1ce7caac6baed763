/-
RedisLink.Topology.Sentinels — a master that sentinels watch over.

The name of the master may be any value. The sentinels are a sequence of nodes
without repetition; until one has been given they are left to the environment,
and reading them may fail there.
-/
import RedisLink.Topology.Credentials
import RedisLink.Topology.NodeSetting

namespace RedisLink

/-- A watched master: what has been set of its credentials, its name and its sentinels. -/
structure Sentinels where
  credentials : Credentials
  master : Value
  nodes : NodeSetting

instance : Inhabited Sentinels := ⟨⟨default, .null, default⟩⟩

namespace Sentinels

/-- The variable that names the sentinels. -/
def environmentName : String := "REDIS_SENTINEL_NODES"

/-- Nothing has been set. -/
def unset : Sentinels := ⟨.unset, .null, .unset⟩

/-- A watched master with a name, sentinels, a password and a database. -/
def make (master sentinels password database : Value) : Except Failure Sentinels :=
  match Credentials.make password database with
  | .error e => .error e
  | .ok credentials =>
    match NodeSetting.ofItems sentinels with
    | .error e => .error e
    | .ok nodes => .ok ⟨credentials, master, nodes⟩

/-- Set the name of the master. -/
def setMaster (s : Sentinels) (given : Value) : Sentinels := { s with master := given }

/-- Add a sentinel. -/
def addSentinel (s : Sentinels) (host port : Value) : Except Failure Sentinels :=
  match Node.ofArguments host port with
  | .error e => .error e
  | .ok n => .ok { s with nodes := s.nodes.add n }

/-- The name of the master: what has been set, else a variable, else `null`. -/
def masterIn (s : Sentinels) (env : Environment) : Value :=
  s.master.orElse
    (match env.get? "REDIS_SENTINEL_MASTER" with
    | some text => .text text
    | none => .null)

/-- The sentinels: those given, else those that a variable names. -/
def sentinelsIn (s : Sentinels) (env : Environment) : Except Failure (List Node) :=
  s.nodes.readIn env environmentName

/-- The settings by name, as they are read now. -/
def fieldsIn (s : Sentinels) (env : Environment) : Except Failure (List (String × Value)) :=
  match s.sentinelsIn env with
  | .error e => .error e
  | .ok nodes =>
    .ok (("master", s.masterIn env) :: ("sentinels", Node.texts nodes) ::
      s.credentials.fieldsIn env)

/-- The watched master as it is shown. -/
def shownIn (s : Sentinels) (env : Environment) : Except Failure String :=
  match s.sentinelsIn env with
  | .error e => .error e
  | .ok nodes =>
    .ok ("SentinelConfiguration(master=" ++ (s.masterIn env).shown ++ ", sentinels=[" ++
      String.intercalate ", " (nodes.map Node.text) ++ "])")

end Sentinels

end RedisLink
