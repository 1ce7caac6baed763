/-
RedisLink.Node.Sequence — sequences of nodes without repetition.

A sequence of nodes keeps the order in which nodes came in and holds no two
equal ones: a node that is there already is not added again. In the environment
a sequence is one text, its nodes separated by commas; blank parts count for
nothing.
-/
import RedisLink.Environment
import RedisLink.Node

namespace RedisLink.Node

open RedisLink.Text

/-- Add a node at the end, unless an equal one is there. -/
def addTo (nodes : List Node) (n : Node) : List Node :=
  if nodes.any (·.same n) then nodes else nodes ++ [n]

/-- The nodes of a sequence without those that are equal to an earlier one. -/
def distinct (nodes : List Node) : List Node := nodes.foldl addTo []

/-- Read values one after the other, each into a node, and add the nodes to a sequence. -/
def readInto (nodes : List Node) : List Value → Except Failure (List Node)
  | [] => .ok nodes
  | v :: rest =>
    match ofValue v with
    | .ok n => readInto (addTo nodes n) rest
    | .error e => .error e

/-- The sequence of the nodes that the items of a value stand for. -/
def ofItems (values : Value) : Except Failure (List Node) :=
  match values.items with
  | .ok items => readInto [] items
  | .error e => .error e

/-- The parts of a text between commas that are not blank. -/
def listParts (s : String) : List (List Char) :=
  (cutAll ',' s.toList).filter fun part => !(trim part).isEmpty

/-- The sequence of nodes that a text stands for. -/
def ofListText (s : String) : Except Failure (List Node) :=
  readInto [] ((listParts s).map fun part => .text (String.ofList part))

/-- The sequence of nodes that an environment variable stands for; none if it is not set. -/
def ofEnvironment (env : Environment) (name : String) : Except Failure (List Node) :=
  ofListText ((env.get? name).getD "")

/-- The text of a sequence of nodes. -/
def listText (nodes : List Node) : String :=
  String.intercalate "," (nodes.map Node.text)

end RedisLink.Node
