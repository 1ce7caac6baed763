/-
RedisLink.Value — values that callers hand to settings.

Most settings take any value and keep it as given; what a value may be used for
is found out where it is used. A value is a scalar, a sequence, a table by
names, or one of the few things that settings are made of: durations, nodes,
classes of connections, backoff strategies and retry policies. `held` stands
for any other object, which cannot be called, by the name of its kind and its
number.
-/
import RedisLink.Duration
import RedisLink.Number.Shortest
import RedisLink.Text.Quoted

namespace RedisLink

open RedisLink.Number RedisLink.Text

/-- A class that connections are made of, by the dotted path of its module and its name there. A
function that makes connections when it is called is given in the same way. -/
structure ClassRef where
  path : String
  name : String
deriving DecidableEq, Repr

namespace ClassRef

/-- The full name of a class. -/
def label (c : ClassRef) : String := c.path ++ "." ++ c.name

/-- The class of blocking connections to a server. -/
def client : ClassRef := ⟨"redis.client", "Redis"⟩

/-- The class of asynchronous connections to a server. -/
def asyncClient : ClassRef := ⟨"redis.asyncio.client", "Redis"⟩

/-- The class that asks sentinels for blocking connections to a master. -/
def sentinel : ClassRef := ⟨"redis.sentinel", "Sentinel"⟩

/-- The class that asks sentinels for asynchronous connections to a master. -/
def asyncSentinel : ClassRef := ⟨"redis.asyncio.sentinel", "Sentinel"⟩

/-- The class of blocking connections to a cluster. -/
def cluster : ClassRef := ⟨"redis.cluster", "RedisCluster"⟩

/-- The class of asynchronous connections to a cluster. -/
def asyncCluster : ClassRef := ⟨"redis.asyncio.cluster", "RedisCluster"⟩

end ClassRef

/-- How long to wait between two attempts. -/
inductive Backoff
  | exponential | constant | none
deriving DecidableEq, Repr

/-- The name of a backoff strategy. -/
def Backoff.label : Backoff → String
  | .exponential => "ExponentialBackoff"
  | .constant => "ConstantBackoff"
  | .none => "NoBackoff"

/-- A value that a caller hands to a setting. -/
inductive Value
  | null
  | bool (b : Bool)
  | int (n : Int)
  | float (x : Binary64)
  | text (s : String)
  | list (items : List Value)
  | tuple (items : List Value)
  | dict (fields : List (String × Value))
  | duration (d : Duration)
  /-- A host with a port. -/
  | node (host : Value) (port : Nat)
  | cls (c : ClassRef)
  | backoff (b : Backoff)
  /-- A retry policy, for blocking or for asynchronous connections. -/
  | retry (asynchronous : Bool) (retries : Value) (strategy : Value)
  /-- Any other object: the name of its kind, and its number. -/
  | held (kind : String) (number : Nat)

instance : Inhabited Value := ⟨.null⟩

namespace Value

/-! ## Kinds -/

/-- The short name of the kind of a value. -/
def kind : Value → String
  | .null => "NoneType"
  | .bool _ => "bool"
  | .int _ => "int"
  | .float _ => "float"
  | .text _ => "str"
  | .list _ => "list"
  | .tuple _ => "tuple"
  | .dict _ => "dict"
  | .duration _ => "timedelta"
  | .node _ _ => "RedisNode"
  | .cls _ => "type"
  | .backoff b => b.label
  | .retry _ _ _ => "Retry"
  | .held kind _ => kind

/-- The name of the kind of a value in messages about operations that it does not have. -/
def operandKind : Value → String
  | .duration _ => "datetime.timedelta"
  | v => v.kind

/-- Whether a value is `null`. -/
def isNull : Value → Bool
  | .null => true
  | _ => false

/-- A value unless it is `null`, else another one. -/
def orElse (v other : Value) : Value :=
  match v with
  | .null => other
  | v => v

/-- Whether a value counts as true: it is neither null, false, zero nor empty. -/
def truthy : Value → Bool
  | .null => false
  | .bool b => b
  | .int n => n ≠ 0
  | .float x => !x.isZero
  | .text s => s ≠ ""
  | .list items => !items.isEmpty
  | .tuple items => !items.isEmpty
  | .dict fields => !fields.isEmpty
  | .duration d => d.micros ≠ 0
  | _ => true

/-! ## Texts -/

mutual

/-- A value as it is shown inside messages and records; texts are quoted. -/
def shown : Value → String
  | .null => "None"
  | .bool b => if b then "True" else "False"
  | .int n => toString n
  | .float x => x.text
  | .text s => quoted s
  | .list items => "[" ++ String.intercalate ", " (shownItems items) ++ "]"
  | .tuple [x] => "(" ++ x.shown ++ ",)"
  | .tuple items => "(" ++ String.intercalate ", " (shownItems items) ++ ")"
  | .dict fields => "\x7b" ++ String.intercalate ", " (shownFields fields) ++ "\x7d"
  | .duration d => d.shown
  | .node host port => "RedisNode(host=" ++ host.shown ++ ", port=" ++ toString port ++ ")"
  | .cls c => "<class " ++ quoted c.label ++ ">"
  | .backoff b => "<" ++ b.label ++ ">"
  | .retry _ _ _ => "<Retry>"
  | .held kind number => "<" ++ kind ++ " " ++ toString number ++ ">"

/-- The items of a sequence, each as it is shown. -/
def shownItems : List Value → List String
  | [] => []
  | x :: rest => x.shown :: shownItems rest

/-- The entries of a table, each as it is shown. -/
def shownFields : List (String × Value) → List String
  | [] => []
  | (key, x) :: rest => (quoted key ++ ": " ++ x.shown) :: shownFields rest

end

/-- A value as text: as it is shown, but texts stand for themselves and a node is its host, a colon
and its port. -/
def asText : Value → String
  | .text s => s
  | .duration d => d.text
  | .node host port => host.asText ++ ":" ++ toString port
  | v => v.shown

/-! ## Equality -/

/-- A value as a number, where truth values count as one and zero. -/
def number? : Value → Option (Int ⊕ Binary64)
  | .bool b => some (.inl (if b then 1 else 0))
  | .int n => some (.inl n)
  | .float x => some (.inr x)
  | _ => none

/-- Whether two numbers are equal, be they integers or not. -/
def sameNumber : Int ⊕ Binary64 → Int ⊕ Binary64 → Bool
  | .inl m, .inl n => m = n
  | .inl m, .inr y => y.eqInt m
  | .inr x, .inl n => x.eqInt n
  | .inr x, .inr y => x.equals y

mutual

/-- Whether two values are equal. Numbers are compared by value, tables without regard to the
order of their entries, and other objects by identity. -/
def equals : Value → Value → Bool
  | .null, .null => true
  | .text s, .text t => s = t
  | .list xs, .list ys => equalsItems xs ys
  | .tuple xs, .tuple ys => equalsItems xs ys
  | .dict fs, .dict gs => fs.length = gs.length && equalsFields fs gs
  | .duration d, .duration e => d = e
  | .node h p, .node k q => h.equals k && p = q
  | .cls c, .cls d => c = d
  | .backoff b, .backoff c => b = c
  | .retry a r s, .retry b q t => a = b && r.equals q && s.equals t
  | .held k m, .held l n => k = l && m = n
  | v, w =>
    match v.number?, w.number? with
    | some a, some b => sameNumber a b
    | _, _ => false

/-- Whether two sequences have equal items. -/
def equalsItems : List Value → List Value → Bool
  | [], [] => true
  | x :: xs, y :: ys => x.equals y && equalsItems xs ys
  | _, _ => false

/-- Whether every entry of the first table is in the second. -/
def equalsFields : List (String × Value) → List (String × Value) → Bool
  | [], _ => true
  | (key, x) :: rest, gs =>
    (match gs.lookup key with
      | some y => x.equals y
      | none => false) && equalsFields rest gs

end

mutual

/-- The kind of the first part of a value that has no hash, if there is one. Lists and tables have
none. -/
def unhashable? : Value → Option String
  | .list _ => some "list"
  | .dict _ => some "dict"
  | .tuple items => unhashableItem? items
  | .node host _ => host.unhashable?
  | _ => none

/-- The kind of the first part without a hash among the items of a sequence. -/
def unhashableItem? : List Value → Option String
  | [] => none
  | x :: rest =>
    match x.unhashable? with
    | some kind => some kind
    | none => unhashableItem? rest

end

@[simp] theorem equals_text (s t : String) : (Value.text s).equals (.text t) = decide (s = t) := by
  simp [equals]

@[simp] theorem orElse_null (other : Value) : Value.null.orElse other = other := rfl

end Value

end RedisLink
