/-
RedisLink.Session.Item — what a name in a session stands for.

An item is a value, a record that cannot be changed, or an object of the world
by its number. Items are compared in two ways: two items are the same if they
are one object, and they are equal if they are records or values with equal
contents. Equal items have the same hash; lists and tables have none.
-/
import RedisLink.World

namespace RedisLink

/-- What a name in a session stands for. -/
inductive Item
  | value (v : Value)
  /-- A list or a tuple with items that are no values. -/
  | items (isTuple : Bool) (xs : List Item)
  | uri (u : Shared Uri)
  | options (o : Shared Options)
  | settings (s : Shared Settings)
  | resources (r : Shared Resources)
  | connection (c : Connection)
  | topology (ref : TopologyRef)
  | live (number : Nat)
  | builder (number : Nat)
  | client (number : Nat)
  | deployment (number : Nat)

instance : Inhabited Item := ⟨.value .null⟩

namespace Item

/-- The item of nothing. -/
def null : Item := .value .null

/-- The item of a truth value. -/
def ofBool (b : Bool) : Item := .value (.bool b)

/-- The item of a number. -/
def ofNat (n : Nat) : Item := .value (.int n)

/-- The name of the kind of an item. -/
def kind (w : World) : Item → String
  | .value v => v.kind
  | .items isTuple _ => if isTuple then "tuple" else "list"
  | .uri _ => "RedisURI"
  | .options _ => "ClientOptions"
  | .settings _ => "ClientConfiguration"
  | .resources _ => "ClientResources"
  | .connection _ => "Connection"
  | .topology (.credentials _) => "RedisConfiguration"
  | .topology (.standalone _) => "StandaloneConfiguration"
  | .topology (.sentinels _) => "SentinelConfiguration"
  | .topology (.cluster _) => "ClusterConfiguration"
  | .live _ => "MutableClientConfiguration"
  | .builder _ => "ClientConfigurationBuilder"
  | .client n => (w.clients.get n).kind
  | .deployment _ => "RedisConnectionFactory"

/-- The failure that an item has no attribute of a name. -/
def lacks (w : World) (x : Item) (name : String) : Failure :=
  match x with
  | .value v => v.lacks name
  | item => .noAttribute (item.kind w) name

/-- The number of the object that an item is. -/
def number : Item → Nat
  | .value _ | .items _ _ => 0
  | .uri u => u.number
  | .options o => o.number
  | .settings s => s.number
  | .resources r => r.number
  | .connection c => c.number
  | .topology (.credentials n) | .topology (.standalone n) | .topology (.sentinels n)
  | .topology (.cluster n) | .live n | .builder n | .client n | .deployment n => n

mutual

/-- An item as a value; an object that is no value is held by its kind and number. -/
def toValue (w : World) : Item → Value
  | .value v => v
  | .items isTuple xs =>
    if isTuple then .tuple (toValues w xs) else .list (toValues w xs)
  | item => .held (item.kind w) item.number

/-- Items as values. -/
def toValues (w : World) : List Item → List Value
  | [] => []
  | x :: rest => x.toValue w :: toValues w rest

end

theorem toValues_eq_map (w : World) : ∀ xs : List Item, toValues w xs = xs.map (toValue w)
  | [] => rfl
  | x :: rest => by rw [toValues, toValues_eq_map w rest, List.map_cons]

mutual

/-- What an item is as a value depends on nothing but the clients that there are. -/
theorem toValue_of_clients {w v : World} (clients : v.clients = w.clients) :
    ∀ x : Item, x.toValue v = x.toValue w
  | .value x => by simp only [toValue]
  | .items isTuple xs => by simp only [toValue, toValues_of_clients clients xs]
  | .client n => by simp only [toValue, kind, clients]
  | .topology (.credentials _) | .topology (.standalone _) | .topology (.sentinels _)
  | .topology (.cluster _) | .uri _ | .options _ | .settings _ | .resources _ | .connection _
  | .live _ | .builder _ | .deployment _ => by simp only [toValue, kind]

theorem toValues_of_clients {w v : World} (clients : v.clients = w.clients) (xs : List Item) :
    toValues v xs = toValues w xs := by
  cases xs with
  | nil => rfl
  | cons x xs =>
    simp only [toValues, toValue_of_clients clients x, toValues_of_clients clients xs]

end

/-- A sequence of items. -/
def ofSequence (w : World) (isTuple : Bool) (xs : List Item) : Item :=
  let isValue : Item → Bool
    | .value _ => true
    | _ => false
  if xs.all isValue then
    let values := toValues w xs
    .value (if isTuple then .tuple values else .list values)
  else .items isTuple xs

/-- A list of URIs. -/
def ofUris (uris : List (Shared Uri)) : Item := .items false (uris.map .uri)

/-- A part of settings or of a client. -/
def ofPart : Part → Item
  | .options o => .options o
  | .resources r => .resources r
  | .uri u => .uri u
  | .value v => .value v

/-- An item as a part of settings or of a client. -/
def toPart (w : World) : Item → Part
  | .options o => .options o
  | .resources r => .resources r
  | .uri u => .uri u
  | item => .value (item.toValue w)

theorem toPart_of_clients {w v : World} (clients : v.clients = w.clients) (x : Item) :
    x.toPart v = x.toPart w := by
  cases x with
  | options o => rfl
  | resources r => rfl
  | uri u => rfl
  | _ => exact congrArg Part.value (toValue_of_clients clients _)

/-! ## Comparison -/

/-- Whether two values under different names are one object: only small values are. -/
def sameValue : Value → Value → Bool
  | .null, .null => true
  | .bool a, .bool b => a = b
  | .int m, .int n => m = n && -5 ≤ m && m ≤ 256
  | _, _ => false

/-- Whether two items under different names are one object. -/
def same : Item → Item → Bool
  | .value v, .value w => sameValue v w
  | .uri u, .uri v => u.number = v.number
  | .options o, .options p => o.number = p.number
  | .settings s, .settings t => s.number = t.number
  | .resources r, .resources q => r.number = q.number
  | .connection c, .connection d => c.number = d.number
  | .topology r, .topology q => r = q
  | .live m, .live n => m = n
  | .builder m, .builder n => m = n
  | .client m, .client n => m = n
  | .deployment m, .deployment n => m = n
  | _, _ => false

mutual

/-- Whether two items are equal. -/
def equals : Item → Item → Bool
  | .value v, .value w => v.equals w
  | .items a xs, .items b ys => a = b && equalsAll xs ys
  | .uri u, .uri v => u.value.equals v.value
  | .options o, .options p => o.value.equals p.value
  | .settings s, .settings t => s.value.equals t.value
  | x, y => same x y

/-- Whether two sequences have equal items. -/
def equalsAll : List Item → List Item → Bool
  | [], [] => true
  | x :: xs, y :: ys => x.equals y && equalsAll xs ys
  | _, _ => false

end

/-- The values that the hash of an item is made from, with tags that tell kinds of items apart; a
failure if one of the values has no hash. -/
def hashParts : Item → Except Failure (List String × List Value)
  | .value v => hashable ["value"] [v]
  | .items isTuple _ => if isTuple then .ok (["items"], []) else .error (.unhashable "list")
  | .uri u => hashable ["uri"] (u.value.fields.map (·.2))
  | .options o => hashable ["options"] o.value.identity
  | .settings s =>
    hashable ["settings", s.value.options.tag, s.value.resources.tag]
      (s.value.plainFields ++ s.value.options.identity ++ s.value.resources.identity)
  | .resources r => .ok (["resources"], [.int r.number])
  | .connection c => .ok (["connection"], [.int c.number])
  | .topology (.credentials n) => .ok (["credentials"], [.int n])
  | .topology (.standalone n) => .ok (["standalone"], [.int n])
  | .topology (.sentinels n) => .ok (["sentinels"], [.int n])
  | .topology (.cluster n) => .ok (["cluster"], [.int n])
  | .live n => .ok (["live"], [.int n])
  | .builder n => .ok (["builder"], [.int n])
  | .client n => .ok (["client"], [.int n])
  | .deployment n => .ok (["deployment"], [.int n])
where
  /-- Values with tags, if all of them have a hash. -/
  hashable (tags : List String) (values : List Value) :
      Except Failure (List String × List Value) :=
    match Value.unhashableItem? values with
    | some kind => .error (.unhashable kind)
    | none => .ok (tags, values)

/-- Whether two items have the same hash. -/
def sameHash (x y : Item) : Except Failure Bool :=
  match x.hashParts, y.hashParts with
  | .error e, _ => .error e
  | .ok _, .error e => .error e
  | .ok (a, xs), .ok (b, ys) => .ok (a = b && Value.equalsItems xs ys)

/-- How many different items there are; a failure if one of them has no hash. -/
def countDistinct (xs : List Item) : Except Failure Nat :=
  match xs.mapM hashParts with
  | .error e => .error e
  | .ok _ =>
    .ok (xs.foldl (fun seen x => if seen.any (·.equals x) then seen else x :: seen) []).length

end Item

end RedisLink
