/-
RedisLink.Part — what is given as the options or as the resources of a client.

Options and resources are meant to be records of their kinds, but whatever is
given for them is kept. What it is good for is found out when a connection is
opened: options are asked for a class and for keywords, resources for keywords
that suit the kind of connection. Some things that are no options have keywords
to give, most have none.
-/
import RedisLink.Options
import RedisLink.Resources
import RedisLink.Uri

namespace RedisLink

/-- What is given as the options or as the resources of a client. -/
inductive Part
  | options (o : Shared Options)
  | resources (r : Shared Resources)
  | uri (u : Shared Uri)
  | value (v : Value)

namespace Part

/-- Nothing is given. -/
def null : Part := .value .null

instance : Inhabited Part := ⟨null⟩

/-- Whether nothing is given. -/
def isNull : Part → Bool
  | .value v => v.isNull
  | _ => false

/-- Whether a part counts as true. -/
def truthy : Part → Bool
  | .value v => v.truthy
  | _ => true

/-- A part if it counts as true, else another one. -/
def orElse (p other : Part) : Part := if p.truthy then p else other

/-- The name of the kind of a part. -/
def kind : Part → String
  | .options _ => "ClientOptions"
  | .resources _ => "ClientResources"
  | .uri _ => "RedisURI"
  | .value v => v.kind

/-- The failure that a part has no attribute of a name. -/
def lacks (p : Part) (name : String) : Failure :=
  match p with
  | .value v => v.lacks name
  | p => .noAttribute p.kind name

/-! ## As options, as resources -/

/-- The class that options give to connections, asynchronous or not. -/
def connectionClass (p : Part) (installed : ClassPath.Installation) (asynchronous : Bool) :
    Except Failure Value :=
  match p with
  | .options o => o.value.connectionClass installed asynchronous
  | p => .error (p.lacks (if asynchronous then "resolve_async_redis_class"
      else "resolve_redis_class"))

/-- The keywords that options give to connections. -/
def optionKeywords : Part → Except Failure Keywords
  | .options o => .ok o.value.keywords
  | .resources r => .ok (r.value.keywords false)
  | .uri u => u.value.keywords true
  | .value v => .error (v.lacks "connection_kwargs")

/-- The keywords that resources give to connections, asynchronous or not. -/
def resourceKeywords (p : Part) (asynchronous : Bool) : Except Failure Keywords :=
  match p with
  | .resources r => .ok (r.value.keywords asynchronous)
  | .value v => .error (v.lacks "connection_kwargs")
  | p => .error (.wrongArguments (p.kind ++ ".connection_kwargs")
      "got an unexpected keyword argument 'asynchronous'")

/-! ## Showing and comparing -/

/-- A part as it is shown. -/
def shown : Part → String
  | .options o => o.value.shown
  | .resources r => r.value.shown
  | .uri u => u.value.shown
  | .value v => v.shown

/-- Whether two parts are equal; resources are equal only to themselves. -/
def equals : Part → Part → Bool
  | .options o, .options p => o.value.equals p.value
  | .resources r, .resources q => r.number = q.number
  | .uri u, .uri v => u.value.equals v.value
  | .value v, .value w => v.equals w
  | _, _ => false

/-- What the hash of a part is tagged with. -/
def tag : Part → String
  | .options _ => "options"
  | .resources _ => "resources"
  | .uri _ => "uri"
  | .value _ => "value"

/-- The values that the hash of a part is made from. -/
def identity : Part → List Value
  | .options o => o.value.identity
  | .resources r => [.int r.number]
  | .uri u => u.value.fields.map (·.2)
  | .value v => [v]

end Part

end RedisLink
