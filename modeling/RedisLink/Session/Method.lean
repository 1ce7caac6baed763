/-
RedisLink.Session.Method — calling methods in a session.

What can be called depends on the kind of an item. A method that gives back the
object it was called on says so: `Reply.itself`.
-/
import RedisLink.Session.Attribute
import RedisLink.Session.Construct

namespace RedisLink

/-- What a method gives back. -/
inductive Reply
  | item (x : Item)
  /-- The object on which the method was called. -/
  | itself

namespace Method

open Signature

/-- A value as a reply. -/
def ofValue (v : Value) : Reply := .item (.value v)

/-- Nothing as a reply. -/
def nothing : Reply := .item Item.null

/-- A method call: the item it is called on, the name of the method, and its arguments. -/
structure Call where
  receiver : Item
  method : String
  arguments : Arguments

/-- The items of the parameters of a call of a method that a kind of items owns. -/
def Call.bindOwned (c : Call) (owner : String) (parameters : List Parameter) :
    Except Failure (List Item) :=
  Signature.bind ⟨owner ++ "." ++ c.method, parameters⟩ c.arguments

/-- The items of the parameters of a call. -/
def Call.bind (c : Call) (w : World) (parameters : List Parameter) : Except Failure (List Item) :=
  c.bindOwned (c.receiver.kind w) parameters

/-- The values of the parameters of a call. -/
def Call.values (c : Call) (w : World) (parameters : List Parameter) :
    Except Failure (List Value) :=
  (c.bind w parameters).map (Item.toValues w)

/-- The failure that an item has no such method. -/
def Call.unknown (c : Call) : Act Reply := fun w =>
  (.error (c.receiver.lacks w c.method), w)

/-- Set everything of a topology back to unset. -/
def resetTopology (ref : TopologyRef) : Act Unit := Act.change fun w =>
  match ref with
  | .credentials n => { w with credentials := w.credentials.set n .unset }
  | .standalone n => { w with standalones := w.standalones.set n .unset }
  | .sentinels n => { w with sentinels := w.sentinels.set n .unset }
  | .cluster n => { w with clusters := w.clusters.set n .unset }

/-- The settings of a topology by name, as they are read now. -/
def topologyFields (ref : TopologyRef) (w : World) : Except Failure (List (String × Value)) :=
  match ref with
  | .credentials n => .ok ((w.credentials.get n).fieldsIn w.env)
  | .standalone n => .ok ((w.standalones.get n).fieldsIn w.env)
  | .sentinels n => (w.sentinels.get n).fieldsIn w.env
  | .cluster n => (w.clusters.get n).fieldsIn w.env

/-- Add a node to a topology that is known by nodes. -/
def addNode (ref : TopologyRef) (host port : Value) : Act Unit := fun w =>
  match ref with
  | .sentinels n =>
    match (w.sentinels.get n).addSentinel host port with
    | .ok s => (.ok (), { w with sentinels := w.sentinels.set n s })
    | .error e => (.error e, w)
  | .cluster n =>
    match (w.clusters.get n).addNode host port with
    | .ok c => (.ok (), { w with clusters := w.clusters.set n c })
    | .error e => (.error e, w)
  | _ => (.ok (), w)

/-- The name of the method that adds a node, if there is one. -/
def addNodeMethod : TopologyRef → Option String
  | .sentinels _ => some "sentinel"
  | .cluster _ => some "cluster_node"
  | _ => none

/-- Call a method of a topology. -/
def onTopology (ref : TopologyRef) (c : Call) : Act Reply := do
  let w ← Act.world
  if c.method = "reset" then
    let _ ← Act.ofExcept (c.bind w [])
    resetTopology ref
    return nothing
  else if c.method = "to_dict" then
    let _ ← Act.ofExcept (c.bind w [])
    return ofValue (.dict (← Act.ofExcept (topologyFields ref w)))
  else if some c.method = addNodeMethod ref then
    match ← Act.ofExcept (c.values w [required "host", nullable "port"]) with
    | [host, port] =>
      addNode ref host port
      return .itself
    | _ => return nothing
  else c.unknown

/-- Call a method of a URI. -/
def onUri (u : Shared Uri) (c : Call) : Act Reply := do
  let w ← Act.world
  match c.method with
  | "with_node" =>
    match ← Act.ofExcept (c.bind w [required "node"]) with
    | x :: _ =>
      let host ← Act.ofExcept (Attribute.read w x "host")
      let port ← Act.ofExcept (Attribute.read w x "port")
      let aimed := u.value.aimedAt (host.toValue w) (port.toValue w)
      return .item (.uri (← Act.share aimed))
    | [] => return nothing
  | "connection_kwargs" =>
    match ← Act.ofExcept (c.values w [optional "include_database" (.bool true)]) with
    | v :: _ => return ofValue (.dict (← Act.ofExcept (u.value.keywords v.truthy)))
    | [] => return nothing
  | _ => c.unknown

/-- Call a method of options. -/
def onOptions (o : Shared Options) (c : Call) : Act Reply := do
  let w ← Act.world
  match c.method with
  | "resolve_redis_class" =>
    let _ ← Act.ofExcept (c.bind w [])
    return ofValue (← Act.ofExcept (o.value.connectionClass w.installed false))
  | "resolve_async_redis_class" =>
    let _ ← Act.ofExcept (c.bind w [])
    return ofValue (← Act.ofExcept (o.value.connectionClass w.installed true))
  | "connection_kwargs" =>
    let _ ← Act.ofExcept (c.bind w [])
    return ofValue (.dict o.value.keywords)
  | _ => c.unknown

/-- Call a method of resources. -/
def onResources (r : Shared Resources) (c : Call) : Act Reply := do
  let w ← Act.world
  match c.method with
  | "retry" =>
    let _ ← Act.ofExcept (c.bind w [])
    return ofValue (r.value.retry false)
  | "async_retry" =>
    let _ ← Act.ofExcept (c.bind w [])
    return ofValue (r.value.retry true)
  | "connection_kwargs" =>
    match ← Act.ofExcept (c.values w [optional "asynchronous" (.bool false)]) with
    | v :: _ => return ofValue (.dict (r.value.keywords v.truthy))
    | [] => return nothing
  | _ => c.unknown

/-- The step of a builder that a method with its argument stands for. -/
def builderStep (method : String) (w : World) (x : Item) : Option Builder.Step :=
  match method with
  | "use_ssl" => some (.useSsl (x.toValue w))
  | "verify_peer" => some (.verifyPeer (x.toValue w))
  | "start_tls" => some (.startTls (x.toValue w))
  | "timeout" => some (.timeout (x.toValue w))
  | "shutdown_timeout" => some (.shutdownTimeout (x.toValue w))
  | "disable_peer_verification" => some .disablePeerVerification
  | "client_options" => some (.options (x.toPart w))
  | "client_resources" => some (.resources (x.toPart w))
  | _ => none

/-- The parameters of a method of a builder. -/
def builderParameters : String → List Parameter
  | "use_ssl" | "start_tls" => [optional "enabled" (.bool true)]
  | "verify_peer" => [required "enabled"]
  | "client_options" => [required "options"]
  | "client_resources" => [required "resources"]
  | "timeout" | "shutdown_timeout" => [required "timeout"]
  | _ => []

/-- Do a step of the builder of a number. -/
def takeStep (n : Nat) (step : Builder.Step) : Act Unit := fun w =>
  match (w.builders.get n).take step with
  | .ok b => (.ok (), { w with builders := w.builders.set n b })
  | .error e => (.error e, w)

/-- Call a method of a builder. -/
def onBuilder (n : Nat) (c : Call) : Act Reply := do
  let w ← Act.world
  if c.method = "build" then
    let _ ← Act.ofExcept (c.bind w [])
    let s ← Act.ofExcept (w.builders.get n).build
    return .item (.settings (← Act.share s))
  else
    match builderStep c.method w Item.null with
    | none => c.unknown
    | some _ =>
      let items ← Act.ofExcept (c.bind w (builderParameters c.method))
      match builderStep c.method w (items.headD Item.null) with
      | some step =>
        takeStep n step
        return .itself
      | none => c.unknown

/-- Call a method of live settings. -/
def onLive (n : Nat) (c : Call) : Act Reply := do
  let w ← Act.world
  match c.method with
  | "freeze" =>
    let _ ← Act.ofExcept (c.bind w [])
    let s ← Act.ofExcept ((w.live.get n).freeze w.env)
    return .item (.settings (← Act.share s))
  | _ => c.unknown

/-- Call a method of a client. Closing is the same for all kinds of clients and owned by the kind
that all share. -/
def onClient (n : Nat) (c : Call) : Act Reply := do
  let w ← Act.world
  let owner := ObjectKind.baseClient.label
  match c.method with
  | "shutdown" =>
    let _ ← Act.ofExcept (c.bindOwned owner [])
    Client.close n
    return nothing
  | "shutdown_async" =>
    let unlimited := Value.duration ⟨0, by decide⟩
    match ← Act.ofExcept (c.bindOwned owner [optional "timeout" unlimited]) with
    | timeout :: _ =>
      Client.shutdownAll n (timeout.toValue w)
      return nothing
    | [] => return nothing
  | "connect" =>
    if (w.clients.get n).uris.isEmpty then c.unknown
    else
      let _ ← Act.ofExcept (c.bind w [])
      return .item (.connection (← Client.connect n false))
  | "connect_async" =>
    if (w.clients.get n).uris.isEmpty then c.unknown
    else
      let _ ← Act.ofExcept (c.bind w [])
      return .item (.connection (← Client.connect n true))
  | _ => c.unknown

/-- Call a method of a deployment. -/
def onDeployment (n : Nat) (c : Call) : Act Reply := do
  let w ← Act.world
  let plain : Except Failure Unit := (c.bind w []).map fun _ => ()
  match c.method with
  | "initialize" =>
    Act.ofExcept plain
    Deployment.start n
    return nothing
  | "get_connection" =>
    Act.ofExcept plain
    return .item (.connection (← Deployment.handOut n false))
  | "get_async_connection" =>
    Act.ofExcept plain
    return .item (.connection (← Deployment.handOut n true))
  | "destroy" =>
    Act.ofExcept plain
    Deployment.destroy n
    return nothing
  | "adestroy" =>
    Act.ofExcept plain
    Deployment.destroyAsync n
    return nothing
  | "__enter__" | "__aenter__" =>
    Act.ofExcept plain
    Deployment.start n
    return .itself
  | "__exit__" =>
    Deployment.destroy n
    return nothing
  | "__aexit__" =>
    Deployment.destroyAsync n
    return nothing
  | _ => c.unknown

/-- Call a method. -/
def call (c : Call) : Act Reply :=
  match c.receiver with
  | .topology ref => onTopology ref c
  | .uri u => onUri u c
  | .options o => onOptions o c
  | .resources r => onResources r c
  | .builder n => onBuilder n c
  | .live n => onLive n c
  | .client n => onClient n c
  | .deployment n => onDeployment n c
  | _ => c.unknown

end Method

end RedisLink
