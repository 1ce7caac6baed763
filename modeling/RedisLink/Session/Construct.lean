/-
RedisLink.Session.Construct — making objects in a session.

Every kind of object has a signature and a way of making it from the items that
its parameters have been given. Kinds also have makers of their own besides:
reading a node or a URL, standard settings, a builder, and the deployment that
the environment describes.
-/
import RedisLink.Deployment.Lifecycle
import RedisLink.Session.Signature

namespace RedisLink

/-- The kinds of objects that a session can make. -/
inductive ObjectKind
  | credentials | standalone | sentinels | cluster
  | node | uri
  | options | settings | builder | live | resources
  | baseClient | client | clusterClient
  | deployment
deriving DecidableEq, Repr

/-- The name of a kind of objects. -/
def ObjectKind.label : ObjectKind → String
  | .credentials => "RedisConfiguration"
  | .standalone => "StandaloneConfiguration"
  | .sentinels => "SentinelConfiguration"
  | .cluster => "ClusterConfiguration"
  | .node => "RedisNode"
  | .uri => "RedisURI"
  | .options => "ClientOptions"
  | .settings => "ClientConfiguration"
  | .builder => "ClientConfigurationBuilder"
  | .live => "MutableClientConfiguration"
  | .resources => "ClientResources"
  | .baseClient => "BaseRedisClient"
  | .client => "RedisClient"
  | .clusterClient => "RedisClusterClient"
  | .deployment => "RedisConnectionFactory"

/-- All kinds of objects. -/
def ObjectKind.all : List ObjectKind :=
  [.credentials, .standalone, .sentinels, .cluster, .node, .uri, .options, .settings, .builder,
   .live, .resources, .baseClient, .client, .clusterClient, .deployment]

/-- The kind of a name. -/
def ObjectKind.ofLabel? (name : String) : Option ObjectKind :=
  ObjectKind.all.find? fun kind => kind.label = name

namespace ObjectKind

open Signature

/-- The parameters for making an object. Options with the number zero are new ones. -/
def parameters : ObjectKind → List Parameter
  | .credentials => [nullable "password", nullable "database"]
  | .standalone => [nullable "host", nullable "port", nullable "password", nullable "database"]
  | .sentinels =>
    [nullable "master", optional "sentinels" (.tuple []), nullable "password",
     nullable "database"]
  | .cluster => [optional "nodes" (.tuple []), nullable "password", nullable "database"]
  | .node => [required "host", required "port"]
  | .uri =>
    [required "host", required "port", nullable "password", optional "database" (.int 0),
     optional "ssl" (.bool false), optional "verify_peer" (.bool true),
     optional "start_tls" (.bool false),
     optional "timeout" (.duration Timeout.command.duration), nullable "sentinel_master_id",
     optional "sentinels" (.tuple [])]
  | .options =>
    [optional "decode_responses" (.bool false), nullable "socket_connect_timeout",
     nullable "socket_keepalive", nullable "client_name", optional "redis_class" (.cls .client),
     optional "async_redis_class" (.cls .asyncClient),
     optional "additional_connection_kwargs" (.dict [])]
  | .settings =>
    [optional "use_ssl" (.bool false), optional "verify_peer" (.bool true),
     optional "start_tls" (.bool false), ⟨"client_options", some (.options ⟨0, .standard⟩)⟩,
     nullable "client_resources", optional "timeout" (.duration Timeout.command.duration),
     optional "shutdown_timeout" (.duration Timeout.shutdown.duration)]
  | .builder => []
  | .live =>
    [nullable "use_ssl", nullable "verify_peer", nullable "start_tls", nullable "client_options",
     nullable "client_resources", nullable "timeout", nullable "shutdown_timeout"]
  | .resources =>
    [optional "retries" (.int 3), nullable "backoff", optional "health_check_interval" (.int 0)]
  | .baseClient => [nullable "client_options", nullable "client_resources"]
  | .client => [required "redis_uri", nullable "client_options", nullable "client_resources"]
  | .clusterClient =>
    [required "initial_uris", nullable "client_options", nullable "client_resources"]
  | .deployment => [nullable "configuration", nullable "client_configuration"]

/-- The signature for making an object. -/
def signature (kind : ObjectKind) : Signature := ⟨kind.label ++ ".__init__", kind.parameters⟩

end ObjectKind

namespace Construct

/-- Refuse an item that cannot stand where it is given. -/
def misplaced {α : Type} (callee : String) (item : Item) : Act α := fun w =>
  (.error (.wrongArguments callee ("cannot use " ++ item.kind w)), w)

/-- Add a topology and give it as an item. -/
def addTopology (t : Except Failure Topology) : Act Item := do
  return .topology (← Deployment.addTopology (← Act.ofExcept t))

/-- Add credentials that stand by themselves. -/
def addCredentials (c : Except Failure Credentials) : Act Item := do
  let c ← Act.ofExcept c
  fun w => (.ok (.topology (.credentials w.credentials.size)),
    { w with credentials := w.credentials.add c })

/-- Add live settings. -/
def addLive (s : LiveSettings) : Act Item := fun w =>
  (.ok (.live w.live.size), { w with live := w.live.add s })

/-- Add a builder that nothing has been put in. -/
def addBuilder : Act Item := do
  let options ← Act.share Options.standard
  fun w => (.ok (.builder w.builders.size),
    { w with builders := w.builders.add (.fresh options) })

/-- Add a client that has opened no connection. -/
def addClient (aim : Aim) (options resources : Part) : Act Item := fun w =>
  (.ok (.client w.clients.size),
    { w with clients := w.clients.add (.fresh aim options resources) })

/-- A part unless it counts as nothing, else new options. -/
def optionsOrNew (given : Part) : Act Part := do
  if given.truthy then return given else return .options (← Act.share Options.standard)

/-- A part unless it counts as nothing, else new resources. -/
def resourcesOrNew (given : Part) : Act Part := do
  if given.truthy then return given else return .resources (← Act.share Resources.standard)

/-- What is given as the options of settings that cannot be changed; options without a number of
their own are new ones. -/
def givenOptions (w : World) : Item → Act Part
  | .options o => do
    if o.number = 0 then return .options (← Act.share o.value) else return .options o
  | item => return item.toPart w

/-- Options from what their parameters have been given. -/
def makeOptions : List Value → Except Failure Options
  | [decode, timeout, keepalive, name, blocking, asynchronous, additional] =>
    match additional with
    | .dict fields => .ok ⟨decode, timeout, keepalive, name, blocking, asynchronous, fields⟩
    | v => .error (.notIterable v.operandKind)
  | _ => .ok .standard

/-- A URI from what its parameters have been given. -/
def makeUri : List Value → Uri
  | [host, port, password, database, ssl, verifyPeer, startTls, timeout, master, sentinels] =>
    ⟨host, port, password, database, ssl, verifyPeer, startTls, timeout, master, sentinels⟩
  | _ => default

/-- The URIs among items; a failure if one is something else. -/
def urisOf (callee : String) (w : World) : List Item → Except Failure (List (Shared Uri))
  | [] => .ok []
  | .uri u :: rest =>
    match urisOf callee w rest with
    | .ok us => .ok (u :: us)
    | .error e => .error e
  | item :: _ => .error (.wrongArguments callee ("cannot use " ++ item.kind w))

/-- Make a cluster client; its URIs are looked at after its options and resources. -/
def makeClusterClient (callee : String) (uris : Item) (options resources : Part) : Act Item := do
  let options ← optionsOrNew options
  let resources ← resourcesOrNew resources
  let w ← Act.world
  let uris ← match uris with
    | .items _ xs => Act.ofExcept (urisOf callee w xs)
    | item => do
      let xs ← Act.ofExcept (item.toValue w).items
      Act.ofExcept (urisOf callee w (xs.map .value))
  match uris with
  | [] => Act.fail .noInitialUri
  | first :: others => addClient (.cluster first others) options resources

/-- Make settings that cannot be changed. -/
def makeSettings (w : World) : List Item → Act Item
  | [useSsl, verifyPeer, startTls, options, resources, timeout, shutdownTimeout] => do
    let options ← givenOptions w options
    let s ← Act.ofExcept (Settings.make (useSsl.toValue w) (verifyPeer.toValue w)
      (startTls.toValue w) options (resources.toPart w) (timeout.toValue w)
      (shutdownTimeout.toValue w))
    return .settings (← Act.share s)
  | _ => return Item.null

/-- Make live settings. -/
def makeLive (w : World) : List Item → Act Item
  | [useSsl, verifyPeer, startTls, options, resources, timeout, shutdownTimeout] => do
    let options ← optionsOrNew (options.toPart w)
    let s ← Act.ofExcept (LiveSettings.make (useSsl.toValue w) (verifyPeer.toValue w)
      (startTls.toValue w) options (resources.toPart w) (timeout.toValue w)
      (shutdownTimeout.toValue w))
    addLive s
  | _ => return Item.null

/-- The topology that an item is, if it can be one of a deployment. -/
def topologyOf (w : World) : Item → Except Failure (Option TopologyRef)
  | .topology (.credentials _) => .error (.unsupportedTopology ObjectKind.credentials.label)
  | .topology ref => .ok (some ref)
  | .value .null => .ok none
  | item => .error (.unsupportedTopology (item.kind w))

/-- Make a deployment; without settings it gets live ones. -/
def makeDeployment (callee : String) (configuration settings : Item) : Act Item := do
  let w ← Act.world
  let topology ← Act.ofExcept (topologyOf w configuration)
  let settings : SettingsRef ← match settings with
    | .settings s => pure (.fixed s)
    | .live n => pure (.live n)
    | .value .null => do
      let n ← Deployment.addLive .null
      pure (.live n)
    | item => misplaced callee item
  return .deployment (← Deployment.make topology settings)

/-- Make an object from the items that its parameters have been given. -/
def fromItems (kind : ObjectKind) (items : List Item) : Act Item := do
  let w ← Act.world
  let callee := kind.signature.callee
  match kind, items with
  | .options, items => do
    let options ← Act.ofExcept (makeOptions (Item.toValues w items))
    return .options (← Act.share options)
  | .uri, items => return .uri (← Act.share (makeUri (Item.toValues w items)))
  | .settings, items => makeSettings w items
  | .live, items => makeLive w items
  | .builder, _ => addBuilder
  | .baseClient, [options, resources] => do
    let options ← optionsOrNew (options.toPart w)
    addClient .nowhere options (← resourcesOrNew (resources.toPart w))
  | .client, [uri, options, resources] => do
    let options ← optionsOrNew (options.toPart w)
    let resources ← resourcesOrNew (resources.toPart w)
    match uri with
    | .uri u => addClient (.single u) options resources
    | item => misplaced callee item
  | .clusterClient, [uris, options, resources] =>
    makeClusterClient callee uris (options.toPart w) (resources.toPart w)
  | .deployment, [configuration, settings] => makeDeployment callee configuration settings
  | kind, items =>
    match kind, Item.toValues w items with
    | .credentials, [password, database] => addCredentials (Credentials.make password database)
    | .standalone, [host, port, password, database] =>
      addTopology ((Standalone.make host port password database).map .standalone)
    | .sentinels, [master, sentinels, password, database] =>
      addTopology ((Sentinels.make master sentinels password database).map .sentinels)
    | .cluster, [nodes, password, database] =>
      addTopology ((Cluster.make nodes password database).map .cluster)
    | .node, [host, port] => return .value (← Act.ofExcept (Node.make host port)).toValue
    | .resources, [retries, backoff, healthCheck] =>
      return .resources (← Act.share (← Act.ofExcept (Resources.make retries backoff healthCheck)))
    | _, _ => return Item.null

/-- Make an object from arguments. -/
def new (kind : ObjectKind) (arguments : Arguments) : Act Item := do
  fromItems kind (← Act.ofExcept (kind.signature.bind arguments))

/-- Make an object by one of the makers of its kind. -/
def static (kind : ObjectKind) (method : String) (arguments : Arguments) : Act Item := do
  let w ← Act.world
  let bind (parameters : List Parameter) : Act (List Value) := do
    let items ← Act.ofExcept
      (Signature.bind ⟨kind.label ++ "." ++ method, parameters⟩ arguments)
    return Item.toValues w items
  match kind, method with
  | .node, "parse" =>
    match ← bind [Signature.required "value"] with
    | v :: _ => return .value (← Act.ofExcept (Node.parseValue v)).toValue
    | [] => return Item.null
  | .standalone, "from_url" =>
    match ← bind [Signature.required "url"] with
    | v :: _ => addTopology ((Standalone.ofUrlValue v).map .standalone)
    | [] => return Item.null
  | .options, "create" => do
    let _ ← bind []
    fromItems .options []
  | .settings, "create" => do
    let _ ← bind []
    new .settings ⟨[], []⟩
  | .settings, "builder" => do
    let _ ← bind []
    addBuilder
  | .deployment, "from_env" => do
    let _ ← bind []
    return .deployment (← Deployment.ofEnvironment)
  | _, _ => Act.fail (.noAttribute kind.label method)

end Construct

end RedisLink
