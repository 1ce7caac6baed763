/-
RedisLink.Session.Attribute — reading and writing attributes in a session.

Attributes are read and written by name. Some cannot be written: those of
records never, those that are only computed, and those that no object has. A
read may fail like any other operation.
-/
import RedisLink.Deployment.Lifecycle
import RedisLink.Session.Item

namespace RedisLink.Attribute

/-! ## Reading -/

/-- A value by name among fields. -/
def fieldOf (fields : List (String × Value)) (name : String) : Option Item :=
  (fields.lookup name).map .value

/-- A sequence of nodes as an item. -/
def ofNodes (nodes : Except Failure (List Node)) : Except Failure Item :=
  nodes.map fun ns => .value (.list (ns.map Node.toValue))

/-- A timeout as an item. -/
def ofTimeout (t : Except Failure Timeout) : Except Failure Item :=
  t.map fun t => .value (.duration t.duration)

/-- Read an attribute of a topology. -/
def ofTopology (ref : TopologyRef) (w : World) (name : String) : Option (Except Failure Item) :=
  match name, ref with
  | "password", ref => some (.ok (.value (ref.password w)))
  | "database", ref => some (.ok (.ofNat (ref.database w)))
  | "host", .standalone n => some (.ok (.value ((w.standalones.get n).hostIn w.env)))
  | "port", .standalone n => some (.ok (.value ((w.standalones.get n).portIn w.env)))
  | "ssl", .standalone n => some (.ok (.value (w.standalones.get n).tls))
  | "node", .standalone n =>
    some (((w.standalones.get n).nodeIn w.env).map fun node => .value node.toValue)
  | "master", .sentinels n => some (.ok (.value ((w.sentinels.get n).masterIn w.env)))
  | "sentinels", .sentinels n => some (ofNodes ((w.sentinels.get n).sentinelsIn w.env))
  | "cluster_nodes", .cluster n => some (ofNodes ((w.clusters.get n).clusterNodesIn w.env))
  | _, _ => none

/-- Read an attribute of a URI. -/
def ofUri (u : Shared Uri) (name : String) : Option (Except Failure Item) :=
  match name with
  | "socket_timeout" => some (u.value.socketTimeout.map .value)
  | "is_sentinel" => some (.ok (.ofBool u.value.isSentinel))
  | _ => (fieldOf u.value.fields name).map .ok

/-- Read an attribute of settings that cannot be changed. -/
def ofSettings (s : Shared Settings) (name : String) : Option (Except Failure Item) :=
  match name with
  | "use_ssl" => some (.ok (.value s.value.useSsl))
  | "verify_peer" => some (.ok (.value s.value.verifyPeer))
  | "start_tls" => some (.ok (.value s.value.startTls))
  | "client_options" => some (.ok (.ofPart s.value.options))
  | "client_resources" => some (.ok (.ofPart s.value.resources))
  | "timeout" => some (ofTimeout (.ok s.value.timeout))
  | "shutdown_timeout" => some (ofTimeout (.ok s.value.shutdownTimeout))
  | _ => none

/-- Read an attribute of live settings. -/
def ofLive (n : Nat) (w : World) (name : String) : Option (Except Failure Item) :=
  let s := w.live.get n
  match name with
  | "use_ssl" => some (.ok (.value (s.useSslIn w.env)))
  | "verify_peer" => some (.ok (.value (s.verifyPeerIn w.env)))
  | "start_tls" => some (.ok (.value (s.startTlsIn w.env)))
  | "client_options" => some (.ok (.ofPart s.options))
  | "client_resources" => some (.ok (.ofPart s.resources))
  | "timeout" => some (ofTimeout (s.timeoutIn w.env))
  | "shutdown_timeout" => some (ofTimeout (s.shutdownTimeoutIn w.env))
  | _ => none

/-- Read an attribute of resources. -/
def ofResources (r : Shared Resources) (name : String) : Option (Except Failure Item) :=
  match name with
  | "retries" => some (.ok (.value r.value.retries))
  | "backoff" => some (.ok (.value r.value.backoff))
  | "health_check_interval" => some (.ok (.value r.value.healthCheck))
  | _ => none

/-- Read an attribute of a client. -/
def ofClient (n : Nat) (w : World) (name : String) : Option (Except Failure Item) :=
  let c := w.clients.get n
  match name, c.aim with
  | "client_options", _ => some (.ok (.ofPart c.options))
  | "client_resources", _ => some (.ok (.ofPart c.resources))
  | "open_connections", _ => some (.ok (.ofNat c.openCount))
  | "open_async_connections", _ => some (.ok (.ofNat c.openAsyncCount))
  | "redis_uri", .single uri => some (.ok (.uri uri))
  | "initial_uris", .cluster _ _ => some (.ok (.ofUris c.uris))
  | _, _ => none

/-- Read an attribute of a deployment. -/
def ofDeployment (n : Nat) (w : World) (name : String) : Option (Except Failure Item) :=
  let d := w.deployments.get n
  match name with
  | "is_sentinel_aware" => some (.ok (.ofBool d.underSentinels))
  | "is_cluster_aware" => some (.ok (.ofBool d.isCluster))
  | "host_name" => some (.ok (.value (d.host w)))
  | "port" => some (.ok (.value (d.port w)))
  | "password" => some (.ok (.value (d.topology.password w)))
  | "database" => some (.ok (.ofNat (d.topology.database w)))
  | "use_ssl" => some (.ok (.value (d.settings.useSsl w)))
  | "verify_peer" => some (.ok (.value (d.settings.verifyPeer w)))
  | "start_tls" => some (.ok (.value (d.settings.startTls w)))
  | "timeout" => some ((d.timeoutMillis .command w).map fun n => .value (.int n))
  | "shutdown_timeout" => some ((d.timeoutMillis .shutdown w).map fun n => .value (.int n))
  | "client_resources" => some (.ok (.ofPart (d.settings.resources w)))
  | "share_native_connection" => some (.ok (.value d.share))
  | "client" =>
    some (.ok (match d.client with
      | some c => .client c
      | none => Item.null))
  | "standalone_configuration" => some (.ok (.topology (.standalone d.standalone)))
  | "sentinel_configuration" =>
    some (.ok (match d.role with
      | .sentinels m => .topology (.sentinels m)
      | _ => Item.null))
  | "cluster_configuration" =>
    some (.ok (match d.role with
      | .cluster m => .topology (.cluster m)
      | _ => Item.null))
  | "client_configuration" =>
    some (.ok (match d.settings with
      | .fixed s => .settings s
      | .live m => .live m))
  | _ => none

/-- Read an attribute, if the item has one of the name. -/
def find (w : World) (name : String) : Item → Option (Except Failure Item)
  | .topology ref => ofTopology ref w name
  | .uri u => ofUri u name
  | .options o => (fieldOf o.value.fields name).map .ok
  | .settings s => ofSettings s name
  | .resources r => ofResources r name
  | .live n => ofLive n w name
  | .client n => ofClient n w name
  | .deployment n => ofDeployment n w name
  | .value (.node host port) =>
    match name with
    | "host" => some (.ok (.value host))
    | "port" => some (.ok (.ofNat port))
    | _ => none
  | _ => none

/-- Read an attribute. -/
def read (w : World) (x : Item) (name : String) : Except Failure Item :=
  (find w name x).getD (.error (x.lacks w name))

/-! ## Writing -/

/-- Whether an item is a record, which cannot be changed. -/
def isRecord : Item → Bool
  | .uri _ | .options _ | .settings _ | .value (.node _ _) => true
  | _ => false

/-- The failure that an attribute cannot be written. -/
def unwritable (w : World) (x : Item) (name : String) : Failure :=
  match find w name x with
  | some _ => .noSetter (x.kind w) name
  | none => x.lacks w name

/-- Write an attribute of a topology. -/
def writeTopology (ref : TopologyRef) (name : String) (given : Value) : Act Unit := fun w =>
  match name, ref with
  | "password", ref => ref.setPassword given w
  | "database", ref => ref.setDatabase given w
  | "host", .standalone n => (.ok (), w.setStandalone n ((w.standalones.get n).setHost given))
  | "port", .standalone n =>
    match (w.standalones.get n).setPort given with
    | .ok s => (.ok (), w.setStandalone n s)
    | .error e => (.error e, w)
  | "ssl", .standalone n =>
    (.ok (), w.setStandalone n { w.standalones.get n with tls := given })
  | "master", .sentinels n =>
    (.ok (), { w with sentinels := w.sentinels.set n ((w.sentinels.get n).setMaster given) })
  | _, _ => (.error (unwritable w (.topology ref) name), w)

/-- Write an attribute of live settings. -/
def writeLive (n : Nat) (name : String) (given : Item) : Act Unit := fun w =>
  let change := (SettingsRef.live n).change
  match name with
  | "use_ssl" => change (fun s => .ok (s.setUseSsl (given.toValue w))) w
  | "verify_peer" => change (fun s => .ok (s.setVerifyPeer (given.toValue w))) w
  | "start_tls" => change (fun s => .ok (s.setStartTls (given.toValue w))) w
  | "timeout" => change (fun s => s.setTimeout .command (given.toValue w)) w
  | "shutdown_timeout" => change (fun s => s.setTimeout .shutdown (given.toValue w)) w
  | "client_options" => change (fun s => .ok { s with options := given.toPart w }) w
  | "client_resources" => change (fun s => .ok { s with resources := given.toPart w }) w
  | _ => (.error (unwritable w (.live n) name), w)

/-- What a write of an attribute of a deployment is, if the attribute can be written. -/
def deploymentWrite (w : World) (name : String) (given : Item) : Option Deployment.Write :=
  let v := given.toValue w
  match name with
  | "host_name" => some (.host v)
  | "port" => some (.port v)
  | "password" => some (.password v)
  | "database" => some (.database v)
  | "use_ssl" => some (.useSsl v)
  | "verify_peer" => some (.verifyPeer v)
  | "start_tls" => some (.startTls v)
  | "timeout" => some (.timeout .command v)
  | "shutdown_timeout" => some (.timeout .shutdown v)
  | "share_native_connection" => some (.share v)
  | "client_resources" => some (.resources (given.toPart w))
  | _ => none

/-- Write an attribute. -/
def write (x : Item) (name : String) (given : Item) : Act Unit := fun w =>
  if isRecord x then (.error (.frozenWrite name), w)
  else
    match x with
    | .topology ref => writeTopology ref name (given.toValue w) w
    | .live n => writeLive n name given w
    | .deployment n =>
      match deploymentWrite w name given with
      | some entry => Deployment.write n entry w
      | none => (.error (unwritable w x name), w)
    | _ => (.error (unwritable w x name), w)

/-- Delete an attribute, which never succeeds. -/
def delete (w : World) (x : Item) (name : String) : Failure :=
  if isRecord x then .frozenDelete name
  else
    match find w name x with
    | some _ => .noDeleter (x.kind w) name
    | none => x.lacks w name

end RedisLink.Attribute
