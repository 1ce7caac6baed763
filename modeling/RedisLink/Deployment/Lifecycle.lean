/-
RedisLink.Deployment.Lifecycle — the client of a deployment.

A deployment builds its client once, from what its settings are at that moment,
and hands out connections of it: one that all callers share, or a new one for
each call. Releasing closes all connections and gives up the client; if a
connection fails to close, the client stays and what is left can be closed by
another attempt. A release that cannot wait is refused while asynchronous
connections are open.
-/
import RedisLink.Client.Lifecycle
import RedisLink.Deployment

namespace RedisLink

namespace Deployment

/-! ## Building the client -/

/-- The URI of a host and a port with what the settings are now. -/
def uri (d : Deployment) (host port : Value) (w : World) : Except Failure Uri :=
  match d.settings.timeout .command w with
  | .error e => .error e
  | .ok timeout =>
    .ok {
      host := host
      port := port
      password := d.topology.password w
      database := .int (d.topology.database w)
      ssl := d.settings.useSsl w
      verifyPeer := d.settings.verifyPeer w
      startTls := d.settings.startTls w
      timeout := .duration timeout.duration
      master := .null
      sentinels := .tuple [] }

/-- The URIs that the client of a deployment is built from: one for a server or a master under
sentinels, one for each node of a cluster. There is at least one. -/
def uris (d : Deployment) (w : World) : Except Failure (Uri × List Uri) :=
  match d.role with
  | .cluster n =>
    match (w.clusters.get n).clusterNodesIn w.env with
    | .error e => .error e
    | .ok [] => .error .noClusterNodes
    | .ok (first :: others) =>
      match d.uri first.host (.int first.port) w with
      | .error e => .error e
      | .ok u => .ok (u, others.map fun node => u.aimedAt node.host (.int node.port))
  | .sentinels n =>
    let master := (w.sentinels.get n).masterIn w.env
    match (w.sentinels.get n).sentinelsIn w.env with
    | .error e => .error e
    | .ok nodes =>
      if !master.truthy then .error .noMaster
      else
        match nodes with
        | [] => .error .noSentinels
        | first :: _ =>
          match d.uri first.host (.int first.port) w with
          | .error e => .error e
          | .ok u =>
            .ok ({ u with master := master, sentinels := .tuple (nodes.map Node.toValue) }, [])
  | .standalone =>
    match d.uri (d.host w) (d.port w) w with
    | .error e => .error e
    | .ok u => .ok (u, [])

/-- Give each URI the next number. -/
def numbered (next : Nat) : List Uri → List (Shared Uri)
  | [] => []
  | u :: rest => ⟨next, u⟩ :: numbered (next + 1) rest

/-- The client of a deployment, built from what its settings are now. -/
def plan (d : Deployment) (w : World) : Except Failure Client :=
  match d.uris w with
  | .error e => .error e
  | .ok (first, others) =>
    let first : Shared Uri := ⟨w.nextRecord, first⟩
    let others := numbered (w.nextRecord + 1) others
    let next := w.nextRecord + others.length + 1
    let options := (d.settings.options w).orElse (.options ⟨next, .standard⟩)
    let resources := (d.settings.resources w).orElse (.resources ⟨next + 1, .standard⟩)
    let aim := if d.isCluster then .cluster first others else .single first
    .ok (.fresh aim options resources)

/-- Build the client of the deployment of a number, unless there is one. -/
def start (n : Nat) : Act Unit := fun w =>
  let d := w.deployments.get n
  match d.client with
  | some _ => (.ok (), w)
  | none =>
    match d.plan w with
    | .error e => (.error e, w)
    | .ok c =>
      let number := w.clients.size
      let w := { w with
        nextRecord := w.nextRecord + c.uris.length + 2
        clients := w.clients.add c }
      let w := w.setDeployment n { d with client := some number }
      (.ok (), w.record [] [⟨.debug, .deployments, "Initialized " ++ c.label⟩])

/-! ## Handing out connections -/

/-- The connection that callers share. -/
def shared (d : Deployment) (asynchronous : Bool) : Option Connection :=
  if asynchronous then d.asyncConnection else d.connection

/-- The deployment with a connection for callers to share. -/
def setShared (d : Deployment) (asynchronous : Bool) (c : Connection) : Deployment :=
  if asynchronous then { d with asyncConnection := some c } else { d with connection := some c }

/-- A connection of the deployment of a number: the shared one, opened at first use, or a new
one. -/
def handOut (n : Nat) (asynchronous : Bool) : Act Connection := fun w =>
  let d := w.deployments.get n
  match d.client with
  | none => (.error .notInitialized, w)
  | some client =>
    if d.share.truthy then
      match d.shared asynchronous with
      | some c => (.ok c, w)
      | none =>
        match Client.connect client asynchronous w with
        | (.error e, w) => (.error e, w)
        | (.ok c, w) => (.ok c, w.setDeployment n (d.setShared asynchronous c))
    else Client.connect client asynchronous w

/-! ## Releasing the client -/

/-- The deployment without its client and its shared connections. -/
def released (d : Deployment) : Deployment :=
  { d with client := none, connection := none, asyncConnection := none }

/-- Give up the client of the deployment of a number, and report it. -/
def release (n client : Nat) : Act Unit := fun w =>
  let line : LogLine := ⟨.info, .deployments,
    "Destroyed connection factory for " ++ (w.clients.get client).label⟩
  (.ok (), (w.setDeployment n (w.deployments.get n).released).record [] [line])

/-- Close the blocking connections and give up the client. Refused while asynchronous connections
are open. -/
def destroy (n : Nat) : Act Unit := fun w =>
  match (w.deployments.get n).client with
  | none => (.ok (), w)
  | some client =>
    let count := (w.clients.get client).openAsyncCount
    if count ≠ 0 then (.error (.asyncStillOpen count), w)
    else
      match Client.close client w with
      | (.error e, w) => (.error e, w)
      | (.ok (), w) => release n client w

/-- Close all connections and give up the client. -/
def destroyAsync (n : Nat) : Act Unit := fun w =>
  let d := w.deployments.get n
  match d.client with
  | none => (.ok (), w)
  | some client =>
    match d.settings.timeout .shutdown w with
    | .error e => (.error e, w)
    | .ok t =>
      match Client.shutdownAll client (.duration t.duration) w with
      | (.error e, w) => (.error e, w)
      | (.ok (), w) => release n client w

/-! ## Making deployments -/

/-- Make a deployment with a topology, where a topology other than a single server comes with a
placeholder for one. -/
def make (topology : Option TopologyRef) (settings : SettingsRef) : Act Nat := fun w =>
  let placeholder := w.standalones.size
  let standalones := w.standalones.add .unset
  let (standalone, role) : Nat × Role := match topology with
    | some (.standalone n) => (n, .standalone)
    | some (.sentinels n) => (placeholder, .sentinels n)
    | some (.cluster n) => (placeholder, .cluster n)
    | some (.credentials _) | none => (placeholder, .standalone)
  (.ok w.deployments.size,
    { w with
      standalones := standalones
      deployments := w.deployments.add (.fresh standalone role settings) })

/-- Add live settings that nothing has been set in. -/
def addLive (useSsl : Value) : Act Nat := do
  let options ← Act.share Options.standard
  fun w =>
    (.ok w.live.size,
      { w with live := w.live.add { LiveSettings.unset options with useSsl := useSsl } })

/-- Add a topology to the world. -/
def addTopology : Topology → Act TopologyRef
  | .standalone s => fun w =>
    (.ok (.standalone w.standalones.size), { w with standalones := w.standalones.add s })
  | .sentinels s => fun w =>
    (.ok (.sentinels w.sentinels.size), { w with sentinels := w.sentinels.add s })
  | .cluster c => fun w => (.ok (.cluster w.clusters.size), { w with clusters := w.clusters.add c })

/-- Whether a topology asks for TLS that the environment does not decide about. -/
def asksForTls (env : Environment) : Topology → Bool
  | .standalone s => s.tls.truthy && (env.get? "REDIS_SSL").isNone
  | _ => false

/-- Make the deployment that the environment describes. -/
def ofEnvironment : Act Nat := do
  let w ← Act.world
  let topology ← Act.ofExcept (Topology.ofEnvironment w.env)
  let ref ← addTopology topology
  let live ← addLive (if asksForTls w.env topology then .bool true else .null)
  make (some ref) (.live live)

end Deployment

end RedisLink
