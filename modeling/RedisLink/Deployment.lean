/-
RedisLink.Deployment — reading and writing the settings of a deployment.

A deployment reads and writes password and database of the topology it was made
with, and host and port of its single server; that may be a placeholder when
another topology is in use. Flags, timeouts and resources come from its
settings, which it can write only if they are live ones. Milliseconds that are
written become a duration before anything else is looked at.
-/
import RedisLink.World

namespace RedisLink

namespace World

/-- The credentials of a topology. -/
def credentialsOf (w : World) : TopologyRef → Credentials
  | .credentials n => w.credentials.get n
  | .standalone n => (w.standalones.get n).credentials
  | .sentinels n => (w.sentinels.get n).credentials
  | .cluster n => (w.clusters.get n).credentials

/-- The world with the credentials of a topology replaced. -/
def setCredentials (w : World) (ref : TopologyRef) (c : Credentials) : World :=
  match ref with
  | .credentials n => { w with credentials := w.credentials.set n c }
  | .standalone n =>
    { w with standalones := w.standalones.set n { w.standalones.get n with credentials := c } }
  | .sentinels n =>
    { w with sentinels := w.sentinels.set n { w.sentinels.get n with credentials := c } }
  | .cluster n => { w with clusters := w.clusters.set n { w.clusters.get n with credentials := c } }

/-- The world with a deployment replaced. -/
def setDeployment (w : World) (n : Nat) (d : Deployment) : World :=
  { w with deployments := w.deployments.set n d }

/-- The world with live settings replaced. -/
def setLive (w : World) (n : Nat) (s : LiveSettings) : World :=
  { w with live := w.live.set n s }

/-- The world with a single server replaced. -/
def setStandalone (w : World) (n : Nat) (s : Standalone) : World :=
  { w with standalones := w.standalones.set n s }

end World

/-! ## Credentials of any topology -/

namespace TopologyRef

/-- The password as it is read now. -/
def password (ref : TopologyRef) (w : World) : Value := (w.credentialsOf ref).passwordIn w.env

/-- The database as it is read now. -/
def database (ref : TopologyRef) (w : World) : Nat := (w.credentialsOf ref).databaseIn w.env

/-- Write the password. -/
def setPassword (ref : TopologyRef) (given : Value) : Act Unit := fun w =>
  (.ok (), w.setCredentials ref ((w.credentialsOf ref).setPassword given))

/-- Write the database; a refused write changes nothing. -/
def setDatabase (ref : TopologyRef) (given : Value) : Act Unit := fun w =>
  match (w.credentialsOf ref).setDatabase given with
  | .ok c => (.ok (), w.setCredentials ref c)
  | .error e => (.error e, w)

end TopologyRef

/-! ## Settings, fixed or live -/

namespace SettingsRef

/-- The TLS flag as it is read now. -/
def useSsl (ref : SettingsRef) (w : World) : Value :=
  match ref with
  | .fixed s => s.value.useSsl
  | .live n => (w.live.get n).useSslIn w.env

/-- The flag for verifying peers as it is read now. -/
def verifyPeer (ref : SettingsRef) (w : World) : Value :=
  match ref with
  | .fixed s => s.value.verifyPeer
  | .live n => (w.live.get n).verifyPeerIn w.env

/-- The flag for starting TLS as it is read now. -/
def startTls (ref : SettingsRef) (w : World) : Value :=
  match ref with
  | .fixed s => s.value.startTls
  | .live n => (w.live.get n).startTlsIn w.env

/-- The options as they are now. -/
def options (ref : SettingsRef) (w : World) : Part :=
  match ref with
  | .fixed s => s.value.options
  | .live n => (w.live.get n).options

/-- The resources as they are now. -/
def resources (ref : SettingsRef) (w : World) : Part :=
  match ref with
  | .fixed s => s.value.resources
  | .live n => (w.live.get n).resources

/-- A timeout as it is read now. -/
def timeout (ref : SettingsRef) (name : TimeoutName) (w : World) : Except Failure Timeout :=
  match ref, name with
  | .fixed s, .command => .ok s.value.timeout
  | .fixed s, .shutdown => .ok s.value.shutdownTimeout
  | .live n, .command => (w.live.get n).timeoutIn w.env
  | .live n, .shutdown => (w.live.get n).shutdownTimeoutIn w.env

/-- Change live settings; settings that are fixed cannot be changed. -/
def change (ref : SettingsRef) (f : LiveSettings → Except Failure LiveSettings) : Act Unit :=
  fun w =>
    match ref with
    | .fixed _ => (.error .immutableSettings, w)
    | .live n =>
      match f (w.live.get n) with
      | .ok s => (.ok (), w.setLive n s)
      | .error e => (.error e, w)

end SettingsRef

namespace Deployment

/-- The topology in use. -/
def topology (d : Deployment) : TopologyRef :=
  match d.role with
  | .standalone => .standalone d.standalone
  | .sentinels n => .sentinels n
  | .cluster n => .cluster n

/-- Whether a master under sentinels is in use. -/
def underSentinels (d : Deployment) : Bool :=
  match d.role with
  | .sentinels _ => true
  | _ => false

/-- Whether a cluster is in use. -/
def isCluster (d : Deployment) : Bool :=
  match d.role with
  | .cluster _ => true
  | _ => false

/-- A deployment that has no client yet. -/
def fresh (standalone : Nat) (role : Role) (settings : SettingsRef) : Deployment :=
  ⟨standalone, role, settings, .bool true, none, none, none⟩

/-! ## Reading -/

/-- The host of the single server. -/
def host (d : Deployment) (w : World) : Value := (w.standalones.get d.standalone).hostIn w.env

/-- The port of the single server. -/
def port (d : Deployment) (w : World) : Value := (w.standalones.get d.standalone).portIn w.env

/-- A timeout in whole milliseconds. -/
def timeoutMillis (d : Deployment) (name : TimeoutName) (w : World) : Except Failure Int :=
  match d.settings.timeout name w with
  | .ok t => .ok t.duration.millis
  | .error e => .error e

/-! ## Writing -/

/-- What can be written through a deployment, with the value that is written. -/
inductive Write
  | host (given : Value)
  | port (given : Value)
  | password (given : Value)
  | database (given : Value)
  | useSsl (given : Value)
  | verifyPeer (given : Value)
  | startTls (given : Value)
  /-- A timeout in milliseconds. -/
  | timeout (name : TimeoutName) (given : Value)
  | resources (given : Part)
  | share (given : Value)

/-- Write through the deployment of a number. -/
def write (n : Nat) (entry : Write) : Act Unit := fun w =>
  let d := w.deployments.get n
  let server := w.standalones.get d.standalone
  match entry with
  | .host given => (.ok (), w.setStandalone d.standalone (server.setHost given))
  | .port given =>
    match server.setPort given with
    | .ok s => (.ok (), w.setStandalone d.standalone s)
    | .error e => (.error e, w)
  | .password given => d.topology.setPassword given w
  | .database given => d.topology.setDatabase given w
  | .useSsl given => d.settings.change (fun s => .ok (s.setUseSsl given)) w
  | .verifyPeer given => d.settings.change (fun s => .ok (s.setVerifyPeer given)) w
  | .startTls given => d.settings.change (fun s => .ok (s.setStartTls given)) w
  | .timeout name given =>
    match Duration.ofMillis given with
    | .ok t => d.settings.change (fun s => s.setTimeout name (.duration t)) w
    | .error e => (.error e, w)
  | .resources given => d.settings.change (fun s => .ok { s with resources := given }) w
  | .share given => (.ok (), w.setDeployment n { d with share := given })

end Deployment

end RedisLink
