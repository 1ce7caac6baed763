/-
RedisLink.Client — clients and the connections they have opened.

A client opens connections from its URIs, options and resources and keeps track
of those that are open, the newest first. `Client.plan` says what a connection
is opened from. `closeAll` and `asyncCloseAll` close connections one after the
other, the newest first; a failure stops them and leaves the rest tracked.
-/
import RedisLink.Connection
import RedisLink.Log
import RedisLink.Part

namespace RedisLink

/-- What a client is aimed at. -/
inductive Aim
  /-- Nothing; such a client opens no connections. -/
  | nowhere
  /-- A server, or a master under sentinels. -/
  | single (uri : Shared Uri)
  /-- A cluster, by the URIs of some of its nodes. -/
  | cluster (first : Shared Uri) (others : List (Shared Uri))

/-- A client with the connections it has opened and not closed, the newest first. -/
structure Client where
  aim : Aim
  options : Part
  resources : Part
  blocking : List Connection
  asynchronous : List Connection

namespace Client

/-- A client that has opened no connection. -/
def fresh (aim : Aim) (options resources : Part) : Client := ⟨aim, options, resources, [], []⟩

instance : Inhabited Client :=
  ⟨fresh .nowhere (.options ⟨0, .standard⟩) (.resources ⟨0, .standard⟩)⟩

/-- The name of the kind of a client. -/
def kind (c : Client) : String :=
  match c.aim with
  | .nowhere => "BaseRedisClient"
  | .single _ => "RedisClient"
  | .cluster _ _ => "RedisClusterClient"

/-- The number of connections that are open. -/
def openCount (c : Client) : Nat := c.blocking.length + c.asynchronous.length

/-- The number of asynchronous connections that are open. -/
def openAsyncCount (c : Client) : Nat := c.asynchronous.length

/-- The URIs of a client. -/
def uris (c : Client) : List (Shared Uri) :=
  match c.aim with
  | .nowhere => []
  | .single uri => [uri]
  | .cluster first others => first :: others

/-- A client as it is shown. -/
def shown (c : Client) : Except Failure String :=
  match c.aim with
  | .nowhere => .ok "BaseRedisClient()"
  | .single uri => uri.value.text.map fun text => "RedisClient(" ++ text ++ ")"
  | .cluster _ _ =>
    .ok ("RedisClusterClient([" ++
      String.intercalate ", " (c.uris.map fun uri =>
        uri.value.host.asText ++ ":" ++ uri.value.port.asText) ++ "])")

/-- A client as it is shown inside a message. -/
def label (c : Client) : String := (c.shown.toOption).getD ""

/-! ## Opening connections -/

/-- The keywords of a connection of a client to a URI: those of the resources, of the URI and of the
options, where later ones win. -/
def keywords (c : Client) (uri : Uri) (asynchronous withDatabase : Bool) :
    Except Failure Keywords :=
  match c.resources.resourceKeywords asynchronous with
  | .error e => .error e
  | .ok resources =>
    match uri.keywords withDatabase with
    | .error e => .error e
    | .ok own =>
      match c.options.optionKeywords with
      | .error e => .error e
      | .ok options => .ok ((Keywords.update resources own).update options)

/-- The warning that a URI asks for what connections cannot do. A URI without a text is not
reported. -/
def startTlsWarning (uri : Uri) : List LogLine :=
  match uri.startTls.truthy, uri.text with
  | true, .ok text =>
    [⟨.warning, .clients, "STARTTLS is not supported by redis-py; ignoring it for " ++ text⟩]
  | _, _ => []

/-- How a callee is named in messages. -/
def calleeLabel : Value → String
  | .cls c => c.label ++ "()"
  | v => v.asText

/-- Refuse keywords that would give an argument a second time. -/
def refuseRepeated (callee : Value) (arguments : List String) (keywords : Keywords) :
    Except Failure Unit :=
  match keywords.find? fun entry => arguments.contains entry.1 with
  | some entry => .error (.repeatedArgument (calleeLabel callee) entry.1)
  | none => .ok ()

/-- What a connection to a server is opened from. -/
def directPlan (uri : Uri) (cls : Value) (keywords : Keywords) : Except Failure Blueprint :=
  match refuseRepeated cls ["host", "port"] keywords, cls with
  | .error e, _ => .error e
  | .ok (), .cls _ => .ok ⟨cls, .direct, ("host", uri.host) :: ("port", uri.port) :: keywords⟩
  | .ok (), v => .error (.notCallable v.operandKind)

/-- What a connection to a master under sentinels is opened from. -/
def sentinelPlan (uri : Uri) (cls : Value) (manager : ClassRef) (keywords : Keywords) :
    Except Failure Blueprint :=
  match uri.sentinelAddresses, uri.socketTimeout with
  | .error e, _ => .error e
  | .ok _, .error e => .error e
  | .ok addresses, .ok timeout =>
    match refuseRepeated (.cls manager) ["sentinel_kwargs"] keywords with
    | .error e => .error e
    | .ok () =>
      .ok ⟨cls, .sentinel manager addresses [("socket_timeout", timeout)] uri.master, keywords⟩

/-- What a connection to a single URI is opened from. -/
def singlePlan (c : Client) (uri : Uri) (asynchronous : Bool) (cls : Value) :
    Except Failure Blueprint :=
  match c.keywords uri asynchronous true with
  | .error e => .error e
  | .ok keywords =>
    if uri.isSentinel then
      sentinelPlan uri cls (if asynchronous then .asyncSentinel else .sentinel) keywords
    else directPlan uri cls keywords

/-- What a connection to a cluster is opened from: the keywords of the first URI, without its
database, and the hosts and ports of all URIs. -/
def clusterPlan (c : Client) (first : Uri) (all : List Uri) (asynchronous : Bool) :
    Except Failure Blueprint :=
  match c.keywords first asynchronous false with
  | .error e => .error e
  | .ok keywords =>
    let cls := if asynchronous then ClassRef.asyncCluster else .cluster
    match refuseRepeated (.cls cls) ["startup_nodes"] keywords with
    | .error e => .error e
    | .ok () => .ok ⟨.cls cls, .cluster (all.map fun uri => (uri.host, uri.port)), keywords⟩

/-- What the next connection is opened from among the modules that are installed, and what is
reported on the way. -/
def plan (c : Client) (installed : ClassPath.Installation) (asynchronous : Bool) :
    List LogLine × Except Failure Blueprint :=
  match c.aim with
  | .nowhere =>
    ([], .error (.noAttribute c.kind (if asynchronous then "connect_async" else "connect")))
  | .single uri =>
    match c.options.connectionClass installed asynchronous with
    | .error e => ([], .error e)
    | .ok cls => (startTlsWarning uri.value, c.singlePlan uri.value asynchronous cls)
  | .cluster first others =>
    (startTlsWarning first.value,
      c.clusterPlan first.value ((first :: others).map (·.value)) asynchronous)

/-- The line that reports a connection. -/
def connectedLine (c : Client) (asynchronous : Bool) : LogLine :=
  ⟨.debug, .clients, match c.aim with
    | .nowhere => ""
    | .single uri =>
      (if asynchronous then "Connected async client to " else "Connected to ") ++ uri.value.label
    | .cluster _ others =>
      (if asynchronous then "Connected async cluster client to "
        else "Connected cluster client to ") ++ toString (others.length + 1) ++ " seed node(s)"⟩

/-- Keep track of a connection. -/
def track (c : Client) (asynchronous : Bool) (connection : Connection) : Client :=
  if asynchronous then { c with asynchronous := connection :: c.asynchronous }
  else { c with blocking := connection :: c.blocking }

/-! ## Closing connections -/

/-- What comes of closing connections: those that stay tracked, the events, the lines reported, and
the failure that stopped it, if one did. -/
structure Closing where
  remaining : List Connection
  events : List Event
  log : List LogLine
  failure : Option Failure

/-- Close blocking connections one after the other; the first failure stops it. -/
def closeAll (conducts : Conducts) : List Connection → Closing
  | [] => ⟨[], [], [], none⟩
  | c :: rest =>
    match closeFailure? c.number (conducts.blocking c.number) with
    | some e => ⟨rest, [.close c.number], [], some e⟩
    | none =>
      let closing := closeAll conducts rest
      { closing with events := .close c.number :: closing.events }

/-- The warning that a connection has not closed in time. -/
def expiredLine (limit : Limit) (number : Nat) : LogLine :=
  ⟨.warning, .clients,
    "Timed out after " ++ limit.text ++ "s closing <connection " ++ toString number ++ ">"⟩

/-- Close asynchronous connections one after the other, each under a limit. A connection that does
not close in time is reported and let go; the first failure stops it. -/
def asyncCloseAll (conducts : Conducts) (limit : Limit) : List Connection → Closing
  | [] => ⟨[], [], [], none⟩
  | c :: rest =>
    match asyncClose c.number (conducts.asynchronous c.number) limit with
    | (events, .failed e) => ⟨rest, events, [], some e⟩
    | (events, .closed) =>
      let closing := asyncCloseAll conducts limit rest
      { closing with events := events ++ closing.events }
    | (events, .expired) =>
      let closing := asyncCloseAll conducts limit rest
      { closing with
        events := events ++ closing.events
        log := expiredLine limit c.number :: closing.log }

/-- The line that reports how many connections have been closed, if there were any. -/
def closedLine (c : Client) : List LogLine :=
  if c.blocking.isEmpty then []
  else [⟨.info, .clients,
    c.kind ++ " closed " ++ toString c.blocking.length ++ " connection(s)"⟩]

/-- Close the blocking connections of a client; what remains in the result are blocking
connections. -/
def shutdown (c : Client) (conducts : Conducts) : Closing :=
  let closing := closeAll conducts c.blocking
  match closing.failure with
  | some _ => closing
  | none => { closing with log := closing.log ++ c.closedLine }

end Client

end RedisLink
