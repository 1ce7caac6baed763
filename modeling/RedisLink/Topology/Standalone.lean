/-
RedisLink.Topology.Standalone — a single server.

Host and port may be set or left to the environment. A host may be any value,
and so may the port a standalone server is made with; a port written later is
turned into an integer. No port is checked against the range of ports before
the node is asked for. `Standalone.ofUrl` reads a URL.
-/
import RedisLink.Node
import RedisLink.Topology.Credentials
import RedisLink.Url.Target

namespace RedisLink

/-- A single server: what has been set of its credentials, host and port, and whether its URL asked
for TLS. -/
structure Standalone where
  credentials : Credentials
  host : Value
  port : Value
  tls : Value

instance : Inhabited Standalone := ⟨⟨default, .null, .null, .bool false⟩⟩

namespace Standalone

/-- The host unless another is known. -/
def defaultHost : String := "localhost"

/-- The port unless another is known. -/
def defaultPort : Nat := 6379

/-- Nothing has been set. -/
def unset : Standalone := ⟨.unset, .null, .null, .bool false⟩

/-- A server with a host, a port, a password and a database. -/
def make (host port password database : Value) : Except Failure Standalone :=
  match Credentials.make password database with
  | .error e => .error e
  | .ok credentials => .ok ⟨credentials, host, port, .bool false⟩

/-- A text, or `null` if there is none. -/
def optionalText : Option String → Value
  | some text => .text text
  | none => .null

/-- Whether the way to a server asks for TLS; a failure if the query has named a class of
connections, since that is a text only. -/
def asksForTls : Url.Transport → Except Failure Bool
  | .plain | .socket => .ok false
  | .secure => .ok true
  | .named _ => .error .schemeClass

/-- The server that a URL names. -/
def ofUrl (url : String) : Except Failure Standalone := do
  let target ← Url.Target.ofUrl url
  let database := match target.database with
    | some n => Value.int n
    | none => .null
  let server ← make (optionalText target.host) target.port (optionalText target.password) database
  let tls ← asksForTls target.transport
  return { server with tls := .bool tls }

/-- The server that a value names as a URL; only texts are URLs. -/
def ofUrlValue : Value → Except Failure Standalone
  | .text url => ofUrl url
  | v => .error (v.lacks "startswith")

/-- Set the host. -/
def setHost (s : Standalone) (given : Value) : Standalone := { s with host := given }

/-- Set the port, turned into an integer. -/
def setPort (s : Standalone) (given : Value) : Except Failure Standalone :=
  match given.toInteger with
  | .error e => .error e
  | .ok n => .ok { s with port := .int n }

/-- The host: what has been set, else a variable, else the default. -/
def hostIn (s : Standalone) (env : Environment) : Value :=
  s.host.orElse (.text ((env.get? "REDIS_HOST").getD defaultHost))

/-- The port that the environment names, if it is not zero, else the default. -/
def environmentPort (env : Environment) : Int :=
  match env.integer? "REDIS_PORT" with
  | some n => if n = 0 then defaultPort else n
  | none => defaultPort

/-- The port: what has been set, else what the environment names, else the default. -/
def portIn (s : Standalone) (env : Environment) : Value :=
  s.port.orElse (.int (environmentPort env))

/-- The node of the server. -/
def nodeIn (s : Standalone) (env : Environment) : Except Failure Node :=
  Node.make (s.hostIn env) (s.portIn env)

/-- The settings by name, as they are read now. -/
def fieldsIn (s : Standalone) (env : Environment) : List (String × Value) :=
  ("host", s.hostIn env) :: ("port", s.portIn env) :: s.credentials.fieldsIn env

/-- The server as it is shown. -/
def shownIn (s : Standalone) (env : Environment) : String :=
  "StandaloneConfiguration(host=" ++ (s.hostIn env).shown ++ ", port=" ++
    (s.portIn env).asText ++ ", database=" ++ toString (s.credentials.databaseIn env) ++ ")"

end Standalone

end RedisLink
