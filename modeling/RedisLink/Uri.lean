/-
RedisLink.Uri — everything that is needed to reach one endpoint.

A URI holds host, port, password, database, TLS flags and the timeout of
commands; for a master under sentinels also its name and the sentinels. No part
is checked, so using a part may fail. The password is never shown.
-/
import RedisLink.Failure
import RedisLink.Keywords
import RedisLink.Node
import RedisLink.Value.Integer

namespace RedisLink

/-- What is needed to reach one endpoint. -/
structure Uri where
  host : Value
  port : Value
  password : Value
  database : Value
  ssl : Value
  verifyPeer : Value
  startTls : Value
  timeout : Value
  master : Value
  sentinels : Value

namespace Uri

/-- The URI of a host and a port with everything else at its default. -/
def standard (host port : Value) : Uri :=
  ⟨host, port, .null, .int 0, .bool false, .bool true, .bool false,
    .duration Timeout.command.duration, .null, .tuple []⟩

instance : Inhabited Uri := ⟨standard .null .null⟩

/-- The timeout in seconds. -/
def socketTimeout (u : Uri) : Except Failure Value :=
  match u.timeout with
  | .duration d => .ok (.float d.seconds)
  | v => .error (v.lacks "total_seconds")

/-- Whether the endpoint is a master under sentinels. -/
def isSentinel (u : Uri) : Bool := !u.master.isNull

/-- The same URI aimed at another host and port. -/
def aimedAt (u : Uri) (host port : Value) : Uri := { u with host := host, port := port }

/-- The keywords that TLS needs. -/
def tlsKeywords (u : Uri) : Keywords :=
  if u.ssl.truthy then
    [("ssl", .bool true),
     ("ssl_cert_reqs", .text (if u.verifyPeer.truthy then "required" else "none"))]
  else []

/-- The keywords that stand for the URI, with its database or without. Host and port are not among
them. -/
def keywords (u : Uri) (withDatabase : Bool) : Except Failure Keywords :=
  match u.socketTimeout with
  | .error e => .error e
  | .ok timeout =>
    .ok (("socket_timeout", timeout) ::
      ((if withDatabase then [("db", u.database)] else []) ++
        Keywords.unlessNull "password" u.password ++ u.tlsKeywords))

/-- The URI as text, without its password. -/
def text (u : Uri) : Except Failure String :=
  let scheme := if u.ssl.truthy then "rediss" else "redis"
  if u.isSentinel then
    match u.sentinels.items with
    | .error e => .error e
    | .ok nodes =>
      .ok (scheme ++ "-sentinel://" ++ String.intercalate "," (nodes.map Value.asText) ++ "/" ++
        u.database.asText ++ "#" ++ u.master.asText)
  else
    .ok (scheme ++ "://" ++ u.host.asText ++ ":" ++ u.port.asText ++ "/" ++ u.database.asText)

/-- The URI as text inside a message. -/
def label (u : Uri) : String := (u.text.toOption).getD ""

/-- The parts of the URI by name. -/
def fields (u : Uri) : List (String × Value) :=
  [("host", u.host), ("port", u.port), ("password", u.password), ("database", u.database),
   ("ssl", u.ssl), ("verify_peer", u.verifyPeer), ("start_tls", u.startTls),
   ("timeout", u.timeout), ("sentinel_master_id", u.master), ("sentinels", u.sentinels)]

/-- The URI as it is shown; its password is left out. -/
def shown (u : Uri) : String :=
  let visible := u.fields.filter fun field => field.1 ≠ "password"
  "RedisURI(" ++
    String.intercalate ", " (visible.map fun field => field.1 ++ "=" ++ field.2.shown) ++ ")"

/-- Whether two URIs are equal. -/
def equals (u v : Uri) : Bool :=
  Value.equalsItems (u.fields.map (·.2)) (v.fields.map (·.2))

/-- The host and the port of a node among the sentinels. -/
def address : Value → Except Failure (Value × Value)
  | .node host port => .ok (host, .int port)
  | v => .error (v.lacks "host")

/-- The hosts and ports of the sentinels. -/
def sentinelAddresses (u : Uri) : Except Failure (List (Value × Value)) :=
  match u.sentinels.items with
  | .error e => .error e
  | .ok nodes => nodes.mapM address

end Uri

end RedisLink
