/-
RedisLink.Url.Target — what a URL says about a server.

`Target.ofUrl` reads a URL with one of three schemes. What the authority and
the path say comes before what the query says of the same name, except that a
database named by the query comes before the path. A host is read in lower case
up to its first percent sign; a port of zero is no port; a path that is no
integer once its slashes are dropped names no database.
-/
import RedisLink.Text.LowerCase
import RedisLink.Url.Query

namespace RedisLink.Url

open RedisLink.Number RedisLink.Text

/-- The schemes of URLs. -/
inductive Scheme
  /-- A network connection. -/
  | plain
  /-- A network connection with TLS. -/
  | secure
  /-- A socket in the file system. -/
  | socket
deriving DecidableEq, Repr

/-- What a URL begins with. -/
def Scheme.lead : Scheme → String
  | .plain => "redis://"
  | .secure => "rediss://"
  | .socket => "unix://"

/-- A text without its beginning, if it begins so. -/
def afterLead? (start : List Char) (cs : List Char) : Option (List Char) :=
  if start.isPrefixOf cs then some (cs.drop start.length) else none

/-- The scheme of a URL, and what stands behind its two slashes. -/
def splitScheme (url : List Char) : Option (Scheme × List Char) :=
  [Scheme.plain, .secure, .socket].findSome? fun scheme =>
    (afterLead? scheme.lead.toList url).map fun rest => (scheme, rest)

/-- The way to a server that a URL asks for. -/
inductive Transport
  /-- A network connection. -/
  | plain
  /-- A network connection with TLS. -/
  | secure
  /-- A socket in the file system. -/
  | socket
  /-- A class of connections named in the query. -/
  | named (text : String)
deriving DecidableEq, Repr

/-- What a URL says about a server. -/
structure Target where
  host : Option String
  port : Value
  password : Option String
  database : Option Int
  transport : Transport

/-- A host in lower case up to its first percent sign, percent-decoded. -/
def readHost (host : List Char) : Option String :=
  if host.isEmpty then none
  else
    let name := host.takeWhile (· ≠ '%')
    some (String.ofList (decode (lower name ++ host.drop name.length)))

/-- The password of an authority, unless it is empty. -/
def readPassword (authority : List Char) : Option String :=
  match password? authority with
  | some text => if text.isEmpty then none else some (String.ofList (decode text))
  | none => none

/-- The database that a path names. -/
def pathDatabase (path : List Char) : Option Int :=
  if path.isEmpty then none
  else (readInteger ((decode path).filter (· ≠ '/'))).toOption

/-- The first of two that is there. -/
def firstOf {α : Type} (first second : Option α) : Option α := first.or second

/-- What a URL says about a server. -/
def Target.ofUrl (url : String) : Except Failure Target :=
  match splitScheme url.toList with
  | none => .error .unknownScheme
  | some (scheme, rest) => do
    let parts := split rest
    checkAuthority parts.authority
    let fields := queryFields parts.query
    checkFields fields
    let named := fieldText fields
    let database := (named "db").bind integer?
    let password := firstOf (readPassword parts.authority) (named "password")
    let namedPort := match named "port" with
      | some text => Value.text text
      | none => .null
    if scheme = .socket then
      return ⟨named "host", namedPort, password, database, .socket⟩
    let (host, portText) := splitHost parts.authority
    let port ← readPort portText
    let transport := match scheme, named "connection_class" with
      | .secure, _ => .secure
      | _, some text => .named text
      | _, none => .plain
    return {
      host := firstOf (readHost host) (named "host")
      port := match port with
        | some (n + 1) => .int (n + 1)
        | _ => namedPort
      password := password
      database := if (named "db").isSome then database else pathDatabase parts.path
      transport := transport }

end RedisLink.Url
