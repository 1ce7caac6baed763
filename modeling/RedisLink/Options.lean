/-
RedisLink.Options — options of connections.

Options go into the keywords of every connection of a client, unless they are
`null`; additional keywords come last and so win. The classes that blocking and
asynchronous connections are made of may be given by paths, which are looked up
when a connection is opened.
-/
import RedisLink.ClassPath
import RedisLink.Keywords

namespace RedisLink

/-- Options of the connections of a client. -/
structure Options where
  decodeResponses : Value
  connectTimeout : Value
  keepalive : Value
  clientName : Value
  blockingClass : Value
  asyncClass : Value
  additional : Keywords

namespace Options

/-- The options unless others are chosen. -/
def standard : Options :=
  ⟨.bool false, .null, .null, .null, .cls .client, .cls .asyncClient, []⟩

instance : Inhabited Options := ⟨standard⟩

/-- The class that a connection is made of, asynchronous or not, among the modules that are
installed. -/
def connectionClass (o : Options) (installed : ClassPath.Installation) (asynchronous : Bool) :
    Except Failure Value :=
  ClassPath.resolve installed (if asynchronous then o.asyncClass else o.blockingClass)

/-- The keywords that stand for the options, without the additional ones. -/
def ownKeywords (o : Options) : Keywords :=
  ("decode_responses", o.decodeResponses) ::
    (Keywords.unlessNull "socket_connect_timeout" o.connectTimeout ++
      Keywords.unlessNull "socket_keepalive" o.keepalive ++
      Keywords.unlessNull "client_name" o.clientName)

/-- The keywords that stand for the options. -/
def keywords (o : Options) : Keywords := Keywords.update o.ownKeywords o.additional

/-- The options by name. -/
def fields (o : Options) : List (String × Value) :=
  [("decode_responses", o.decodeResponses), ("socket_connect_timeout", o.connectTimeout),
   ("socket_keepalive", o.keepalive), ("client_name", o.clientName),
   ("redis_class", o.blockingClass), ("async_redis_class", o.asyncClass),
   ("additional_connection_kwargs", .dict o.additional)]

/-- The options that tell options apart: all but the additional keywords. -/
def identity (o : Options) : List Value := (o.fields.map (·.2)).take 6

/-- The options as they are shown. -/
def shown (o : Options) : String :=
  "ClientOptions(" ++
    String.intercalate ", " (o.fields.map fun field => field.1 ++ "=" ++ field.2.shown) ++ ")"

/-- Whether two records of options are equal. -/
def equals (o p : Options) : Bool :=
  Value.equalsItems (o.fields.map (·.2)) (p.fields.map (·.2))

end Options

end RedisLink
