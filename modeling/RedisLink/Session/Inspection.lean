/-
RedisLink.Session.Inspection — items as they are shown.

An item is shown as a record of its kind or by its own text, or it is taken
apart: `Inspection.of` reads all attributes that matter for its kind, each by
itself, so that one that cannot be read does not hide the others.
-/
import RedisLink.Session.Attribute
import RedisLink.Session.Method

namespace RedisLink

namespace Item

/-- A topology as it is shown. -/
def shownTopology (ref : TopologyRef) (w : World) : Except Failure String :=
  match ref with
  | .credentials _ => .ok "<RedisConfiguration>"
  | .standalone n => .ok ((w.standalones.get n).shownIn w.env)
  | .sentinels n => (w.sentinels.get n).shownIn w.env
  | .cluster n => (w.clusters.get n).shownIn w.env

/-- The text between brackets of a sequence. -/
def bracketed (isTuple : Bool) (texts : List String) : String :=
  if isTuple then
    match texts with
    | [text] => "(" ++ text ++ ",)"
    | texts => "(" ++ String.intercalate ", " texts ++ ")"
  else "[" ++ String.intercalate ", " texts ++ "]"

mutual

/-- An item as it is shown. -/
def shown (w : World) : Item → Except Failure String
  | .value v => .ok v.shown
  | .items isTuple xs =>
    match shownAll w xs with
    | .ok texts => .ok (bracketed isTuple texts)
    | .error e => .error e
  | .uri u => .ok u.value.shown
  | .options o => .ok o.value.shown
  | .settings s => .ok s.value.shown
  | .resources r => .ok r.value.shown
  | .connection c => .ok ("<connection " ++ toString c.number ++ ">")
  | .topology ref => shownTopology ref w
  | .live _ => .ok "<MutableClientConfiguration>"
  | .builder _ => .ok "<ClientConfigurationBuilder>"
  | .client n => (w.clients.get n).shown
  | .deployment _ => .ok "<RedisConnectionFactory>"

/-- Items as they are shown. -/
def shownAll (w : World) : List Item → Except Failure (List String)
  | [] => .ok []
  | x :: rest =>
    match x.shown w with
    | .error e => .error e
    | .ok text =>
      match shownAll w rest with
      | .error e => .error e
      | .ok texts => .ok (text :: texts)

end

/-- An item as text: URIs and some values have a text of their own. -/
def text (w : World) : Item → Except Failure String
  | .value v => .ok v.asText
  | .uri u => u.value.text
  | item => item.shown w

end Item

/-- Attributes of an item by name, each as far as it can be read. -/
abbrev Inspection := List (String × Except Failure Item)

namespace Inspection

/-- The attributes that are read by their names. -/
def attributeNames (w : World) : Item → List String
  | .topology (.credentials _) => ["password", "database"]
  | .topology (.standalone _) => ["host", "port", "password", "database", "ssl", "node"]
  | .topology (.sentinels _) => ["master", "sentinels", "password", "database"]
  | .topology (.cluster _) => ["cluster_nodes", "password", "database"]
  | .live _ =>
    ["use_ssl", "verify_peer", "start_tls", "timeout", "shutdown_timeout", "client_resources",
     "client_options"]
  | .uri _ => ["socket_timeout", "is_sentinel"]
  | .client n =>
    ["client_options", "client_resources", "open_connections", "open_async_connections"] ++
      (match (w.clients.get n).aim with
        | .nowhere => []
        | .single _ => ["redis_uri"]
        | .cluster _ _ => ["initial_uris"])
  | .deployment _ =>
    ["is_sentinel_aware", "is_cluster_aware", "host_name", "port", "password", "database",
     "use_ssl", "verify_peer", "start_tls", "timeout", "shutdown_timeout", "client_resources",
     "share_native_connection", "client", "standalone_configuration", "sentinel_configuration",
     "cluster_configuration", "client_configuration"]
  | _ => []

/-- A table as an item. -/
def ofFields (fields : Except Failure (List (String × Value))) : Except Failure Item :=
  fields.map fun fields => .value (.dict fields)

/-- A text as an item. -/
def ofText (text : Except Failure String) : Except Failure Item :=
  text.map fun text => .value (.text text)

/-- What is read of an item besides its attributes. -/
def extras (w : World) : Item → Inspection
  | .topology ref => [("to_dict", ofFields (Method.topologyFields ref w))]
  | .uri u =>
    [("fields", ofFields (.ok u.value.fields)), ("str", ofText u.value.text),
     ("kwargs", ofFields (u.value.keywords true)),
     ("kwargs_without_database", ofFields (u.value.keywords false))]
  | _ => []

/-- Whether the shown form of an item says something about it. -/
def hasShownForm (w : World) : Item → Bool
  | .topology (.credentials _) | .live _ | .deployment _ => false
  | .client n => !(w.clients.get n).uris.isEmpty
  | _ => true

/-- An item taken apart. -/
def of (w : World) (x : Item) : Inspection :=
  ("type", .ok (.value (.text (x.kind w)))) ::
    ((attributeNames w x).map fun name => (name, Attribute.read w x name)) ++ extras w x ++
    (if hasShownForm w x then [("repr", ofText (x.shown w))] else [])

end Inspection

end RedisLink
