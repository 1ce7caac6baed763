/-
RedisLink.Url.Query — the query of a URL.

A query is a sequence of fields `name=value` separated by ampersands. A field
without an equals sign or with an empty value is left out, and of several
fields of one name the first counts. Some names have values of a known form.
-/
import RedisLink.Failure
import RedisLink.Number.RealText
import RedisLink.Url.Split

namespace RedisLink.Url

open RedisLink.Number RedisLink.Text

/-- A name with its text. -/
abbrev Field := List Char × List Char

/-- The field that a part of a query stands for. -/
def readField (part : List Char) : Option Field :=
  match cutFirst? '=' part with
  | some (name, value) =>
    if value.isEmpty then none else some (decodeForm name, decodeForm value)
  | none => none

/-- Add a field unless there is one of its name. -/
def addField (fields : List Field) (field : Field) : List Field :=
  if fields.any fun other => other.1 = field.1 then fields else fields ++ [field]

/-- The fields of a query, the first of each name. -/
def queryFields (query : List Char) : List Field :=
  ((cutAll '&' query).filterMap readField).foldl addField []

/-- The forms that values of known names have. -/
inductive QueryForm
  | integer | real | verifyFlags
deriving DecidableEq, Repr

/-- The names whose values must have a certain form. -/
def knownNames : List (String × QueryForm) :=
  [("db", .integer), ("protocol", .integer), ("max_connections", .integer),
   ("health_check_interval", .integer), ("socket_read_size", .integer),
   ("ssl_min_version", .integer), ("socket_timeout", .real), ("socket_connect_timeout", .real),
   ("timeout", .real),
   ("ssl_include_verify_flags", .verifyFlags), ("ssl_exclude_verify_flags", .verifyFlags)]

/-- The flags for verifying certificates. -/
def verifyFlagNames : List String :=
  ["VERIFY_DEFAULT", "VERIFY_CRL_CHECK_LEAF", "VERIFY_CRL_CHECK_CHAIN", "VERIFY_X509_STRICT",
   "VERIFY_ALLOW_PROXY_CERTS", "VERIFY_X509_TRUSTED_FIRST", "VERIFY_X509_PARTIAL_CHAIN"]

/-- Whether a value has a form. -/
def QueryForm.accepts (value : List Char) : QueryForm → Bool
  | .integer => (readInteger value).isOk
  | .real => isReal value
  | .verifyFlags =>
    (cutAll ',' (value.filter fun c => c ≠ '[' ∧ c ≠ ']')).all fun flag =>
      verifyFlagNames.contains (String.ofList (trim flag))

/-- Whether the value of a field has the form that its name asks for. -/
def Field.isSound (field : Field) : Bool :=
  match knownNames.lookup (String.ofList field.1) with
  | some form => form.accepts field.2
  | none => true

/-- Check the values of fields; the first that is not sound is a failure. -/
def checkFields (fields : List Field) : Except Failure Unit :=
  match fields.find? (!Field.isSound ·) with
  | some field => .error (.queryValue (String.ofList field.1))
  | none => .ok ()

/-- The text of a name among fields. -/
def fieldText (fields : List Field) (name : String) : Option String :=
  (fields.find? fun field => field.1 = name.toList).map fun field => String.ofList field.2

end RedisLink.Url
