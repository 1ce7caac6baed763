/-
RedisLink.Failure — why an operation fails.

A failure is a cause with the values that it is about. `Failure.message` words
it, and `Failure.category` sorts it: which rule was broken, not where.
-/
import RedisLink.Value

namespace RedisLink

open RedisLink.Text

/-- The kinds of failures that callers tell apart. -/
inductive FailureCategory
  /-- A value of the right kind that is not allowed. -/
  | badValue
  /-- A value of the wrong kind. -/
  | badKind
  /-- An attribute that is missing or cannot be written. -/
  | badAttribute
  /-- A number out of the range of what it is used for. -/
  | outOfRange
  /-- A module that does not exist. -/
  | missingModule
  /-- An operation that the state does not allow. -/
  | badState
  /-- A write to settings that cannot be changed. -/
  | immutableSettings
  /-- A write to a record that cannot be changed. -/
  | frozenRecord
  /-- A connection that could not be closed. -/
  | brokenConnection
  /-- A connection that took too long to close. -/
  | timedOut
  /-- Whatever a class of connections has raised by itself. -/
  | raised
  /-- A name that stands for nothing. -/
  | unknownName
deriving DecidableEq, Repr

/-- The two timeouts of client settings. -/
inductive TimeoutName
  | command | shutdown
deriving DecidableEq, Repr

/-- A name between apostrophes. -/
def marked (name : String) : String := "'" ++ name ++ "'"

/-- The name of a timeout. -/
def TimeoutName.label : TimeoutName → String
  | .command => "timeout"
  | .shutdown => "shutdown_timeout"

/-- Why an operation fails. -/
inductive Failure
  -- nodes
  | emptyHost
  | portNotInteger (given : Value)
  | portOutOfRange (port : Int)
  | nodeWithoutPort (text : String)
  | nodePortUnreadable (text : String)
  -- numbers
  | negativeDatabase (index : Int)
  | unreadableInteger (text : String)
  | integerTooLong (digits : Nat)
  | infiniteInteger
  | notConvertible (kind : String)
  | notComparable (kind : String)
  | negativeRetries (given : Value)
  | negativeHealthCheck (given : Value)
  -- durations
  | durationPart (part kind : String)
  | daysOutOfRange (days : Int)
  | dayCountTooLarge
  | notADuration (name : TimeoutName) (kind : String)
  | negativeDuration (name : TimeoutName) (given : Duration)
  -- kinds
  | notIterable (kind : String)
  | unhashable (kind : String)
  | notCallable (kind : String)
  | noAttribute (kind name : String)
  | noClassAttribute (cls : ClassRef) (name : String)
  | noSetter (kind name : String)
  | noDeleter (kind name : String)
  | frozenWrite (name : String)
  | frozenDelete (name : String)
  -- class paths
  | pathWithoutModule (path : String)
  | relativePath (path : String)
  | missingModule (name : String)
  | notAPackage (name parent : String)
  | missingExport (path name : String)
  -- addresses
  | unknownScheme
  | unpairedBracket
  | notAnAddress (host : String)
  | futureAddress
  | bracketedShortAddress
  | hiddenMark (authority : String)
  | queryValue (name : String)
  | portText (text : String)
  | portRange
  | schemeClass
  -- clients and their settings
  | missingOptions
  | missingResources
  | immutableSettings
  | unsupportedTopology (kind : String)
  | noInitialUri
  | noClusterNodes
  | noMaster
  | noSentinels
  | repeatedArgument (callee argument : String)
  | notInitialized
  | asyncStillOpen (count : Nat)
  -- connections
  | closeFailed (connection : Nat)
  | asyncCloseFailed (connection : Nat)
  | closeTimedOut (connection : Nat)
  | asyncCloseTimedOut (connection : Nat)
  | closeNeverEnds (connection : Nat)
  /-- A failure that a class of connections has raised by itself. -/
  | raised (kind text : String)
  -- calls
  | wrongArguments (callee problem : String)
  | unknownName (name : String)

/-- The beginning of a text, of at most a number of characters. -/
def cutShort (length : Nat) (text : String) : String := String.ofList (text.toList.take length)

namespace Failure

/-- How many characters of a quoted text that is no integer are shown. -/
def excerptLength : Nat := 200

/-- Which rule was broken. -/
def category : Failure → FailureCategory
  | .emptyHost | .portNotInteger _ | .portOutOfRange _ | .nodeWithoutPort _
  | .nodePortUnreadable _ | .negativeDatabase _ | .unreadableInteger _ | .integerTooLong _
  | .negativeRetries _ | .negativeHealthCheck _ | .notADuration _ _ | .negativeDuration _ _
  | .pathWithoutModule _ | .unknownScheme | .unpairedBracket | .notAnAddress _ | .futureAddress
  | .bracketedShortAddress | .hiddenMark _ | .queryValue _ | .portText _ | .portRange
  | .missingOptions | .missingResources | .noInitialUri | .noClusterNodes | .noMaster
  | .noSentinels => .badValue
  | .notConvertible _ | .notComparable _ | .durationPart _ _ | .notIterable _ | .unhashable _
  | .notCallable _ | .relativePath _ | .schemeClass | .unsupportedTopology _
  | .repeatedArgument _ _ | .wrongArguments _ _ => .badKind
  | .noAttribute _ _ | .noClassAttribute _ _ | .noSetter _ _ | .noDeleter _ _
  | .missingExport _ _ => .badAttribute
  | .infiniteInteger | .daysOutOfRange _ | .dayCountTooLarge => .outOfRange
  | .missingModule _ | .notAPackage _ _ => .missingModule
  | .notInitialized | .asyncStillOpen _ => .badState
  | .immutableSettings => .immutableSettings
  | .frozenWrite _ | .frozenDelete _ => .frozenRecord
  | .closeFailed _ | .asyncCloseFailed _ => .brokenConnection
  | .closeTimedOut _ | .asyncCloseTimedOut _ | .closeNeverEnds _ => .timedOut
  | .raised _ _ => .raised
  | .unknownName _ => .unknownName

/-- A sentence that says what went wrong. -/
def message : Failure → String
  | .emptyHost => "Redis node host must not be empty"
  | .portNotInteger given => "Redis node port must be an integer, got " ++ given.shown
  | .portOutOfRange port => "Redis node port out of range: " ++ toString port
  | .nodeWithoutPort text => "Expected 'host:port', got " ++ quoted text
  | .nodePortUnreadable text => "Invalid port in " ++ quoted text
  | .negativeDatabase index => "Invalid database index: " ++ toString index
  | .unreadableInteger text =>
    "invalid literal for int() with base 10: " ++ cutShort excerptLength (quoted text)
  | .integerTooLong digits =>
    "Exceeds the limit (4300 digits) for integer string conversion: value has " ++
      toString digits ++ " digits; use sys.set_int_max_str_digits() to increase the limit"
  | .infiniteInteger => "cannot convert float infinity to integer"
  | .notConvertible kind =>
    "int() argument must be a string, a bytes-like object or a real number, not " ++ marked kind
  | .notComparable kind =>
    "'<' not supported between instances of " ++ marked kind ++ " and 'int'"
  | .negativeRetries given => "retries must be >= 0, got " ++ given.asText
  | .negativeHealthCheck given => "health_check_interval must be >= 0, got " ++ given.asText
  | .durationPart part kind => "unsupported type for timedelta " ++ part ++ " component: " ++ kind
  | .daysOutOfRange days => "days=" ++ toString days ++ "; must have magnitude <= 999999999"
  | .dayCountTooLarge => "Python int too large to convert to C int"
  | .notADuration name kind => name.label ++ " must be a timedelta, got " ++ kind
  | .negativeDuration name given => name.label ++ " must not be negative, got " ++ given.text
  | .notIterable kind => marked kind ++ " object is not iterable"
  | .unhashable kind => "unhashable type: " ++ marked kind
  | .notCallable kind => marked kind ++ " object is not callable"
  | .noAttribute kind name => marked kind ++ " object has no attribute " ++ marked name
  | .noClassAttribute cls name =>
    "type object " ++ marked cls.name ++ " has no attribute " ++ marked name
  | .noSetter kind name =>
    "property " ++ quoted name ++ " of " ++ marked kind ++ " object has no setter"
  | .noDeleter kind name =>
    "property " ++ quoted name ++ " of " ++ marked kind ++ " object has no deleter"
  | .frozenWrite name => "cannot assign to field " ++ quoted name
  | .frozenDelete name => "cannot delete field " ++ quoted name
  | .pathWithoutModule path => "Expected a dotted class path, got " ++ quoted path
  | .relativePath path =>
    "the 'package' argument is required to perform a relative import for " ++ quoted path
  | .missingModule name => "No module named " ++ quoted name
  | .notAPackage name parent =>
    "No module named " ++ quoted name ++ "; " ++ quoted parent ++ " is not a package"
  | .missingExport path name =>
    "module " ++ marked path ++ " has no attribute " ++ marked name
  | .unknownScheme =>
    "Redis URL must specify one of the following schemes (redis://, rediss://, unix://)"
  | .unpairedBracket => "Invalid IPv6 URL"
  | .notAnAddress host => quoted host ++ " does not appear to be an IPv4 or IPv6 address"
  | .futureAddress => "IPvFuture address is invalid"
  | .bracketedShortAddress => "An IPv4 address cannot be in brackets"
  | .hiddenMark authority =>
    "netloc " ++ marked authority ++ " contains invalid characters under NFKC normalization"
  | .queryValue name => "Invalid value for '" ++ name ++ "' in connection URL."
  | .portText text => "Port could not be cast to integer value as " ++ quoted text
  | .portRange => "Port out of range 0-65535"
  | .schemeClass => "issubclass() arg 1 must be a class"
  | .missingOptions => "client_options must not be None"
  | .missingResources => "client_resources must not be None"
  | .immutableSettings =>
    "Client configuration must be mutable to be changed through the factory; " ++
      "build a new ClientConfiguration instead"
  | .unsupportedTopology kind => "Unsupported configuration type: " ++ kind
  | .noInitialUri => "A cluster client needs at least one initial URI"
  | .noClusterNodes => "Cluster configuration has no nodes"
  | .noMaster => "Sentinel configuration has no master name"
  | .noSentinels => "Sentinel configuration has no sentinel nodes"
  | .repeatedArgument callee argument =>
    callee ++ " got multiple values for keyword argument " ++ marked argument
  | .notInitialized => "Connection factory is not initialized; call initialize() first."
  | .asyncStillOpen count =>
    toString count ++ " async connection(s) still open; use adestroy() instead of destroy()"
  | .closeFailed connection => "close failed on " ++ toString connection
  | .asyncCloseFailed connection => "aclose failed on " ++ toString connection
  | .closeTimedOut connection => "close timed out on " ++ toString connection
  | .asyncCloseTimedOut connection => "aclose timed out on " ++ toString connection
  | .closeNeverEnds connection => "aclose never ends on " ++ toString connection
  | .raised _ text => text
  | .wrongArguments callee problem => callee ++ "() " ++ problem
  | .unknownName name => name

end Failure

/-- The failure that a value has no attribute of a name. -/
def Value.lacks (v : Value) (name : String) : Failure :=
  match v with
  | .cls c => .noClassAttribute c name
  | v => .noAttribute v.operandKind name

end RedisLink
