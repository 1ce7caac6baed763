/-
RedisLink.Settings.Live — settings of a client that may be changed.

Flags and timeouts that have not been set are left to the environment, which is
read each time they are asked for. `LiveSettings.freeze` takes all settings as
they are at one moment.
-/
import RedisLink.Duration.Parts
import RedisLink.Environment
import RedisLink.Settings

namespace RedisLink

/-- Settings that may be changed; `null` leaves a flag to the environment. -/
structure LiveSettings where
  useSsl : Value
  verifyPeer : Value
  startTls : Value
  options : Part
  resources : Part
  timeout : Option Timeout
  shutdownTimeout : Option Timeout

namespace LiveSettings

/-- Nothing has been set but the options. -/
def unset (options : Shared Options) : LiveSettings :=
  ⟨.null, .null, .null, .options options, .null, none, none⟩

instance : Inhabited LiveSettings := ⟨unset ⟨0, .standard⟩⟩

/-- A timeout that may be left out. -/
def optionalTimeout (name : TimeoutName) : Value → Except Failure (Option Timeout)
  | .null => .ok none
  | v =>
    match Timeout.check name v with
    | .ok t => .ok (some t)
    | .error e => .error e

/-- Settings with checked timeouts. -/
def make (useSsl verifyPeer startTls : Value) (options resources : Part)
    (timeout shutdownTimeout : Value) : Except Failure LiveSettings :=
  match optionalTimeout .command timeout with
  | .error e => .error e
  | .ok timeout =>
    match optionalTimeout .shutdown shutdownTimeout with
    | .error e => .error e
    | .ok shutdownTimeout =>
      .ok ⟨useSsl, verifyPeer, startTls, options, resources, timeout, shutdownTimeout⟩

/-- Set the TLS flag, by whether a value counts as true. -/
def setUseSsl (s : LiveSettings) (given : Value) : LiveSettings :=
  { s with useSsl := .bool given.truthy }

/-- Set the flag for verifying peers, by whether a value counts as true. -/
def setVerifyPeer (s : LiveSettings) (given : Value) : LiveSettings :=
  { s with verifyPeer := .bool given.truthy }

/-- Set the flag for starting TLS, by whether a value counts as true. -/
def setStartTls (s : LiveSettings) (given : Value) : LiveSettings :=
  { s with startTls := .bool given.truthy }

/-- Set a timeout; anything but a duration that is not negative is refused. -/
def setTimeout (s : LiveSettings) (name : TimeoutName) (given : Value) :
    Except Failure LiveSettings :=
  match Timeout.check name given with
  | .error e => .error e
  | .ok t =>
    match name with
    | .command => .ok { s with timeout := some t }
    | .shutdown => .ok { s with shutdownTimeout := some t }

/-- The TLS flag: what has been set, else a variable, else off. -/
def useSslIn (s : LiveSettings) (env : Environment) : Value :=
  s.useSsl.orElse (.bool (env.flag "REDIS_SSL" false))

/-- The flag for verifying peers: what has been set, else a variable, else on. -/
def verifyPeerIn (s : LiveSettings) (env : Environment) : Value :=
  s.verifyPeer.orElse (.bool (env.flag "REDIS_VERIFY_PEER" true))

/-- The flag for starting TLS: what has been set, else a variable, else off. -/
def startTlsIn (s : LiveSettings) (env : Environment) : Value :=
  s.startTls.orElse (.bool (env.flag "REDIS_START_TLS" false))

/-- The timeout that a variable names in milliseconds. A negative number or no number stands for
the default; a number that no duration can hold is a failure. -/
def environmentTimeout (env : Environment) (name : String) (default : Timeout) :
    Except Failure Timeout :=
  match env.integer? name with
  | none => .ok default
  | some n =>
    if n < 0 then .ok default
    else
      match Duration.ofMillis (.int n) with
      | .error e => .error e
      | .ok d => .ok ((Timeout.ofDuration? d).getD default)

/-- The timeout of commands: what has been set, else a variable, else the default. -/
def timeoutIn (s : LiveSettings) (env : Environment) : Except Failure Timeout :=
  match s.timeout with
  | some t => .ok t
  | none => environmentTimeout env "REDIS_TIMEOUT" .command

/-- The timeout of a shutdown: what has been set, else a variable, else the default. -/
def shutdownTimeoutIn (s : LiveSettings) (env : Environment) : Except Failure Timeout :=
  match s.shutdownTimeout with
  | some t => .ok t
  | none => environmentTimeout env "REDIS_SHUTDOWN_TIMEOUT" .shutdown

/-- The settings as they are now, checked like all settings that cannot be changed. -/
def freeze (s : LiveSettings) (env : Environment) : Except Failure Settings :=
  match s.timeoutIn env with
  | .error e => .error e
  | .ok timeout =>
    match s.shutdownTimeoutIn env with
    | .error e => .error e
    | .ok shutdownTimeout =>
      Settings.make (s.useSslIn env) (s.verifyPeerIn env) (s.startTlsIn env) s.options s.resources
        (.duration timeout.duration) (.duration shutdownTimeout.duration)

end LiveSettings

end RedisLink
