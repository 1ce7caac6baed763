/-
RedisLink.Settings — settings of a client that cannot be changed.

Settings are the TLS flags, the options and resources of connections, and the
timeouts of commands and of a shutdown. Options must be given, whatever they
are. A timeout is a duration that is not negative; `Timeout.check` refuses
everything else.
-/
import RedisLink.Part

namespace RedisLink

/-- The timeout that a value stands for. -/
def Timeout.check (name : TimeoutName) : Value → Except Failure Timeout
  | .duration d =>
    match Timeout.ofDuration? d with
    | some t => .ok t
    | none => .error (.negativeDuration name d)
  | v => .error (.notADuration name v.kind)

/-- Settings of a client. -/
structure Settings where
  useSsl : Value
  verifyPeer : Value
  startTls : Value
  options : Part
  resources : Part
  timeout : Timeout
  shutdownTimeout : Timeout

namespace Settings

/-- The settings unless others are chosen, with given options. -/
def standard (options : Shared Options) : Settings :=
  ⟨.bool false, .bool true, .bool false, .options options, .null, .command, .shutdown⟩

instance : Inhabited Settings := ⟨standard ⟨0, .standard⟩⟩

/-- Settings with options that are given and with checked timeouts. -/
def make (useSsl verifyPeer startTls : Value) (options resources : Part)
    (timeout shutdownTimeout : Value) : Except Failure Settings :=
  if options.isNull then .error .missingOptions
  else
    match Timeout.check .command timeout with
    | .error e => .error e
    | .ok timeout =>
      match Timeout.check .shutdown shutdownTimeout with
      | .error e => .error e
      | .ok shutdownTimeout =>
        .ok ⟨useSsl, verifyPeer, startTls, options, resources, timeout, shutdownTimeout⟩

/-- The settings as they are shown. -/
def shown (s : Settings) : String :=
  "ClientConfiguration(use_ssl=" ++ s.useSsl.shown ++ ", verify_peer=" ++ s.verifyPeer.shown ++
    ", start_tls=" ++ s.startTls.shown ++ ", client_options=" ++ s.options.shown ++
    ", client_resources=" ++ s.resources.shown ++
    ", timeout=" ++ s.timeout.duration.shown ++
    ", shutdown_timeout=" ++ s.shutdownTimeout.duration.shown ++ ")"

/-- The flags and the timeouts, which settings are compared by besides options and resources. -/
def plainFields (s : Settings) : List Value :=
  [s.useSsl, s.verifyPeer, s.startTls, .duration s.timeout.duration,
   .duration s.shutdownTimeout.duration]

/-- Whether two records of settings are equal. -/
def equals (s t : Settings) : Bool :=
  Value.equalsItems s.plainFields t.plainFields && s.options.equals t.options &&
    s.resources.equals t.resources

end Settings

end RedisLink
