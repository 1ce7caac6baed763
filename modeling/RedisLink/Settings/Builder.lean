/-
RedisLink.Settings.Builder — settings put together step by step.

A builder holds a value for each setting. A step puts one value in, or it is
refused and puts in none. Building makes settings of the values that are there,
which are checked once more.
-/
import RedisLink.Settings

namespace RedisLink

/-- Settings that are being put together. -/
structure Builder where
  useSsl : Value
  verifyPeer : Value
  startTls : Value
  options : Part
  resources : Part
  timeout : Timeout
  shutdownTimeout : Timeout

namespace Builder

/-- A builder that nothing has been put in but options. -/
def fresh (options : Shared Options) : Builder :=
  ⟨.bool false, .bool true, .bool false, .options options, .null, .command, .shutdown⟩

instance : Inhabited Builder := ⟨fresh ⟨0, .standard⟩⟩

/-- A step of a builder. -/
inductive Step
  | useSsl (given : Value)
  | verifyPeer (given : Value)
  | disablePeerVerification
  | startTls (given : Value)
  | options (given : Part)
  | resources (given : Part)
  | timeout (given : Value)
  | shutdownTimeout (given : Value)

/-- The builder after a step. Options and resources may be anything but nothing. -/
def take (b : Builder) : Step → Except Failure Builder
  | .useSsl given => .ok { b with useSsl := given }
  | .verifyPeer given => .ok { b with verifyPeer := given }
  | .disablePeerVerification => .ok { b with verifyPeer := .bool false }
  | .startTls given => .ok { b with startTls := given }
  | .options given =>
    if given.isNull then .error .missingOptions else .ok { b with options := given }
  | .resources given =>
    if given.isNull then .error .missingResources else .ok { b with resources := given }
  | .timeout given =>
    match Timeout.check .command given with
    | .ok t => .ok { b with timeout := t }
    | .error e => .error e
  | .shutdownTimeout given =>
    match Timeout.check .shutdown given with
    | .ok t => .ok { b with shutdownTimeout := t }
    | .error e => .error e

/-- The settings that a builder builds. -/
def build (b : Builder) : Except Failure Settings :=
  Settings.make b.useSsl b.verifyPeer b.startTls b.options b.resources
    (.duration b.timeout.duration) (.duration b.shutdownTimeout.duration)

end Builder

end RedisLink
