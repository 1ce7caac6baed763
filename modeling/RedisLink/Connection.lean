/-
RedisLink.Connection — connections and how they close.

A connection is a number, a class, the way it goes and the keywords it was
opened with. The call of a class that opens it may fail. Closing a blocking
connection ends normally or fails. Closing an asynchronous one may also wait:
`Conduct` says what a connection does, and `asyncClose` what comes of it under a
limit. Every step is an `Event`.
-/
import RedisLink.Failure
import RedisLink.Keywords

namespace RedisLink

/-- The way a connection goes. -/
inductive Route
  /-- To the host and port among its keywords. -/
  | direct
  /-- To a master that sentinels at these hosts and ports know. -/
  | sentinel (manager : ClassRef) (sentinels : List (Value × Value)) (own : Keywords)
      (master : Value)
  /-- To a cluster, starting from these hosts and ports. -/
  | cluster (start : List (Value × Value))

/-- What a connection is opened from. -/
structure Blueprint where
  cls : Value
  route : Route
  keywords : Keywords

/-- A connection that has been opened. -/
structure Connection where
  number : Nat
  blueprint : Blueprint

/-- What happens to connections, by their numbers. -/
inductive Event
  | opened (number : Nat)
  /-- The closing of a blocking connection has begun. -/
  | close (number : Nat)
  /-- The closing of an asynchronous connection has begun. -/
  | asyncClose (number : Nat)
  /-- The closing of an asynchronous connection has ended normally. -/
  | asyncClosed (number : Nat)
  /-- The closing of an asynchronous connection has been given up. -/
  | cancelled (number : Nat)
deriving DecidableEq, Repr

/-- An event as text. -/
def Event.text : Event → String
  | .opened n => "open " ++ toString n
  | .close n => "close " ++ toString n
  | .asyncClose n => "aclose " ++ toString n
  | .asyncClosed n => "closed " ++ toString n
  | .cancelled n => "cancelled " ++ toString n

/-- What a connection does when it is closed. -/
inductive Conduct
  /-- It ends normally. -/
  | normal
  /-- It fails. -/
  | fails
  /-- It reports that it has taken too long. -/
  | expires
  /-- It fails with a timeout of its own, which is a failure like any other. -/
  | failsLate
  /-- It never ends by itself. -/
  | hangs
deriving DecidableEq, Repr

/-- What comes of the classes that connections are made of, which are not part of this library: how
their calls end, one after the other, and what the connections do when they are closed, blocking
ones and asynchronous ones. -/
structure Conducts where
  /-- The failure of a call, if it fails. -/
  calls : Nat → Option Failure
  blocking : Nat → Conduct
  asynchronous : Nat → Conduct

instance : Inhabited Conducts := ⟨⟨fun _ => none, fun _ => .normal, fun _ => .normal⟩⟩

/-- The failure with which a blocking connection closes, if it does. -/
def closeFailure? (number : Nat) : Conduct → Option Failure
  | .fails => some (.closeFailed number)
  | .expires | .failsLate => some (.closeTimedOut number)
  | .normal | .hangs => none

/-- How long to wait for an asynchronous connection to close. -/
inductive Limit
  /-- As long as it takes. -/
  | unlimited
  /-- For a time that is not zero; a negative time is over at once. -/
  | within (time : Duration)

/-- The limit that a duration stands for; zero is no limit. -/
def Limit.ofDuration (d : Duration) : Limit :=
  if d.micros = 0 then .unlimited else .within d

/-- A limit in seconds as text. -/
def Limit.text : Limit → String
  | .unlimited => "None"
  | .within time => time.seconds.text

/-- What comes of closing an asynchronous connection. -/
inductive AsyncClosing
  /-- It has closed. -/
  | closed
  /-- The limit is over, or the connection says that it has taken too long. -/
  | expired
  /-- It has failed. -/
  | failed (e : Failure)
deriving Inhabited

/-- Close an asynchronous connection under a limit: the events, and what comes of it. Under a
negative limit closing does not even begin. -/
def asyncClose (number : Nat) (conduct : Conduct) (limit : Limit) : List Event × AsyncClosing :=
  let begun := Event.asyncClose number
  let run : List Event × AsyncClosing := match conduct with
    | .normal => ([begun, .asyncClosed number], .closed)
    | .fails => ([begun], .failed (.asyncCloseFailed number))
    | .expires => ([begun], .expired)
    | .failsLate => ([begun], .failed (.asyncCloseTimedOut number))
    | .hangs =>
      match limit with
      | .unlimited => ([begun], .failed (.closeNeverEnds number))
      | .within _ => ([begun, .cancelled number], .expired)
  match limit with
  | .unlimited => run
  | .within time => if time.isNegative then ([], .expired) else run

end RedisLink
