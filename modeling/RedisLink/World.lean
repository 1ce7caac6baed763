/-
RedisLink.World — everything that operations read and change.

The world holds the environment, the modules that are installed, all objects
that can change, the resources that everybody shares, how classes and
connections conduct themselves, and a record of events and log lines. An `Act`
is an operation on the world; what it has changed stays changed when it fails.
-/
import RedisLink.Client
import RedisLink.Settings.Builder
import RedisLink.Settings.Live
import RedisLink.Store
import RedisLink.Topology

namespace RedisLink

/-- What tells a deployment where its servers are. -/
inductive TopologyRef
  | credentials (number : Nat)
  | standalone (number : Nat)
  | sentinels (number : Nat)
  | cluster (number : Nat)
deriving DecidableEq, Repr

/-- The topology in use besides the placeholder of a single server. -/
inductive Role
  | standalone
  | sentinels (number : Nat)
  | cluster (number : Nat)
deriving DecidableEq, Repr

/-- Settings of a deployment: a record that cannot be changed, or an object that can. -/
inductive SettingsRef
  | fixed (settings : Shared Settings)
  | live (number : Nat)

/-- A deployment: where its servers are, its settings, its client once there is one, and the
connections that callers share. -/
structure Deployment where
  standalone : Nat
  role : Role
  settings : SettingsRef
  share : Value
  client : Option Nat
  connection : Option Connection
  asyncConnection : Option Connection

instance : Inhabited Deployment := ⟨⟨0, .standalone, .live 0, .bool true, none, none, none⟩⟩

/-- Everything that operations read and change. -/
structure World where
  env : Environment
  installed : ClassPath.Installation
  conducts : Conducts
  /-- The number that the next record gets. -/
  nextRecord : Nat
  /-- How many calls of classes have been made. -/
  called : Nat
  /-- How many connections have been opened. -/
  opened : Nat
  credentials : Store Credentials
  standalones : Store Standalone
  sentinels : Store Sentinels
  clusters : Store Cluster
  live : Store LiveSettings
  builders : Store Builder
  clients : Store Client
  deployments : Store Deployment
  sharedResources : Option (Shared Resources)
  events : List Event
  log : List LogLine

/-- The world before anything has happened. -/
def World.initial (env : Environment) (installed : ClassPath.Installation)
    (conducts : Conducts) : World where
  env := env
  installed := installed
  conducts := conducts
  nextRecord := 1
  called := 0
  opened := 0
  credentials := .empty
  standalones := .empty
  sentinels := .empty
  clusters := .empty
  live := .empty
  builders := .empty
  clients := .empty
  deployments := .empty
  sharedResources := none
  events := []
  log := []

/-- An operation on the world. -/
def Act (α : Type) : Type := World → Except Failure α × World

namespace Act

variable {α β : Type}

/-- Do nothing and give a result. -/
def give (x : α) : Act α := fun w => (.ok x, w)

/-- Do one operation, then another that depends on its result, unless the first fails. -/
def andThen (a : Act α) (f : α → Act β) : Act β := fun w =>
  match a w with
  | (.ok x, w) => f x w
  | (.error e, w) => (.error e, w)

instance : Monad Act where
  pure := give
  bind := andThen

/-- Fail. -/
def fail (e : Failure) : Act α := fun w => (.error e, w)

/-- Do an operation that may fail and changes nothing. -/
def ofExcept (x : Except Failure α) : Act α := fun w => (x, w)

/-- The world as it is. -/
def world : Act World := fun w => (.ok w, w)

/-- Change the world. -/
def change (f : World → World) : Act Unit := fun w => (.ok (), f w)

/-- Give a record the next number. -/
def share (x : α) : Act (Shared α) := fun w =>
  (.ok ⟨w.nextRecord, x⟩, { w with nextRecord := w.nextRecord + 1 })

/-- Report a line. -/
def report (line : LogLine) : Act Unit := change fun w => { w with log := w.log ++ [line] }

end Act

end RedisLink
