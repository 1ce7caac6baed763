/-
RedisLink.Topology.Credentials — password and database of a deployment.

Both may be set or left to the environment. A password may be any value, and
`null` leaves it to the environment. A database is an index that is not
negative: what is written is turned into an integer first, and a refused write
changes nothing.
-/
import RedisLink.Environment
import RedisLink.Value.Integer

namespace RedisLink

/-- The password and the database that have been set. -/
structure Credentials where
  password : Value
  database : Option Nat

instance : Inhabited Credentials := ⟨⟨.null, none⟩⟩

namespace Credentials

/-- Nothing has been set. -/
def unset : Credentials := ⟨.null, none⟩

/-- The database index that a value stands for. -/
def readDatabase (given : Value) : Except Failure Nat :=
  match given.toInteger with
  | .error e => .error e
  | .ok n => if n < 0 then .error (.negativeDatabase n) else .ok n.toNat

/-- Set the password. -/
def setPassword (c : Credentials) (given : Value) : Credentials := { c with password := given }

/-- Set the database. -/
def setDatabase (c : Credentials) (given : Value) : Except Failure Credentials :=
  match readDatabase given with
  | .error e => .error e
  | .ok n => .ok { c with database := some n }

/-- Credentials with a password and a database, where `null` leaves either to the environment. -/
def make (password database : Value) : Except Failure Credentials :=
  match database with
  | .null => .ok ⟨password, none⟩
  | given => setDatabase ⟨password, none⟩ given

/-- The password: what has been set, else a variable, else `null`. -/
def passwordIn (c : Credentials) (env : Environment) : Value :=
  c.password.orElse
    (match env.get? "REDIS_PASSWORD" with
    | some text => .text text
    | none => .null)

/-- The database: what has been set, else a variable that holds an index, else zero. -/
def databaseIn (c : Credentials) (env : Environment) : Nat :=
  match c.database with
  | some n => n
  | none => ((env.integer? "REDIS_DB").getD 0).toNat

/-- The settings by name, as they are read now. -/
def fieldsIn (c : Credentials) (env : Environment) : List (String × Value) :=
  [("password", c.passwordIn env), ("database", .int (c.databaseIn env))]

end Credentials

end RedisLink
