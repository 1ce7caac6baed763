/-
RedisLink.Proofs.Lifecycle.Run — runs of a deployment.

A run begins with a deployment that has just been made, in any world, and goes
on with operations in any order: building the client, handing out connections,
releasing the client, writes to whatever configures the deployment, and direct
use of the client it has at the time. What connections do when they are closed
is part of the world, so a statement about every run is one about every
outcome of closing.

`Deployment.trace` is the history of a run, one `Moment` for each operation;
`Deployment.run` is the world it ends in. `trace_induction` is the one
induction over runs: what holds of the empty history and is kept by each
moment holds of every history. `trace_eq_append_cons` cuts a run at a moment.
-/
import RedisLink.Session.Method

namespace RedisLink

/-! ## 1. Writes to what configures deployments -/

/-- A write to the environment or to an object that configures deployments. -/
inductive Change
  | setVariable (name text : String)
  | unsetVariable (name : String)
  /-- Through the deployment of a number; this includes whether it shares connections. -/
  | deployment (number : Nat) (entry : Deployment.Write)
  /-- An attribute of a topology. -/
  | topology (ref : TopologyRef) (name : String) (given : Value)
  | resetTopology (ref : TopologyRef)
  | addNode (ref : TopologyRef) (host port : Value)
  /-- An attribute of live settings. -/
  | live (number : Nat) (name : String) (given : Item)

/-- Write; a refused write fails. -/
def Change.make : Change → Act Unit
  | .setVariable name text => Act.change fun w => { w with env := w.env.set name text }
  | .unsetVariable name => Act.change fun w => { w with env := w.env.unset name }
  | .deployment number entry => Deployment.write number entry
  | .topology ref name given => Attribute.writeTopology ref name given
  | .resetTopology ref => Method.resetTopology ref
  | .addNode ref host port => Method.addNode ref host port
  | .live number name given => Attribute.writeLive number name given

/-! ## 2. Operations -/

/-- Do an operation and give something made from its result. -/
def Act.map {α β : Type} (a : Act α) (f : α → β) : Act β := fun w =>
  match a w with
  | (.ok x, w) => (.ok (f x), w)
  | (.error e, w) => (.error e, w)

namespace Deployment

/-- What is done with a deployment itself. -/
inductive Call
  | start
  | handOut (asynchronous : Bool)
  | destroy
  | destroyAsync
  | change (c : Change)

/-- What is done with a deployment or directly with its client. Timeouts are those that settings
can hold. -/
inductive Operation
  | call (c : Call)
  | connect (asynchronous : Bool)
  | close
  | closeAll (timeout : Timeout)

/-- Do a call; the answer is the connection that it hands out, if it is one that does. -/
def Call.perform (n : Nat) : Call → Act (Option Connection)
  | .start => (Deployment.start n).map fun _ => none
  | .handOut asynchronous => (Deployment.handOut n asynchronous).map some
  | .destroy => (Deployment.destroy n).map fun _ => none
  | .destroyAsync => (Deployment.destroyAsync n).map fun _ => none
  | .change c => c.make.map fun _ => none

/-- Do something with the client of the deployment of a number. -/
def withClient {α : Type} (n : Nat) (name : String) (f : Nat → Act α) : Act α := fun w =>
  match (w.deployments.get n).client with
  | none => (.error (Value.null.lacks name), w)
  | some client => f client w

/-- Do an operation. -/
def Operation.perform (n : Nat) : Operation → Act (Option Connection)
  | .call c => c.perform n
  | .connect asynchronous =>
    withClient n "connect" fun client => (Client.connect client asynchronous).map some
  | .close => withClient n "shutdown" fun client => (Client.close client).map fun _ => none
  | .closeAll timeout =>
    withClient n "shutdown_async" fun client =>
      (Client.shutdownAll client (.duration timeout.duration)).map fun _ => none

theorem Operation.perform_change {n : Nat} {c : Change} {w v : World} {r : Except Failure Unit}
    (h : c.make w = (r, v)) :
    Operation.perform n (.call (.change c)) w = (r.map fun _ => none, v) := by
  simp only [perform, Call.perform, Act.map, h]
  cases r <;> rfl

/-- Whether an operation is an attempt to release the client. -/
def Operation.isRelease : Operation → Bool
  | .call .destroy | .call .destroyAsync => true
  | _ => false

/-- Whether an operation asks the deployment for a connection. -/
def Operation.isHandOut : Operation → Bool
  | .call (.handOut _) => true
  | _ => false

/-- The kind of connections that an operation may open. -/
def Operation.kind? : Operation → Option Bool
  | .call (.handOut asynchronous) | .connect asynchronous => some asynchronous
  | _ => none

/-! ## 3. Histories -/

/-- An operation in a run: the world before it, its answer, and the world after it. -/
structure Moment where
  before : World
  operation : Operation
  answer : Except Failure (Option Connection)
  after : World

/-- Whether a moment hands out a connection that callers are to share. -/
def Moment.sharing (n : Nat) (m : Moment) : Bool :=
  m.operation.isHandOut && (m.before.deployments.get n).share.truthy

/-- An operation on the deployment of a number as it is done in a world. -/
def Moment.of (n : Nat) (op : Operation) (w : World) : Moment :=
  ⟨w, op, (op.perform n w).1, (op.perform n w).2⟩

/-- What has been done with a deployment, in order. -/
abbrev History := List Moment

/-- The history of operations done one after the other. -/
def trace (n : Nat) (w : World) : List Operation → History
  | [] => []
  | op :: rest => Moment.of n op w :: trace n (Moment.of n op w).after rest

/-- The world that operations done one after the other end in. -/
def run (n : Nat) (w : World) : List Operation → World
  | [] => w
  | op :: rest => run n (Moment.of n op w).after rest

/-- What holds of the empty history and is kept by every moment holds of every history. -/
theorem trace_induction {n : Nat} {P : History → World → Prop}
    (keeps : ∀ h w op, P h w → P (h ++ [Moment.of n op w]) (Moment.of n op w).after)
    {w : World} (starts : P [] w) (ops : List Operation) : P (trace n w ops) (run n w ops) := by
  -- the history so far is generalized, so that the induction can go from the front
  have along : ∀ (ops : List Operation) (h : History) (w : World), P h w →
      P (h ++ trace n w ops) (run n w ops) := by
    intro ops
    induction ops with
    | nil => intro h w hp; simpa [trace, run] using hp
    | cons op rest ih =>
      intro h w hp
      have := ih (h ++ [Moment.of n op w]) (Moment.of n op w).after (keeps h w op hp)
      simpa [trace, run] using this
  simpa using along ops [] w starts

/-- A history cut at a moment: what comes before it and what comes after it are histories too. -/
theorem trace_eq_append_cons {n : Nat} : ∀ {w : World} {ops : List Operation}
    {before after : History} {m : Moment}, trace n w ops = before ++ m :: after →
    ∃ first op rest, ops = first ++ op :: rest ∧ before = trace n w first ∧
      m = Moment.of n op (run n w first) ∧ after = trace n m.after rest ∧
      run n w ops = run n m.after rest
  | w, [], before, after, m, h => by simp [trace] at h
  | w, op :: rest, [], after, m, h => by
    simp only [trace, List.nil_append, List.cons.injEq] at h
    obtain ⟨rfl, rfl⟩ := h
    exact ⟨[], op, rest, rfl, rfl, rfl, rfl, rfl⟩
  | w, op :: rest, b :: before, after, m, h => by
    simp only [trace, List.cons_append, List.cons.injEq] at h
    obtain ⟨rfl, h⟩ := h
    obtain ⟨first, op', rest', rfl, rfl, rfl, rfl, hrun⟩ := trace_eq_append_cons h
    exact ⟨op :: first, op', rest', rfl, rfl, rfl, rfl, hrun⟩

/-! ## 4. Beginnings -/

/-- The world in which a deployment has just been made; its number is the size that the store of
deployments had. -/
def made (topology : Option TopologyRef) (settings : SettingsRef) (w : World) : World :=
  (make topology settings w).2

theorem make_eq (topology : Option TopologyRef) (settings : SettingsRef) (w : World) :
    make topology settings w = (.ok w.deployments.size, made topology settings w) := by
  unfold made make
  rcases topology with _ | (_ | _ | _ | _) <;> rfl

/-- A deployment that has just been made has no client and shares no connection. -/
theorem made_idle (topology : Option TopologyRef) (settings : SettingsRef) (w : World) :
    ((made topology settings w).deployments.get w.deployments.size).client = none ∧
      ∀ a, ((made topology settings w).deployments.get w.deployments.size).shared a = none := by
  unfold made make
  rcases topology with _ | (_ | _ | _ | _) <;> simp [fresh, shared]

/-- Making a deployment touches no client. -/
theorem made_clients (topology : Option TopologyRef) (settings : SettingsRef) (w : World) :
    (made topology settings w).clients = w.clients := by
  unfold made make
  rcases topology with _ | (_ | _ | _ | _) <;> rfl

end Deployment

end RedisLink
