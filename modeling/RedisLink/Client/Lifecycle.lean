/-
RedisLink.Client.Lifecycle — clients that open and close connections.

Opening a connection takes a plan and the call of a class, and either may fail.
It counts the connection, tracks it and reports it, all or nothing, apart from a
warning that comes before the attempt and the call, which has been made. A
shutdown closes the blocking connections first and, only if none of them fails,
the asynchronous ones.
-/
import RedisLink.World

namespace RedisLink

namespace World

/-- The world with more events and lines. -/
def record (w : World) (events : List Event) (log : List LogLine) : World :=
  { w with events := w.events ++ events, log := w.log ++ log }

/-- The world after one more call of a class. -/
def countCall (w : World) : World := { w with called := w.called + 1 }

/-- The world with a client replaced. -/
def setClient (w : World) (n : Nat) (c : Client) : World :=
  { w with clients := w.clients.set n c }

/-- The world after a client has opened a connection and tracks it. -/
def track (w : World) (n : Nat) (asynchronous : Bool) (k : Connection) : World :=
  { w with opened := k.number }.setClient n ((w.clients.get n).track asynchronous k)

end World

namespace Client

/-- Open a connection of the client of a number. -/
def connect (n : Nat) (asynchronous : Bool) : Act Connection := fun w =>
  let c := w.clients.get n
  match c.plan w.installed asynchronous with
  | (lines, .error e) => (.error e, w.record [] lines)
  | (lines, .ok blueprint) =>
    match w.conducts.calls w.called with
    | some e => (.error e, w.countCall.record [] lines)
    | none =>
      let k : Connection := ⟨w.opened + 1, blueprint⟩
      (.ok k, (w.countCall.track n asynchronous k).record [.opened k.number]
        (lines ++ [c.connectedLine asynchronous]))

/-- What opening a connection comes to. -/
inductive Connecting (n : Nat) (asynchronous : Bool) (w : World) :
    Except Failure Connection × World → Prop
  /-- There is no plan for a connection. -/
  | unplanned (lines : List LogLine) (e : Failure)
      (plan : (w.clients.get n).plan w.installed asynchronous = (lines, .error e)) :
      Connecting n asynchronous w (.error e, w.record [] lines)
  /-- The call of its class fails. -/
  | refused (lines : List LogLine) (b : Blueprint) (e : Failure)
      (plan : (w.clients.get n).plan w.installed asynchronous = (lines, .ok b))
      (call : w.conducts.calls w.called = some e) :
      Connecting n asynchronous w (.error e, w.countCall.record [] lines)
  | opened (lines : List LogLine) (b : Blueprint)
      (plan : (w.clients.get n).plan w.installed asynchronous = (lines, .ok b))
      (call : w.conducts.calls w.called = none) :
      Connecting n asynchronous w (.ok ⟨w.opened + 1, b⟩,
        (w.countCall.track n asynchronous ⟨w.opened + 1, b⟩).record [.opened (w.opened + 1)]
          (lines ++ [(w.clients.get n).connectedLine asynchronous]))

theorem connecting (n : Nat) (asynchronous : Bool) (w : World) :
    Connecting n asynchronous w (connect n asynchronous w) := by
  simp only [connect]
  rcases hplan : (w.clients.get n).plan w.installed asynchronous with ⟨lines, e | b⟩
  · exact .unplanned lines e hplan
  · cases hcall : w.conducts.calls w.called with
    | some e => exact .refused lines b e hplan hcall
    | none => exact .opened lines b hplan hcall

/-- The failure of an operation as its outcome. -/
def outcome : Option Failure → Except Failure Unit
  | some e => .error e
  | none => .ok ()

/-- Close the blocking connections of the client of a number. -/
def close (n : Nat) : Act Unit := fun w =>
  let c := w.clients.get n
  let closing := c.shutdown w.conducts
  (outcome closing.failure,
    (w.setClient n { c with blocking := closing.remaining }).record closing.events closing.log)

/-- Close the asynchronous connections of the client of a number under a limit. -/
def closeAsync (n : Nat) (limit : Limit) : Act Unit := fun w =>
  let c := w.clients.get n
  let closing := asyncCloseAll w.conducts limit c.asynchronous
  (outcome closing.failure,
    (w.setClient n { c with asynchronous := closing.remaining }).record closing.events closing.log)

/-- The limit that a value stands for. -/
def limitOf : Value → Except Failure Limit
  | .duration d => .ok (.ofDuration d)
  | v => .error (v.lacks "total_seconds")

/-- Close all connections of the client of a number: the blocking ones, then the asynchronous ones,
each under a limit that is looked at only then. -/
def shutdownAll (n : Nat) (timeout : Value) : Act Unit := do
  close n
  let limit ← Act.ofExcept (limitOf timeout)
  closeAsync n limit

end Client

end RedisLink
