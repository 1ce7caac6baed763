/-
RedisLink.Node — endpoints of servers.

A node is a host that is not empty and a port from 1 to 65535; both rules are
part of the type. `Node.parse` reads the text of a node, `Node.text` writes it.
The port stands behind the last colon, so a host may hold colons itself.
-/
import RedisLink.Value.Integer
import RedisLink.Text.Cut

namespace RedisLink

open RedisLink.Number RedisLink.Text

/-- An endpoint: a host that is not empty, and a port. -/
structure Node where
  host : Value
  port : Nat
  host_present : host.truthy = true
  port_valid : 0 < port ∧ port < 65536

namespace Node

/-- The node of a host and a port. The host is checked first. -/
def make (host port : Value) : Except Failure Node :=
  if hh : host.truthy = true then
    match port with
    | .int n =>
      if hp : 0 < n.toNat ∧ n.toNat < 65536 then .ok ⟨host, n.toNat, hh, hp⟩
      else .error (.portOutOfRange n)
    | given => .error (.portNotInteger given)
  else .error .emptyHost

/-- The node that a text of the form `host:port` stands for. -/
def parse (s : String) : Except Failure Node :=
  match cutLast? ':' (trim s.toList) with
  | none => .error (.nodeWithoutPort s)
  | some (host, port) =>
    match readInteger port with
    | .ok n => make (.text (String.ofList host)) (.int n)
    | .error _ => .error (.nodePortUnreadable s)

/-- The text of a node: its host, a colon and its port. -/
def text (n : Node) : String := n.host.asText ++ ":" ++ toString n.port

/-- A node as a value. -/
def toValue (n : Node) : Value := .node n.host n.port

/-- Whether two nodes have equal hosts and equal ports. -/
def same (m n : Node) : Bool := m.host.equals n.host && m.port == n.port

/-- The node that a value stands for: a node stands for itself, a text is read, and nothing else
can be. -/
def ofValue : Value → Except Failure Node
  | .node host port => make host (.int port)
  | .text s => parse s
  | v => .error (v.lacks "strip")

/-- The node that a value stands for where only texts are read. -/
def parseValue : Value → Except Failure Node
  | .text s => parse s
  | v => .error (v.lacks "strip")

theorem make_eq_ok {host port : Value} {n : Node} (h : make host port = .ok n) :
    n.host = host ∧ port = .int n.port := by
  unfold make at h
  split at h
  · split at h
    · rename_i k
      split at h
      · rename_i hp
        simp only [Except.ok.injEq] at h
        subst h
        refine ⟨rfl, ?_⟩
        simp only [Value.int.injEq]
        omega
      · simp at h
    · simp at h
  · simp at h

/-- A node is accepted again. -/
theorem make_toValue (n : Node) : make n.host (.int n.port) = .ok n := by
  obtain ⟨host, port, hh, hp⟩ := n
  simp [make, hh, hp]

end Node

end RedisLink
