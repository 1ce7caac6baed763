/-
RedisLink.Session.Term — values written down in a session.

A term writes a value: a scalar, a sequence, a table, a name given before, or
something put together from parts. Terms are read from left to right, and the
first that cannot be read is the failure.
-/
import RedisLink.Duration.Parts
import RedisLink.Session.Item

namespace RedisLink

/-- A value as it is written down. -/
inductive Term
  | value (v : Value)
  | list (items : List Term)
  | tuple (items : List Term)
  | dict (fields : List (String × Term))
  /-- What a name stands for. -/
  | named (name : String)
  /-- A duration from parts. -/
  | duration (parts : List (String × Term))
  | node (host port : Term)
  /-- A class by its path. -/
  | cls (path : Term)

instance : Inhabited Term := ⟨.value .null⟩

/-- What names stand for. -/
abbrev Names := List (String × Item)

namespace Term

mutual

/-- The item that a term writes. -/
def eval (w : World) (names : Names) : Term → Except Failure Item
  | .value v => .ok (.value v)
  | .list items =>
    match evalAll w names items with
    | .ok xs => .ok (.ofSequence w false xs)
    | .error e => .error e
  | .tuple items =>
    match evalAll w names items with
    | .ok xs => .ok (.ofSequence w true xs)
    | .error e => .error e
  | .dict fields =>
    match evalFields w names fields with
    | .ok xs => .ok (.value (.dict xs))
    | .error e => .error e
  | .named name =>
    match names.lookup name with
    | some item => .ok item
    | none => .error (.unknownName name)
  | .duration parts =>
    match evalFields w names parts with
    | .ok xs =>
      match Duration.ofParts xs with
      | .ok d => .ok (.value (.duration d))
      | .error e => .error e
    | .error e => .error e
  | .node host port =>
    match host.eval w names, port.eval w names with
    | .ok h, .ok p =>
      match Node.make (h.toValue w) (p.toValue w) with
      | .ok n => .ok (.value n.toValue)
      | .error e => .error e
    | .error e, _ => .error e
    | .ok _, .error e => .error e
  | .cls path =>
    match path.eval w names with
    | .ok p =>
      match ClassPath.loadValue w.installed (p.toValue w) with
      | .ok v => .ok (.value v)
      | .error e => .error e
    | .error e => .error e

/-- The items that terms write. -/
def evalAll (w : World) (names : Names) : List Term → Except Failure (List Item)
  | [] => .ok []
  | t :: rest =>
    match t.eval w names with
    | .error e => .error e
    | .ok x =>
      match evalAll w names rest with
      | .error e => .error e
      | .ok xs => .ok (x :: xs)

/-- The values that terms write, by name. -/
def evalFields (w : World) (names : Names) :
    List (String × Term) → Except Failure (List (String × Value))
  | [] => .ok []
  | (key, t) :: rest =>
    match t.eval w names with
    | .error e => .error e
    | .ok x =>
      match evalFields w names rest with
      | .error e => .error e
      | .ok xs => .ok ((key, x.toValue w) :: xs)

end

end Term

end RedisLink
