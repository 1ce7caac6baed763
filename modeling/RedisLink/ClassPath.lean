/-
RedisLink.ClassPath — classes given by dotted paths.

A path names a module and, behind its last dot, something that the module
exports. Modules are looked up among those that are installed, which are listed
by their dotted paths with what they export; a module that is no package has no
modules inside. Looking up a path fails at the first module on the way that does
not exist.
-/
import RedisLink.Failure
import RedisLink.Text.Cut

namespace RedisLink.ClassPath

open RedisLink.Text

/-- A module: whether it is a package, and what it exports. -/
structure Module where
  isPackage : Bool
  exports : List (String × Value)

/-- Modules that are installed, by their dotted paths. -/
abbrev Installation := List (String × Module)

/-- What a module exports for a module inside. -/
def inner : Value := .held "module" 0

/-- The modules of the classes that connections are made of unless others are chosen. -/
def modules : Installation :=
  [("redis", ⟨true, [("Redis", .cls .client), ("asyncio", inner), ("sentinel", inner),
      ("cluster", inner)]⟩),
   ("redis.asyncio", ⟨true, [("Redis", .cls .asyncClient)]⟩),
   ("redis.sentinel", ⟨false, [("Sentinel", .cls .sentinel)]⟩),
   ("redis.cluster", ⟨false, [("RedisCluster", .cls .cluster)]⟩)]

/-- The module part and the name of a path, if both are there. -/
def split? (path : String) : Option (List Char × List Char) :=
  match cutLast? '.' path.toList with
  | some (m, name) => if m.isEmpty || name.isEmpty then none else some (m, name)
  | none => none

section

variable (installed : Installation)

/-- The module of a dotted path, given by its parts behind a module that has been found. -/
def findFrom (parent : String × Module) : List (List Char) → Except Failure Module
  | [] => .ok parent.2
  | part :: rest =>
    let path := parent.1 ++ "." ++ String.ofList part
    if !parent.2.isPackage then .error (.notAPackage path parent.1)
    else
      match installed.lookup path with
      | some m => findFrom (path, m) rest
      | none => .error (.missingModule path)

/-- The module of a dotted path. -/
def findModule (path : List Char) : Except Failure Module :=
  match cutAll '.' path with
  | [] => .error (.missingModule "")
  | part :: rest =>
    let path := String.ofList part
    match installed.lookup path with
    | some m => findFrom installed (path, m) rest
    | none => .error (.missingModule path)

/-- What the path of a class stands for among the modules that are installed. -/
def loadFrom (path : String) : Except Failure Value :=
  match split? path with
  | none => .error (.pathWithoutModule path)
  | some (m, name) =>
    if m.head? = some '.' then .error (.relativePath (String.ofList m))
    else
      match findModule installed m with
      | .error e => .error e
      | .ok found =>
        match found.exports.lookup (String.ofList name) with
        | some v => .ok v
        | none => .error (.missingExport (String.ofList m) (String.ofList name))

/-- The class that a value stands for: a text is looked up, anything else stands for itself. -/
def resolve : Value → Except Failure Value
  | .text path => loadFrom installed path
  | v => .ok v

/-- The class of a path given by any value; only texts are paths. -/
def loadValue : Value → Except Failure Value
  | .text path => loadFrom installed path
  | v => .error (v.lacks "rpartition")

end

end RedisLink.ClassPath
