/-
RedisLink.Session.Signature — arguments by place and by name.

A callee has parameters in order, some with a default. Arguments given by place
fill them from the left, arguments given by name fill the one of that name.
`Signature.bind` gives every parameter its item or says what is wrong with the
arguments.
-/
import RedisLink.Session.Item

namespace RedisLink

/-- The arguments of a call. -/
structure Arguments where
  positional : List Item
  named : List (String × Item)

/-- A parameter; without a default it must be given. -/
structure Parameter where
  name : String
  default : Option Item

/-- What can be called: its name and its parameters. The receiver of the call counts as a first
argument in messages. -/
structure Signature where
  callee : String
  parameters : List Parameter

namespace Signature

/-- A parameter that must be given. -/
def required (name : String) : Parameter := ⟨name, none⟩

/-- A parameter with a default. -/
def optional (name : String) (default : Value) : Parameter := ⟨name, some (.value default)⟩

/-- A parameter that is null unless it is given. -/
def nullable (name : String) : Parameter := optional name .null

/-- Names between apostrophes, as an enumeration. -/
def enumerate : List String → String
  | [] => ""
  | [a] => marked a
  | [a, b] => marked a ++ " and " ++ marked b
  | names => String.intercalate ", " (names.dropLast.map marked) ++ ", and " ++
      marked (names.getLast?.getD "")

/-- A number of things. -/
def counted (n : Nat) (thing : String) : String :=
  toString n ++ " " ++ thing ++ (if n = 1 then "" else "s")

/-- The message that too many arguments have been given by place. -/
def tooMany (s : Signature) (given : Nat) : String :=
  let most := s.parameters.length + 1
  let least := (s.parameters.filter (·.default.isNone)).length + 1
  "takes " ++ (if least = most then counted most "positional argument"
      else "from " ++ toString least ++ " to " ++ toString most ++ " positional arguments") ++
    " but " ++ toString (given + 1) ++ (if given + 1 = 1 then " was" else " were") ++ " given"

/-- What is wrong with an argument given by name, if anything is. -/
def namedProblem (s : Signature) (filled : List String) (name : String) : Option String :=
  if !(s.parameters.map (·.name)).contains name then
    some ("got an unexpected keyword argument " ++ marked name)
  else if filled.contains name then
    some ("got multiple values for argument " ++ marked name)
  else none

/-- The item of each parameter, in order. -/
def bind (s : Signature) (arguments : Arguments) : Except Failure (List Item) :=
  let filled := (s.parameters.map (·.name)).take arguments.positional.length
  match arguments.named.findSome? fun entry => s.namedProblem filled entry.1 with
  | some problem => .error (.wrongArguments s.callee problem)
  | none =>
    if s.parameters.length < arguments.positional.length then
      .error (.wrongArguments s.callee (s.tooMany arguments.positional.length))
    else
      let rest := s.parameters.drop arguments.positional.length
      let missing := rest.filter fun p =>
        p.default.isNone && (arguments.named.lookup p.name).isNone
      if missing.isEmpty then
        .ok (arguments.positional ++ rest.map fun p =>
          ((arguments.named.lookup p.name).or p.default).getD Item.null)
      else
        .error (.wrongArguments s.callee ("missing " ++
          counted missing.length "required positional argument" ++ ": " ++
          enumerate (missing.map (·.name))))

end Signature

end RedisLink
