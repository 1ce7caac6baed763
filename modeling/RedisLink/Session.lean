/-
RedisLink.Session — a sequence of steps on one world.

A session makes objects, calls their methods, reads and writes their
attributes, and looks at them; names keep objects for later steps. A step that
fails keeps nothing, and the session goes on. `Session.run` gives the answer of
each step with the events and the lines that the step has caused.
-/
import RedisLink.Session.Inspection
import RedisLink.Session.Term

namespace RedisLink

/-- The arguments of a call as they are written down. -/
structure WrittenArguments where
  positional : List Term
  named : List (String × Term)

/-- A step of a session; the objects it is about are given by name. -/
inductive Step
  | new (kind : String) (arguments : WrittenArguments)
  | static (kind method : String) (arguments : WrittenArguments)
  | call (receiver method : String) (arguments : WrittenArguments)
  | read (receiver name : String)
  | write (receiver name : String) (given : Term)
  | delete (receiver name : String)
  | inspect (receiver : String)
  | shown (receiver : String)
  | text (receiver : String)
  | compare (first second : String)
  | countDistinct (names : List String)
  | setVariable (name text : String)
  | unsetVariable (name : String)
  | topologyOfEnvironment
  | sharedResources
  | forgetSharedResources

/-- The answer of a step. -/
inductive Answer
  | item (x : Item)
  /-- The object on which the step was done. -/
  | itself
  | inspection (entries : Inspection)
  | comparison (same equal : Bool) (sameHash : Except Failure Bool)

/-- A world and the names of its objects. -/
structure Session where
  world : World
  names : Names

/-- A step, and the name that keeps its answer. -/
structure NamedStep where
  step : Step
  keptAs : Option String

/-- What a step has answered and caused. -/
structure Outcome where
  answer : Except Failure Answer
  log : List LogLine
  events : List Event

namespace Session

/-- The resources that everybody shares, made and reported at first use. -/
def sharedResources : Act (Shared Resources) := do
  let w ← Act.world
  match w.sharedResources with
  | some r => return r
  | none =>
    let r ← Act.share Resources.standard
    Act.change fun w => { w with sharedResources := some r }
    Act.report ⟨.debug, .resources, "Created shared client resources: " ++ r.value.shown⟩
    return r

/-- The item of a name. -/
def find (names : Names) (name : String) : Except Failure Item :=
  match names.lookup name with
  | some x => .ok x
  | none => .error (.unknownName name)

/-- The items that written arguments stand for. -/
def evalArguments (w : World) (names : Names) (written : WrittenArguments) :
    Except Failure Arguments := do
  let positional ← Term.evalAll w names written.positional
  let named ← written.named.mapM fun entry => do
    return (entry.1, ← entry.2.eval w names)
  return ⟨positional, named⟩

/-- The kind of objects of a name. -/
def kindOf (name : String) : Except Failure ObjectKind :=
  match ObjectKind.ofLabel? name with
  | some kind => .ok kind
  | none => .error (.unknownName name)

/-- Do a step. -/
def perform (names : Names) (step : Step) : Act Answer := do
  let w ← Act.world
  match step with
  | .new kind written =>
    let arguments ← Act.ofExcept (evalArguments w names written)
    return .item (← Construct.new (← Act.ofExcept (kindOf kind)) arguments)
  | .static kind method written =>
    let arguments ← Act.ofExcept (evalArguments w names written)
    return .item (← Construct.static (← Act.ofExcept (kindOf kind)) method arguments)
  | .call receiver method written =>
    let x ← Act.ofExcept (find names receiver)
    let arguments ← Act.ofExcept (evalArguments w names written)
    match ← Method.call ⟨x, method, arguments⟩ with
    | .item x => return .item x
    | .itself => return .itself
  | .read receiver name =>
    let x ← Act.ofExcept (find names receiver)
    return .item (← Act.ofExcept (Attribute.read w x name))
  | .write receiver name written =>
    let x ← Act.ofExcept (find names receiver)
    let given ← Act.ofExcept (written.eval w names)
    Attribute.write x name given
    return .item Item.null
  | .delete receiver name =>
    let x ← Act.ofExcept (find names receiver)
    Act.fail (Attribute.delete w x name)
  | .inspect receiver =>
    return .inspection (Inspection.of w (← Act.ofExcept (find names receiver)))
  | .shown receiver =>
    let x ← Act.ofExcept (find names receiver)
    return .item (.value (.text (← Act.ofExcept (x.shown w))))
  | .text receiver =>
    let x ← Act.ofExcept (find names receiver)
    return .item (.value (.text (← Act.ofExcept (x.text w))))
  | .compare first second =>
    let x ← Act.ofExcept (find names first)
    let y ← Act.ofExcept (find names second)
    let same := first == second || x.same y
    return .comparison same (same || x.equals y) (x.sameHash y)
  | .countDistinct distinct =>
    let xs ← Act.ofExcept (distinct.mapM (find names))
    return .item (.ofNat (← Act.ofExcept (Item.countDistinct xs)))
  | .setVariable name text =>
    Act.change fun w => { w with env := w.env.set name text }
    return .item Item.null
  | .unsetVariable name =>
    Act.change fun w => { w with env := w.env.unset name }
    return .item Item.null
  | .topologyOfEnvironment =>
    return .item (← Construct.addTopology (Topology.ofEnvironment w.env))
  | .sharedResources => return .item (.resources (← sharedResources))
  | .forgetSharedResources =>
    Act.change fun w => { w with sharedResources := none }
    return .item Item.null

/-- The names after an answer that may be kept. -/
def keep (names : Names) (name : Option String) (answer : Except Failure Answer) : Names :=
  match name, answer with
  | some name, .ok (.item x) => (name, x) :: names
  | _, _ => names

/-- Do a named step. -/
def next (s : Session) (step : NamedStep) : Outcome × Session :=
  let (answer, w) := perform s.names step.step s.world
  (⟨answer, w.log.drop s.world.log.length, w.events.drop s.world.events.length⟩,
    ⟨w, keep s.names step.keptAs answer⟩)

/-- Do steps one after the other. -/
def run (s : Session) : List NamedStep → List (Outcome × World)
  | [] => []
  | step :: rest =>
    let (outcome, s) := s.next step
    (outcome, s.world) :: run s rest

end Session

end RedisLink
