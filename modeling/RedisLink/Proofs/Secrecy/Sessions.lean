/-
RedisLink.Proofs.Secrecy.Sessions — sessions that differ in passwords only.

Two sessions take the same steps, but a password that one of them supplies may
be another text in the other, or be missing. They report the same lines and the
same events, fail in the same way, and answer the same, but for passwords that
are asked for and for URIs that are compared: `Session.passwords_undisclosed`.

An induction on the steps carries that the two worlds are alike but for
passwords, and so are the items of every name.
-/
import RedisLink.Proofs.Secrecy.Supplying

namespace RedisLink

open Act (Agree)

/-! ## 1. Steps that are alike -/

/-- Set the password of the environment, or leave it unset. -/
def Step.environmentPassword : Option String → Step
  | some given => .setVariable "REDIS_PASSWORD" given
  | none => .unsetVariable "REDIS_PASSWORD"

/-- Steps that are the same, but that they may supply different passwords. -/
inductive Step.Alike : Step → Step → Prop
  | same (step : Step) : Alike step step
  | new {label : String} {kind : ObjectKind} (known : ObjectKind.ofLabel? label = some kind)
      {m : Manner} (fits : m.Fits kind) (p p' : Password) :
      Alike (.new label (m.written p)) (.new label (m.written p'))
  | write (receiver : String) (p p' : Password) :
      Alike (.write receiver "password" (.value p.value))
        (.write receiver "password" (.value p'.value))
  | environment (given given' : Option String) :
      Alike (.environmentPassword given) (.environmentPassword given')

/-! ## 2. What an answer discloses -/

/-- Whether two of some items hold URIs, so that comparing them compares passwords. -/
def Item.weighed (xs : List Item) : Bool :=
  !decide (xs.Pairwise fun x y => (x.holdsUri && y.holdsUri) = false)

theorem Item.weighed_pair (x y : Item) : weighed [x, y] = (x.holdsUri && y.holdsUri) := by
  simp [weighed]

theorem Item.weighed_map_redacted (xs : List Item) :
    weighed (xs.map Item.redacted) = weighed xs := by
  simp only [weighed, List.pairwise_map, Item.holdsUri_redacted]

theorem Item.pairwise_of_not_weighed {xs : List Item} (h : weighed xs = false) :
    xs.Pairwise fun x y => (x.holdsUri && y.holdsUri) = false := by
  simpa [weighed] using h

/-- What the answer of a step tells of passwords. -/
inductive Telling
  | nothing
  /-- It is a password, or a table with an entry for one. -/
  | password
  /-- It comes of comparing passwords. -/
  | comparison

/-- What it tells to compare items. -/
def Telling.ofCompared : Except Failure (List Item) → Telling
  | .ok xs => if Item.weighed xs then .comparison else .nothing
  | .error _ => .nothing

/-- What the answer of a step tells of passwords, as the names stand. -/
def Step.telling (names : Names) : Step → Telling
  | .read _ name => if name = "password" then .password else .nothing
  | .call receiver method _ =>
    match Session.find names receiver with
    | .ok x => if x.keepsPassword && Method.tables.contains method then .password else .nothing
    | .error _ => .nothing
  | .compare first second => .ofCompared ([first, second].mapM (Session.find names))
  | .countDistinct distinct => .ofCompared (distinct.mapM (Session.find names))
  | _ => .nothing

/-- A method that gives no table with a password tells nothing of passwords. -/
theorem Step.telling_call {method : String} (h : Method.tables.contains method = false)
    {names : Names} {receiver : String} {written : WrittenArguments} :
    (Step.call receiver method written).telling names = .nothing := by
  simp only [telling, h, Bool.and_false]
  split <;> rfl

/-- An answer without what it tells of passwords. -/
def Answer.disclosed : Telling → Answer → Answer
  | .nothing, .item x => .item x.redacted
  | .password, .item x => .item x.censored
  | .comparison, .item _ => .itself
  | .comparison, .comparison same _ sameHash =>
    .comparison same false (sameHash.map fun _ => false)
  | _, .comparison same equal sameHash => .comparison same equal sameHash
  | _, .inspection entries => .inspection entries.disclosed
  | _, .itself => .itself

theorem Answer.disclosed_reply {tells : Bool} {x x' : Item}
    (h : (Reply.item x).disclosed tells = (Reply.item x').disclosed tells) :
    Answer.disclosed (if tells then .password else .nothing) (.item x) =
      Answer.disclosed (if tells then .password else .nothing) (.item x') := by
  cases tells <;> exact congrArg Answer.item (Reply.item.inj h)

/-! ## 3. Steps -/

namespace Session

theorem find_congr {names names' : Names} (hn : names.redacted = names'.redacted) (name : String) :
    (find names name).map Item.redacted = (find names' name).map Item.redacted := by
  have hfind : ∀ names : Names, (find names name).map Item.redacted = find names.redacted name := by
    intro names
    simp only [find, Names.lookup_redacted]
    cases names.lookup name <;> rfl
  rw [hfind, hfind, hn]

theorem sharedResources_agree : Agree id sharedResources sharedResources := by
  refine .world fun w w' hw => ?_
  have hshared : w.redacted.sharedResources = w'.redacted.sharedResources :=
    congrArg World.sharedResources hw
  rw [w.redacted_sharedResources, w'.redacted_sharedResources] at hshared
  rw [hshared]
  split
  · exact .give rfl
  · refine (Agree.share_self _).next fun r => ?_
    refine (Agree.change fun w w' hw => ?_).next fun _ => (Agree.report _).next fun _ => .give rfl
    show { w.redacted with sharedResources := some r } =
      { w'.redacted with sharedResources := some r }
    rw [hw]

theorem environment_agree (f f' : Environment → Environment)
    (h : ∀ env env' : Environment, env.redacted = env'.redacted →
      (f env).redacted = (f' env').redacted) :
    Agree id (Act.change fun w => { w with env := f w.env })
      (Act.change fun w => { w with env := f' w.env }) := by
  refine .change fun w w' hw => ?_
  show { w.redacted with env := (f w.env).redacted } =
    { w'.redacted with env := (f' w'.env).redacted }
  rw [hw, h w.env w'.env (congrArg World.env hw)]

theorem mapM_find_congr {names names' : Names} (hn : names.redacted = names'.redacted)
    (distinct : List String) :
    (distinct.mapM (find names)).map (List.map Item.redacted) =
      (distinct.mapM (find names')).map (List.map Item.redacted) := by
  induction distinct with
  | nil => rfl
  | cons name rest ih =>
    simp only [List.mapM_cons]
    obtain ⟨e, hx, hx'⟩ | ⟨x, x', hx, hx', hxx⟩ := cases_of_map_eq (find_congr hn name)
    · rw [hx, hx']
      rfl
    · rw [hx, hx']
      obtain ⟨e, hr, hr'⟩ | ⟨xs, xs', hr, hr', hall⟩ := cases_of_map_eq ih
      · rw [hr, hr']
        rfl
      · rw [hr, hr']
        exact congrArg Except.ok (congrArg₂ List.cons hxx hall)

variable {names names' : Names} (hn : names.redacted = names'.redacted)

include hn

theorem evalArguments_congr {w w' : World} (hw : w.redacted = w'.redacted)
    (written : WrittenArguments) :
    (evalArguments w names written).map Arguments.redacted =
      (evalArguments w' names' written).map Arguments.redacted := by
  rw [← evalArguments_redacted, ← evalArguments_redacted, hw, hn]

theorem find_agree (name : String) :
    Agree Item.redacted (Act.ofExcept (find names name)) (Act.ofExcept (find names' name)) :=
  .ofExcept (find_congr hn name)

theorem evalArguments_agree {w w' : World} (hw : w.redacted = w'.redacted)
    (written : WrittenArguments) :
    Agree Arguments.redacted (Act.ofExcept (evalArguments w names written))
      (Act.ofExcept (evalArguments w' names' written)) :=
  .ofExcept (evalArguments_congr hn hw written)

/-- Reading discloses no password but one that is read as such. -/
theorem perform_read_agree (receiver name : String) :
    Agree (Answer.disclosed ((Step.read receiver name).telling names))
      (perform names (.read receiver name)) (perform names' (.read receiver name)) := by
  refine .world fun w w' hw => ?_
  refine (find_agree hn receiver).bind fun x x' hx => ?_
  have hread : (Attribute.read w x name).map (Item.concealed name) =
      (Attribute.read w' x' name).map (Item.concealed name) := by
    rw [← Attribute.read_redacted, ← Attribute.read_redacted, hx, hw]
  refine (Agree.ofExcept hread).bind fun y y' hy => .give ?_
  by_cases hname : name = "password"
  · subst hname
    have hcensored : y.censored = y'.censored := by
      rw [← y.censored_masked, ← y'.censored_masked]
      exact congrArg Item.censored hy
    exact congrArg Answer.item hcensored
  · rw [Item.concealed_of_ne hname, Item.concealed_of_ne hname] at hy
    simp only [Step.telling, if_neg hname, Answer.disclosed, hy]

/-- Comparing tells of passwords only if both items hold a URI. -/
theorem perform_compare_agree (first second : String) :
    Agree (Answer.disclosed ((Step.compare first second).telling names))
      (perform names (.compare first second)) (perform names' (.compare first second)) := by
  refine .world fun w w' hw => ?_
  refine .ofExcept_bind (find_congr hn first) fun x x' hx hx' hxx => ?_
  refine .ofExcept_bind (find_congr hn second) fun y y' hy hy' hyy => .give ?_
  have htelling : (Step.compare first second).telling names =
      if x.holdsUri && y.holdsUri then .comparison else .nothing := by
    simp only [Step.telling, List.mapM_cons, List.mapM_nil, hx, hy]
    exact congrArg (fun b : Bool => if b then Telling.comparison else .nothing)
      (Item.weighed_pair x y)
  have hsame : x.same y = x'.same y' := by
    rw [← x.same_redacted, hxx, hyy, x'.same_redacted]
  rw [htelling, hsame]
  split
  case isTrue =>
    have hfailure := Item.sameHash_failure_redacted x y
    rw [hxx, hyy, Item.sameHash_failure_redacted] at hfailure
    exact congrArg (Answer.comparison _ false) hfailure.symm
  case isFalse h =>
    have hnot : (x.holdsUri && y.holdsUri) = false := by simpa using h
    have hnot' : (x'.holdsUri && y'.holdsUri) = false := by
      rwa [← x'.holdsUri_redacted, ← y'.holdsUri_redacted, ← hxx, ← hyy, x.holdsUri_redacted,
        y.holdsUri_redacted]
    rw [← Item.equals_redacted x y hnot, ← Item.sameHash_redacted hnot, hxx, hyy,
      Item.equals_redacted x' y' hnot', Item.sameHash_redacted hnot']

/-- So does counting different items, for any two of them. -/
theorem perform_countDistinct_agree (distinct : List String) :
    Agree (Answer.disclosed ((Step.countDistinct distinct).telling names))
      (perform names (.countDistinct distinct)) (perform names' (.countDistinct distinct)) := by
  refine .world fun w w' hw => ?_
  refine .ofExcept_bind (mapM_find_congr hn distinct) fun xs xs' hxs hxs' hall => ?_
  have htelling : (Step.countDistinct distinct).telling names =
      if Item.weighed xs then .comparison else .nothing := by
    simp only [Step.telling, hxs, Telling.ofCompared]
  rw [htelling]
  cases hw : Item.weighed xs with
  | true =>
    have hfailure := Item.countDistinct_failure_redacted xs
    rw [hall, Item.countDistinct_failure_redacted] at hfailure
    exact (Agree.ofExcept hfailure.symm).bind fun _ _ _ => .give rfl
  | false =>
    have hw' : Item.weighed xs' = false := by
      rw [← Item.weighed_map_redacted, ← hall, Item.weighed_map_redacted, hw]
    rw [← Item.countDistinct_redacted (Item.pairwise_of_not_weighed hw), hall,
      Item.countDistinct_redacted (Item.pairwise_of_not_weighed hw')]
    exact (Agree.ofExcept rfl).next fun _ => .give rfl

/-- Steps that are the same. -/
theorem perform_same_agree (step : Step) :
    Agree (Answer.disclosed (step.telling names)) (perform names step)
      (perform names' step) := by
  cases step with
  | new kind written =>
    refine .world fun w w' hw => ?_
    refine (evalArguments_agree hn hw written).bind fun a a' ha => ?_
    refine (Agree.ofExcept rfl).next fun kind => ?_
    exact (Construct.new_agree_of_redacted kind ha).bind fun x x' hx =>
      .give (congrArg Answer.item hx)
  | static kind method written =>
    refine .world fun w w' hw => ?_
    refine (evalArguments_agree hn hw written).bind fun a a' ha => ?_
    refine (Agree.ofExcept rfl).next fun kind => ?_
    exact (Construct.static_agree kind method ha).bind fun x x' hx =>
      .give (congrArg Answer.item hx)
  | call receiver method written =>
    refine .world fun w w' hw => ?_
    refine .ofExcept_bind (find_congr hn receiver) fun x x' hfind _ hx => ?_
    refine (evalArguments_agree hn hw written).bind fun a a' ha => ?_
    have hcall : Method.Call.Alike ⟨x, method, a⟩ ⟨x', method, a'⟩ := ⟨hx, rfl, ha⟩
    refine (Method.call_agree hcall).bind fun r r' hr => ?_
    cases r with
    | itself =>
      cases r' with
      | itself => exact .give rfl
      | item y' => cases hr
    | item y =>
      cases r' with
      | itself => cases hr
      | item y' =>
        simp only [Step.telling, hfind]
        exact .give (Answer.disclosed_reply hr)
  | read receiver name => exact perform_read_agree hn receiver name
  | write receiver name written =>
    refine .world fun w w' hw => ?_
    refine (find_agree hn receiver).bind fun x x' hx => ?_
    have heval : (written.eval w names).map Item.redacted =
        (written.eval w' names').map Item.redacted := by
      rw [← Term.eval_redacted, ← Term.eval_redacted, hw, hn]
    refine (Agree.ofExcept heval).bind fun given given' hgiven => ?_
    refine (Attribute.write_agree hx name ?_).next fun _ => .give rfl
    rw [← given.concealed_redacted, hgiven, given'.concealed_redacted]
  | delete receiver name =>
    refine .world fun w w' hw => ?_
    refine (find_agree hn receiver).bind fun x x' hx => ?_
    rw [← Attribute.delete_redacted, hx, hw, Attribute.delete_redacted]
    exact .fail _ _
  | inspect receiver =>
    refine .world fun w w' hw => ?_
    refine (find_agree hn receiver).bind fun x x' hx => .give (congrArg Answer.inspection ?_)
    rw [← Inspection.disclosed_of_redacted, hx, hw, Inspection.disclosed_of_redacted]
  | shown receiver =>
    refine .world fun w w' hw => ?_
    refine (find_agree hn receiver).bind fun x x' hx => ?_
    rw [← x.shown_redacted, hx, hw, x'.shown_redacted]
    exact (Agree.ofExcept rfl).next fun _ => .give rfl
  | text receiver =>
    refine .world fun w w' hw => ?_
    refine (find_agree hn receiver).bind fun x x' hx => ?_
    rw [← x.text_redacted, hx, hw, x'.text_redacted]
    exact (Agree.ofExcept rfl).next fun _ => .give rfl
  | compare first second => exact perform_compare_agree hn first second
  | countDistinct distinct => exact perform_countDistinct_agree hn distinct
  | setVariable name text =>
    refine .world fun w w' hw => ?_
    refine .next (environment_agree (·.set name text) (·.set name text) fun _ _ h => ?_) fun _ =>
      .give rfl
    exact Environment.redacted_set_congr h name text
  | unsetVariable name =>
    refine .world fun w w' hw => ?_
    refine .next (environment_agree (·.unset name) (·.unset name) fun _ _ h => ?_) fun _ =>
      .give rfl
    rw [Environment.redacted_unset, Environment.redacted_unset, h]
  | topologyOfEnvironment =>
    refine .world fun w w' hw => ?_
    have henv : w.env.redacted = w'.env.redacted := congrArg World.env hw
    rw [← Topology.ofEnvironment_redacted, henv, Topology.ofEnvironment_redacted]
    exact (Construct.addTopology_agree rfl).bind fun x x' hx => .give (congrArg Answer.item hx)
  | sharedResources => exact sharedResources_agree.next fun r => .give rfl
  | forgetSharedResources =>
    refine .world fun w w' hw => ?_
    refine (Agree.change fun w w' hw => ?_).next fun _ => .give rfl
    show { w.redacted with sharedResources := none } = { w'.redacted with sharedResources := none }
    rw [hw]

omit hn in
/-- An object is made from what its parameters get. -/
theorem perform_new {label : String} {kind : ObjectKind}
    (known : ObjectKind.ofLabel? label = some kind) (w : World) (names : Names)
    (written : WrittenArguments) :
    (do
      let arguments ← Act.ofExcept (evalArguments w names written)
      return Answer.item (← Construct.new (← Act.ofExcept (kindOf label)) arguments)) = (do
      let items ← Act.ofExcept (bound kind w names written)
      return Answer.item (← Construct.fromItems kind items)) := by
  have hkind : kindOf label = .ok kind := by rw [kindOf, known]
  unfold bound
  rw [hkind]
  cases evalArguments w names written with
  | error e => rfl
  | ok a =>
    show (Act.ofExcept (kind.signature.bind a) >>= Construct.fromItems kind) >>=
        (fun x => pure (Answer.item x)) =
      Act.ofExcept (kind.signature.bind a) >>= fun items => Construct.fromItems kind items >>=
        fun x => pure (Answer.item x)
    cases kind.signature.bind a <;> rfl

/-- Steps that may supply different passwords. -/
theorem perform_agree {step step' : Step} (h : step.Alike step') :
    Agree (Answer.disclosed (step.telling names)) (perform names step)
      (perform names' step') := by
  cases h with
  | same => exact perform_same_agree hn step
  | @new label kind known m fits p p' =>
    refine .world fun w w' hw => ?_
    show Agree _ (Act.ofExcept (evalArguments w names (m.written p)) >>= _)
      (Act.ofExcept (evalArguments w' names' (m.written p')) >>= _)
    rw [perform_new known, perform_new known]
    refine .ofExcept_bind (bound_alike fits hw hn p p') fun items items' hi hi' hview => ?_
    refine .bind (Construct.fromItems_agree (length_bound hi) (length_bound hi') hview)
      fun x x' hx => .give (congrArg Answer.item hx)
  | write receiver p p' =>
    refine .world fun w w' hw => ?_
    refine (find_agree hn receiver).bind fun x x' hx => ?_
    have hgiven : (Item.value p.value).concealed "password" =
        (Item.value p'.value).concealed "password" := by
      rw [p.concealed_value, p'.concealed_value]
    refine .bind (.ofExcept (congrArg Except.ok hgiven)) fun given given' h => ?_
    exact (Attribute.write_agree hx "password" h).next fun _ => .give rfl
  | environment given given' =>
    have hsupply : ∀ f f' : Environment → Environment, (∀ env, (f env).redacted = env.redacted) →
        (∀ env, (f' env).redacted = env.redacted) →
          Agree id (Act.change fun w => { w with env := f w.env })
            (Act.change fun w => { w with env := f' w.env }) :=
      fun f f' hf hf' => environment_agree f f' fun env env' h => by rw [hf, hf', h]
    have hset := fun text : String => fun env : Environment => env.redacted_set_password text
    have hunset := fun env : Environment => env.redacted_unset_password
    refine .world fun w w' hw => ?_
    cases given with
    | none =>
      cases given' with
      | none => exact (hsupply _ _ hunset hunset).next fun _ => .give rfl
      | some text' => exact (hsupply _ _ hunset (hset text')).next fun _ => .give rfl
    | some text =>
      cases given' with
      | none => exact (hsupply _ _ (hset text) hunset).next fun _ => .give rfl
      | some text' => exact (hsupply _ _ (hset text) (hset text')).next fun _ => .give rfl

end Session

/-! ## 4. Sessions that are alike -/

namespace Step.Alike

/-- Steps that are alike tell the same of passwords. -/
theorem telling_eq {step step' : Step} (h : step.Alike step') {names names' : Names}
    (hn : names.redacted = names'.redacted) : step.telling names = step'.telling names' := by
  have hcompared : ∀ compared : List String,
      Telling.ofCompared (compared.mapM (Session.find names)) =
        Telling.ofCompared (compared.mapM (Session.find names')) := by
    intro compared
    obtain ⟨e, hx, hx'⟩ | ⟨xs, xs', hx, hx', hall⟩ :=
      cases_of_map_eq (Session.mapM_find_congr hn compared)
    · rw [hx, hx']
    · rw [hx, hx']
      simp only [Telling.ofCompared]
      rw [← Item.weighed_map_redacted, hall, Item.weighed_map_redacted]
  cases h with
  | same =>
    cases step with
    | call receiver method written =>
      simp only [Step.telling]
      obtain ⟨e, hx, hx'⟩ | ⟨x, x', hx, hx', hall⟩ :=
        cases_of_map_eq (Session.find_congr hn receiver)
      · rw [hx, hx']
      · rw [hx, hx']
        simp only
        rw [← x.keepsPassword_redacted, hall, x'.keepsPassword_redacted]
    | compare first second => exact hcompared _
    | countDistinct distinct => exact hcompared _
    | _ => rfl
  | environment given given' => cases given <;> cases given' <;> rfl
  | _ => rfl

end Step.Alike

/-- What a step has answered and caused, without what it tells of passwords. -/
def Outcome.disclosed (telling : Telling) (outcome : Outcome) : Outcome :=
  { outcome with answer := outcome.answer.map (Answer.disclosed telling) }

namespace Session

/-- Steps to take from a session that are alike. An answer that tells of passwords is not kept, so
that no later step is given it as something else; where it is to be given as a password, its text
is written down. -/
inductive StepsAlike : Session → List NamedStep → List NamedStep → Prop
  | nil (s : Session) : StepsAlike s [] []
  | cons {s : Session} {step step' : NamedStep} {rest rest' : List NamedStep}
      (alike : step.step.Alike step'.step) (kept : step.keptAs = step'.keptAs)
      (untold : step.keptAs ≠ none → step.step.telling s.names = .nothing)
      (others : StepsAlike (s.next step).2 rest rest') :
      StepsAlike s (step :: rest) (step' :: rest')

/-- What steps one after the other disclose, and the worlds after them, without passwords. -/
def disclosed (s : Session) : List NamedStep → List (Outcome × World)
  | [] => []
  | step :: rest =>
    let (outcome, s') := s.next step
    (outcome.disclosed (step.step.telling s.names), s'.world.redacted) :: disclosed s' rest

/-- What steps have caused, and how they have failed. -/
def reported (run : List (Outcome × World)) :
    List (List LogLine × List Event × Except Failure Unit) :=
  run.map fun done => (done.1.log, done.1.events, done.1.answer.map fun _ => ())

/-- All that is reported is disclosed. -/
theorem reported_disclosed (s : Session) (steps : List NamedStep) :
    reported (s.disclosed steps) = reported (s.run steps) := by
  induction steps generalizing s with
  | nil => rfl
  | cons step rest ih =>
    have hrest := ih (s.next step).2
    simp only [reported, disclosed, run, List.map_cons, Outcome.disclosed] at hrest ⊢
    rw [hrest]
    cases (s.next step).1.answer <;> rfl

/-- Sessions whose worlds and names are alike but for passwords. -/
structure Alike (s s' : Session) : Prop where
  world : s.world.redacted = s'.world.redacted
  names : s.names.redacted = s'.names.redacted

/-- Names keep an answer that tells nothing of passwords as it is disclosed. -/
theorem keep_redacted (names : Names) (name : String) (answer : Except Failure Answer) :
    (keep names (some name) answer).redacted =
      keep names.redacted (some name) (answer.map (Answer.disclosed .nothing)) := by
  cases answer with
  | error e => rfl
  | ok answer => cases answer <;> rfl

section

variable {s s' : Session} (hs : s.Alike s') {step step' : NamedStep}
  (h : step.step.Alike step'.step)

include hs h

/-- A step discloses the same in sessions that are alike. -/
theorem next_disclosed :
    (s.next step).1.disclosed (step.step.telling s.names) =
      (s'.next step').1.disclosed (step'.step.telling s'.names) := by
  have hagree := perform_agree hs.names h s.world s'.world hs.world
  rcases hp : perform s.names step.step s.world with ⟨answer, w⟩
  rcases hp' : perform s'.names step'.step s'.world with ⟨answer', w'⟩
  simp only [Act.seen, hp, hp', Prod.mk.injEq] at hagree
  obtain ⟨hanswer, hworld⟩ := hagree
  have hlog : ∀ {v v' : World}, v.redacted = v'.redacted → v.log = v'.log := fun hv =>
    (congrArg World.log hv :)
  have hevents : ∀ {v v' : World}, v.redacted = v'.redacted → v.events = v'.events := fun hv =>
    (congrArg World.events hv :)
  simp only [Outcome.disclosed, next, hp, hp', hlog hs.world, hlog hworld, hevents hs.world,
    hevents hworld]
  rw [← h.telling_eq hs.names, hanswer]

/-- A step takes sessions that are alike to sessions that are alike. -/
theorem next_alike (kept : step.keptAs = step'.keptAs)
    (untold : step.keptAs ≠ none → step.step.telling s.names = .nothing) :
    (s.next step).2.Alike (s'.next step').2 := by
  have hagree := perform_agree hs.names h s.world s'.world hs.world
  rcases hp : perform s.names step.step s.world with ⟨answer, w⟩
  rcases hp' : perform s'.names step'.step s'.world with ⟨answer', w'⟩
  simp only [Act.seen, hp, hp', Prod.mk.injEq] at hagree
  obtain ⟨hanswer, hworld⟩ := hagree
  refine ⟨by simp only [next, hp, hp', hworld], ?_⟩
  simp only [next, hp, hp', ← kept]
  cases hk : step.keptAs with
  | none => exact hs.names
  | some name =>
    rw [untold (by simp [hk])] at hanswer
    rw [keep_redacted, hs.names, hanswer, ← keep_redacted]

end

/-- Sessions that are alike and take steps that are alike disclose the same. -/
theorem disclosed_alike {s : Session} {steps steps' : List NamedStep}
    (h : s.StepsAlike steps steps') {s' : Session} (hs : s.Alike s') :
    s.disclosed steps = s'.disclosed steps' := by
  induction h generalizing s' with
  | nil => rfl
  | cons alike kept untold _ ih =>
    have hnext := next_alike hs alike kept untold
    simp only [disclosed, next_disclosed hs alike, hnext.world, ih hnext]

/-- A session that nothing has been done in. -/
def fresh (env : Environment) (installed : ClassPath.Installation) (conducts : Conducts) :
    Session :=
  ⟨World.initial env installed conducts, []⟩

theorem fresh_alike {env env' : Environment} (h : env.redacted = env'.redacted)
    (installed : ClassPath.Installation) (conducts : Conducts) :
    (fresh env installed conducts).Alike (fresh env' installed conducts) := by
  refine ⟨?_, rfl⟩
  simp only [fresh, World.redacted, World.initial, h]

/-- A server is made with a password or without one and another password is written. A deployment
of it is started, hands out a connection and is released, and the server is shown. -/
def shownServer (p written : Password) : List NamedStep :=
  [⟨.new "StandaloneConfiguration"
      ((Manner.last [.value (.text "cache"), .value (.int 6380)] []).written p), some "server"⟩,
    ⟨.write "server" "password" (.value written.value), none⟩,
    ⟨.new "RedisConnectionFactory" ⟨[.named "server"], []⟩, some "links"⟩,
    ⟨.call "links" "initialize" ⟨[], []⟩, none⟩,
    ⟨.call "links" "get_connection" ⟨[], []⟩, some "link"⟩,
    ⟨.call "links" "destroy" ⟨[], []⟩, none⟩,
    ⟨.shown "server", none⟩]

theorem shownServer_alike (p p' written written' : Password) (s : Session) :
    s.StepsAlike (shownServer p written) (shownServer p' written') := by
  have hfits : (Manner.last [.value (.text "cache"), .value (.int 6380)] []).Fits .standalone :=
    ⟨rfl, List.not_mem_nil⟩
  have hunkept : ∀ {P : Prop}, (none : Option String) ≠ none → P := fun h => absurd rfl h
  exact .cons (.new rfl hfits p p') rfl (fun _ => rfl)
    (.cons (.write "server" written written') rfl hunkept
      (.cons (.same _) rfl (fun _ => rfl)
        (.cons (.same _) rfl hunkept
          (.cons (.same _) rfl (fun _ => Step.telling_call rfl)
            (.cons (.same _) rfl hunkept
              (.cons (.same _) rfl hunkept (.nil _)))))))

/-- Two URIs that differ in their passwords at most are made and compared. -/
def comparedUris (p q : Password) : List NamedStep :=
  let manner := Manner.name [.value (.text "h"), .value (.int 1)] [] []
  [⟨.new "RedisURI" (manner.written p), some "a"⟩, ⟨.new "RedisURI" (manner.written q), some "b"⟩,
    ⟨.compare "a" "b", none⟩]

end Session

end RedisLink
