/-
RedisLink.Proofs.Builders — what builders build.

A builder holds a value for each setting. What a setting takes is
`SettingName.accept`: flags take anything, options and resources have to be there,
whatever they are, and a timeout is a duration that is not negative. A call of a
method puts in one setting and leaves the others, builds, or fails and changes
nothing (`BuilderCall.outcome`).

What is built is checked once more, by the checks that all settings are made with.
Those refuse settings without options, and a timeout that is none; a builder that
starts with options never comes to hold such (`Builder.Ready`), so the checks pass
(`Builder.build_ready`).

A run is calls of builders, this one and others. What a builder holds after a run
is, setting by setting, what has been put in last, or what it held before if
nothing has been (`BuilderCall.item_run`); the induction is on the calls, in the
world that those before have left. What has been built is a record, which is read
in every world alike. `builders_build` says this of a builder from its making on.
-/
import RedisLink.Proofs.TimeoutChecks

namespace RedisLink

/-! ## 1. Settings by name -/

/-- The settings that a builder puts together. -/
inductive SettingName
  | useSsl
  | verifyPeer
  | startTls
  | options
  | resources
  | timeout (name : TimeoutName)
deriving DecidableEq

/-- The name of the attribute that a setting is read as, and of the method that puts it in. -/
def SettingName.label : SettingName → String
  | .useSsl => "use_ssl"
  | .verifyPeer => "verify_peer"
  | .startTls => "start_tls"
  | .options => "client_options"
  | .resources => "client_resources"
  | .timeout name => name.label

/-- A setting as it is read. -/
def Settings.item (s : Settings) : SettingName → Item
  | .useSsl => .value s.useSsl
  | .verifyPeer => .value s.verifyPeer
  | .startTls => .value s.startTls
  | .options => .ofPart s.options
  | .resources => .ofPart s.resources
  | .timeout name => .value (.duration (s.timeoutOf name).duration)

/-- Settings that have been built are read in every world alike. -/
theorem Attribute.read_settings (s : Shared Settings) (f : SettingName) (w : World) :
    read w (.settings s) f.label = .ok (s.value.item f) := by
  cases f with
  | timeout name => exact read_settings_timeout s name w
  | _ => rfl

/-- A setting as a builder holds it. -/
def Builder.item (b : Builder) : SettingName → Item
  | .useSsl => .value b.useSsl
  | .verifyPeer => .value b.verifyPeer
  | .startTls => .value b.startTls
  | .options => .ofPart b.options
  | .resources => .ofPart b.resources
  | .timeout name => .value (.duration (b.timeoutOf name).duration)

/-- A new builder holds what is standard. -/
theorem Builder.item_fresh (o : Shared Options) (f : SettingName) :
    (fresh o).item f = (Settings.standard o).item f := by
  cases f with
  | timeout name => cases name <;> rfl
  | _ => rfl

/-- A builder that comes from another one by one setting being put in. -/
structure Builder.Puts (b : Builder) (f : SettingName) (y : Item) (b' : Builder) : Prop where
  entered : b'.item f = y
  others : ∀ g, g ≠ f → b'.item g = b.item g

/-- What is put in for a setting by an item; nothing if it is refused. A flag may be anything,
options and resources anything but nothing, and a timeout is a duration that is not negative. -/
def SettingName.accept (w : World) (x : Item) : SettingName → Option Item
  | .useSsl | .verifyPeer | .startTls => some (.value (x.toValue w))
  | .options | .resources =>
    if (x.toPart w).isNull then none else some (.ofPart (x.toPart w))
  | .timeout _ =>
    match x.toValue w with
    | .duration d => if 0 ≤ d.micros then some (.value (.duration d)) else none
    | _ => none

theorem SettingName.label_injective {f g : SettingName} (h : f.label = g.label) : f = g := by
  cases f with
  | timeout name =>
    cases g with
    | timeout other => cases name <;> cases other <;> first | rfl | exact absurd h (by decide)
    | _ => cases name <;> exact absurd h (by decide)
  | _ =>
    cases g with
    | timeout other => cases other <;> exact absurd h (by decide)
    | _ => first | rfl | exact absurd h (by decide)

/-! ## 2. One step -/

namespace SettingName

theorem accept_timeout {w : World} {x : Item} {t : Timeout} (name : TimeoutName)
    (given : x.toValue w = .duration t.duration) :
    (timeout name).accept w x = some (.value (.duration t.duration)) := by
  simp only [accept, given, if_pos t.nonneg]

theorem accept_timeout_refused {w : World} {x : Item} {name : TimeoutName} {e : Failure}
    (refuses : Timeout.Refuses name (x.toValue w) e) : (timeout name).accept w x = none := by
  simp only [accept]
  generalize x.toValue w = v at refuses
  cases refuses with
  | negative negative => simp only [if_neg (Int.not_le.mpr negative)]
  | kind other =>
    split
    · exact absurd rfl (other _)
    · rfl

/-- The step of a builder for a setting puts in what is accepted and leaves all other settings, or
it is refused. -/
theorem take_step (w : World) (x : Item) (f : SettingName) (b : Builder) :
    ∃ step, Method.builderStep f.label w x = some step ∧
      ((∃ y b', f.accept w x = some y ∧ b.take step = .ok b' ∧ b.Puts f y b') ∨
        ∃ e, f.accept w x = none ∧ b.take step = .error e) := by
  cases f with
  | useSsl | verifyPeer | startTls =>
    refine ⟨_, rfl, .inl ⟨_, _, rfl, rfl, rfl, ?_⟩⟩
    intro g hg
    cases g <;> first | rfl | exact absurd rfl hg
  | options | resources =>
    refine ⟨_, rfl, ?_⟩
    by_cases hnull : (x.toPart w).isNull
    · exact .inr ⟨_, if_pos hnull, if_pos hnull⟩
    · refine .inl ⟨_, _, if_neg hnull, if_neg hnull, rfl, ?_⟩
      intro g hg
      cases g <;> first | rfl | exact absurd rfl hg
  | timeout name =>
    refine ⟨.putting name (x.toValue w), by cases name <;> rfl, ?_⟩
    rw [Builder.take_putting]
    obtain ⟨t, hgiven, hcheck⟩ | ⟨e, hrefuses, hcheck⟩ := Timeout.given_cases name (x.toValue w)
    · rw [hcheck]
      refine .inl ⟨_, _, accept_timeout name hgiven, rfl, ?_, ?_⟩
      · simp only [Builder.item, Builder.timeoutOf_withTimeout, if_true]
      · intro g hg
        cases g with
        | timeout other =>
          have hne : other ≠ name := fun h => hg (congrArg timeout h)
          simp only [Builder.item, Builder.timeoutOf_withTimeout, if_neg hne]
        | _ => cases name <;> rfl
    · rw [hcheck]
      exact .inr ⟨e, accept_timeout_refused hrefuses, rfl⟩

end SettingName

namespace Builder

variable {b b' : Builder}

/-- A builder holds options, so what it builds passes the checks. -/
def Ready (b : Builder) : Prop := b.options.isNull = false

theorem ready_fresh (o : Shared Options) : (fresh o).Ready := rfl

/-- No step takes the options away. -/
theorem ready_take {step : Step} (ready : b.Ready) (taken : b.take step = .ok b') : b'.Ready := by
  cases step with
  | useSsl given | verifyPeer given | disablePeerVerification | startTls given =>
    cases taken
    exact ready
  | options given =>
    simp only [take] at taken
    split at taken
    · cases taken
    · rename_i present
      cases taken
      exact Bool.eq_false_iff.mpr present
  | resources given | timeout given | shutdownTimeout given =>
    simp only [take] at taken
    split at taken <;> cases taken
    exact ready

/-- What has been built has been checked like all settings, and has what the builder holds. -/
theorem build_ready (ready : b.Ready) :
    ∃ s, b.build = .ok s ∧ ∀ f, s.item f = b.item f := by
  have hbuild : b.build = .ok ⟨b.useSsl, b.verifyPeer, b.startTls, b.options, b.resources,
      b.timeout, b.shutdownTimeout⟩ := by
    unfold build
    rw [Settings.make_timeouts, ready]
    rfl
  refine ⟨_, hbuild, fun f => ?_⟩
  cases f with
  | timeout name => cases name <;> rfl
  | _ => rfl

end Builder

/-! ## 3. One call -/

namespace Method

variable {c : Call} {n : Nat} {w : World}

theorem call_builder_unknown (receiver : c.receiver = .builder n) (other : c.method ≠ "build")
    (unknown : builderStep c.method w Item.null = none) : call c w = c.unknown w := by
  obtain ⟨_, m, a⟩ := c
  obtain rfl : _ = Item.builder n := receiver
  change m ≠ "build" at other
  change builderStep m w Item.null = none at unknown
  simp only [call, onBuilder, bind, Act.andThen, Act.world, if_neg other, unknown]

/-- A method that puts in no setting has no step of a builder. -/
theorem builderStep_eq_none {m : String} (settings : ∀ f : SettingName, m ≠ f.label)
    (disable : m ≠ "disable_peer_verification") (w : World) (x : Item) :
    builderStep m w x = none := by
  unfold builderStep
  split
  · exact absurd rfl (settings .useSsl)
  · exact absurd rfl (settings .verifyPeer)
  · exact absurd rfl (settings .startTls)
  · exact absurd rfl (settings (.timeout .command))
  · exact absurd rfl (settings (.timeout .shutdown))
  · exact absurd rfl disable
  · exact absurd rfl (settings .options)
  · exact absurd rfl (settings .resources)
  · rfl

theorem length_builderParameters (f : SettingName) : (builderParameters f.label).length = 1 := by
  cases f with
  | timeout name => cases name <;> rfl
  | _ => rfl

end Method

/-- A call of a method of a builder. -/
structure BuilderCall extends Method.Call where
  builder : Nat
  on : receiver = .builder builder

namespace BuilderCall

/-- What a call puts in for a setting of its builder, if it does. -/
def puts (c : BuilderCall) (w : World) (f : SettingName) : Option Item :=
  match c.bind w (Method.builderParameters c.method) with
  | .ok [x] => if c.method = f.label then f.accept w x else none
  | .ok [] =>
    if c.method = "disable_peer_verification" ∧ f = .verifyPeer then some (.ofBool false) else none
  | _ => none

/-- What a call of a method of a builder can come to. -/
inductive Outcome (c : BuilderCall) (w : World) : Except Failure Reply × World → Prop
  /-- One setting of the builder is put in, and the builder is given back. -/
  | put (f : SettingName) (y : Item) (b : Builder)
      (puts : ∀ g, c.puts w g = if g = f then some y else none)
      (held : (w.builders.get c.builder).Puts f y b)
      (ready : (w.builders.get c.builder).Ready → b.Ready) :
      Outcome c w (.ok .itself, { w with builders := w.builders.set c.builder b })
  /-- The settings that the builder builds are given as a new record. -/
  | built (s : Settings) (method : c.method = "build") (idle : ∀ g, c.puts w g = none)
      (checked : (w.builders.get c.builder).build = .ok s) :
      Outcome c w (.ok (.item (.settings ⟨w.nextRecord, s⟩)),
        { w with nextRecord := w.nextRecord + 1 })
  /-- Nothing has changed. -/
  | refused (e : Failure) (idle : ∀ g, c.puts w g = none) : Outcome c w (.error e, w)

variable {c : BuilderCall} {w : World}

theorem puts_of_none (taken : c.bind w (Method.builderParameters c.method) = .ok [])
    (other : c.method ≠ "disable_peer_verification") (g : SettingName) : c.puts w g = none := by
  simp only [puts, taken]
  exact if_neg fun h => other h.1

theorem puts_of_error {e : Failure}
    (refused : c.bind w (Method.builderParameters c.method) = .error e) (g : SettingName) :
    c.puts w g = none := by
  simp only [puts, refused]

/-- A call of a method that puts in one setting puts in no other. -/
theorem puts_of_label {f : SettingName} {x : Item} (method : c.method = f.label)
    (taken : c.bind w (Method.builderParameters c.method) = .ok [x]) (g : SettingName) :
    c.puts w g = if g = f then f.accept w x else none := by
  simp only [puts, taken]
  by_cases h : g = f
  · rw [if_pos h, h, if_pos method]
  · rw [if_neg h, if_neg fun same => h (SettingName.label_injective (same.symm.trans method))]

theorem outcome_build (method : c.method = "build") : c.Outcome w (Method.call c.toCall w) := by
  have hparameters : Method.builderParameters c.method = [] := by
    rw [method]
    rfl
  rw [Method.call_build c.on method]
  obtain ⟨-, hok⟩ | ⟨-, e, herror⟩ := Signature.bind_none_cases _ c.arguments
  · have hidle : ∀ g, c.puts w g = none := by
      refine puts_of_none ?_ ?_
      · rw [hparameters]
        exact hok
      · rw [method]
        decide
    rw [show c.bind w [] = .ok [] from hok]
    cases hbuild : (w.builders.get c.builder).build with
    | error e => exact .refused e hidle
    | ok s => exact .built s method hidle hbuild
  · rw [show c.bind w [] = .error e from herror]
    refine .refused e (puts_of_error (e := e) ?_)
    rw [hparameters]
    exact herror

theorem outcome_disable (method : c.method = "disable_peer_verification") :
    c.Outcome w (Method.call c.toCall w) := by
  have hstep (x : Item) : Method.builderStep c.method w x = some .disablePeerVerification := by
    rw [method]
    rfl
  have hparameters : Method.builderParameters c.method = [] := by
    rw [method]
    rfl
  have hbuild : c.method ≠ "build" := by
    rw [method]
    decide
  obtain ⟨e, hbind, hcall⟩ | ⟨items, step, hbind, htaken, hcall⟩ :=
    Method.call_builder c.on hbuild fun x => ⟨_, hstep x⟩
  · rw [hcall]
    exact .refused e (puts_of_error hbind)
  · obtain rfl := Option.some.inj ((hstep _).symm.trans htaken)
    rw [hcall]
    obtain rfl : items = [] := by
      have hlength := Signature.length_of_bind hbind
      rw [hparameters] at hlength
      exact List.length_eq_zero_iff.mp hlength
    refine .put .verifyPeer (.ofBool false) _ ?_ ⟨rfl, ?_⟩ id
    · intro g
      simp only [puts, hbind]
      simp only [method, true_and]
    · intro g hg
      cases g <;> first | rfl | exact absurd rfl hg

theorem outcome_setting {f : SettingName} (method : c.method = f.label) :
    c.Outcome w (Method.call c.toCall w) := by
  have hbuild : c.method ≠ "build" := by
    rw [method]
    cases f with
    | timeout name => cases name <;> decide
    | _ => decide
  have hknown (x : Item) : ∃ step, Method.builderStep c.method w x = some step := by
    obtain ⟨step, hstep, -⟩ := SettingName.take_step w x f (w.builders.get c.builder)
    exact ⟨step, method ▸ hstep⟩
  obtain ⟨e, hbind, hcall⟩ | ⟨items, step, hbind, htaken, hcall⟩ :=
    Method.call_builder c.on hbuild hknown
  · rw [hcall]
    exact .refused e (puts_of_error hbind)
  · obtain ⟨x, rfl⟩ : ∃ x, items = [x] := by
      have hlength := Signature.length_of_bind hbind
      rw [method, Method.length_builderParameters] at hlength
      exact List.length_eq_one_iff.mp hlength
    have hputs := puts_of_label method hbind
    obtain ⟨step', hstep, haccepted⟩ := SettingName.take_step w x f (w.builders.get c.builder)
    obtain rfl : step' = step := by
      rw [method] at htaken
      exact Option.some.inj (hstep.symm.trans htaken)
    rw [hcall]
    obtain ⟨y, b, haccept, htake, hheld⟩ | ⟨e, haccept, htake⟩ := haccepted
    · rw [htake]
      rw [haccept] at hputs
      exact .put f y b hputs hheld fun ready => Builder.ready_take ready htake
    · rw [htake]
      refine .refused e fun g => ?_
      rw [hputs g, haccept, ite_self]

theorem outcome_unknown (settings : ∀ f : SettingName, c.method ≠ f.label)
    (disable : c.method ≠ "disable_peer_verification") (build : c.method ≠ "build") :
    c.Outcome w (Method.call c.toCall w) := by
  have hstep := Method.builderStep_eq_none settings disable w Item.null
  rw [Method.call_builder_unknown c.on build hstep]
  refine .refused _ fun g => ?_
  unfold puts
  split
  · exact if_neg (settings g)
  · exact if_neg fun h => disable h.1
  · rfl

/-- Every call comes to one of the outcomes. -/
theorem outcome (c : BuilderCall) (w : World) : c.Outcome w (Method.call c.toCall w) := by
  by_cases build : c.method = "build"
  · exact outcome_build build
  by_cases disable : c.method = "disable_peer_verification"
  · exact outcome_disable disable
  by_cases setting : ∃ f : SettingName, c.method = f.label
  · obtain ⟨f, method⟩ := setting
    exact outcome_setting method
  · exact outcome_unknown (not_exists.mp setting) disable build

/-- After a call a builder holds what has been put in for it, and otherwise what it held before. -/
theorem item_call (c : BuilderCall) (w : World) (n : Nat) (f : SettingName) :
    ((Method.call c.toCall w).2.builders.get n).item f =
      (if c.builder = n then c.puts w f else none).getD ((w.builders.get n).item f) := by
  have houtcome := outcome c w
  generalize Method.call c.toCall w = result at houtcome
  by_cases h : c.builder = n
  · subst h
    rw [if_pos rfl]
    cases houtcome with
    | put g y b puts held =>
      rw [puts f]
      by_cases hf : f = g
      · subst hf
        simp only [Store.get_set_self, if_true, held.entered, Option.getD_some]
      · simp only [Store.get_set_self, if_neg hf, held.others f hf, Option.getD_none]
    | built _ _ idle | refused _ idle =>
      rw [idle f]
      rfl
  · rw [if_neg h]
    cases houtcome with
    | put g y b puts held => simp only [Store.get_set_of_ne _ b (Ne.symm h), Option.getD_none]
    | built | refused => rfl

/-- A builder that is ready stays so. -/
theorem ready_call (c : BuilderCall) {w : World} {n : Nat} (ready : (w.builders.get n).Ready) :
    ((Method.call c.toCall w).2.builders.get n).Ready := by
  have houtcome := outcome c w
  generalize Method.call c.toCall w = result at houtcome
  cases houtcome with
  | put f y b puts held keeps =>
    by_cases h : n = c.builder
    · subst h
      simpa only [Store.get_set_self] using keeps ready
    · simpa only [Store.get_set_of_ne _ b h] using ready
  | built | refused => exact ready

/-! ## 4. Runs -/

/-- The world after calls of builders, some of which may fail. -/
def run (w : World) (calls : List BuilderCall) : World :=
  calls.foldl (fun w c => (Method.call c.toCall w).2) w

/-- What calls put in for a setting of a builder, one after another. -/
def entered (n : Nat) (f : SettingName) (w : World) : List BuilderCall → List Item
  | [] => []
  | c :: rest =>
    (if c.builder = n then c.puts w f else none).toList ++
      entered n f (Method.call c.toCall w).2 rest

theorem run_append (w : World) (before after : List BuilderCall) :
    run w (before ++ after) = run (run w before) after := List.foldl_append

/-- A builder holds what has been put in last, and what it held before if nothing has been. -/
theorem item_run (n : Nat) (f : SettingName) (calls : List BuilderCall) (w : World) :
    ((run w calls).builders.get n).item f =
      (entered n f w calls).getLast?.getD ((w.builders.get n).item f) := by
  induction calls generalizing w with
  | nil => rfl
  | cons c rest ih =>
    have hlast (y : Option Item) : y.toList.getLast? = y := by
      cases y <;> rfl
    show ((run (Method.call c.toCall w).2 rest).builders.get n).item f = _
    rw [ih, item_call, entered, List.getLast?_append, hlast, Option.getD_or]

theorem ready_run (n : Nat) (calls : List BuilderCall) (w : World)
    (ready : (w.builders.get n).Ready) : ((run w calls).builders.get n).Ready := by
  induction calls generalizing w with
  | nil => exact ready
  | cons c rest ih => exact ih _ (ready_call c ready)

/-- A call that fails could as well be left out of a run. -/
theorem run_without {e : Failure} {v : World} {before : List BuilderCall}
    (failed : Method.call c.toCall (run w before) = (.error e, v)) (after : List BuilderCall) :
    run w (before ++ c :: after) = run w (before ++ after) := by
  have houtcome := outcome c (run w before)
  rw [failed] at houtcome
  cases houtcome with
  | refused =>
    rw [run_append, run_append]
    show run (Method.call c.toCall (run w before)).2 after = _
    rw [failed]

/-! ## 5. What is built -/

/-- A builder builds in a world: the call gives settings that come of the checks of all settings,
on what the builder holds. -/
def Builds (n : Nat) (w : World) (s : Shared Settings) : Prop :=
  let b := w.builders.get n
  Settings.make b.useSsl b.verifyPeer b.startTls b.options b.resources
      (.duration b.timeout.duration) (.duration b.shutdownTimeout.duration) = .ok s.value ∧
    ∃ v, Method.call ⟨.builder n, "build", ⟨[], []⟩⟩ w = (.ok (.item (.settings s)), v)

/-- What a builder comes to that has held standard settings in a world, after calls. -/
structure Building (n : Nat) (o : Shared Options) (w : World) (calls : List BuilderCall) :
    Prop where
  /-- Building succeeds. What is built is read, at any time, as what has been put in last, or as
  what is standard if nothing has been. -/
  builds : ∃ s, Builds n (run w calls) s ∧ ∀ (f : SettingName) (later : World),
    Attribute.read later (.settings s) f.label =
      .ok ((entered n f w calls).getLast?.getD ((Settings.standard o).item f))
  /-- A further call puts in one setting, builds, or fails and changes nothing. -/
  comes : ∀ c : BuilderCall, c.Outcome (run w calls) (Method.call c.toCall (run w calls))
  /-- A further call that fails could as well be left out. -/
  omits : ∀ (c : BuilderCall) (e : Failure) (v : World),
    Method.call c.toCall (run w calls) = (.error e, v) →
      ∀ after, run w (calls ++ c :: after) = run w (calls ++ after)

theorem building {n : Nat} {o : Shared Options} {w : World} (held : w.builders.get n = .fresh o)
    (calls : List BuilderCall) : Building n o w calls := by
  constructor
  case builds =>
    have hready := ready_run n calls w (held ▸ Builder.ready_fresh o)
    obtain ⟨s, hs, hitem⟩ := Builder.build_ready hready
    have hbind : Method.Call.bind ⟨.builder n, "build", ⟨[], []⟩⟩ (run w calls) [] = .ok [] := rfl
    have hcall :=
      Method.call_build (c := ⟨.builder n, "build", ⟨[], []⟩⟩) (w := run w calls) rfl rfl
    rw [hbind, hs] at hcall
    refine ⟨⟨_, s⟩, ⟨hs, _, hcall⟩, fun f later => ?_⟩
    rw [Attribute.read_settings, hitem, item_run, held, Builder.item_fresh]
  case comes => exact fun c => c.outcome _
  case omits => exact fun c e v failed => run_without failed

end BuilderCall

/-- A new builder builds, after any calls, settings of which each is what has been put in last or,
if nothing has been, what it is in settings for which nothing has been chosen. -/
theorem builders_build (w : World) :
    ∃ (n : Nat) (o : Shared Options) (v : World), o.value = .standard ∧
      Construct.static .settings "builder" ⟨[], []⟩ w = (.ok (.builder n), v) ∧
      Construct.new .builder ⟨[], []⟩ w = (.ok (.builder n), v) ∧
      (∀ u, ∃ number p u', p.value = Options.standard ∧
        Construct.static .settings "create" ⟨[], []⟩ u =
          (.ok (.settings ⟨number, .standard p⟩), u')) ∧
      ∀ calls, BuilderCall.Building n o v calls := by
  refine ⟨w.builders.size, ⟨w.nextRecord, .standard⟩, _, rfl, rfl, rfl, ?_, ?_⟩
  · intro u
    exact ⟨_, ⟨u.nextRecord, .standard⟩, _, rfl, rfl⟩
  · exact BuilderCall.building (Store.get_add_size _ _)

end RedisLink
