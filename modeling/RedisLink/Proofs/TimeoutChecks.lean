/-
RedisLink.Proofs.TimeoutChecks — timeouts are never negative.

There is one check, `Timeout.check`: a timeout is a duration that is not negative,
and every other value is refused with what is wrong with it (`Timeout.Refuses`).
Constructors, builders and setters look at a timeout through it before anything is
changed, and the milliseconds of a deployment become a duration first. So each way
to put a timeout in either puts in what is given or is refused and leaves what was
there, and a timeout that can be read is not negative, wherever it comes from.

A release that waits turns the timeout of a shutdown into a limit. Zero is no limit,
and otherwise the limit is positive (`Limit.Of`); under a negative one closing would
not even begin. `timeouts_checked` says all this of every world.
-/
import RedisLink.Proofs.Freezing
import RedisLink.Proofs.Secrecy.Arguments

namespace RedisLink

/-! ## 1. The check -/

namespace Timeout

/-- What is wrong with a value that is given as a timeout and is none. -/
inductive Refuses (name : TimeoutName) : Value → Failure → Prop
  | negative {d : Duration} (negative : d.micros < 0) :
      Refuses name (.duration d) (.negativeDuration name d)
  | kind {v : Value} (other : ∀ d, v ≠ .duration d) : Refuses name v (.notADuration name v.kind)

theorem check_eq_ok_iff {name : TimeoutName} {v : Value} {t : Timeout} :
    check name v = .ok t ↔ v = .duration t.duration := by
  constructor
  · intro h
    cases v with
    | duration d =>
      unfold check ofDuration? at h
      by_cases hd : 0 ≤ d.micros
      · simp only [dif_pos hd, Except.ok.injEq] at h
        rw [← h]
      · simp only [dif_neg hd, reduceCtorEq] at h
    | _ => cases h
  · rintro rfl
    simp only [check, ofDuration?, dif_pos t.nonneg]

theorem check_eq_error_iff {name : TimeoutName} {v : Value} {e : Failure} :
    check name v = .error e ↔ Refuses name v e := by
  constructor
  · intro h
    cases v with
    | duration d =>
      unfold check ofDuration? at h
      by_cases hd : 0 ≤ d.micros
      · simp only [dif_pos hd, reduceCtorEq] at h
      · simp only [dif_neg hd, Except.error.injEq] at h
        rw [← h]
        exact .negative (Int.not_le.mp hd)
    | _ =>
      cases h
      exact .kind fun d h => by cases h
  · intro h
    cases h with
    | negative negative => simp only [check, ofDuration?, dif_neg (Int.not_le.mpr negative)]
    | kind other =>
      unfold check
      split
      · exact absurd rfl (other _)
      · rfl

/-- Every value is a timeout or refused as one. -/
theorem given_cases (name : TimeoutName) (v : Value) :
    (∃ t : Timeout, v = .duration t.duration ∧ check name v = .ok t) ∨
      ∃ e, Refuses name v e ∧ check name v = .error e := by
  cases h : check name v with
  | ok t => exact .inl ⟨t, check_eq_ok_iff.mp h, rfl⟩
  | error e => exact .inr ⟨e, check_eq_error_iff.mp h, rfl⟩

end Timeout

/-! ## 2. Settings with a timeout put in -/

/-- A timeout of settings. -/
def Settings.timeoutOf (s : Settings) : TimeoutName → Timeout
  | .command => s.timeout
  | .shutdown => s.shutdownTimeout

/-- Settings with a timeout put in. -/
def Settings.withTimeout (s : Settings) (t : Timeout) : TimeoutName → Settings
  | .command => { s with timeout := t }
  | .shutdown => { s with shutdownTimeout := t }

/-- A timeout of a builder. -/
def Builder.timeoutOf (b : Builder) : TimeoutName → Timeout
  | .command => b.timeout
  | .shutdown => b.shutdownTimeout

/-- A builder with a timeout put in. -/
def Builder.withTimeout (b : Builder) (t : Timeout) : TimeoutName → Builder
  | .command => { b with timeout := t }
  | .shutdown => { b with shutdownTimeout := t }

/-- Live settings with a timeout put in. -/
def LiveSettings.withTimeout (s : LiveSettings) (t : Timeout) : TimeoutName → LiveSettings
  | .command => { s with timeout := some t }
  | .shutdown => { s with shutdownTimeout := some t }

theorem Settings.timeoutOf_withTimeout (s : Settings) (t : Timeout) (name other : TimeoutName) :
    (s.withTimeout t name).timeoutOf other = if other = name then t else s.timeoutOf other := by
  cases name <;> cases other <;> rfl

theorem Builder.timeoutOf_withTimeout (b : Builder) (t : Timeout) (name other : TimeoutName) :
    (b.withTimeout t name).timeoutOf other = if other = name then t else b.timeoutOf other := by
  cases name <;> cases other <;> rfl

theorem LiveSettings.setTimeout_eq (s : LiveSettings) (name : TimeoutName) (given : Value) :
    s.setTimeout name given = (Timeout.check name given).map fun t => s.withTimeout t name := by
  unfold setTimeout
  cases Timeout.check name given with
  | error e => rfl
  | ok t => cases name <;> rfl

/-! ## 3. Setters -/

namespace Attribute

variable {w : World}

/-- Live settings take a timeout or refuse what is none. -/
theorem write_live_timeout (n : Nat) (name : TimeoutName) (given : Item) (w : World) :
    (∃ t : Timeout, given.toValue w = .duration t.duration ∧ write (.live n) name.label given w =
        (.ok (), w.setLive n ((w.live.get n).withTimeout t name))) ∨
      ∃ e, Timeout.Refuses name (given.toValue w) e ∧
        write (.live n) name.label given w = (.error e, w) := by
  have hwrite : write (.live n) name.label given w =
      (SettingsRef.live n).change (fun s => s.setTimeout name (given.toValue w)) w := by
    cases name <;> rfl
  rw [hwrite]
  simp only [SettingsRef.change, LiveSettings.setTimeout_eq]
  obtain ⟨t, hgiven, hcheck⟩ | ⟨e, hrefuses, hcheck⟩ := Timeout.given_cases name (given.toValue w)
  · rw [hcheck]
    exact .inl ⟨t, hgiven, rfl⟩
  · rw [hcheck]
    exact .inr ⟨e, hrefuses, rfl⟩

/-- What is wrong with milliseconds that are written through a deployment. -/
inductive RefusesMillis (d : Deployment) (name : TimeoutName) (given : Value) (e : Failure) : Prop
  /-- No duration can be made of them. -/
  | unreadable (unreadable : Duration.ofMillis given = .error e)
  /-- The settings are fixed. -/
  | fixed {s : Shared Settings} (fixed : d.settings = .fixed s) (reason : e = .immutableSettings)
  /-- The duration is negative. -/
  | refused {t : Duration} (millis : Duration.ofMillis given = .ok t)
      (refuses : Timeout.Refuses name (.duration t) e)

theorem write_deployment_timeout (n : Nat) (name : TimeoutName) (given : Item) (w : World) :
    (∃ (t : Timeout) (m : Nat), (w.deployments.get n).settings = .live m ∧
        Duration.ofMillis (given.toValue w) = .ok t.duration ∧
        write (.deployment n) name.label given w =
          (.ok (), w.setLive m ((w.live.get m).withTimeout t name))) ∨
      ∃ e, RefusesMillis (w.deployments.get n) name (given.toValue w) e ∧
        write (.deployment n) name.label given w = (.error e, w) := by
  have hwrite : write (.deployment n) name.label given w =
      Deployment.write n (.timeout name (given.toValue w)) w := by
    cases name <;> rfl
  rw [hwrite]
  cases hmillis : Duration.ofMillis (given.toValue w) with
  | error e =>
    refine .inr ⟨e, .unreadable hmillis, ?_⟩
    simp only [Deployment.write, hmillis]
  | ok d =>
    cases hsettings : (w.deployments.get n).settings with
    | fixed s =>
      refine .inr ⟨_, .fixed hsettings rfl, ?_⟩
      simp only [Deployment.write, hmillis, hsettings, SettingsRef.change]
    | live m =>
      simp only [Deployment.write, hmillis, hsettings, SettingsRef.change,
        LiveSettings.setTimeout_eq]
      obtain ⟨t, hgiven, hcheck⟩ | ⟨e, hrefuses, hcheck⟩ := Timeout.given_cases name (.duration d)
      · cases hgiven
        rw [hcheck]
        exact .inl ⟨t, m, rfl, rfl, rfl⟩
      · rw [hcheck]
        exact .inr ⟨e, .refused hmillis hrefuses, rfl⟩

end Attribute

namespace Builder

/-- The step of a builder that puts a timeout in. -/
def Step.putting : TimeoutName → Value → Step
  | .command, given => .timeout given
  | .shutdown, given => .shutdownTimeout given

theorem take_putting (b : Builder) (name : TimeoutName) (given : Value) :
    b.take (.putting name given) =
      (Timeout.check name given).map fun t => b.withTimeout t name := by
  cases name <;> simp only [take, Step.putting] <;> cases Timeout.check _ given <;> rfl

/-- What a builder builds has its timeouts. Building fails only without options. -/
theorem build_timeouts (b : Builder) :
    (b.options.isNull = true ∧ b.build = .error .missingOptions) ∨
      ∃ s : Settings, b.build = .ok s ∧ ∀ name, s.timeoutOf name = b.timeoutOf name := by
  unfold build
  rw [Settings.make_timeouts]
  cases hnull : b.options.isNull with
  | true => exact .inl ⟨rfl, rfl⟩
  | false =>
    refine .inr ⟨_, rfl, fun name => ?_⟩
    cases name <;> rfl

end Builder

namespace Method

/-- A call of a method that has a step of a builder does the step, with what has been given, unless
the arguments are refused. -/
theorem call_builder {c : Call} {n : Nat} {w : World} (receiver : c.receiver = .builder n)
    (other : c.method ≠ "build") (known : ∀ x, ∃ step, builderStep c.method w x = some step) :
    (∃ e, c.bind w (builderParameters c.method) = .error e ∧ call c w = (.error e, w)) ∨
      ∃ items step, c.bind w (builderParameters c.method) = .ok items ∧
        builderStep c.method w (items.headD Item.null) = some step ∧
        call c w = match (w.builders.get n).take step with
          | .ok b => (.ok .itself, { w with builders := w.builders.set n b })
          | .error e => (.error e, w) := by
  obtain ⟨_, m, a⟩ := c
  obtain rfl : _ = Item.builder n := receiver
  change m ≠ "build" at other
  obtain ⟨first, hfirst⟩ := known Item.null
  simp only [call, onBuilder, bind, Act.andThen, Act.world, if_neg other, hfirst, Act.ofExcept]
  cases hbind : Call.bind ⟨.builder n, m, a⟩ w (builderParameters m) with
  | error e => exact .inl ⟨e, rfl, rfl⟩
  | ok items =>
    obtain ⟨step, hstep⟩ := known (items.headD Item.null)
    refine .inr ⟨items, step, rfl, hstep, ?_⟩
    simp only [hstep]
    show Act.andThen (takeStep n step) (fun _ => Act.give Reply.itself) w = _
    unfold Act.andThen takeStep
    cases (w.builders.get n).take step <;> rfl

/-- A call of `build` gives what the builder builds, unless it is given arguments. -/
theorem call_build {c : Call} {n : Nat} {w : World} (receiver : c.receiver = .builder n)
    (method : c.method = "build") :
    call c w = match c.bind w [], (w.builders.get n).build with
      | .error e, _ => (.error e, w)
      | .ok _, .error e => (.error e, w)
      | .ok _, .ok s =>
        (.ok (.item (.settings ⟨w.nextRecord, s⟩)), { w with nextRecord := w.nextRecord + 1 }) := by
  obtain ⟨_, _, a⟩ := c
  obtain rfl : _ = Item.builder n := receiver
  obtain rfl : _ = "build" := method
  simp only [call, onBuilder, bind, Act.andThen, Act.world, if_true, Act.ofExcept]
  cases Call.bind ⟨.builder n, "build", a⟩ w [] with
  | error e => rfl
  | ok _ => cases (w.builders.get n).build <;> rfl

/-- A builder takes a timeout or refuses what is none. -/
theorem call_builder_timeout (n : Nat) (name : TimeoutName) (arguments : Arguments) (w : World) :
    (∃ (x : Item) (t : Timeout), Call.bind ⟨.builder n, name.label, arguments⟩ w
          [Signature.required "timeout"] = .ok [x] ∧
        x.toValue w = .duration t.duration ∧
        call ⟨.builder n, name.label, arguments⟩ w = (.ok .itself, { w with
          builders := w.builders.set n ((w.builders.get n).withTimeout t name) })) ∨
      ∃ e, (Call.bind ⟨.builder n, name.label, arguments⟩ w [Signature.required "timeout"] =
            .error e ∨
          ∃ x, Call.bind ⟨.builder n, name.label, arguments⟩ w [Signature.required "timeout"] =
            .ok [x] ∧ Timeout.Refuses name (x.toValue w) e) ∧
        call ⟨.builder n, name.label, arguments⟩ w = (.error e, w) := by
  have hstep (x : Item) : builderStep name.label w x =
      some (.putting name (x.toValue w)) := by
    cases name <;> rfl
  have hparameters : builderParameters name.label = [Signature.required "timeout"] := by
    cases name <;> rfl
  have hbuild : name.label ≠ "build" := by
    cases name <;> decide
  obtain ⟨e, hbind, hcall⟩ | ⟨items, step, hbind, htaken, hcall⟩ :=
    call_builder (c := ⟨.builder n, name.label, arguments⟩) rfl hbuild fun x => ⟨_, hstep x⟩
  · rw [hparameters] at hbind
    exact .inr ⟨e, .inl hbind, hcall⟩
  · rw [hparameters] at hbind
    obtain ⟨x, rfl⟩ := List.length_eq_one_iff.mp (Signature.length_of_bind hbind)
    obtain rfl := Option.some.inj ((hstep _).symm.trans htaken)
    rw [hcall, Builder.take_putting]
    obtain ⟨t, hgiven, hcheck⟩ | ⟨e, hrefuses, hcheck⟩ := Timeout.given_cases name (x.toValue w)
    · rw [List.headD_cons, hcheck]
      exact .inl ⟨x, t, hbind, hgiven, rfl⟩
    · rw [List.headD_cons, hcheck]
      exact .inr ⟨e, .inr ⟨x, hbind, hrefuses⟩, rfl⟩

end Method

/-! ## 4. Constructors -/

/-- The place of a timeout among the parameters that objects of a kind are made with. -/
def TimeoutName.place (name : TimeoutName) (kind : ObjectKind) : Nat :=
  kind.parameters.findIdx fun p => p.name = name.label

theorem Settings.make_eq_ok {useSsl verifyPeer startTls : Value} {options resources : Part}
    {timeout shutdownTimeout : Value} {s : Settings}
    (h : make useSsl verifyPeer startTls options resources timeout shutdownTimeout = .ok s) :
    timeout = .duration s.timeout.duration ∧
      shutdownTimeout = .duration s.shutdownTimeout.duration := by
  unfold make at h
  split at h
  · cases h
  cases ht : Timeout.check .command timeout with
  | error e =>
    rw [ht] at h
    cases h
  | ok t =>
    cases hu : Timeout.check .shutdown shutdownTimeout with
    | error e =>
      rw [ht, hu] at h
      cases h
    | ok u =>
      rw [ht, hu] at h
      cases h
      exact ⟨Timeout.check_eq_ok_iff.mp ht, Timeout.check_eq_ok_iff.mp hu⟩

/-- What a timeout that may be left out is made from. -/
inductive LiveSettings.MadeFrom (given : Value) : Option Timeout → Prop
  | unset (null : given = .null) : MadeFrom given none
  | set {t : Timeout} (timeout : given = .duration t.duration) : MadeFrom given (some t)

theorem LiveSettings.optionalTimeout_cases (name : TimeoutName) (given : Value) :
    (∃ t, MadeFrom given t ∧ optionalTimeout name given = .ok t) ∨
      ∃ e, given ≠ .null ∧ Timeout.Refuses name given e ∧
        optionalTimeout name given = .error e := by
  by_cases hnull : given = .null
  · subst hnull
    exact .inl ⟨none, .unset rfl, rfl⟩
  · have hcheck : optionalTimeout name given = (Timeout.check name given).map some := by
      unfold optionalTimeout
      split
      · exact absurd rfl hnull
      · cases Timeout.check name given <;> rfl
    rw [hcheck]
    obtain ⟨t, hgiven, h⟩ | ⟨e, hrefuses, h⟩ := Timeout.given_cases name given
    · rw [h]
      exact .inl ⟨some t, .set hgiven, rfl⟩
    · rw [h]
      exact .inr ⟨e, hnull, hrefuses, rfl⟩

theorem LiveSettings.madeFrom_of_optionalTimeout {name : TimeoutName} {given : Value}
    {t : Option Timeout} (h : optionalTimeout name given = .ok t) : MadeFrom given t := by
  obtain ⟨t', hfrom, h'⟩ | ⟨e, -, -, h'⟩ := optionalTimeout_cases name given
  · rw [h, Except.ok.injEq] at h'
    exact h' ▸ hfrom
  · rw [h] at h'
    cases h'

theorem LiveSettings.make_eq_ok {useSsl verifyPeer startTls : Value} {options resources : Part}
    {timeout shutdownTimeout : Value} {s : LiveSettings}
    (h : make useSsl verifyPeer startTls options resources timeout shutdownTimeout = .ok s) :
    MadeFrom timeout (s.explicit .command) ∧ MadeFrom shutdownTimeout (s.explicit .shutdown) := by
  unfold make at h
  cases ht : optionalTimeout .command timeout with
  | error e =>
    rw [ht] at h
    cases h
  | ok t =>
    cases hu : optionalTimeout .shutdown shutdownTimeout with
    | error e =>
      rw [ht, hu] at h
      cases h
    | ok u =>
      rw [ht, hu] at h
      cases h
      exact ⟨madeFrom_of_optionalTimeout ht, madeFrom_of_optionalTimeout hu⟩

/-- Where operations one after the other succeed, each of them has. -/
theorem Act.of_bind_ok {α β : Type} {a : Act α} {f : α → Act β} {x : β} {w v : World}
    (h : (a >>= f) w = (.ok x, v)) : ∃ y u, a w = (.ok y, u) ∧ f y u = (.ok x, v) := by
  replace h : Act.andThen a f w = (.ok x, v) := h
  unfold Act.andThen at h
  rcases ha : a w with ⟨e | y, u⟩
  · rw [ha] at h
    cases h
  · rw [ha] at h
    exact ⟨y, u, rfl, h⟩

theorem Act.of_ofExcept_ok {α : Type} {r : Except Failure α} {x : α} {w v : World}
    (h : Act.ofExcept r w = (.ok x, v)) : r = .ok x ∧ v = w := by
  obtain ⟨hr, hv⟩ := Prod.mk.inj h
  exact ⟨hr, hv.symm⟩

namespace Construct

/-- Settings are made from timeouts. -/
theorem timeouts_of_new_settings {arguments : Arguments} {y : Item} {w v : World}
    (made : new .settings arguments w = (.ok y, v)) : ∃ s items, y = .settings s ∧
      ObjectKind.settings.signature.bind arguments = .ok items ∧ ∀ name : TimeoutName,
        (Item.toValues w items)[name.place .settings]? =
          some (.duration (s.value.timeoutOf name).duration) := by
  obtain ⟨items, u, hitems, hmade⟩ := Act.of_bind_ok made
  obtain ⟨hbind, rfl⟩ := Act.of_ofExcept_ok hitems
  have hlength := Signature.length_of_bind hbind
  match items, hlength with
  | [useSsl, verifyPeer, startTls, options, resources, timeout, shutdownTimeout], _ =>
    replace hmade : makeSettings u
      [useSsl, verifyPeer, startTls, options, resources, timeout, shutdownTimeout] u = _ := hmade
    unfold makeSettings at hmade
    obtain ⟨o, u₁, -, hmade⟩ := Act.of_bind_ok hmade
    obtain ⟨s, u₂, hread, hmade⟩ := Act.of_bind_ok hmade
    obtain ⟨hs, -⟩ := Act.of_ofExcept_ok hread
    obtain ⟨shared, u₃, hshared, hmade⟩ := Act.of_bind_ok hmade
    cases hshared
    cases hmade
    obtain ⟨hcommand, hshutdown⟩ := Settings.make_eq_ok hs
    refine ⟨_, _, rfl, hbind, fun name => ?_⟩
    cases name with
    | command => exact congrArg some hcommand
    | shutdown => exact congrArg some hshutdown

/-- Live settings are made from timeouts or leave them to the environment. -/
theorem timeouts_of_new_live {arguments : Arguments} {y : Item} {w v : World}
    (made : new .live arguments w = (.ok y, v)) : ∃ n items, y = .live n ∧
      ObjectKind.live.signature.bind arguments = .ok items ∧ ∀ name : TimeoutName, ∃ given,
        (Item.toValues w items)[name.place .live]? = some given ∧
          LiveSettings.MadeFrom given ((v.live.get n).explicit name) := by
  obtain ⟨items, u, hitems, hmade⟩ := Act.of_bind_ok made
  obtain ⟨hbind, rfl⟩ := Act.of_ofExcept_ok hitems
  have hlength := Signature.length_of_bind hbind
  match items, hlength with
  | [useSsl, verifyPeer, startTls, options, resources, timeout, shutdownTimeout], _ =>
    replace hmade : makeLive u
      [useSsl, verifyPeer, startTls, options, resources, timeout, shutdownTimeout] u = _ := hmade
    unfold makeLive at hmade
    obtain ⟨o, u₁, -, hmade⟩ := Act.of_bind_ok hmade
    obtain ⟨s, u₂, hread, hmade⟩ := Act.of_bind_ok hmade
    obtain ⟨hs, -⟩ := Act.of_ofExcept_ok hread
    cases hmade
    obtain ⟨hcommand, hshutdown⟩ := LiveSettings.make_eq_ok hs
    refine ⟨_, _, rfl, hbind, fun name => ?_⟩
    rw [Store.get_add_size]
    cases name with
    | command => exact ⟨_, rfl, hcommand⟩
    | shutdown => exact ⟨_, rfl, hshutdown⟩

/-- A timeout by itself is taken, and anything else is refused as one. -/
theorem new_settings_timeout (name : TimeoutName) (given : Item) (w : World) :
    (∃ (t : Timeout) (s : Shared Settings) (v : World), given.toValue w = .duration t.duration ∧
        new .settings ⟨[], [(name.label, given)]⟩ w = (.ok (.settings s), v) ∧
        s.value.timeoutOf name = t) ∨
      ∃ e v, Timeout.Refuses name (given.toValue w) e ∧
        new .settings ⟨[], [(name.label, given)]⟩ w = (.error e, v) := by
  let standard := Settings.standard ⟨w.nextRecord, .standard⟩
  have hnew : new .settings ⟨[], [(name.label, given)]⟩ w =
      ((Act.ofExcept ((Timeout.check name (given.toValue w)).map fun t =>
          standard.withTimeout t name)).andThen
        fun s => (Act.share s).andThen fun r => Act.give (.settings r))
        { w with nextRecord := w.nextRecord + 1 } := by
    cases name with
    | command =>
      have hmake (v : Value) : Settings.make (.bool false) (.bool true) (.bool false)
          (.options ⟨w.nextRecord, .standard⟩) .null v (.duration Timeout.shutdown.duration) =
            (Timeout.check .command v).map fun t => standard.withTimeout t .command := by
        simp only [Settings.make, Part.isNull, Bool.false_eq_true, if_false,
          Timeout.check_duration]
        cases Timeout.check .command v <;> rfl
      rw [← hmake]
      rfl
    | shutdown =>
      have hmake (v : Value) : Settings.make (.bool false) (.bool true) (.bool false)
          (.options ⟨w.nextRecord, .standard⟩) .null (.duration Timeout.command.duration) v =
            (Timeout.check .shutdown v).map fun t => standard.withTimeout t .shutdown := by
        simp only [Settings.make, Part.isNull, Bool.false_eq_true, if_false,
          Timeout.check_duration]
        cases Timeout.check .shutdown v <;> rfl
      rw [← hmake]
      rfl
  rw [hnew]
  obtain ⟨t, hgiven, hcheck⟩ | ⟨e, hrefuses, hcheck⟩ := Timeout.given_cases name (given.toValue w)
  · rw [hcheck]
    refine .inl ⟨t, _, _, hgiven, rfl, ?_⟩
    exact (Settings.timeoutOf_withTimeout _ _ _ _).trans (if_pos rfl)
  · rw [hcheck]
    exact .inr ⟨e, _, hrefuses, rfl⟩

/-- So it is for live settings, where `null` leaves a timeout to the environment. -/
theorem new_live_timeout (name : TimeoutName) (given : Item) (w : World) :
    (∃ n v, new .live ⟨[], [(name.label, given)]⟩ w = (.ok (.live n), v) ∧
        LiveSettings.MadeFrom (given.toValue w) ((v.live.get n).explicit name)) ∨
      ∃ e v, given.toValue w ≠ .null ∧ Timeout.Refuses name (given.toValue w) e ∧
        new .live ⟨[], [(name.label, given)]⟩ w = (.error e, v) := by
  obtain ⟨f, hf, hnew⟩ : ∃ f : Option Timeout → LiveSettings, (∀ t, (f t).explicit name = t) ∧
      new .live ⟨[], [(name.label, given)]⟩ w =
        ((Act.ofExcept ((LiveSettings.optionalTimeout name (given.toValue w)).map f)).andThen
          addLive) { w with nextRecord := w.nextRecord + 1 } := by
    let unset := LiveSettings.unset ⟨w.nextRecord, .standard⟩
    cases name with
    | command =>
      have hmake (v : Value) : LiveSettings.make .null .null .null
          (.options ⟨w.nextRecord, .standard⟩) .null v .null =
            (LiveSettings.optionalTimeout .command v).map fun t =>
              { unset with timeout := t } := by
        unfold LiveSettings.make
        cases LiveSettings.optionalTimeout .command v <;> rfl
      exact ⟨_, fun t => rfl, by rw [← hmake]; rfl⟩
    | shutdown =>
      have hmake (v : Value) : LiveSettings.make .null .null .null
          (.options ⟨w.nextRecord, .standard⟩) .null .null v =
            (LiveSettings.optionalTimeout .shutdown v).map fun t =>
              { unset with shutdownTimeout := t } := by
        unfold LiveSettings.make
        cases LiveSettings.optionalTimeout .shutdown v <;> rfl
      exact ⟨_, fun t => rfl, by rw [← hmake]; rfl⟩
  rw [hnew]
  obtain ⟨t, hfrom, htimeout⟩ | ⟨e, hnull, hrefuses, htimeout⟩ :=
    LiveSettings.optionalTimeout_cases name (given.toValue w)
  · rw [htimeout]
    refine .inl ⟨_, _, rfl, ?_⟩
    rw [Store.get_add_size, hf]
    exact hfrom
  · rw [htimeout]
    exact .inr ⟨e, _, hnull, hrefuses, rfl⟩

end Construct

/-! ## 5. Reads and closing -/

/-- A value is a duration that is not negative. -/
def Value.IsTimeout (v : Value) : Prop := ∃ d : Duration, 0 ≤ d.micros ∧ v = .duration d

theorem Attribute.read_settings_timeout (s : Shared Settings) (name : TimeoutName) (w : World) :
    read w (.settings s) name.label =
      .ok (.value (.duration (s.value.timeoutOf name).duration)) := by
  cases name <;> rfl

theorem Attribute.read_live_timeout (n : Nat) (name : TimeoutName) (w : World) :
    read w (.live n) name.label = ofTimeout ((SettingsRef.live n).timeout name w) := by
  cases name <;> rfl

/-- A timeout that has been put in is read, and the other one as before. -/
theorem SettingsRef.timeout_withTimeout (n : Nat) (name other : TimeoutName) (t : Timeout)
    (w : World) : (SettingsRef.live n).timeout other
        (w.setLive n ((w.live.get n).withTimeout t name)) =
      if other = name then .ok t else (SettingsRef.live n).timeout other w := by
  have hget : (w.setLive n ((w.live.get n).withTimeout t name)).live.get n =
      (w.live.get n).withTimeout t name := Store.get_set_self _ _ _
  cases name <;> cases other <;> simp only [timeout, hget] <;> rfl

/-- Freezing gives settings, if anything. -/
theorem Method.of_freeze {n : Nat} {x : Item} {w v : World}
    (h : call ⟨.live n, "freeze", ⟨[], []⟩⟩ w = (.ok (.item x), v)) :
    ∃ s, x = .settings s ∧ (w.live.get n).freeze w.env = .ok s.value := by
  cases hfreeze : (w.live.get n).freeze w.env with
  | ok s =>
    rw [freeze_called hfreeze] at h
    cases h
    exact ⟨_, rfl, rfl⟩
  | error e =>
    have hbind : Call.bind ⟨.live n, "freeze", ⟨[], []⟩⟩ w [] = .ok [] := rfl
    simp only [call, onLive, bind, Act.andThen, Act.world, Act.ofExcept, hbind, hfreeze] at h
    cases h

/-- Frozen settings have the timeouts that are read. -/
theorem LiveSettings.timeoutOf_freeze {n : Nat} {w : World} {s : Settings}
    (h : (w.live.get n).freeze w.env = .ok s) (name : TimeoutName) :
    (SettingsRef.live n).timeout name w = .ok (s.timeoutOf name) := by
  obtain ⟨-, t, u, ht, hu, rfl⟩ := freeze_eq_ok_iff.mp h
  cases name with
  | command => exact ht
  | shutdown => exact hu

/-- The limit that a timeout stands for is none just if the timeout is zero, and positive
otherwise. -/
structure Limit.Of (t : Timeout) (limit : Limit) : Prop where
  unlimited : limit = .unlimited ↔ t.duration.micros = 0
  positive : ∀ time, limit = .within time → 0 < time.micros
  /-- Under it the closing of each connection begins, once. -/
  begins : ∀ number conduct, Event.attempts true (asyncClose number conduct limit).1 = [number]

theorem Limit.of_ofDuration (t : Timeout) : Limit.Of t (.ofDuration t.duration) := by
  have hnonneg := t.nonneg
  constructor
  case unlimited =>
    unfold ofDuration
    split
    · rename_i hzero
      simp only [hzero]
    · rename_i hpositive
      simp only [hpositive, reduceCtorEq]
  case positive =>
    intro time htime
    unfold ofDuration at htime
    split at htime
    · cases htime
    · cases htime
      omega
  case begins =>
    intro number conduct
    exact (asyncClose_events t.begins_ofDuration number conduct).1

namespace Deployment

variable {n client : Nat} {w : World} {t : Timeout}

/-- A release that waits closes the connections under the limit of the timeout. -/
theorem destroyAsync_limit (present : (w.deployments.get n).client = some client)
    (readable : (w.deployments.get n).settings.timeout .shutdown w = .ok t) :
    destroyAsync n w = (Client.close client).andThen (fun _ =>
      (Client.closeAsync client (.ofDuration t.duration)).andThen fun _ => release n client) w := by
  rw [destroyAsync_eq present readable]
  simp only [Act.andThen, Client.shutdownAll_eq]
  rcases Client.close client w with ⟨_ | _, v⟩ <;> rfl

/-- What it takes off the client it has begun to close. -/
theorem destroyAsync_closes (present : (w.deployments.get n).client = some client)
    (readable : (w.deployments.get n).settings.timeout .shutdown w = .ok t) :
    w.Closes client (destroyAsync n w).2 := by
  obtain ⟨hcloses, -⟩ := Client.shutdownAll_closes client t w
  rw [destroyAsync_eq present readable]
  unfold Act.andThen
  rcases hc : Client.shutdownAll client (.duration t.duration) w with ⟨_ | _, v⟩ <;>
    rw [hc] at hcloses
  · exact hcloses
  · obtain ⟨v', hv', hclients, hopened, hevents, -, -⟩ := release_eq n client v
    simp only [hv']
    exact ⟨hopened.trans hcloses.opened, hclients ▸ hcloses.size, hclients ▸ hcloses.others,
      by rw [hclients, hevents]; exact hcloses.events⟩

end Deployment

/-! ## 6. Every world -/

/-- Timeouts are checked wherever they are put in, and so they are never negative. -/
structure TimeoutsChecked (w : World) : Prop where
  /-- Where a timeout can be read it is a duration that is not negative. -/
  record : ∀ s (name : TimeoutName),
    ∃ v : Value, v.IsTimeout ∧ Attribute.read w (.settings s) name.label = .ok (.value v)
  live : ∀ n (name : TimeoutName) x, Attribute.read w (.live n) name.label = .ok x →
    ∃ v : Value, v.IsTimeout ∧ x = .value v
  /-- Settings are made with a timeout by itself. Anything else is refused as one. -/
  making : ∀ (name : TimeoutName) given,
    (∃ (t : Timeout) (s : Shared Settings) (v : World),
        Item.toValue w given = .duration t.duration ∧
        Construct.new .settings ⟨[], [(name.label, given)]⟩ w = (.ok (.settings s), v) ∧
        s.value.timeoutOf name = t) ∨
      ∃ e v, Timeout.Refuses name (Item.toValue w given) e ∧
        Construct.new .settings ⟨[], [(name.label, given)]⟩ w = (.error e, v)
  /-- So are live settings, where `null` leaves the timeout to the environment. -/
  makingLive : ∀ (name : TimeoutName) given,
    (∃ n v, Construct.new .live ⟨[], [(name.label, given)]⟩ w = (.ok (.live n), v) ∧
        LiveSettings.MadeFrom (Item.toValue w given) ((v.live.get n).explicit name)) ∨
      ∃ e v, Item.toValue w given ≠ .null ∧ Timeout.Refuses name (Item.toValue w given) e ∧
        Construct.new .live ⟨[], [(name.label, given)]⟩ w = (.error e, v)
  /-- Whatever else is given, settings are only made where both timeouts are given as such, -/
  made : ∀ arguments y v, Construct.new .settings arguments w = (.ok y, v) →
    ∃ s items, y = .settings s ∧ ObjectKind.settings.signature.bind arguments = .ok items ∧
      ∀ name : TimeoutName, (Item.toValues w items)[name.place .settings]? =
        some (.duration (s.value.timeoutOf name).duration)
  /-- and live settings where each of them is or is `null`. -/
  madeLive : ∀ arguments y v, Construct.new .live arguments w = (.ok y, v) →
    ∃ n items, y = .live n ∧ ObjectKind.live.signature.bind arguments = .ok items ∧
      ∀ name : TimeoutName, ∃ given, (Item.toValues w items)[name.place .live]? = some given ∧
        LiveSettings.MadeFrom given ((v.live.get n).explicit name)
  /-- A timeout that is written is put in. Anything else is refused and changes nothing. -/
  written : ∀ n (name : TimeoutName) given,
    (∃ t : Timeout, Item.toValue w given = .duration t.duration ∧
        Attribute.write (.live n) name.label given w =
          (.ok (), w.setLive n ((w.live.get n).withTimeout t name))) ∨
      ∃ e, Timeout.Refuses name (Item.toValue w given) e ∧
        Attribute.write (.live n) name.label given w = (.error e, w)
  /-- So are milliseconds that are written through a deployment and make a timeout. -/
  millis : ∀ n (name : TimeoutName) given,
    (∃ (t : Timeout) (m : Nat), (w.deployments.get n).settings = .live m ∧
        Duration.ofMillis (Item.toValue w given) = .ok t.duration ∧
        Attribute.write (.deployment n) name.label given w =
          (.ok (), w.setLive m ((w.live.get m).withTimeout t name))) ∨
      ∃ e, Attribute.RefusesMillis (w.deployments.get n) name (Item.toValue w given) e ∧
        Attribute.write (.deployment n) name.label given w = (.error e, w)
  /-- So is a timeout that is given to a builder. -/
  built : ∀ n (name : TimeoutName) arguments,
    (∃ (x : Item) (t : Timeout), Method.Call.bind ⟨.builder n, name.label, arguments⟩ w
          [Signature.required "timeout"] = .ok [x] ∧
        x.toValue w = .duration t.duration ∧
        Method.call ⟨.builder n, name.label, arguments⟩ w = (.ok .itself, { w with
          builders := w.builders.set n ((w.builders.get n).withTimeout t name) })) ∨
      ∃ e, (Method.Call.bind ⟨.builder n, name.label, arguments⟩ w
            [Signature.required "timeout"] = .error e ∨
          ∃ x, Method.Call.bind ⟨.builder n, name.label, arguments⟩ w
            [Signature.required "timeout"] = .ok [x] ∧ Timeout.Refuses name (x.toValue w) e) ∧
        Method.call ⟨.builder n, name.label, arguments⟩ w = (.error e, w)
  /-- What has been put in is read, and the other timeout is as before. -/
  installed : ∀ n (name other : TimeoutName) t,
    Attribute.read (w.setLive n ((w.live.get n).withTimeout t name)) (.live n) other.label =
      if other = name then .ok (.value (.duration t.duration))
      else Attribute.read w (.live n) other.label
  /-- A builder gives settings with its timeouts, or it lacks options. -/
  builds : ∀ n,
    (∃ s v, Method.call ⟨.builder n, "build", ⟨[], []⟩⟩ w = (.ok (.item (.settings s)), v) ∧
        ∀ name, s.value.timeoutOf name = (w.builders.get n).timeoutOf name) ∨
      (w.builders.get n).options.isNull = true ∧
        Method.call ⟨.builder n, "build", ⟨[], []⟩⟩ w = (.error .missingOptions, w)
  /-- Frozen settings have the timeouts that are read. -/
  frozen : ∀ n x v, Method.call ⟨.live n, "freeze", ⟨[], []⟩⟩ w = (.ok (.item x), v) →
    ∃ s, x = .settings s ∧ ∀ name : TimeoutName,
      Attribute.read w (.live n) name.label = Attribute.read v (.settings s) name.label
  /-- Nothing is written to settings that are no live ones. -/
  kept : ∀ s (name : TimeoutName) given,
    Attribute.write (.settings s) name.label given w = (.error (.frozenWrite name.label), w)
  /-- A release that waits closes each connection under a limit, none just if the timeout of a
  shutdown is zero and positive otherwise, so it begins to close all that it takes off. -/
  closing : ∀ n client t, (w.deployments.get n).client = some client →
    (w.deployments.get n).settings.timeout .shutdown w = .ok t →
      ∃ limit, Limit.Of t limit ∧ Deployment.destroyAsync n w =
          (Client.close client).andThen (fun _ => (Client.closeAsync client limit).andThen
            fun _ => Deployment.release n client) w ∧
        w.Closes client (Deployment.destroyAsync n w).2

theorem timeouts_checked (w : World) : TimeoutsChecked w := by
  constructor
  case record =>
    intro s name
    exact ⟨_, ⟨_, (s.value.timeoutOf name).nonneg, rfl⟩, Attribute.read_settings_timeout s name w⟩
  case live =>
    intro n name x hread
    rw [Attribute.read_live_timeout] at hread
    cases ht : (SettingsRef.live n).timeout name w with
    | error e =>
      rw [ht] at hread
      cases hread
    | ok t =>
      rw [ht] at hread
      cases hread
      exact ⟨_, ⟨_, t.nonneg, rfl⟩, rfl⟩
  case making => exact fun name given => Construct.new_settings_timeout name given w
  case makingLive => exact fun name given => Construct.new_live_timeout name given w
  case made => exact fun arguments y v => Construct.timeouts_of_new_settings
  case madeLive => exact fun arguments y v => Construct.timeouts_of_new_live
  case written => exact fun n name given => Attribute.write_live_timeout n name given w
  case millis => exact fun n name given => Attribute.write_deployment_timeout n name given w
  case built => exact fun n name arguments => Method.call_builder_timeout n name arguments w
  case installed =>
    intro n name other t
    rw [Attribute.read_live_timeout, Attribute.read_live_timeout,
      SettingsRef.timeout_withTimeout]
    split <;> rfl
  case builds =>
    intro n
    have hbind : Method.Call.bind ⟨.builder n, "build", ⟨[], []⟩⟩ w [] = .ok [] := rfl
    rw [Method.call_build rfl rfl, hbind]
    obtain ⟨hnull, hfails⟩ | ⟨s, hs, htimeouts⟩ := (w.builders.get n).build_timeouts
    · rw [hfails]
      exact .inr ⟨hnull, rfl⟩
    · rw [hs]
      exact .inl ⟨_, _, rfl, htimeouts⟩
  case frozen =>
    intro n x v hcall
    obtain ⟨s, rfl, hfreeze⟩ := Method.of_freeze hcall
    refine ⟨s, rfl, fun name => ?_⟩
    rw [Attribute.read_live_timeout, LiveSettings.timeoutOf_freeze hfreeze,
      Attribute.read_settings_timeout]
    rfl
  case kept => exact fun s name given => rfl
  case closing =>
    intro n client t present readable
    exact ⟨_, Limit.of_ofDuration t, Deployment.destroyAsync_limit present readable,
      Deployment.destroyAsync_closes present readable⟩

end RedisLink
