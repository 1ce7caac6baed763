/-
RedisLink.Proofs.Timeouts — timeouts that are left to the environment.

Live settings in which no timeout has been set read it from a variable, each
time it is asked for. `Environment.Sets` says what should be read: as many
milliseconds as the variable writes, if it writes an integer that is not
negative and that a duration can hold, and otherwise the standard. A text that
writes too great an integer is the one exception (`Environment.Overlong`):
there the read fails with a number out of range, where every other unusable
text gives the standard.

`LeftToEnvironment` follows the exception to everything that reads a timeout.
Freezing, the milliseconds of a deployment, a start and a release that waits
fail because of the variables just when one that they read is overlong; a
release that fails so has closed nothing. `timeouts_left_to_environment` says
this of every world.
-/
import RedisLink.Proofs.Lifecycle.Closing
import RedisLink.Proofs.Numerals
import RedisLink.Proofs.Translation

namespace RedisLink

open RedisLink.Number

/-! ## 1. Durations of whole milliseconds -/

namespace Duration

theorem ofMicros_eq_ok_iff {micros : Int} {d : Duration} :
    ofMicros micros = .ok d ↔ d.micros = micros := by
  unfold ofMicros
  constructor
  · intro h
    split at h
    · rename_i hd
      cases h
      exact micros_of_ofMicros? hd
    · dsimp only at h
      split at h <;> cases h
  · rintro rfl
    simp [ofMicros?, d.inRange]

theorem ofMicros_error {micros : Int} {e : Failure} (h : ofMicros micros = .error e) :
    e.category = .outOfRange := by
  unfold ofMicros at h
  split at h
  · cases h
  · dsimp only at h
    split at h <;> cases h <;> rfl

/-- Nothing is rounded where nothing is left below a microsecond. -/
theorem Sum.micros_of_whole {sum : Sum} {den : Nat} (pos : 0 < den)
    (rest : sum.rest.ratio? = some (0, den)) : sum.micros = sum.whole := by
  have hne : (den : Int) ≠ 0 := by omega
  unfold Sum.micros
  rw [rest]
  simp only [Int.add_zero, Int.mul_ediv_cancel _ hne, Int.sub_self, Int.mul_zero]
  rw [if_pos (by omega)]

theorem ratio?_zero (negative : Bool) :
    (Binary64.zero negative).ratio? = some (0, twoTo 1074) := by
  cases negative <;> simp only [Binary64.zero, Binary64.ratio?] <;> congr 2

/-- Whole milliseconds count exactly. -/
theorem ofMillis_int (n : Int) : ofMillis (.int n) = ofMicros (n * 1000) := by
  have hparts : ofMillis (.int n) =
      ofMicros (Sum.mk (0 + n * 1000) (Binary64.zero false)).micros := rfl
  rw [hparts, Sum.micros_of_whole (Nat.pow_pos (by decide)) (ratio?_zero false), Int.zero_add]

end Duration

theorem Timeout.ofDuration?_of_nonneg {d : Duration} (h : 0 ≤ d.micros) :
    Timeout.ofDuration? d = some ⟨d, h⟩ :=
  dif_pos h

theorem Timeout.check_duration (name : TimeoutName) (t : Timeout) :
    Timeout.check name (.duration t.duration) = .ok t := by
  simp only [check, ofDuration?_of_nonneg t.nonneg]

/-- What has been checked as a timeout passes the check again, so settings lack options at most. -/
theorem Settings.make_timeouts (useSsl verifyPeer startTls : Value) (options resources : Part)
    (t u : Timeout) :
    make useSsl verifyPeer startTls options resources (.duration t.duration)
        (.duration u.duration) =
      if options.isNull then .error .missingOptions
      else .ok ⟨useSsl, verifyPeer, startTls, options, resources, t, u⟩ := by
  simp only [make, Timeout.check_duration]

/-! ## 2. What a variable says about a timeout -/

namespace TimeoutName

/-- The variable that a timeout is left to. -/
def variableName : TimeoutName → String
  | .command => "REDIS_TIMEOUT"
  | .shutdown => "REDIS_SHUTDOWN_TIMEOUT"

/-- A timeout unless another is set. -/
def standard : TimeoutName → Timeout
  | .command => .command
  | .shutdown => .shutdown

end TimeoutName

namespace Environment

/-- A variable is set to a text that writes an integer. -/
def Writes (env : Environment) (key : String) (n : Int) : Prop :=
  ∃ text, env.get? key = some text ∧ IntegerText text.toList n

/-- The environment sets a timeout. -/
inductive Sets (env : Environment) (name : TimeoutName) : Timeout → Prop
  /-- To the milliseconds that the variable writes; a timeout is not negative and in range. -/
  | written {n : Int} {t : Timeout} (writes : env.Writes name.variableName n)
      (micros : t.duration.micros = n * 1000) : Sets env name t
  /-- To the standard, if the variable writes nothing that a timeout can hold. -/
  | standard (unusable : ∀ n, env.Writes name.variableName n → n < 0 ∨ greatestMicros < n * 1000) :
      Sets env name name.standard

/-- A variable writes more milliseconds than a duration can hold. -/
def Overlong (env : Environment) (name : TimeoutName) : Prop :=
  ∃ n, env.Writes name.variableName n ∧ greatestMicros < n * 1000

theorem integer?_eq_some_iff {env : Environment} {key : String} {n : Int} :
    env.integer? key = some n ↔ env.Writes key n := by
  simp only [integer?, Option.bind_eq_some_iff, Number.integer?_eq_some_iff, Writes]

theorem integer?_eq_none_iff {env : Environment} {key : String} :
    env.integer? key = none ↔ ∀ n, ¬ env.Writes key n := by
  simp only [← integer?_eq_some_iff, Option.eq_none_iff_forall_not_mem, Option.mem_def]

theorem Writes.unique {env : Environment} {key : String} {m n : Int}
    (hm : env.Writes key m) (hn : env.Writes key n) : m = n := by
  rw [← integer?_eq_some_iff] at hm hn
  exact Option.some.inj (hm.symm.trans hn)

end Environment

namespace LiveSettings

/-- A timeout that has been set. -/
def explicit (s : LiveSettings) : TimeoutName → Option Timeout
  | .command => s.timeout
  | .shutdown => s.shutdownTimeout

/-- A timeout that is left to a variable which is not overlong reads as what the variable sets. -/
theorem environmentTimeout_sets {env : Environment} {name : TimeoutName}
    (h : ¬ env.Overlong name) :
    ∃ t, environmentTimeout env name.variableName name.standard = .ok t ∧ env.Sets name t := by
  unfold environmentTimeout
  cases hn : env.integer? name.variableName with
  | none =>
    exact ⟨_, rfl, .standard fun n hwrites =>
      absurd hwrites (Environment.integer?_eq_none_iff.mp hn n)⟩
  | some n =>
    have hwrites := Environment.integer?_eq_some_iff.mp hn
    by_cases hneg : n < 0
    · refine ⟨_, if_pos hneg, .standard fun m hm => .inl ?_⟩
      exact hm.unique hwrites ▸ hneg
    · have hle : n * 1000 ≤ greatestMicros := Int.not_lt.mp fun hgt => h ⟨n, hwrites, hgt⟩
      have hge : leastMicros ≤ n * 1000 := by
        have : leastMicros ≤ 0 := by decide
        omega
      have hmicros : 0 ≤ n * 1000 := by omega
      have hd : Duration.ofMillis (.int n) = .ok ⟨n * 1000, hge, hle⟩ := by
        rw [Duration.ofMillis_int, Duration.ofMicros_eq_ok_iff]
      refine ⟨⟨⟨n * 1000, hge, hle⟩, hmicros⟩, ?_, .written hwrites rfl⟩
      simp only [if_neg hneg, hd]
      rw [Timeout.ofDuration?_of_nonneg hmicros]
      rfl

/-- One that is left to an overlong variable cannot be read. -/
theorem environmentTimeout_overlong {env : Environment} {name : TimeoutName}
    (h : env.Overlong name) :
    ∃ e, environmentTimeout env name.variableName name.standard = .error e ∧
      e.category = .outOfRange := by
  obtain ⟨n, hwrites, hgt⟩ := h
  have hneg : ¬ n < 0 := by
    have : 0 ≤ greatestMicros := by decide
    omega
  unfold environmentTimeout
  simp only [Environment.integer?_eq_some_iff.mpr hwrites, if_neg hneg, Duration.ofMillis_int]
  cases hd : Duration.ofMicros (n * 1000) with
  | error e => exact ⟨e, rfl, Duration.ofMicros_error hd⟩
  | ok d =>
    have hmicros := Duration.ofMicros_eq_ok_iff.mp hd
    have := d.inRange
    omega

end LiveSettings

/-! ## 3. What reads timeouts -/

/-- What comes of timeouts that live settings leave to the environment. -/
structure LeftToEnvironment (m : Nat) (w : World) : Prop where
  /-- A timeout reads as what its variable sets. -/
  read : ∀ name, ¬ w.env.Overlong name →
    ∃ t, (SettingsRef.live m).timeout name w = .ok t ∧ w.env.Sets name t
  /-- Only an overlong variable makes the read fail. -/
  overlong : ∀ name, w.env.Overlong name →
    ∃ e, (SettingsRef.live m).timeout name w = .error e ∧ e.category = .outOfRange
  /-- Freezing needs both, and options that are given. -/
  freezes : (∃ s, (w.live.get m).freeze w.env = .ok s) ↔
    (w.live.get m).options.isNull = false ∧ ∀ name, ¬ w.env.Overlong name
  frozen : ∀ s, (w.live.get m).freeze w.env = .ok s →
    w.env.Sets .command s.timeout ∧ w.env.Sets .shutdown s.shutdownTimeout
  /-- So does each of the milliseconds of a deployment need its own. -/
  millis : ∀ n name, (w.deployments.get n).settings = .live m →
    ((∃ k, (w.deployments.get n).timeoutMillis name w = .ok k) ↔ ¬ w.env.Overlong name)
  /-- A start reads the timeout of commands once it knows that there are nodes. -/
  starts : ∀ n, (w.deployments.get n).settings = .live m →
    (w.deployments.get n).client = none →
      ((Deployment.start n w).1 = .ok () ↔
        Deployment.Buildable (w.deployments.get n) w ∧ ¬ w.env.Overlong .command) ∧
      ((∃ e, (Deployment.start n w).1 = .error e ∧ e.category = .outOfRange) ↔
        Deployment.Buildable (w.deployments.get n) w ∧ w.env.Overlong .command)
  /-- A release that waits closes the connections under the timeout of a shutdown. -/
  releases : ∀ n c, (w.deployments.get n).settings = .live m →
    (w.deployments.get n).client = some c → ¬ w.env.Overlong .shutdown →
      ∃ t, w.env.Sets .shutdown t ∧ Deployment.destroyAsync n w =
        (Client.shutdownAll c (.duration t.duration)).andThen
          (fun _ => Deployment.release n c) w
  /-- If that cannot be read it closes nothing. -/
  stuck : ∀ n c, (w.deployments.get n).settings = .live m →
    (w.deployments.get n).client = some c → w.env.Overlong .shutdown →
      ∃ e, Deployment.destroyAsync n w = (.error e, w) ∧ e.category = .outOfRange

section

variable {m : Nat} {w : World}

/-- A timeout that has not been set is left to its variable. -/
theorem SettingsRef.timeout_live {name : TimeoutName}
    (unset : (w.live.get m).explicit name = none) :
    (SettingsRef.live m).timeout name w =
      LiveSettings.environmentTimeout w.env name.variableName name.standard := by
  cases name with
  | command =>
    have htimeout : (w.live.get m).timeout = none := unset
    simp only [SettingsRef.timeout, LiveSettings.timeoutIn, htimeout]
    rfl
  | shutdown =>
    have htimeout : (w.live.get m).shutdownTimeout = none := unset
    simp only [SettingsRef.timeout, LiveSettings.shutdownTimeoutIn, htimeout]
    rfl

/-- So it reads as what the variable sets, unless that is overlong. -/
theorem SettingsRef.timeout_sets {name : TimeoutName}
    (unset : (w.live.get m).explicit name = none) (h : ¬ w.env.Overlong name) :
    ∃ t, (SettingsRef.live m).timeout name w = .ok t ∧ w.env.Sets name t := by
  rw [timeout_live unset]
  exact LiveSettings.environmentTimeout_sets h

theorem SettingsRef.timeout_overlong {name : TimeoutName}
    (unset : (w.live.get m).explicit name = none) (h : w.env.Overlong name) :
    ∃ e, (SettingsRef.live m).timeout name w = .error e ∧ e.category = .outOfRange := by
  rw [timeout_live unset]
  exact LiveSettings.environmentTimeout_overlong h

theorem SettingsRef.timeout_isOk {name : TimeoutName}
    (unset : (w.live.get m).explicit name = none) :
    (∃ t, (SettingsRef.live m).timeout name w = .ok t) ↔ ¬ w.env.Overlong name := by
  constructor
  · rintro ⟨t, ht⟩ hlong
    obtain ⟨e, he, -⟩ := timeout_overlong unset hlong
    rw [ht] at he
    cases he
  · intro hshort
    obtain ⟨t, ht, -⟩ := timeout_sets unset hshort
    exact ⟨t, ht⟩

theorem SettingsRef.sets_of_timeout {name : TimeoutName} {t : Timeout}
    (unset : (w.live.get m).explicit name = none)
    (ht : (SettingsRef.live m).timeout name w = .ok t) : w.env.Sets name t := by
  obtain ⟨t', ht', hsets⟩ := timeout_sets unset ((timeout_isOk unset).mp ⟨t, ht⟩)
  rw [ht, Except.ok.injEq] at ht'
  exact ht' ▸ hsets

/-- Freezing reads both timeouts. -/
theorem LiveSettings.freeze_eq_ok_iff {s : LiveSettings} {env : Environment} {frozen : Settings} :
    s.freeze env = .ok frozen ↔ s.options.isNull = false ∧ ∃ t u, s.timeoutIn env = .ok t ∧
      s.shutdownTimeoutIn env = .ok u ∧ frozen = ⟨s.useSslIn env, s.verifyPeerIn env,
        s.startTlsIn env, s.options, s.resources, t, u⟩ := by
  unfold LiveSettings.freeze
  cases s.timeoutIn env with
  | error e => simp
  | ok t =>
    cases s.shutdownTimeoutIn env with
    | error e => simp
    | ok u =>
      simp only [Settings.make_timeouts]
      cases s.options.isNull with
      | true => simp
      | false => simp [eq_comm]

theorem LiveSettings.freeze_isOk (unset : ∀ name, (w.live.get m).explicit name = none) :
    (∃ s, (w.live.get m).freeze w.env = .ok s) ↔
      (w.live.get m).options.isNull = false ∧ ∀ name, ¬ w.env.Overlong name := by
  constructor
  · rintro ⟨s, hs⟩
    obtain ⟨hgiven, t, u, ht, hu, -⟩ := freeze_eq_ok_iff.mp hs
    refine ⟨hgiven, fun name => ?_⟩
    cases name with
    | command => exact (SettingsRef.timeout_isOk (unset .command)).mp ⟨t, ht⟩
    | shutdown => exact (SettingsRef.timeout_isOk (unset .shutdown)).mp ⟨u, hu⟩
  · rintro ⟨hgiven, hshort⟩
    obtain ⟨t, ht⟩ := (SettingsRef.timeout_isOk (unset .command)).mpr (hshort .command)
    obtain ⟨u, hu⟩ := (SettingsRef.timeout_isOk (unset .shutdown)).mpr (hshort .shutdown)
    exact ⟨_, freeze_eq_ok_iff.mpr ⟨hgiven, t, u, ht, hu, rfl⟩⟩

/-- The timeouts of frozen settings are those of the moment. -/
theorem LiveSettings.sets_of_freeze {s : Settings}
    (unset : ∀ name, (w.live.get m).explicit name = none)
    (hs : (w.live.get m).freeze w.env = .ok s) :
    w.env.Sets .command s.timeout ∧ w.env.Sets .shutdown s.shutdownTimeout := by
  obtain ⟨-, t, u, ht, hu, rfl⟩ := freeze_eq_ok_iff.mp hs
  exact ⟨SettingsRef.sets_of_timeout (unset .command) ht,
    SettingsRef.sets_of_timeout (unset .shutdown) hu⟩

end

namespace Deployment

variable {n : Nat} {w : World}

theorem timeoutMillis_isOk (d : Deployment) (name : TimeoutName) (w : World) :
    (∃ k, d.timeoutMillis name w = .ok k) ↔ ∃ t, d.settings.timeout name w = .ok t := by
  unfold timeoutMillis
  cases d.settings.timeout name w with
  | error e => simp
  | ok t => simp

/-- Without a timeout no topology has URIs; what is wrong with the nodes comes first. -/
theorem uris_unreadable {d : Deployment} {e : Failure}
    (unreadable : d.settings.timeout .command w = .error e) :
    ∃ e', d.uris w = .error e' ∧ (Buildable d w → e' = e) ∧
      (¬ Buildable d w → e'.category = .badValue) := by
  have huri : ∀ host port, d.uri host port w = .error e := by
    intro host port
    simp only [uri, unreadable]
  unfold uris Buildable
  cases role : d.role with
  | standalone => exact ⟨e, by simp only [huri], fun _ => rfl, fun h => absurd trivial h⟩
  | cluster m =>
    simp only
    cases hnodes : (w.clusters.get m).clusterNodesIn w.env with
    | error e' =>
      refine ⟨e', rfl, ?_, fun _ => NodeSetting.readIn_error hnodes⟩
      rintro ⟨nodes, h, -⟩
      cases h
    | ok nodes =>
      cases nodes with
      | nil =>
        refine ⟨.noClusterNodes, rfl, ?_, fun _ => rfl⟩
        rintro ⟨nodes, h, hne⟩
        cases h
        exact absurd rfl hne
      | cons first others =>
        exact ⟨e, by simp only [huri], fun _ => rfl,
          fun h => absurd ⟨_, rfl, List.cons_ne_nil _ _⟩ h⟩
  | sentinels m =>
    simp only
    cases hnodes : (w.sentinels.get m).sentinelsIn w.env with
    | error e' =>
      refine ⟨e', rfl, ?_, fun _ => NodeSetting.readIn_error hnodes⟩
      rintro ⟨-, nodes, h, -⟩
      cases h
    | ok nodes =>
      cases hmaster : ((w.sentinels.get m).masterIn w.env).truthy with
      | false => exact ⟨.noMaster, rfl, fun h => Bool.noConfusion h.1, fun _ => rfl⟩
      | true =>
        cases nodes with
        | nil =>
          refine ⟨.noSentinels, rfl, ?_, fun _ => rfl⟩
          rintro ⟨-, nodes, h, hne⟩
          cases h
          exact absurd rfl hne
        | cons first others =>
          exact ⟨e, by simp only [huri]; rfl, fun _ => rfl,
            fun h => absurd ⟨rfl, _, rfl, List.cons_ne_nil _ _⟩ h⟩

/-- A start is out of range just when it would go well but for the timeout. -/
theorem start_unreadable {e : Failure} (absent : (w.deployments.get n).client = none)
    (unreadable : (w.deployments.get n).settings.timeout .command w = .error e) :
    ∃ e', start n w = (.error e', w) ∧ (Buildable (w.deployments.get n) w → e' = e) ∧
      (¬ Buildable (w.deployments.get n) w → e'.category = .badValue) := by
  obtain ⟨e', huris, hreason⟩ := uris_unreadable unreadable
  have hplan : (w.deployments.get n).plan w = .error e' := by
    unfold plan
    rw [huris]
  exact ⟨e', start_of_error absent hplan, hreason⟩

/-- What a start comes to if only an overlong variable keeps the timeout from being read. -/
theorem start_left_to_environment (absent : (w.deployments.get n).client = none)
    (read : ¬ w.env.Overlong .command →
      ∃ t, (w.deployments.get n).settings.timeout .command w = .ok t)
    (overlong : w.env.Overlong .command →
      ∃ e, (w.deployments.get n).settings.timeout .command w = .error e ∧
        e.category = .outOfRange) :
    ((start n w).1 = .ok () ↔ Buildable (w.deployments.get n) w ∧ ¬ w.env.Overlong .command) ∧
      ((∃ e, (start n w).1 = .error e ∧ e.category = .outOfRange) ↔
        Buildable (w.deployments.get n) w ∧ w.env.Overlong .command) := by
  by_cases hlong : w.env.Overlong .command
  · obtain ⟨e, unreadable, hrange⟩ := overlong hlong
    obtain ⟨e', hstart, hreason, hbad⟩ := start_unreadable absent unreadable
    refine ⟨⟨fun h => ?_, fun h => absurd hlong h.2⟩, ⟨?_, fun h => ⟨e', by rw [hstart], ?_⟩⟩⟩
    · rw [hstart] at h
      cases h
    · rintro ⟨e'', he, hcategory⟩
      rw [hstart, Except.error.injEq] at he
      refine ⟨Classical.byContradiction fun hno => ?_, hlong⟩
      rw [← he, hbad hno] at hcategory
      cases hcategory
    · rw [hreason h.1, hrange]
  · have htranslation := start_translates absent (read hlong)
    refine ⟨⟨fun h => ⟨htranslation.succeeds.mp h, hlong⟩, fun h => htranslation.succeeds.mpr h.1⟩,
      ⟨?_, fun h => absurd h.2 hlong⟩⟩
    rintro ⟨e, he, hcategory⟩
    rw [(htranslation.fails he).1] at hcategory
    cases hcategory

/-- A release that cannot read its timeout closes nothing. -/
theorem destroyAsync_unreadable {c : Nat} {e : Failure}
    (present : (w.deployments.get n).client = some c)
    (unreadable : (w.deployments.get n).settings.timeout .shutdown w = .error e) :
    destroyAsync n w = (.error e, w) := by
  simp only [destroyAsync, present, unreadable]

end Deployment

/-! ## 4. Every world -/

/-- Timeouts that are left to the environment read as what it sets, in everything that reads them,
unless a variable is overlong. -/
theorem timeouts_left_to_environment (m : Nat) (w : World)
    (unset : ∀ name, (w.live.get m).explicit name = none) : LeftToEnvironment m w := by
  constructor
  case read => exact fun name => SettingsRef.timeout_sets (unset name)
  case overlong => exact fun name => SettingsRef.timeout_overlong (unset name)
  case freezes => exact LiveSettings.freeze_isOk unset
  case frozen => exact fun s => LiveSettings.sets_of_freeze unset
  case millis =>
    intro n name hlive
    rw [Deployment.timeoutMillis_isOk, hlive]
    exact SettingsRef.timeout_isOk (unset name)
  case starts =>
    intro n hlive absent
    refine Deployment.start_left_to_environment absent ?_ ?_
    · rw [hlive]
      exact (SettingsRef.timeout_isOk (unset .command)).mpr
    · rw [hlive]
      exact SettingsRef.timeout_overlong (unset .command)
  case releases =>
    intro n c hlive present hshort
    obtain ⟨t, ht, hsets⟩ := SettingsRef.timeout_sets (unset .shutdown) hshort
    exact ⟨t, hsets, Deployment.destroyAsync_eq present (hlive ▸ ht)⟩
  case stuck =>
    intro n c hlive present hlong
    obtain ⟨e, he, hrange⟩ := SettingsRef.timeout_overlong (unset .shutdown) hlong
    exact ⟨e, Deployment.destroyAsync_unreadable present (hlive ▸ he), hrange⟩

/-- A world in which a deployment has just been made that leaves everything to the environment. -/
def World.leftTo (env : Environment) : World :=
  (Deployment.make none (.live 0) (World.initial env ClassPath.modules default)).2

theorem timeouts_left_to_environment_quarter :
    (∀ name, (((World.leftTo (Environment.empty.set "REDIS_TIMEOUT" " 2_50 ")).live.get 0).explicit
      name = none)) ∧
      LeftToEnvironment 0 (World.leftTo (Environment.empty.set "REDIS_TIMEOUT" " 2_50 ")) :=
  ⟨fun name => by cases name <;> rfl,
    timeouts_left_to_environment 0 _ fun name => by cases name <;> rfl⟩

/-- An environment whose timeout of commands is beyond every duration. -/
def Environment.beyond : Environment := Environment.empty.set "REDIS_TIMEOUT" "100000000000000000"

/-- Not every text can be read, and neither freezing nor a start goes well then. -/
theorem overlong_timeout_not_read :
    (∀ name, ((World.leftTo .beyond).live.get 0).explicit name = none) ∧
      (SettingsRef.live 0).timeout .command (World.leftTo .beyond) =
        .error (.daysOutOfRange 1157407407) ∧
      ((World.leftTo .beyond).live.get 0).freeze .beyond = .error (.daysOutOfRange 1157407407) ∧
      Deployment.start 0 (World.leftTo .beyond) =
        (.error (.daysOutOfRange 1157407407), World.leftTo .beyond) := by
  have hn : Environment.beyond.integer? "REDIS_TIMEOUT" = some 100000000000000000 := by decide
  have hmillis : Duration.ofMillis (.int 100000000000000000) =
      .error (.daysOutOfRange 1157407407) := by
    rw [Duration.ofMillis_int]
    rfl
  have htimeout : LiveSettings.environmentTimeout .beyond "REDIS_TIMEOUT" .command =
      .error (.daysOutOfRange 1157407407) := by
    unfold LiveSettings.environmentTimeout
    rw [hn]
    simp only [hmillis]
    rfl
  obtain ⟨e, hstart, hreason, -⟩ := Deployment.start_unreadable (n := 0) (w := .leftTo .beyond)
    rfl htimeout
  refine ⟨fun name => by cases name <;> rfl, htimeout, ?_, ?_⟩
  · unfold LiveSettings.freeze
    rw [show ((World.leftTo .beyond).live.get 0).timeoutIn .beyond = _ from htimeout]
  · rw [hstart, hreason trivial]

end RedisLink
