/-
RedisLink.Proofs.Immutability — settings that a deployment cannot change.

A deployment whose settings are fixed refuses every write to an attribute of
`settingNames`, and the refusal changes nothing in the world. What it says is
that the settings cannot be changed, with one exception: a timeout is written in
milliseconds, and these become a duration before anything looks at the settings.
A value of which no duration can be made is reported as that (`Unreadable`).

`Immutable` states both, and which values the exception is about: everything
that is no number, and the integers beyond the range of durations.
`fixed_settings_immutable` says it of every world.
-/
import RedisLink.Proofs.Timeouts

namespace RedisLink

/-! ## 1. Milliseconds that make no duration -/

/-- Whether a value is a number; truth values are. -/
def Value.isNumber : Value → Bool
  | .int _ | .bool _ | .float _ => true
  | _ => false

namespace Duration

/-- Milliseconds are the only part that is added up. -/
theorem ofMillis_eq (v : Value) : ofMillis v =
    match Sum.zero.add "milliseconds" 1000 v with
    | .ok sum => ofMicros sum.micros
    | .error e => .error e := by
  -- the units behind milliseconds hand the sum on
  have hparts : ofMillis v = ((Sum.zero.add "milliseconds" 1000 v).bind fun sum => .ok sum).bind
      fun sum => ofMicros sum.micros := rfl
  rw [hparts]
  cases Sum.zero.add "milliseconds" 1000 v <;> rfl

theorem Sum.add_error {sum : Sum} {unit : String} {size : Nat} {v : Value} {e : Failure}
    (h : sum.add unit size v = .error e) : e.category = .badKind ∨ e.category = .outOfRange := by
  unfold Sum.add at h
  split at h
  · cases h
  · cases h
  · split at h
    · cases h
      exact .inr rfl
    · dsimp only at h
      split at h <;> cases h
  · cases h
    exact .inl rfl

/-- Milliseconds fail because of their kind or because of their size. -/
theorem ofMillis_error {v : Value} {e : Failure} (h : ofMillis v = .error e) :
    e.category = .badKind ∨ e.category = .outOfRange := by
  rw [ofMillis_eq] at h
  split at h
  · exact .inr (ofMicros_error h)
  · rename_i hadd
    cases h
    exact Sum.add_error hadd

theorem ofMillis_of_not_number {v : Value} (h : v.isNumber = false) :
    ofMillis v = .error (.durationPart "milliseconds" v.operandKind) := by
  rw [ofMillis_eq]
  cases v with
  | int n => cases h
  | bool b => cases h
  | float x => cases h
  | _ => rfl

theorem ofMillis_int_isOk (n : Int) :
    (∃ d, ofMillis (.int n) = .ok d) ↔ leastMicros ≤ n * 1000 ∧ n * 1000 ≤ greatestMicros := by
  rw [ofMillis_int]
  constructor
  · rintro ⟨d, hd⟩
    rw [← ofMicros_eq_ok_iff.mp hd]
    exact d.inRange
  · intro h
    exact ⟨⟨n * 1000, h⟩, ofMicros_eq_ok_iff.mpr rfl⟩

end Duration

/-! ## 2. Writes to settings -/

namespace Attribute

/-- The attributes of a deployment that belong to its settings. -/
def settingNames : List String :=
  ["use_ssl", "verify_peer", "start_tls", "timeout", "shutdown_timeout", "client_resources"]

/-- A write gives milliseconds of which no duration can be made. -/
def Unreadable (w : World) (name : String) (given : Item) (e : Failure) : Prop :=
  (∃ t : TimeoutName, name = t.label) ∧ Duration.ofMillis (given.toValue w) = .error e

/-- Write attributes one after the other; what each write gives, and the world in the end. -/
def writeAll (x : Item) : List (String × Item) → World → List (Except Failure Unit) × World
  | [], w => ([], w)
  | (name, given) :: rest, w =>
    let written := write x name given w
    let (answers, w) := writeAll x rest written.2
    (written.1 :: answers, w)

/-- The settings of the deployment of a number cannot be changed through it. -/
structure Immutable (n : Nat) (w : World) : Prop where
  /-- A write fails and changes nothing. -/
  refused : ∀ name ∈ settingNames, ∀ given, ∃ e, write (.deployment n) name given w = (.error e, w)
  /-- The reason is that the settings are fixed, unless milliseconds cannot be read. -/
  immutable : ∀ name ∈ settingNames, ∀ given,
    (write (.deployment n) name given w).1 = .error .immutableSettings ↔
      ∀ e, ¬ Unreadable w name given e
  /-- Then it is what is wrong with them. -/
  unreadable : ∀ name given e, Unreadable w name given e →
    (write (.deployment n) name given w).1 = .error e ∧
      (e.category = .badKind ∨ e.category = .outOfRange)
  /-- Whatever is no number cannot be read as milliseconds. -/
  kinds : ∀ (t : TimeoutName) given, (given.toValue w).isNumber = false →
    (write (.deployment n) t.label given w).1 =
      .error (.durationPart "milliseconds" (given.toValue w).operandKind)
  /-- Integers can up to the range of durations. -/
  integers : ∀ (t : TimeoutName) (k : Int),
    (write (.deployment n) t.label (.value (.int k)) w).1 = .error .immutableSettings ↔
      leastMicros ≤ k * 1000 ∧ k * 1000 ≤ greatestMicros
  /-- No number of writes gets any further. -/
  forever : ∀ writes : List (String × Item), (∀ x ∈ writes, x.1 ∈ settingNames) →
    writeAll (.deployment n) writes w =
      (writes.map fun x => (write (.deployment n) x.1 x.2 w).1, w)

section

variable {n : Nat} {w : World} {s : Shared Settings}

theorem label_mem_settingNames (t : TimeoutName) : t.label ∈ settingNames := by
  cases t <;> decide

/-- Only timeouts are written in milliseconds. -/
theorem not_unreadable {name : String} {given : Item} (command : name ≠ TimeoutName.command.label)
    (shutdown : name ≠ TimeoutName.shutdown.label) (e : Failure) :
    ¬ Unreadable w name given e := by
  rintro ⟨⟨t, ht⟩, -⟩
  cases t with
  | command => exact command ht
  | shutdown => exact shutdown ht

theorem change_fixed (fixed : (w.deployments.get n).settings = .fixed s)
    (f : LiveSettings → Except Failure LiveSettings) :
    (w.deployments.get n).settings.change f w = (.error .immutableSettings, w) := by
  rw [fixed]
  rfl

/-- Milliseconds that can be read are refused like everything else. -/
theorem write_timeout_fixed (fixed : (w.deployments.get n).settings = .fixed s) (t : TimeoutName)
    (given : Item) :
    (∀ e, ¬ Unreadable w t.label given e) ∧
        write (.deployment n) t.label given w = (.error .immutableSettings, w) ∨
      ∃ e, Unreadable w t.label given e ∧
        write (.deployment n) t.label given w = (.error e, w) := by
  have hwrite : write (.deployment n) t.label given w =
      Deployment.write n (.timeout t (given.toValue w)) w := by
    cases t <;> rfl
  rw [hwrite]
  cases hmillis : Duration.ofMillis (given.toValue w) with
  | error e => exact .inr ⟨e, ⟨⟨t, rfl⟩, hmillis⟩, by simp only [Deployment.write, hmillis]⟩
  | ok d =>
    refine .inl ⟨?_, by simp only [Deployment.write, hmillis, change_fixed fixed]⟩
    rintro e ⟨-, he⟩
    rw [hmillis] at he
    cases he

/-- Every write to fixed settings is refused. -/
theorem write_fixed (fixed : (w.deployments.get n).settings = .fixed s) {name : String}
    (hname : name ∈ settingNames) (given : Item) :
    (∀ e, ¬ Unreadable w name given e) ∧
        write (.deployment n) name given w = (.error .immutableSettings, w) ∨
      ∃ e, Unreadable w name given e ∧ write (.deployment n) name given w = (.error e, w) := by
  have hchange := change_fixed fixed
  simp only [settingNames, List.mem_cons, List.not_mem_nil, or_false] at hname
  rcases hname with rfl | rfl | rfl | rfl | rfl | rfl
  · exact .inl ⟨not_unreadable (by decide) (by decide), hchange fun s => .ok (s.setUseSsl _)⟩
  · exact .inl ⟨not_unreadable (by decide) (by decide), hchange fun s => .ok (s.setVerifyPeer _)⟩
  · exact .inl ⟨not_unreadable (by decide) (by decide), hchange fun s => .ok (s.setStartTls _)⟩
  · exact write_timeout_fixed fixed .command given
  · exact write_timeout_fixed fixed .shutdown given
  · exact .inl ⟨not_unreadable (by decide) (by decide),
      hchange fun s => .ok { s with resources := given.toPart w }⟩

/-- A write fails and changes nothing. -/
theorem write_refused (fixed : (w.deployments.get n).settings = .fixed s) {name : String}
    (hname : name ∈ settingNames) (given : Item) :
    ∃ e, write (.deployment n) name given w = (.error e, w) := by
  obtain ⟨-, hwrite⟩ | ⟨e, -, hwrite⟩ := write_fixed fixed hname given
  · exact ⟨_, hwrite⟩
  · exact ⟨e, hwrite⟩

/-- Milliseconds that cannot be read come before the settings. -/
theorem write_unreadable (fixed : (w.deployments.get n).settings = .fixed s) {name : String}
    {given : Item} {e : Failure} (h : Unreadable w name given e) :
    write (.deployment n) name given w = (.error e, w) := by
  obtain ⟨⟨t, rfl⟩, hmillis⟩ := h
  obtain ⟨hno, -⟩ | ⟨e', ⟨-, hmillis'⟩, hwrite⟩ :=
    write_fixed fixed (label_mem_settingNames t) given
  · exact absurd ⟨⟨t, rfl⟩, hmillis⟩ (hno e)
  · rw [hmillis, Except.error.injEq] at hmillis'
    rw [hwrite, hmillis']

/-- What is wrong with milliseconds is never that the settings are fixed. -/
theorem write_immutable_iff (fixed : (w.deployments.get n).settings = .fixed s) {name : String}
    (hname : name ∈ settingNames) (given : Item) :
    (write (.deployment n) name given w).1 = .error .immutableSettings ↔
      ∀ e, ¬ Unreadable w name given e := by
  obtain ⟨hno, hwrite⟩ | ⟨e, he, hwrite⟩ := write_fixed fixed hname given
  · rw [hwrite]
    exact ⟨fun _ => hno, fun _ => rfl⟩
  · refine ⟨fun h => ?_, fun h => absurd he (h e)⟩
    rw [hwrite, Except.error.injEq] at h
    rcases Duration.ofMillis_error he.2 with hcategory | hcategory <;> rw [h] at hcategory <;>
      cases hcategory

theorem readable_int_iff (t : TimeoutName) (k : Int) :
    (∀ e, ¬ Unreadable w t.label (.value (.int k)) e) ↔
      leastMicros ≤ k * 1000 ∧ k * 1000 ≤ greatestMicros := by
  rw [← Duration.ofMillis_int_isOk]
  constructor
  · intro h
    cases hd : Duration.ofMillis (.int k) with
    | error e => exact absurd ⟨⟨t, rfl⟩, hd⟩ (h e)
    | ok d => exact ⟨d, rfl⟩
  · rintro ⟨d, hd⟩ e ⟨-, he⟩
    have he : Duration.ofMillis (.int k) = .error e := he
    rw [hd] at he
    cases he

end

/-- Writes that leave the world as it is give the same whether others come before them or not. -/
theorem writeAll_of_unchanged {x : Item} {w : World} : ∀ {writes : List (String × Item)},
    (∀ y ∈ writes, (write x y.1 y.2 w).2 = w) →
      writeAll x writes w = (writes.map fun y => (write x y.1 y.2 w).1, w)
  | [], _ => rfl
  | (name, given) :: rest, h => by
    have hfirst : (write x name given w).2 = w := h _ List.mem_cons_self
    have hrest := writeAll_of_unchanged fun y hy => h y (List.mem_cons_of_mem _ hy)
    simp only [writeAll, hfirst, hrest, List.map_cons]

/-- Settings that are fixed cannot be changed through any deployment that has them. -/
theorem fixed_settings_immutable (n : Nat) (w : World) (s : Shared Settings)
    (fixed : (w.deployments.get n).settings = .fixed s) : Immutable n w := by
  constructor
  case refused => exact fun name hname given => write_refused fixed hname given
  case immutable => exact fun name hname given => write_immutable_iff fixed hname given
  case unreadable =>
    intro name given e he
    exact ⟨by rw [write_unreadable fixed he], Duration.ofMillis_error he.2⟩
  case kinds =>
    intro t given hkind
    rw [write_unreadable fixed ⟨⟨t, rfl⟩, Duration.ofMillis_of_not_number hkind⟩]
  case integers =>
    intro t k
    rw [write_immutable_iff fixed (label_mem_settingNames t), readable_int_iff]
  case forever =>
    intro writes hwrites
    refine writeAll_of_unchanged fun x hx => ?_
    obtain ⟨e, he⟩ := write_refused fixed (hwrites x hx) x.2
    rw [he]

/-- A world in which a deployment with fixed settings has just been made. -/
def fixedWorld : World :=
  (Deployment.make none (.fixed ⟨1, .standard ⟨2, .standard⟩⟩)
    (World.initial .empty ClassPath.modules default)).2

theorem fixed_settings_immutable_standard :
    (fixedWorld.deployments.get 0).settings = .fixed ⟨1, .standard ⟨2, .standard⟩⟩ ∧
      Immutable 0 fixedWorld :=
  ⟨rfl, fixed_settings_immutable 0 fixedWorld _ rfl⟩

/-- Not every refusal is that the settings are fixed. -/
theorem text_not_refused_as_immutable :
    (fixedWorld.deployments.get 0).settings = .fixed ⟨1, .standard ⟨2, .standard⟩⟩ ∧
      write (.deployment 0) "timeout" (.value (.text "x")) fixedWorld =
        (.error (.durationPart "milliseconds" "str"), fixedWorld) ∧
      (write (.deployment 0) "timeout" (.value (.text "x")) fixedWorld).1 ≠
        .error .immutableSettings :=
  ⟨rfl, rfl, fun h => by cases h⟩

end Attribute

end RedisLink
