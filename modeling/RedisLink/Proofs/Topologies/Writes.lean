/-
RedisLink.Proofs.Topologies.Writes — what writes put in for the settings of a
topology.

A `TopologySetting` is a setting of one topology that is left to the environment
until it has been set: host and port of a single server, the name of a master,
and the credentials of any topology. What has been set is `explicit`.

A setting can be written through its topology, and through deployments. Both are
the same write (`Change.make_about`), and so whatever is written goes one of two
ways: it is refused and changes nothing, or the setting has what was taken from
the value (`TopologySetting.takes`) and every other setting has what it had
(`TopologySetting.write_cases`). A reset takes all settings of its topology back,
and nothing else touches any of them. So at the end of a run a setting has what
came in last for it, else what it began with (`TopologySetting.explicit_run`).
-/
import RedisLink.Proofs.Lifecycle.Moves

namespace RedisLink

/-! ## 1. Settings -/

/-- A setting of a topology that is left to the environment until it has been set. -/
inductive TopologySetting
  | host (k : Nat)
  | port (k : Nat)
  | master (k : Nat)
  | password (ref : TopologyRef)
  | database (ref : TopologyRef)
deriving DecidableEq

/-- A database that may have been set, as a value. -/
def Credentials.databaseValue : Option Nat → Value
  | some n => .int n
  | none => .null

namespace TopologySetting

/-- The topology that a setting belongs to. -/
def owner : TopologySetting → TopologyRef
  | host k | port k => .standalone k
  | master k => .sentinels k
  | password ref | database ref => ref

/-- The attribute of its topology that a setting is read as. -/
def name : TopologySetting → String
  | host _ => "host"
  | port _ => "port"
  | master _ => "master"
  | password _ => "password"
  | database _ => "database"

/-- The setting that an attribute of a topology is, if it is one. -/
def named? (ref : TopologyRef) (name : String) : Option TopologySetting :=
  match name, ref with
  | "password", ref => some (password ref)
  | "database", ref => some (database ref)
  | "host", .standalone k => some (host k)
  | "port", .standalone k => some (port k)
  | "master", .sentinels k => some (master k)
  | _, _ => none

/-- What has been set; `null` if nothing has. -/
def explicit (w : World) : TopologySetting → Value
  | host k => (w.standalones.get k).host
  | port k => (w.standalones.get k).port
  | master k => (w.sentinels.get k).master
  | password ref => (w.credentialsOf ref).password
  | database ref => Credentials.databaseValue (w.credentialsOf ref).database

/-- What is put in for a setting where a value is written; nothing if the write is refused. A port
is turned into an integer, and a database into one that is not negative. -/
def takes (given : Value) : TopologySetting → Option Value
  | port _ => given.toInteger.toOption.map .int
  | database _ => (Credentials.readDatabase given).toOption.map fun n => .int n
  | _ => some given

theorem named?_eq_some_iff {ref : TopologyRef} {name : String} {s : TopologySetting} :
    named? ref name = some s ↔ ref = s.owner ∧ name = s.name := by
  constructor
  · intro h
    unfold named? at h
    split at h <;> cases h <;> exact ⟨rfl, rfl⟩
  · rintro ⟨rfl, rfl⟩
    cases s <;> rfl

/-- A value is accepted for a setting, and becomes another one: of a port its integer is kept, and
of a database too, unless it is negative. -/
inductive Accepts (given : Value) : TopologySetting → Value → Prop
  | host (k : Nat) : Accepts given (host k) given
  | port {k : Nat} {n : Int} (integer : given.toInteger = .ok n) : Accepts given (port k) (.int n)
  | master (k : Nat) : Accepts given (master k) given
  | password (ref : TopologyRef) : Accepts given (password ref) given
  | database {ref : TopologyRef} {n : Int} (integer : given.toInteger = .ok n) (nonneg : 0 ≤ n) :
      Accepts given (database ref) (.int n)

theorem readDatabase_eq_ok_iff {given : Value} {n : Nat} :
    Credentials.readDatabase given = .ok n ↔ given.toInteger = .ok (n : Int) := by
  unfold Credentials.readDatabase
  cases given.toInteger with
  | error e => simp
  | ok m =>
    by_cases hm : m < 0
    · simp only [if_pos hm, reduceCtorEq, Except.ok.injEq, false_iff]
      omega
    · simp only [if_neg hm, Except.ok.injEq]
      omega

theorem takes_eq_some_iff {s : TopologySetting} {given x : Value} :
    s.takes given = some x ↔ s.Accepts given x := by
  constructor
  · intro h
    cases s with
    | host k => cases h; exact .host k
    | master k => cases h; exact .master k
    | password ref => cases h; exact .password ref
    | port k =>
      unfold takes at h
      cases hn : given.toInteger with
      | error e => rw [hn] at h; cases h
      | ok n => rw [hn] at h; cases h; exact .port hn
    | database ref =>
      unfold takes at h
      cases hn : Credentials.readDatabase given with
      | error e => rw [hn] at h; cases h
      | ok n =>
        rw [hn] at h
        cases h
        exact .database (readDatabase_eq_ok_iff.mp hn) (Int.natCast_nonneg n)
  · intro h
    cases h with
    | port integer => rw [takes, integer]; rfl
    | @database ref n integer nonneg =>
      obtain ⟨m, rfl⟩ := Int.eq_ofNat_of_zero_le nonneg
      rw [takes, readDatabase_eq_ok_iff.mpr integer]
      rfl
    | _ => rfl

end TopologySetting

/-! ## 2. Replacing what a topology holds -/

namespace World

variable {w : World}

theorem credentialsOf_setCredentials (w : World) (ref : TopologyRef) (c : Credentials)
    (other : TopologyRef) : (w.setCredentials ref c).credentialsOf other =
      if other = ref then c else w.credentialsOf other := by
  cases ref <;> cases other <;>
    simp only [setCredentials, credentialsOf, Store.set, TopologyRef.credentials.injEq,
      TopologyRef.standalone.injEq, TopologyRef.sentinels.injEq, TopologyRef.cluster.injEq,
      reduceCtorEq, if_false] <;>
    split <;> rfl

/-- A single server may be replaced by one with the same credentials. -/
theorem credentialsOf_setStandalone {k : Nat} {s : Standalone}
    (same : s.credentials = (w.standalones.get k).credentials) (ref : TopologyRef) :
    (w.setStandalone k s).credentialsOf ref = w.credentialsOf ref := by
  cases ref with
  | standalone j => exact Store.get_set_of_eq Standalone.credentials same j
  | _ => rfl

theorem credentialsOf_setSentinels {k : Nat} {s : Sentinels}
    (same : s.credentials = (w.sentinels.get k).credentials) (ref : TopologyRef) :
    credentialsOf { w with sentinels := w.sentinels.set k s } ref = w.credentialsOf ref := by
  cases ref with
  | sentinels j => exact Store.get_set_of_eq Sentinels.credentials same j
  | _ => rfl

theorem credentialsOf_setCluster {k : Nat} {c : Cluster}
    (same : c.credentials = (w.clusters.get k).credentials) (ref : TopologyRef) :
    credentialsOf { w with clusters := w.clusters.set k c } ref = w.credentialsOf ref := by
  cases ref with
  | cluster j => exact Store.get_set_of_eq Cluster.credentials same j
  | _ => rfl

end World

namespace TopologySetting

variable {w v : World} {t : TopologySetting}

/-- A setting reads its own slot, so it is kept where the slot is. -/
theorem explicit_setCredentials {ref : TopologyRef} {c : Credentials}
    (password : t = .password ref → c.password = (w.credentialsOf ref).password)
    (database : t = .database ref → c.database = (w.credentialsOf ref).database) :
    t.explicit (w.setCredentials ref c) = t.explicit w := by
  cases t with
  | password other =>
    rw [explicit, explicit, World.credentialsOf_setCredentials]
    split
    · rename_i h
      rw [password (by rw [h]), h]
    · rfl
  | database other =>
    rw [explicit, explicit, World.credentialsOf_setCredentials]
    split
    · rename_i h
      rw [database (by rw [h]), h]
    · rfl
  | host k => cases ref <;> first | rfl | exact Store.get_set_of_eq Standalone.host (by rfl) k
  | port k => cases ref <;> first | rfl | exact Store.get_set_of_eq Standalone.port (by rfl) k
  | master k => cases ref <;> first | rfl | exact Store.get_set_of_eq Sentinels.master (by rfl) k

theorem explicit_setStandalone {k : Nat} {s : Standalone}
    (credentials : s.credentials = (w.standalones.get k).credentials)
    (host : t = .host k → s.host = (w.standalones.get k).host)
    (port : t = .port k → s.port = (w.standalones.get k).port) :
    t.explicit (w.setStandalone k s) = t.explicit w := by
  cases t with
  | host j =>
    by_cases hj : j = k
    · exact Store.get_set_of_eq Standalone.host (host (by rw [hj])) j
    · exact congrArg Standalone.host (Store.get_set_of_ne _ _ hj)
  | port j =>
    by_cases hj : j = k
    · exact Store.get_set_of_eq Standalone.port (port (by rw [hj])) j
    · exact congrArg Standalone.port (Store.get_set_of_ne _ _ hj)
  | master j => rfl
  | password ref => rw [explicit, World.credentialsOf_setStandalone credentials]; rfl
  | database ref => rw [explicit, World.credentialsOf_setStandalone credentials]; rfl

theorem explicit_setSentinels {k : Nat} {s : Sentinels}
    (credentials : s.credentials = (w.sentinels.get k).credentials)
    (master : t = .master k → s.master = (w.sentinels.get k).master) :
    t.explicit { w with sentinels := w.sentinels.set k s } = t.explicit w := by
  cases t with
  | master j =>
    by_cases hj : j = k
    · exact Store.get_set_of_eq Sentinels.master (master (by rw [hj])) j
    · exact congrArg Sentinels.master (Store.get_set_of_ne _ _ hj)
  | password ref => rw [explicit, World.credentialsOf_setSentinels credentials]; rfl
  | database ref => rw [explicit, World.credentialsOf_setSentinels credentials]; rfl
  | _ => rfl

theorem explicit_setCluster {k : Nat} {c : Cluster}
    (credentials : c.credentials = (w.clusters.get k).credentials) :
    t.explicit { w with clusters := w.clusters.set k c } = t.explicit w := by
  cases t with
  | password ref => rw [explicit, World.credentialsOf_setCluster credentials]; rfl
  | database ref => rw [explicit, World.credentialsOf_setCluster credentials]; rfl
  | _ => rfl

/-! ## 3. Writes of a setting -/

/-- A setting has been given a value, and all others have what they had. -/
structure Puts (s : TopologySetting) (x : Value) (w v : World) : Prop where
  set : s.explicit v = x
  others : ∀ t : TopologySetting, t ≠ s → t.explicit v = t.explicit w

/-- A write of a setting is refused and changes nothing, or puts in what is taken. -/
theorem write_cases (s : TopologySetting) (given : Value) (w : World) :
    (∃ e, s.takes given = none ∧
        Attribute.writeTopology s.owner s.name given w = (.error e, w)) ∨
      ∃ x v, s.takes given = some x ∧
        Attribute.writeTopology s.owner s.name given w = (.ok (), v) ∧ s.Puts x w v := by
  cases s with
  | host k =>
    refine .inr ⟨given, _, rfl, rfl, ?_, fun t ht => ?_⟩
    · exact congrArg Standalone.host (Store.get_set_self _ _ _)
    · exact explicit_setStandalone rfl (fun h => absurd h ht) fun _ => rfl
  | port k =>
    cases hn : given.toInteger with
    | error e =>
      have hset : (w.standalones.get k).setPort given = .error e := by
        rw [Standalone.setPort, hn]
      refine .inl ⟨e, by rw [takes, hn]; rfl, ?_⟩
      simp only [Attribute.writeTopology, owner, name, hset]
    | ok n =>
      have hset : (w.standalones.get k).setPort given =
          .ok { w.standalones.get k with port := .int n } := by
        rw [Standalone.setPort, hn]
      refine .inr ⟨.int n, w.setStandalone k { w.standalones.get k with port := .int n },
        by rw [takes, hn]; rfl, ?_, ?_, fun t ht => ?_⟩
      · simp only [Attribute.writeTopology, owner, name, hset]
      · exact congrArg Standalone.port (Store.get_set_self _ _ _)
      · exact explicit_setStandalone rfl (fun _ => rfl) fun h => absurd h ht
  | master k =>
    refine .inr ⟨given, _, rfl, rfl, ?_, fun t ht => ?_⟩
    · exact congrArg Sentinels.master (Store.get_set_self _ _ _)
    · exact explicit_setSentinels rfl fun h => absurd h ht
  | password ref =>
    refine .inr ⟨given, w.setCredentials ref ((w.credentialsOf ref).setPassword given), rfl, rfl,
      ?_, fun t ht => ?_⟩
    · rw [explicit, World.credentialsOf_setCredentials, if_pos rfl]
      rfl
    · exact explicit_setCredentials (fun h => absurd h ht) fun _ => rfl
  | database ref =>
    have hwrite : Attribute.writeTopology (database ref).owner (database ref).name given w =
        ref.setDatabase given w := rfl
    rw [hwrite]
    cases hn : Credentials.readDatabase given with
    | error e =>
      refine .inl ⟨e, by rw [takes, hn]; rfl, ?_⟩
      simp only [TopologyRef.setDatabase, Credentials.setDatabase, hn]
    | ok n =>
      refine .inr ⟨.int n, w.setCredentials ref { w.credentialsOf ref with database := some n },
        by rw [takes, hn]; rfl, ?_, ?_, fun t ht => ?_⟩
      · simp only [TopologyRef.setDatabase, Credentials.setDatabase, hn]
      · rw [explicit, World.credentialsOf_setCredentials, if_pos rfl]
        rfl
      · exact explicit_setCredentials (fun _ => rfl) fun h => absurd h ht

end TopologySetting

/-! ## 4. What a change is about -/

/-- The setting that a write through a deployment is about, with the value that is written. -/
def Deployment.Write.about (d : Deployment) : Deployment.Write → Option (TopologySetting × Value)
  | .host given => some (.host d.standalone, given)
  | .port given => some (.port d.standalone, given)
  | .password given => some (.password d.topology, given)
  | .database given => some (.database d.topology, given)
  | _ => none

namespace Change

/-- The setting that a change is a write of, with the value that is written. -/
def about (w : World) : Change → Option (TopologySetting × Value)
  | .deployment n entry => entry.about (w.deployments.get n)
  | .topology ref name given => (TopologySetting.named? ref name).map fun s => (s, given)
  | _ => none

/-- What a change puts in for a setting, if it puts something in. -/
def enters (s : TopologySetting) (w : World) : Change → Option Value
  | .resetTopology ref => if s.owner = ref then some .null else none
  | c => (c.about w).bind fun (t, given) => if t = s then t.takes given else none

/-- What comes in is an accepted value that is written, or the `null` of a reset. -/
theorem enters_eq_some_iff {c : Change} {s : TopologySetting} {w : World} {x : Value} :
    c.enters s w = some x ↔ (∃ given, c.about w = some (s, given) ∧ s.Accepts given x) ∨
      c = .resetTopology s.owner ∧ x = .null := by
  have habout (o : Option (TopologySetting × Value)) :
      (o.bind fun (t, given) => if t = s then t.takes given else none) = some x ↔
        ∃ given, o = some (s, given) ∧ s.Accepts given x := by
    simp only [Option.bind_eq_some_iff, Prod.exists, Option.ite_none_right_eq_some,
      ← TopologySetting.takes_eq_some_iff]
    constructor
    · rintro ⟨t, given, ho, rfl, htakes⟩
      exact ⟨given, ho, htakes⟩
    · rintro ⟨given, ho, htakes⟩
      exact ⟨s, given, ho, rfl, htakes⟩
  cases c with
  | resetTopology ref =>
    simp only [enters, about, Option.ite_none_right_eq_some, Option.some.injEq, reduceCtorEq,
      false_and, exists_false, false_or, resetTopology.injEq]
    exact and_congr eq_comm eq_comm
  | _ => simp only [enters, habout, reduceCtorEq, false_and, or_false]

theorem enters_topology {s : TopologySetting} {w : World} {ref : TopologyRef} {name : String}
    {given : Value} : (topology ref name given).enters s w =
      if TopologySetting.named? ref name = some s then s.takes given else none := by
  show (((TopologySetting.named? ref name).map fun t => (t, given)).bind
    fun (t, given) => if t = s then t.takes given else none) = _
  cases TopologySetting.named? ref name with
  | none => rfl
  | some t =>
    simp only [Option.map_some, Option.bind_some, Option.some.injEq]
    split
    · rename_i h
      rw [h]
    · rfl

/-- Through a deployment a setting is written as it is through its topology. -/
theorem make_about {c : Change} {w : World} {s : TopologySetting} {given : Value}
    (h : c.about w = some (s, given)) :
    c.make w = Attribute.writeTopology s.owner s.name given w := by
  cases c with
  | deployment n entry => cases entry <;> cases h <;> rfl
  | topology ref name other =>
    obtain ⟨t, ht, heq⟩ := Option.map_eq_some_iff.mp h
    obtain ⟨rfl, rfl⟩ := Prod.mk.inj heq
    obtain ⟨rfl, rfl⟩ := TopologySetting.named?_eq_some_iff.mp ht
    rfl
  | _ => cases h

variable {s : TopologySetting} {w : World}

theorem explicit_change (ref : SettingsRef) (f : LiveSettings → Except Failure LiveSettings)
    (w : World) : s.explicit (ref.change f w).2 = s.explicit w := by
  unfold SettingsRef.change
  cases ref with
  | fixed _ => rfl
  | live k =>
    simp only
    split
    · cases s <;> rfl
    · rfl

theorem explicit_writeLive (k : Nat) (name : String) (given : Item) (w : World) :
    s.explicit (Attribute.writeLive k name given w).2 = s.explicit w := by
  unfold Attribute.writeLive
  split
  case h_8 => rfl
  all_goals exact explicit_change _ _ w

theorem explicit_addNode (ref : TopologyRef) (host port : Value) (w : World) :
    s.explicit (Method.addNode ref host port w).2 = s.explicit w := by
  unfold Method.addNode
  split
  · split
    · rename_i added
      unfold Sentinels.addSentinel at added
      split at added
      · cases added
      · cases added
        exact TopologySetting.explicit_setSentinels rfl fun _ => rfl
    · rfl
  · split
    · rename_i added
      unfold Cluster.addNode at added
      split at added
      · cases added
      · cases added
        exact TopologySetting.explicit_setCluster rfl
    · rfl
  · rfl

/-- A reset takes back every setting of its topology, and no other. -/
theorem explicit_resetTopology (s : TopologySetting) (ref : TopologyRef) (w : World) :
    s.explicit (Method.resetTopology ref w).2 =
      if s.owner = ref then .null else s.explicit w := by
  have hcredentials (other : TopologyRef) :
      (Method.resetTopology ref w).2.credentialsOf other =
        if other = ref then .unset else w.credentialsOf other := by
    cases ref <;> cases other <;>
      simp only [Method.resetTopology, Act.change, World.credentialsOf, Store.set,
        TopologyRef.credentials.injEq, TopologyRef.standalone.injEq, TopologyRef.sentinels.injEq,
        TopologyRef.cluster.injEq, reduceCtorEq, if_false] <;>
      split <;> rfl
  cases s with
  | host k =>
    cases ref with
    | standalone j =>
      show Standalone.host (if k = j then .unset else w.standalones.get k) = _
      simp only [TopologySetting.owner, TopologyRef.standalone.injEq]
      split <;> rfl
    | _ => rfl
  | port k =>
    cases ref with
    | standalone j =>
      show Standalone.port (if k = j then .unset else w.standalones.get k) = _
      simp only [TopologySetting.owner, TopologyRef.standalone.injEq]
      split <;> rfl
    | _ => rfl
  | master k =>
    cases ref with
    | sentinels j =>
      show Sentinels.master (if k = j then .unset else w.sentinels.get k) = _
      simp only [TopologySetting.owner, TopologyRef.sentinels.injEq]
      split <;> rfl
    | _ => rfl
  | password other =>
    rw [TopologySetting.explicit, hcredentials, TopologySetting.owner]
    split <;> rfl
  | database other =>
    rw [TopologySetting.explicit, hcredentials, TopologySetting.owner]
    split <;> rfl

/-- What is not about a setting leaves it. -/
theorem explicit_unconcerned {c : Change} (hreset : ∀ ref, c ≠ .resetTopology ref)
    (habout : c.about w = none) : s.explicit (c.make w).2 = s.explicit w := by
  cases c with
  | setVariable name text => cases s <;> rfl
  | unsetVariable name => cases s <;> rfl
  | deployment n entry =>
    cases entry with
    | timeout name given =>
      simp only [make, Deployment.write]
      split
      · exact explicit_change _ _ w
      · rfl
    | share given => cases s <;> rfl
    | host => cases habout
    | port => cases habout
    | password => cases habout
    | database => cases habout
    | _ => exact explicit_change _ _ w
  | topology ref name given =>
    have hnamed := Option.map_eq_none_iff.mp habout
    show s.explicit (Attribute.writeTopology ref name given w).2 = _
    unfold Attribute.writeTopology
    split
    case h_5 k => exact TopologySetting.explicit_setStandalone rfl (fun _ => rfl) fun _ => rfl
    case h_7 => rfl
    all_goals cases hnamed
  | resetTopology ref => exact absurd rfl (hreset ref)
  | addNode ref host port => exact explicit_addNode ref host port w
  | live k name given => exact explicit_writeLive k name given w

/-- After a change a setting has what was put in for it, else what it had. -/
theorem make_enters (c : Change) (s : TopologySetting) (w : World) :
    s.explicit (c.make w).2 = (c.enters s w).getD (s.explicit w) := by
  by_cases hreset : ∃ ref, c = .resetTopology ref
  · obtain ⟨ref, rfl⟩ := hreset
    have henters : (resetTopology ref).enters s w =
        if s.owner = ref then some .null else none := rfl
    show s.explicit (Method.resetTopology ref w).2 = _
    rw [explicit_resetTopology, henters]
    split <;> rfl
  · have henters : c.enters s w =
        (c.about w).bind fun (t, given) => if t = s then t.takes given else none := by
      cases c <;> first | rfl | exact absurd ⟨_, rfl⟩ hreset
    rw [henters]
    cases habout : c.about w with
    | none => exact explicit_unconcerned (fun ref h => hreset ⟨ref, h⟩) habout
    | some entry =>
      obtain ⟨t, given⟩ := entry
      rw [make_about habout]
      simp only [Option.bind_some]
      obtain ⟨e, htakes, hwrite⟩ | ⟨x, v, htakes, hwrite, hputs⟩ := t.write_cases given w
      · rw [hwrite, htakes, ite_self]
        rfl
      · rw [hwrite, htakes]
        by_cases hts : t = s
        · rw [if_pos hts, ← hts]
          exact hputs.set
        · rw [if_neg hts]
          exact hputs.others s (Ne.symm hts)

end Change

/-! ## 5. Refusals -/

/-- An operation changes nothing where it fails. -/
def Act.Atomic {α : Type} (a : Act α) : Prop := ∀ w e, (a w).1 = .error e → (a w).2 = w

namespace Change

theorem atomic_setDatabase (ref : TopologyRef) (given : Value) :
    (ref.setDatabase given).Atomic := by
  intro w e
  unfold TopologyRef.setDatabase
  split
  · exact fun h => by cases h
  · exact fun _ => rfl

theorem atomic_change (ref : SettingsRef) (f : LiveSettings → Except Failure LiveSettings) :
    (ref.change f).Atomic := by
  intro w e
  unfold SettingsRef.change
  cases ref with
  | fixed s => exact fun _ => rfl
  | live k =>
    simp only
    split
    · exact fun h => by cases h
    · exact fun _ => rfl

theorem atomic_write (n : Nat) (entry : Deployment.Write) :
    (Deployment.write n entry).Atomic := by
  intro w e
  cases entry with
  | host given => exact fun h => by cases h
  | port given =>
    simp only [Deployment.write]
    split
    · exact fun h => by cases h
    · exact fun _ => rfl
  | password given => exact fun h => by cases h
  | database given => exact atomic_setDatabase _ given w e
  | timeout name given =>
    simp only [Deployment.write]
    split
    · exact atomic_change _ _ w e
    · exact fun _ => rfl
  | share given => exact fun h => by cases h
  | _ => exact atomic_change _ _ w e

theorem atomic_writeTopology (ref : TopologyRef) (name : String) (given : Value) :
    (Attribute.writeTopology ref name given).Atomic := by
  intro w e
  unfold Attribute.writeTopology
  split
  case h_2 => exact atomic_setDatabase _ given w e
  case h_4 =>
    split
    · exact fun h => by cases h
    · exact fun _ => rfl
  case h_7 => exact fun _ => rfl
  all_goals exact fun h => by cases h

theorem atomic_writeLive (k : Nat) (name : String) (given : Item) :
    (Attribute.writeLive k name given).Atomic := by
  intro w e
  unfold Attribute.writeLive
  split
  case h_8 => exact fun _ => rfl
  all_goals exact atomic_change _ _ w e

theorem atomic_addNode (ref : TopologyRef) (host port : Value) :
    (Method.addNode ref host port).Atomic := by
  intro w e
  unfold Method.addNode
  split
  case h_3 => exact fun h => by cases h
  all_goals
    split
    · exact fun h => by cases h
    · exact fun _ => rfl

/-- A change that is refused changes nothing. -/
theorem atomic_make (c : Change) : c.make.Atomic := by
  cases c with
  | setVariable name text => exact fun w e h => by cases h
  | unsetVariable name => exact fun w e h => by cases h
  | deployment n entry => exact atomic_write n entry
  | topology ref name given => exact atomic_writeTopology ref name given
  | resetTopology ref => exact fun w e h => by cases h
  | addNode ref host port => exact atomic_addNode ref host port
  | live k name given => exact atomic_writeLive k name given

end Change

/-! ## 6. Runs -/

namespace Deployment

/-- What an operation puts in for a setting. -/
def Moment.enters (s : TopologySetting) (m : Moment) : Option Value :=
  match m.operation with
  | .call (.change c) => c.enters s m.before
  | _ => none

/-- What a history has put in for a setting, in order. -/
def History.enters (h : History) (s : TopologySetting) : List Value :=
  h.filterMap (Moment.enters s)

theorem explicit_configuration {w v : World} (same : w.SameConfiguration v)
    (s : TopologySetting) : s.explicit v = s.explicit w := by
  have hcredentials (ref : TopologyRef) : v.credentialsOf ref = w.credentialsOf ref := by
    cases ref <;>
      simp only [World.credentialsOf, same.credentials, same.standalones, same.sentinels,
        same.clusters]
  cases s <;>
    simp only [TopologySetting.explicit, same.standalones, same.sentinels, hcredentials]

/-- Nothing but a change puts anything in. -/
theorem perform_enters (n : Nat) (op : Operation) (s : TopologySetting) (w : World) :
    s.explicit (op.perform n w).2 = ((Moment.of n op w).enters s).getD (s.explicit w) := by
  rcases op.change_cases with hop | ⟨c, rfl⟩
  · rw [explicit_configuration (perform_configuration hop w)]
    cases op with
    | call c =>
      cases c with
      | change c => cases hop
      | _ => rfl
    | _ => rfl
  · rw [perform_change_after]
    exact c.make_enters s w

/-- At the end of a run a setting has what came in last, else what it began with. -/
theorem explicit_run (n : Nat) (w : World) (ops : List Operation) (s : TopologySetting) :
    s.explicit (run n w ops) =
      ((History.enters (trace n w ops) s).getLast?).getD (s.explicit w) := by
  refine trace_induction (P := fun h v => s.explicit v =
    ((History.enters h s).getLast?).getD (s.explicit w)) ?_ rfl ops
  intro h v op hv
  rw [show (Moment.of n op v).after = (op.perform n v).2 from rfl, perform_enters, hv]
  unfold History.enters
  rw [List.filterMap_append, List.getLast?_append, List.filterMap_cons, List.filterMap_nil]
  cases (Moment.of n op v).enters s <;> rfl

end Deployment

end RedisLink
