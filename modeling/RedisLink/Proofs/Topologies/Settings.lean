/-
RedisLink.Proofs.Topologies.Settings — what the settings of a topology are made
with and read as.

An explicit value comes before the environment, and the environment before a
default. A setting that has been set reads as it has been set; otherwise it
reads as its own variable says, or as its default where that variable says
nothing that can be used (`TopologySetting.LeftTo`). So no setting reads a
variable of another one (`TopologySetting.leftIn_congr`), and a database is an
index that is not negative wherever it comes from.

Topologies are made with values for their settings (`TopologyRef.MadeWith`).
They begin with these as they are given, except that the database has to be one
that a write would accept, unless it is `null`.
-/
import RedisLink.Proofs.Secrecy.Arguments
import RedisLink.Proofs.Selection
import RedisLink.Proofs.Topologies.Writes

namespace RedisLink

namespace TopologySetting

/-! ## 1. What is left to the environment -/

/-- The variable that a setting is left to. -/
def variableName : TopologySetting → String
  | host _ => "REDIS_HOST"
  | port _ => "REDIS_PORT"
  | master _ => "REDIS_SENTINEL_MASTER"
  | password _ => "REDIS_PASSWORD"
  | database _ => "REDIS_DB"

/-- What a setting reads as in an environment that it is left to. -/
inductive LeftTo (env : Environment) : TopologySetting → Value → Prop
  | host {k : Nat} {x : Value} (left : env.FallsBack .host x) : LeftTo env (host k) x
  | port {k : Nat} {x : Value} (left : env.FallsBack .port x) : LeftTo env (port k) x
  | masterSet {k : Nat} {text : String} (set : env.get? "REDIS_SENTINEL_MASTER" = some text) :
      LeftTo env (master k) (.text text)
  | masterUnset {k : Nat} (unset : env.get? "REDIS_SENTINEL_MASTER" = none) :
      LeftTo env (master k) .null
  | password {ref : TopologyRef} {x : Value} (left : env.FallsBack .password x) :
      LeftTo env (password ref) x
  | database {ref : TopologyRef} {x : Value} (left : env.FallsBack .database x) :
      LeftTo env (database ref) x

/-- The same, looked up. -/
def leftIn (env : Environment) : TopologySetting → Value
  | host _ => .text ((env.get? "REDIS_HOST").getD Standalone.defaultHost)
  | port _ => .int (Standalone.environmentPort env)
  | master _ => Sentinels.unset.masterIn env
  | password _ => Credentials.unset.passwordIn env
  | database _ => .int (Credentials.unset.databaseIn env)

theorem leftTo_leftIn (env : Environment) (s : TopologySetting) : s.LeftTo env (s.leftIn env) := by
  cases s with
  | host k => exact .host (Environment.fallsBack_host env)
  | port k => exact .port (Environment.fallsBack_port env)
  | master k =>
    rw [leftIn, Sentinels.masterIn, Sentinels.unset, Value.orElse_null]
    cases hset : env.get? "REDIS_SENTINEL_MASTER" with
    | some text => exact .masterSet hset
    | none => exact .masterUnset hset
  | password ref =>
    rw [leftIn, Credentials.passwordIn, Credentials.unset, Value.orElse_null]
    cases hset : env.get? "REDIS_PASSWORD" with
    | some text => exact .password (.passwordSet hset)
    | none => exact .password (.passwordUnset hset)
  | database ref => exact .database (Environment.fallsBack_database env)

/-- A setting looks at its own variable only. -/
theorem leftIn_congr {env other : Environment} {s : TopologySetting}
    (same : other.get? s.variableName = env.get? s.variableName) :
    s.leftIn other = s.leftIn env := by
  cases s with
  | host k => exact congrArg (fun t => Value.text (Option.getD t _)) same
  | port k => exact congrArg Value.int (Standalone.environmentPort_congr same)
  | master k =>
    have hmaster : other.get? "REDIS_SENTINEL_MASTER" = env.get? "REDIS_SENTINEL_MASTER" := same
    rw [leftIn, leftIn, Sentinels.masterIn, Sentinels.masterIn, hmaster]
  | password ref => exact Credentials.passwordIn_congr same _
  | database ref =>
    exact congrArg (fun n : Nat => Value.int n) (Credentials.databaseIn_congr same _)

/-! ## 2. Reading -/

/-- What the attribute of a setting reads as. -/
def read (s : TopologySetting) (w : World) : Except Failure Item :=
  Attribute.read w (.topology s.owner) s.name

/-- The explicit value comes first. -/
theorem read_eq (s : TopologySetting) (w : World) :
    s.read w = .ok (.value ((s.explicit w).orElse (s.leftIn w.env))) := by
  cases s with
  | database ref =>
    have hread : (database ref).read w =
        .ok (.value (.int ((w.credentialsOf ref).databaseIn w.env))) := by
      cases ref <;> rfl
    rw [hread, explicit, leftIn, Credentials.databaseIn]
    cases (w.credentialsOf ref).database <;> rfl
  | password ref => cases ref <;> rfl
  | _ => rfl

theorem read_explicit {s : TopologySetting} {w : World} (set : s.explicit w ≠ .null) :
    s.read w = .ok (.value (s.explicit w)) := by
  rw [read_eq, Value.orElse_of_ne_null set]

theorem read_left {s : TopologySetting} {w : World} (unset : s.explicit w = .null) :
    ∃ x, s.LeftTo w.env x ∧ s.read w = .ok (.value x) := by
  rw [read_eq, unset, Value.orElse_null]
  exact ⟨_, leftTo_leftIn w.env s, rfl⟩

theorem read_congr {s : TopologySetting} {w : World} {env : Environment}
    (same : env.get? s.variableName = w.env.get? s.variableName) :
    s.read { w with env := env } = s.read w := by
  have hexplicit : s.explicit { w with env := env } = s.explicit w := by
    cases s <;> rfl
  rw [read_eq, read_eq, hexplicit, leftIn_congr same]

/-- A database is an index, wherever it comes from. -/
theorem read_database (ref : TopologyRef) (w : World) :
    ∃ n : Nat, (database ref).read w = .ok (.value (.int n)) :=
  ⟨ref.database w, by cases ref <;> rfl⟩

end TopologySetting

/-! ## 3. Making a topology -/

/-- What kind of object a topology is. -/
def TopologyRef.kind : TopologyRef → ObjectKind
  | .credentials _ => .credentials
  | .standalone _ => .standalone
  | .sentinels _ => .sentinels
  | .cluster _ => .cluster

/-- A topology is what is made from values for its parameters. -/
inductive TopologyRef.MadeWith (v : World) : TopologyRef → List Value → Prop
  | credentials {k : Nat} {password database : Value}
      (makes : Credentials.make password database = .ok (v.credentials.get k)) :
      MadeWith v (.credentials k) [password, database]
  | standalone {k : Nat} {host port password database : Value}
      (makes : Standalone.make host port password database = .ok (v.standalones.get k)) :
      MadeWith v (.standalone k) [host, port, password, database]
  | sentinels {k : Nat} {master nodes password database : Value}
      (makes : Sentinels.make master nodes password database = .ok (v.sentinels.get k)) :
      MadeWith v (.sentinels k) [master, nodes, password, database]
  | cluster {k : Nat} {nodes password database : Value}
      (makes : Cluster.make nodes password database = .ok (v.clusters.get k)) :
      MadeWith v (.cluster k) [nodes, password, database]

theorem Sentinels.make_eq_ok_iff {master nodes password database : Value} {s : Sentinels} :
    make master nodes password database = .ok s ↔
      ∃ c setting, Credentials.make password database = .ok c ∧
        NodeSetting.ofItems nodes = .ok setting ∧ s = ⟨c, master, setting⟩ := by
  unfold make
  cases Credentials.make password database with
  | error e => simp
  | ok c => cases NodeSetting.ofItems nodes <;> simp [eq_comm]

theorem Cluster.make_eq_ok_iff {nodes password database : Value} {s : Cluster} :
    make nodes password database = .ok s ↔
      ∃ c setting, Credentials.make password database = .ok c ∧
        NodeSetting.ofItems nodes = .ok setting ∧ s = ⟨c, setting⟩ := by
  unfold make
  cases Credentials.make password database with
  | error e => simp
  | ok c => cases NodeSetting.ofItems nodes <;> simp [eq_comm]

theorem Construct.addTopology_eq_ok {α : Type} {t : Except Failure α} {f : α → Topology}
    {x : Item} {w v : World} (added : addTopology (t.map f) w = (.ok x, v)) :
    ∃ s ref, t = .ok s ∧ x = .topology ref ∧ Deployment.addTopology (f s) w = (.ok ref, v) := by
  cases t with
  | error e => cases added
  | ok s =>
    refine ⟨s, ?_⟩
    replace added : addTopology (.ok (f s)) w = (.ok x, v) := added
    cases hf : f s <;> rw [hf] at added <;> cases added <;> exact ⟨_, rfl, rfl, rfl⟩

/-- A new topology is made from the values that its parameters are bound to. -/
theorem Construct.madeWith_of_new {ref : TopologyRef} {arguments : Arguments} {w v : World}
    (made : new ref.kind arguments w = (.ok (.topology ref), v)) : ref.ExistsIn v ∧
      ∃ items, ref.kind.signature.bind arguments = .ok items ∧
        ref.MadeWith v (Item.toValues w items) := by
  simp only [new, bind, Act.andThen, Act.ofExcept] at made
  cases hbind : ref.kind.signature.bind arguments with
  | error e =>
    rw [hbind] at made
    cases made
  | ok items =>
    rw [hbind] at made
    have hlength := Signature.length_of_bind hbind
    cases ref with
    | credentials k =>
      obtain ⟨password, database, rfl⟩ := List.length_eq_two.mp hlength
      replace made : addCredentials (Credentials.make (password.toValue w) (database.toValue w)) w =
        _ := made
      cases hmake : Credentials.make (password.toValue w) (database.toValue w) with
      | error e =>
        rw [hmake] at made
        cases made
      | ok c =>
        rw [hmake] at made
        cases made
        exact ⟨Nat.lt_succ_self _, _, rfl, .credentials (by rw [hmake, Store.get_add_size])⟩
    | standalone k =>
      obtain ⟨host, port, password, database, rfl⟩ := List.length_eq_four.mp hlength
      obtain ⟨s, ref, hmake, href, hadd⟩ := addTopology_eq_ok made
      cases href
      cases hadd
      exact ⟨Nat.lt_succ_self _, _, rfl, .standalone (by rw [hmake, Store.get_add_size])⟩
    | sentinels k =>
      obtain ⟨master, nodes, password, database, rfl⟩ := List.length_eq_four.mp hlength
      obtain ⟨s, ref, hmake, href, hadd⟩ := addTopology_eq_ok made
      cases href
      cases hadd
      exact ⟨Nat.lt_succ_self _, _, rfl, .sentinels (by rw [hmake, Store.get_add_size])⟩
    | cluster k =>
      obtain ⟨nodes, password, database, rfl⟩ := List.length_eq_three.mp hlength
      obtain ⟨s, ref, hmake, href, hadd⟩ := addTopology_eq_ok made
      cases href
      cases hadd
      exact ⟨Nat.lt_succ_self _, _, rfl, .cluster (by rw [hmake, Store.get_add_size])⟩

/-- A deployment is made on a topology, with what may be given as its settings. -/
def TopologyRef.build (ref : TopologyRef) (settings : Item) : Act Item :=
  Construct.new .deployment ⟨[.topology ref, settings], []⟩

/-! ## 4. What settings begin with -/

namespace TopologySetting

/-- The place of a setting among the parameters that its topology is made with. -/
def place (s : TopologySetting) : Nat := s.owner.kind.parameters.findIdx fun p => p.name = s.name

/-- What a setting begins with where its topology is made with a value for it. -/
inductive Begins (given : Value) : TopologySetting → Value → Prop
  | host (k : Nat) : Begins given (host k) given
  | port (k : Nat) : Begins given (port k) given
  | master (k : Nat) : Begins given (master k) given
  | password (ref : TopologyRef) : Begins given (password ref) given
  | noDatabase (ref : TopologyRef) (null : given = .null) : Begins given (database ref) .null
  | database {ref : TopologyRef} {x : Value} (accepted : (database ref).Accepts given x) :
      Begins given (database ref) x

/-- The setting of a single server that can be read from a URL. -/
def ofServer (k : Nat) : ServerSetting → TopologySetting
  | .host => host k
  | .port => port k
  | .password => password (.standalone k)
  | .database => database (.standalone k)

theorem begins_of_make {password given : Value} {c : Credentials} (ref : TopologyRef)
    (makes : Credentials.make password given = .ok c) : c.password = password ∧
      (database ref).Begins given (Credentials.databaseValue c.database) := by
  by_cases hnull : given = .null
  · subst hnull
    cases makes
    exact ⟨rfl, .noDatabase ref rfl⟩
  · have hset : Credentials.make password given =
        Credentials.setDatabase ⟨password, none⟩ given := by
      unfold Credentials.make
      split
      · exact absurd rfl hnull
      · rfl
    rw [hset, Credentials.setDatabase] at makes
    cases hread : Credentials.readDatabase given with
    | error e =>
      rw [hread] at makes
      cases makes
    | ok n =>
      rw [hread] at makes
      cases makes
      refine ⟨rfl, .database ?_⟩
      exact .database (readDatabase_eq_ok_iff.mp hread) (Int.natCast_nonneg n)

/-- Every topology has credentials that are made from the values in their places. -/
theorem credentials_of_madeWith {ref : TopologyRef} {v : World} {values : List Value}
    (made : ref.MadeWith v values) : ∃ given given',
      values[(password ref).place]? = some given ∧ values[(database ref).place]? = some given' ∧
        Credentials.make given given' = .ok (v.credentialsOf ref) := by
  cases made with
  | credentials makes => exact ⟨_, _, rfl, rfl, makes⟩
  | standalone makes =>
    obtain ⟨c, hc, hs⟩ := Standalone.make_eq_ok_iff.mp makes
    refine ⟨_, _, rfl, rfl, ?_⟩
    rw [World.credentialsOf, hs]
    exact hc
  | sentinels makes =>
    obtain ⟨c, nodes, hc, -, hs⟩ := Sentinels.make_eq_ok_iff.mp makes
    refine ⟨_, _, rfl, rfl, ?_⟩
    rw [World.credentialsOf, hs]
    exact hc
  | cluster makes =>
    obtain ⟨c, nodes, hc, -, hs⟩ := Cluster.make_eq_ok_iff.mp makes
    refine ⟨_, _, rfl, rfl, ?_⟩
    rw [World.credentialsOf, hs]
    exact hc

/-- Every setting of a new topology begins with the value in its place. -/
theorem begins_of_madeWith {s : TopologySetting} {v : World} {values : List Value}
    (made : s.owner.MadeWith v values) :
    ∃ given, values[s.place]? = some given ∧ s.Begins given (s.explicit v) := by
  cases s with
  | host k =>
    cases made with
    | standalone makes =>
      obtain ⟨c, -, hs⟩ := Standalone.make_eq_ok_iff.mp makes
      refine ⟨_, rfl, ?_⟩
      rw [explicit, hs]
      exact .host k
  | port k =>
    cases made with
    | standalone makes =>
      obtain ⟨c, -, hs⟩ := Standalone.make_eq_ok_iff.mp makes
      refine ⟨_, rfl, ?_⟩
      rw [explicit, hs]
      exact .port k
  | master k =>
    cases made with
    | sentinels makes =>
      obtain ⟨c, nodes, -, -, hs⟩ := Sentinels.make_eq_ok_iff.mp makes
      refine ⟨_, rfl, ?_⟩
      rw [explicit, hs]
      exact .master k
  | password ref =>
    have hmade : ref.MadeWith v values := made
    obtain ⟨given, given', hplace, -, hmake⟩ := credentials_of_madeWith hmade
    refine ⟨given, hplace, ?_⟩
    rw [explicit, (begins_of_make ref hmake).1]
    exact .password ref
  | database ref =>
    have hmade : ref.MadeWith v values := made
    obtain ⟨given, given', -, hplace, hmake⟩ := credentials_of_madeWith hmade
    exact ⟨given', hplace, (begins_of_make ref hmake).2⟩

/-- A single server that is made from a URL begins with what the URL says. -/
theorem explicit_of_url {k : Nat} {url : String} {w v : World}
    (made : Construct.static .standalone "from_url" ⟨[.value (.text url)], []⟩ w =
      (.ok (.topology (.standalone k)), v)) :
    ∃ t, Url.Target.ofUrl url = .ok t ∧ ∀ x, (ofServer k x).explicit v = x.saidBy t := by
  replace made : Construct.addTopology ((Standalone.ofUrl url).map .standalone) w = _ := made
  obtain ⟨s, ref, hmake, href, hadd⟩ := Construct.addTopology_eq_ok made
  cases href
  cases hadd
  obtain ⟨t, ht, hholds⟩ := Standalone.holds_of_ofUrl hmake
  refine ⟨t, ht, fun x => ?_⟩
  have hget := Store.get_add_size w.standalones s
  cases x with
  | host => simp only [ofServer, explicit, hget, hholds.host, ServerSetting.saidBy]
  | port => simp only [ofServer, explicit, hget, hholds.port, ServerSetting.saidBy]
  | password =>
    simp only [ofServer, explicit, World.credentialsOf, hget, hholds.password,
      ServerSetting.saidBy]
  | database =>
    simp only [ofServer, explicit, World.credentialsOf, hget, ServerSetting.saidBy,
      ← hholds.database]
    cases s.credentials.database <;> rfl

end TopologySetting

end RedisLink
