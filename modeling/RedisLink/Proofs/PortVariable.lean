/-
RedisLink.Proofs.PortVariable — ports that are left to the environment.

A single server without a port of its own reads `REDIS_PORT` each time it is
asked. `Environment.MeansPort` says what should be read: the port that the
variable writes, if it is one that a node can have, and otherwise 6379. Integers
out of the range of ports are the one exception (`Environment.WritesFarPort`):
of these only zero gives 6379, and the others are read as they are.

`PortLeftToEnvironment` follows the exception to what is made of the port. The
node of the server fails because of it, and a start does not: it builds a client
that is to connect to a port that there cannot be.
`port_left_to_environment` says this of every world.
-/
import RedisLink.Proofs.Selection

namespace RedisLink

/-! ## 1. What the variable says about the port -/

namespace Environment

/-- The port that the environment means. -/
inductive MeansPort (env : Environment) : Int → Prop
  | written {p : Int} (writes : env.Writes "REDIS_PORT" p) (valid : ValidPort (.int p)) :
      MeansPort env p
  | standard (unusable : ∀ p, env.Writes "REDIS_PORT" p → ¬ ValidPort (.int p)) : MeansPort env 6379

/-- The variable writes an integer out of the range of ports, and not zero. -/
def WritesFarPort (env : Environment) (n : Int) : Prop :=
  env.Writes "REDIS_PORT" n ∧ n ≠ 0 ∧ ¬ ValidPort (.int n)

variable {env : Environment}

/-- The port that is meant is one that a node can have. -/
theorem MeansPort.valid {p : Int} (h : env.MeansPort p) : ValidPort (.int p) := by
  cases h with
  | written _ valid => exact valid
  | standard _ => exact validPort_int_iff.mpr (by omega)

theorem environmentPort_of_far {n : Int} (far : env.WritesFarPort n) :
    Standalone.environmentPort env = n := by
  obtain ⟨hwrites, hne, -⟩ := far
  unfold Standalone.environmentPort
  rw [integer?_eq_some_iff.mpr hwrites]
  exact if_neg hne

/-- The port that is read is the one that is meant, but for the exception. -/
theorem environmentPort_means (near : ∀ n, ¬ env.WritesFarPort n) :
    env.MeansPort (Standalone.environmentPort env) := by
  have hleft := fallsBack_port env
  generalize Standalone.environmentPort env = p at hleft ⊢
  cases hleft with
  | portSet hwrites hne =>
    refine .written hwrites (Classical.byContradiction fun hinvalid => ?_)
    exact near _ ⟨hwrites, hne, hinvalid⟩
  | portUnusable unusable =>
    refine .standard fun n hwrites => ?_
    rw [unusable n hwrites, validPort_int_iff]
    omega

theorem environmentPort_valid_iff :
    ValidPort (.int (Standalone.environmentPort env)) ↔ ∀ n, ¬ env.WritesFarPort n := by
  constructor
  · intro hvalid n far
    rw [environmentPort_of_far far] at hvalid
    exact far.2.2 hvalid
  · intro near
    exact (environmentPort_means near).valid

theorem environmentPort_means_iff :
    env.MeansPort (Standalone.environmentPort env) ↔ ∀ n, ¬ env.WritesFarPort n :=
  ⟨fun h => environmentPort_valid_iff.mp h.valid, environmentPort_means⟩

end Environment

/-! ## 2. What is made of it -/

/-- What comes of the port of the server of a number, if it is left to the environment. -/
structure PortLeftToEnvironment (k : Nat) (w : World) : Prop where
  /-- Everything that has the port reads the one that is meant, but for the exception. -/
  read : ∀ x, x.HasPort k w →
    ((∃ p, Attribute.read w x "port" = .ok (.value (.int p)) ∧ w.env.MeansPort p) ↔
      ∀ n, ¬ w.env.WritesFarPort n)
  /-- Then the integer of the variable is read. -/
  far : ∀ x, x.HasPort k w → ∀ n, w.env.WritesFarPort n →
    Attribute.read w x "port" = .ok (.value (.int n))
  /-- There is a node if there is a host, but for the exception. -/
  node : (∃ node, Attribute.read w (.topology (.standalone k)) "node" = .ok node) ↔
    ((w.standalones.get k).hostIn w.env).truthy = true ∧ ∀ n, ¬ w.env.WritesFarPort n
  /-- Then it is the port that is refused. -/
  refused : ((w.standalones.get k).hostIn w.env).truthy = true → ∀ n, w.env.WritesFarPort n →
    Attribute.read w (.topology (.standalone k)) "node" = .error (.portOutOfRange n)
  /-- A start refuses none: it builds a client, and the URI of that has the port that is read. -/
  started : ∀ n, (w.deployments.get n).role = .standalone → (w.deployments.get n).standalone = k →
    (w.deployments.get n).client = none →
      (∃ t, (w.deployments.get n).settings.timeout .command w = .ok t) →
        (Deployment.start n w).1 = .ok () ∧
          ∃ u, ((Deployment.start n w).2.clients.get w.clients.size).uris.map (·.value) = [u] ∧
            Attribute.read w (.deployment n) "port" = .ok (.value u.port) ∧
              (ValidPort u.port ↔ ∀ n, ¬ w.env.WritesFarPort n)

section

variable {k : Nat} {w : World}

theorem Standalone.portIn_of_unset {s : Standalone} (unset : s.port = .null) (env : Environment) :
    s.portIn env = .int (environmentPort env) := by
  rw [portIn, unset]
  rfl

theorem read_port_left {x : Item} (h : x.HasPort k w)
    (unset : (w.standalones.get k).port = .null) :
    Attribute.read w x "port" = .ok (.value (.int (Standalone.environmentPort w.env))) := by
  rw [read_port_in h, Standalone.portIn_of_unset unset]

theorem read_node_of_no_host (absent : ((w.standalones.get k).hostIn w.env).truthy = false) :
    Attribute.read w (.topology (.standalone k)) "node" = .error .emptyHost := by
  have hmake : ∀ port, Node.make ((w.standalones.get k).hostIn w.env) port = .error .emptyHost :=
    fun port => dif_neg (by simp [absent])
  rw [read_node_in, hmake]
  rfl

theorem read_node_of_far {n : Int} (unset : (w.standalones.get k).port = .null)
    (present : ((w.standalones.get k).hostIn w.env).truthy = true)
    (far : w.env.WritesFarPort n) :
    Attribute.read w (.topology (.standalone k)) "node" = .error (.portOutOfRange n) := by
  have hfar : ¬ (0 < n.toNat ∧ n.toNat < 65536) := by
    have hinvalid := far.2.2
    rw [validPort_int_iff] at hinvalid
    omega
  rw [read_node_in, Standalone.portIn_of_unset unset, Environment.environmentPort_of_far far]
  unfold Node.make
  rw [dif_pos present]
  simp only [dif_neg hfar]
  rfl

end

/-- A port that is left to the environment is the one that is meant, unless the variable writes an
integer out of range that is not zero: this is read as it is, the node refuses it and a start
does not. -/
theorem port_left_to_environment (k : Nat) (w : World)
    (unset : (w.standalones.get k).port = .null) : PortLeftToEnvironment k w := by
  constructor
  case read =>
    intro x hx
    rw [read_port_left hx unset, ← Environment.environmentPort_means_iff]
    simp
  case far =>
    intro x hx n far
    rw [read_port_left hx unset, Environment.environmentPort_of_far far]
  case node =>
    cases present : ((w.standalones.get k).hostIn w.env).truthy with
    | false =>
      rw [read_node_of_no_host present]
      simp
    | true =>
      rw [read_node_isOk present, Standalone.portIn_of_unset unset,
        Environment.environmentPort_valid_iff]
      simp
  case refused => exact fun present n far => read_node_of_far unset present far
  case started =>
    rintro n role rfl absent readable
    obtain ⟨hok, u, huris, hport⟩ := start_port_in role absent readable
    rw [Standalone.portIn_of_unset unset] at hport
    refine ⟨hok, u, huris, ?_, ?_⟩
    · rw [hport]
      exact read_port_left (x := .deployment n) rfl unset
    · rw [hport]
      exact Environment.environmentPort_valid_iff

/-- A world with one server that leaves everything to an environment. -/
def World.serverLeftTo (env : Environment) : World :=
  { World.initial env ClassPath.modules default with standalones := Store.empty.add .unset }

theorem port_left_to_environment_padded :
    ((World.serverLeftTo (Environment.empty.set "REDIS_PORT" " 6_380 ")).standalones.get 0).port =
        .null ∧
      PortLeftToEnvironment 0 (World.serverLeftTo (Environment.empty.set "REDIS_PORT" " 6_380 ")) :=
  ⟨rfl, port_left_to_environment 0 _ rfl⟩

/-- Not every unusable text gives 6379, and there is no node then. -/
theorem far_port_read_as_written :
    ((World.serverLeftTo (Environment.empty.set "REDIS_PORT" "70000")).standalones.get 0).port =
        .null ∧
      ¬ ValidPort (.int 70000) ∧
      Attribute.read (World.serverLeftTo (Environment.empty.set "REDIS_PORT" "70000"))
          (.topology (.standalone 0)) "port" = .ok (.value (.int 70000)) ∧
      Attribute.read (World.serverLeftTo (Environment.empty.set "REDIS_PORT" "70000"))
          (.topology (.standalone 0)) "node" = .error (.portOutOfRange 70000) := by
  have hn : (Environment.empty.set "REDIS_PORT" "70000").integer? "REDIS_PORT" = some 70000 := by
    decide
  have hinvalid : ¬ ValidPort (.int 70000) := by
    rw [validPort_int_iff]
    omega
  have hfar : (Environment.empty.set "REDIS_PORT" "70000").WritesFarPort 70000 :=
    ⟨Environment.integer?_eq_some_iff.mp hn, by omega, hinvalid⟩
  refine ⟨rfl, hinvalid, ?_, read_node_of_far rfl rfl hfar⟩
  rw [read_port_left (k := 0) (x := .topology (.standalone 0)) rfl rfl]
  exact congrArg (fun p => Except.ok (Item.value (.int p)))
    (Environment.environmentPort_of_far hfar)

end RedisLink
