/-
RedisLink.Proofs.Ports — explicit ports, from the ways in to what is made of
them.

A node has a port from 1 to 65535, but a single server may hold any port. Four
ways lead in. Making a server keeps the port that is given as it is, whatever
it is; the two setters turn it into an integer and look no further; a URL gives
an integer in range from its authority and a text from its query. So a port is
right when it is read only if what came in was right: `PortsKept`.

The port of a server at the end of a run is what came in last
(`Change.entered`, `port_run`), as it is with every setting of a topology. A port
out of range shows when the node is asked for, which fails, and does not show
when a client is built: its URI has the port as it is.
-/
import RedisLink.Proofs.Topologies.Writes
import RedisLink.Proofs.Translation
import RedisLink.Proofs.Urls

namespace RedisLink

/-! ## 1. Ports of nodes -/

/-- A port that a node can have. -/
def ValidPort (v : Value) : Prop := ∃ p : Int, v = .int p ∧ 1 ≤ p ∧ p ≤ 65535

theorem validPort_int_iff {p : Int} : ValidPort (.int p) ↔ 1 ≤ p ∧ p ≤ 65535 := by
  simp [ValidPort]

/-- With a host that is not empty, the port decides whether there is a node. -/
theorem Node.make_isOk {host port : Value} (present : host.truthy = true) :
    (∃ node, Node.make host port = .ok node) ↔ ValidPort port := by
  unfold Node.make
  rw [dif_pos present]
  constructor
  · rintro ⟨node, h⟩
    split at h
    · rename_i p
      split at h
      · exact ⟨p, rfl, by omega, by omega⟩
      · cases h
    · cases h
  · rintro ⟨p, rfl, hlow, hhigh⟩
    have hp : 0 < p.toNat ∧ p.toNat < 65536 := by omega
    exact ⟨_, dif_pos hp⟩

theorem Value.orElse_of_ne_null {v : Value} (h : v ≠ .null) (other : Value) :
    v.orElse other = v := by
  cases v with
  | null => exact absurd rfl h
  | _ => rfl

/-! ## 2. The ways in -/

namespace Url

theorem readPort_le {text : List Char} {p : Nat} (h : readPort text = .ok (some p)) :
    p ≤ 65535 := by
  unfold readPort at h
  split at h
  · cases h
  · split at h
    · split at h
      · cases h
      · dsimp only at h
        split at h
        · rename_i hle
          cases h
          exact hle
        · cases h
    · cases h

/-- The text that the query of a URL gives for a name. -/
def queryText (url name : String) : Option String :=
  (splitScheme url.toList).bind fun target =>
    fieldText (queryFields (split target.2).query) name

/-- The port of a URL comes from its authority and is in range, or from its query as it is written
there. -/
theorem Target.ofUrl_port {url : String} {t : Target} (h : Target.ofUrl url = .ok t) :
    ValidPort t.port ∨ t.port = Standalone.optionalText (queryText url "port") := by
  unfold queryText
  cases Target.reading_of_ofUrl h with
  | socket splits =>
    rw [splits]
    exact .inr rfl
  | @network scheme rest port splits _ readable =>
    rw [splits]
    match port, readable with
    | some (p + 1), readable =>
      have := readPort_le readable
      exact .inl ⟨p + 1, rfl, by omega, by omega⟩
    | some 0, _ => exact .inr rfl
    | none, _ => exact .inr rfl

end Url

theorem Standalone.ofUrl_port {url : String} {s : Standalone} (h : ofUrl url = .ok s) :
    ValidPort s.port ∨ s.port = optionalText (Url.queryText url "port") := by
  obtain ⟨t, ht, hholds⟩ := holds_of_ofUrl h
  rw [hholds.port]
  exact Url.Target.ofUrl_port ht

/-- An item whose port is that of the single server of a number. -/
def Item.HasPort (k : Nat) (w : World) : Item → Prop
  | .topology (.standalone m) => m = k
  | .deployment n => (w.deployments.get n).standalone = k
  | _ => False

/-- What is written is the integer that the setter makes of the port, if it makes one. -/
theorem Standalone.keep_setPort (w : World) (m : Nat) (given : Value) :
    (match (w.standalones.get m).setPort given with
      | .ok s => ((.ok (), w.setStandalone m s) : Except Failure Unit × World)
      | .error e => (.error e, w)) = match given.toInteger with
        | .ok p => (.ok (), w.setStandalone m { w.standalones.get m with port := .int p })
        | .error e => (.error e, w) := by
  unfold Standalone.setPort
  cases given.toInteger <;> rfl

/-- Both setters turn what they are given into an integer, or leave everything as it is. -/
theorem write_port {k : Nat} {w : World} {x : Item} (h : x.HasPort k w) (given : Item) :
    Attribute.write x "port" given w = match (given.toValue w).toInteger with
      | .ok p => (.ok (), w.setStandalone k { w.standalones.get k with port := .int p })
      | .error e => (.error e, w) := by
  cases x with
  | topology ref =>
    cases ref with
    | standalone m =>
      obtain rfl : m = k := h
      exact Standalone.keep_setPort w m (given.toValue w)
    | _ => cases h
  | deployment n =>
    obtain rfl : (w.deployments.get n).standalone = k := h
    exact Standalone.keep_setPort w _ (given.toValue w)
  | _ => cases h

/-! ## 3. The port that came in last -/

/-- The port that a write puts in for the server of a number, if it puts one in. -/
def Change.entered (k : Nat) (w : World) : Change → Option Value
  | .deployment m (.port given) =>
    if (w.deployments.get m).standalone = k then given.toInteger.toOption.map .int else none
  | .topology ref name given =>
    if ref = .standalone k ∧ name = "port" then given.toInteger.toOption.map .int else none
  | .resetTopology ref => if ref = .standalone k then some .null else none
  | _ => none

/-- The port that an operation puts in. -/
def Deployment.Moment.entered (k : Nat) (m : Deployment.Moment) : Option Value :=
  match m.operation with
  | .call (.change c) => c.entered k m.before
  | _ => none

/-- The ports that a history has put in for the server of a number, in order. -/
def Deployment.History.entered (h : Deployment.History) (k : Nat) : List Value :=
  h.filterMap (Deployment.Moment.entered k)

theorem World.setStandalone_port {w : World} {j k : Nat} (s : Standalone) :
    ((w.setStandalone j s).standalones.get k).port =
      if j = k then s.port else (w.standalones.get k).port := by
  by_cases hj : j = k
  · subst hj
    simp [setStandalone]
  · simp [setStandalone, Store.get_set_of_ne _ _ (Ne.symm hj), hj]

/-- The port is one of the settings of the server. -/
theorem Change.entered_eq (c : Change) (k : Nat) (w : World) :
    c.entered k w = c.enters (.port k) w := by
  cases c with
  | deployment m entry =>
    cases entry with
    | port given =>
      show _ = if TopologySetting.port _ = .port k then _ else none
      simp only [entered, TopologySetting.port.injEq, TopologySetting.takes]
    | _ => rfl
  | topology ref name given =>
    simp only [enters_topology, TopologySetting.named?_eq_some_iff, TopologySetting.owner,
      TopologySetting.name, entered, TopologySetting.takes]
  | resetTopology ref =>
    simp only [entered, enters, TopologySetting.owner, eq_comm]
  | _ => rfl

namespace Deployment

theorem Moment.entered_eq (m : Moment) (k : Nat) : m.entered k = m.enters (.port k) := by
  obtain ⟨before, op, answer, after⟩ := m
  cases op with
  | call c =>
    cases c with
    | change c => exact c.entered_eq k before
    | _ => rfl
  | _ => rfl

/-- At the end of a run a server has the port that came in last, else the one it began with. -/
theorem port_run (n : Nat) (w : World) (ops : List Operation) (k : Nat) :
    ((run n w ops).standalones.get k).port =
      ((History.entered (trace n w ops) k).getLast?).getD (w.standalones.get k).port := by
  have hentered : History.entered (trace n w ops) k = History.enters (trace n w ops) (.port k) :=
    congrArg (fun f => List.filterMap f _) (funext fun m => m.entered_eq k)
  rw [hentered]
  exact explicit_run n w ops (.port k)

end Deployment

/-! ## 4. What is made of a port -/

/-- What becomes of the explicit port of the server of a number. -/
structure PortsKept (k : Nat) (w : World) : Prop where
  /-- A server is made with the port as it is given, and could be made with any other. -/
  made : ∀ host port password database s, Standalone.make host port password database = .ok s →
    s.port = port ∧ ∀ other, Standalone.make host other password database =
      .ok { s with port := other }
  /-- From the authority of a URL a port is in range; from its query it is a text. -/
  url : ∀ url s, Standalone.ofUrl url = .ok s →
    ValidPort s.port ∨ s.port = Standalone.optionalText (Url.queryText url "port")
  /-- Both setters put in an integer, or change nothing. -/
  written : ∀ x, x.HasPort k w → ∀ given,
    Attribute.write x "port" given w = match (given.toValue w).toInteger with
      | .ok p => (.ok (), w.setStandalone k { w.standalones.get k with port := .int p })
      | .error e => (.error e, w)
  /-- So they check a port just when what is given is no integer out of range. -/
  checked : ∀ x, x.HasPort k w → ∀ given,
    ((∃ e, Attribute.write x "port" given w = (.error e, w)) ∨
        (Attribute.write x "port" given w).1 = .ok () ∧
          ValidPort ((Attribute.write x "port" given w).2.standalones.get k).port) ↔
      ∀ p, (given.toValue w).toInteger = .ok p → ValidPort (.int p)
  /-- In every run the port is what came in last. -/
  lasting : ∀ n ops, ((Deployment.run n w ops).standalones.get k).port =
    ((Deployment.History.entered (Deployment.trace n w ops) k).getLast?).getD
      (w.standalones.get k).port
  /-- So it is right if everything that came in was right. -/
  validated : ∀ n ops, ((w.standalones.get k).port = .null ∨ ValidPort (w.standalones.get k).port) →
    (∀ p ∈ Deployment.History.entered (Deployment.trace n w ops) k, p = .null ∨ ValidPort p) →
      ((Deployment.run n w ops).standalones.get k).port = .null ∨
        ValidPort ((Deployment.run n w ops).standalones.get k).port
  /-- An explicit port reads as it is. -/
  read : ∀ x, x.HasPort k w → (w.standalones.get k).port ≠ .null →
    Attribute.read w x "port" = .ok (.value (w.standalones.get k).port)
  /-- The node is where it is checked. -/
  node : (w.standalones.get k).port ≠ .null →
    ((w.standalones.get k).hostIn w.env).truthy = true →
      ((∃ node, Attribute.read w (.topology (.standalone k)) "node" = .ok node) ↔
        ValidPort (w.standalones.get k).port)
  /-- A start does not check it: the client is built, and its URI has the port as it is. -/
  started : ∀ n, (w.deployments.get n).role = .standalone → (w.deployments.get n).standalone = k →
    (w.standalones.get k).port ≠ .null → (w.deployments.get n).client = none →
      (∃ t, (w.deployments.get n).settings.timeout .command w = .ok t) →
        (Deployment.start n w).1 = .ok () ∧
          ∃ u, ((Deployment.start n w).2.clients.get w.clients.size).uris.map (·.value) = [u] ∧
            u.port = (w.standalones.get k).port

section

variable {k : Nat} {w : World}

theorem Standalone.make_any_port {host port password database : Value} {s : Standalone}
    (h : make host port password database = .ok s) :
    s.port = port ∧ ∀ other, make host other password database = .ok { s with port := other } := by
  obtain ⟨c, hc, rfl⟩ := make_eq_ok_iff.mp h
  exact ⟨rfl, fun other => make_eq_ok_iff.mpr ⟨c, hc, rfl⟩⟩

theorem write_port_checked {x : Item} (h : x.HasPort k w) (given : Item) :
    ((∃ e, Attribute.write x "port" given w = (.error e, w)) ∨
        (Attribute.write x "port" given w).1 = .ok () ∧
          ValidPort ((Attribute.write x "port" given w).2.standalones.get k).port) ↔
      ∀ p, (given.toValue w).toInteger = .ok p → ValidPort (.int p) := by
  rw [write_port h given]
  cases (given.toValue w).toInteger with
  | error e => exact ⟨fun _ p hp => (by cases hp), fun _ => .inl ⟨e, rfl⟩⟩
  | ok p =>
    simp only [World.setStandalone_port, if_true]
    constructor
    · rintro (⟨e, he⟩ | ⟨-, hvalid⟩) q hq
      · cases he
      · cases hq
        exact hvalid
    · intro hvalid
      exact .inr ⟨trivial, hvalid p rfl⟩

/-- A port is read from what is set, else from the environment. -/
theorem read_port_in {x : Item} (h : x.HasPort k w) :
    Attribute.read w x "port" = .ok (.value ((w.standalones.get k).portIn w.env)) := by
  cases x with
  | topology ref =>
    cases ref with
    | standalone m =>
      obtain rfl : m = k := h
      rfl
    | _ => cases h
  | deployment n =>
    obtain rfl : (w.deployments.get n).standalone = k := h
    rfl
  | _ => cases h

theorem read_port {x : Item} (h : x.HasPort k w) (explicit : (w.standalones.get k).port ≠ .null) :
    Attribute.read w x "port" = .ok (.value (w.standalones.get k).port) := by
  rw [read_port_in h, Standalone.portIn, Value.orElse_of_ne_null explicit]

/-- The node is made of the host and the port that are read. -/
theorem read_node_in (k : Nat) (w : World) :
    Attribute.read w (.topology (.standalone k)) "node" =
      (Node.make ((w.standalones.get k).hostIn w.env) ((w.standalones.get k).portIn w.env)).map
        fun node => .value node.toValue :=
  rfl

theorem read_node_isOk (present : ((w.standalones.get k).hostIn w.env).truthy = true) :
    (∃ node, Attribute.read w (.topology (.standalone k)) "node" = .ok node) ↔
      ValidPort ((w.standalones.get k).portIn w.env) := by
  rw [read_node_in, ← Node.make_isOk present]
  cases Node.make ((w.standalones.get k).hostIn w.env) ((w.standalones.get k).portIn w.env) with
  | error e => simp [Except.map]
  | ok node => simp [Except.map]

theorem read_node (explicit : (w.standalones.get k).port ≠ .null)
    (present : ((w.standalones.get k).hostIn w.env).truthy = true) :
    (∃ node, Attribute.read w (.topology (.standalone k)) "node" = .ok node) ↔
      ValidPort (w.standalones.get k).port := by
  rw [read_node_isOk present, Standalone.portIn, Value.orElse_of_ne_null explicit]

/-- A start builds a client whose URI has the port that is read, whatever it is. -/
theorem start_port_in {n : Nat} (role : (w.deployments.get n).role = .standalone)
    (absent : (w.deployments.get n).client = none)
    (readable : ∃ t, (w.deployments.get n).settings.timeout .command w = .ok t) :
    (Deployment.start n w).1 = .ok () ∧
      ∃ u, ((Deployment.start n w).2.clients.get w.clients.size).uris.map (·.value) = [u] ∧
        u.port = (w.standalones.get (w.deployments.get n).standalone).portIn w.env := by
  have htranslation := Deployment.start_translates absent readable
  have hbuildable : Deployment.Buildable (w.deployments.get n) w := by
    unfold Deployment.Buildable
    simp only [role]
  have hok := htranslation.succeeds.mpr hbuildable
  have hstand := (htranslation.built hok).aimed.endpoints
  unfold Deployment.StandFor at hstand
  simp only [role] at hstand
  obtain ⟨u, huris, -, hport⟩ := hstand
  rw [read_port_in (x := .deployment n) rfl, Except.ok.injEq, Item.value.injEq] at hport
  exact ⟨hok, u, huris, hport.symm⟩

theorem start_port {n : Nat} (role : (w.deployments.get n).role = .standalone)
    (explicit : (w.standalones.get (w.deployments.get n).standalone).port ≠ .null)
    (absent : (w.deployments.get n).client = none)
    (readable : ∃ t, (w.deployments.get n).settings.timeout .command w = .ok t) :
    (Deployment.start n w).1 = .ok () ∧
      ∃ u, ((Deployment.start n w).2.clients.get w.clients.size).uris.map (·.value) = [u] ∧
        u.port = (w.standalones.get (w.deployments.get n).standalone).port := by
  rw [← Value.orElse_of_ne_null explicit (.int (Standalone.environmentPort w.env))]
  exact start_port_in role absent readable

end

/-- Explicit ports are kept as they come in; they are checked for the node of a server alone. -/
theorem explicit_ports_kept (k : Nat) (w : World) : PortsKept k w := by
  constructor
  case made => exact fun host port password database s => Standalone.make_any_port
  case url => exact fun url s => Standalone.ofUrl_port
  case written => exact fun x hx given => write_port hx given
  case checked => exact fun x hx given => write_port_checked hx given
  case lasting => exact fun n ops => Deployment.port_run n w ops k
  case validated =>
    intro n ops hbegun hentered
    rw [Deployment.port_run]
    cases hlast : (Deployment.History.entered (Deployment.trace n w ops) k).getLast? with
    | none => exact hbegun
    | some p => exact hentered p (List.mem_of_getLast? hlast)
  case read => exact fun x hx explicit => read_port hx explicit
  case node => exact read_node
  case started =>
    rintro n role rfl explicit absent readable
    exact start_port role explicit absent readable

/-- A world with one server that has a valid port. -/
def World.oneServer : World :=
  { World.initial .empty ClassPath.modules default with
    standalones := Store.empty.add ⟨.unset, .text "h", .int 6380, .bool false⟩ }

/-- A setter accepts a port that no node can have, and then there is none. -/
theorem zero_port_accepted :
    Attribute.write (.topology (.standalone 0)) "port" (.value (.int 0)) World.oneServer =
        (.ok (), World.oneServer.setStandalone 0 ⟨.unset, .text "h", .int 0, .bool false⟩) ∧
      Attribute.read
          (World.oneServer.setStandalone 0 ⟨.unset, .text "h", .int 0, .bool false⟩)
          (.topology (.standalone 0)) "port" = .ok (.value (.int 0)) ∧
      Attribute.read
          (World.oneServer.setStandalone 0 ⟨.unset, .text "h", .int 0, .bool false⟩)
          (.topology (.standalone 0)) "node" = .error (.portOutOfRange 0) :=
  ⟨rfl, rfl, rfl⟩

end RedisLink
