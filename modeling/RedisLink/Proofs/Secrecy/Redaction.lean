/-
RedisLink.Proofs.Secrecy.Redaction — the world without its passwords.

A password is left out wherever one is kept: in the environment, in the
credentials of a topology, in a URI, also where one is given for options or for
resources, and among the keywords of a connection. In credentials and URIs only
texts are left out, since a value that is not a text is no password. What remains
is the redacted world, and two runs that differ in passwords only go through
worlds that are alike once redacted.

Nothing is read from redacted objects but what is read from the objects
themselves, apart from the password. The lemmas here say so of every kind of
object, and of the writes that put objects back.
-/
import RedisLink.Proofs.Keywords
import RedisLink.Deployment.Lifecycle
import RedisLink.Session.Item

namespace RedisLink

/-! ## 1. What is left out -/

/-- A value that may be a password: texts are left out. -/
def Value.masked : Value → Value
  | .text _ => .null
  | v => v

/-- The environment without the password. -/
def Environment.redacted (env : Environment) : Environment := env.unset "REDIS_PASSWORD"

/-- Credentials without the password. -/
def Credentials.redacted (c : Credentials) : Credentials := { c with password := c.password.masked }

/-- A single server without its password. -/
def Standalone.redacted (s : Standalone) : Standalone :=
  { s with credentials := s.credentials.redacted }

/-- A watched master without its password. -/
def Sentinels.redacted (s : Sentinels) : Sentinels :=
  { s with credentials := s.credentials.redacted }

/-- A cluster without its password. -/
def Cluster.redacted (c : Cluster) : Cluster := { c with credentials := c.credentials.redacted }

/-- A URI without its password. -/
def Uri.redacted (u : Uri) : Uri := { u with password := u.password.masked }

/-- A function of the value that an object holds; the object keeps its number. -/
def Shared.map {α β : Type} (f : α → β) (s : Shared α) : Shared β := ⟨s.number, f s.value⟩

/-- What a client is aimed at, without passwords. -/
def Aim.redacted : Aim → Aim
  | .nowhere => .nowhere
  | .single uri => .single (uri.map Uri.redacted)
  | .cluster first others => .cluster (first.map Uri.redacted) (others.map (·.map Uri.redacted))

/-- What is given as options or resources, without the password. -/
def Part.redacted : Part → Part
  | .uri u => .uri (u.map Uri.redacted)
  | p => p

/-- Settings without passwords. -/
def Settings.redacted (s : Settings) : Settings :=
  { s with options := s.options.redacted, resources := s.resources.redacted }

/-- Live settings without passwords. -/
def LiveSettings.redacted (s : LiveSettings) : LiveSettings :=
  { s with options := s.options.redacted, resources := s.resources.redacted }

/-- A builder without passwords. -/
def Builder.redacted (b : Builder) : Builder :=
  { b with options := b.options.redacted, resources := b.resources.redacted }

/-- A step of a builder without passwords. -/
def Builder.Step.redacted : Builder.Step → Builder.Step
  | .options given => .options given.redacted
  | .resources given => .resources given.redacted
  | step => step

/-- Settings of a deployment without passwords. -/
def SettingsRef.redacted : SettingsRef → SettingsRef
  | .fixed s => .fixed (s.map Settings.redacted)
  | .live n => .live n

/-- What a connection is opened from, without the password. -/
def Blueprint.redacted (b : Blueprint) : Blueprint :=
  { b with keywords := b.keywords.without "password" }

/-- A connection without the password it was opened with. -/
def Connection.redacted (c : Connection) : Connection :=
  { c with blueprint := c.blueprint.redacted }

/-- A client without passwords. -/
def Client.redacted (c : Client) : Client where
  aim := c.aim.redacted
  options := c.options.redacted
  resources := c.resources.redacted
  blocking := c.blocking.map Connection.redacted
  asynchronous := c.asynchronous.map Connection.redacted

/-- A deployment without the passwords of its settings and of the connections that are shared. -/
def Deployment.redacted (d : Deployment) : Deployment :=
  { d with
    settings := d.settings.redacted
    connection := d.connection.map Connection.redacted
    asyncConnection := d.asyncConnection.map Connection.redacted }

/-- A function of each object in a store. -/
def Store.map {α β : Type} (f : α → β) (s : Store α) : Store β := ⟨s.size, fun n => f (s.get n)⟩

/-- The world without passwords. -/
def World.redacted (w : World) : World :=
  { w with
    env := w.env.redacted
    credentials := w.credentials.map Credentials.redacted
    standalones := w.standalones.map Standalone.redacted
    sentinels := w.sentinels.map Sentinels.redacted
    clusters := w.clusters.map Cluster.redacted
    live := w.live.map LiveSettings.redacted
    builders := w.builders.map Builder.redacted
    clients := w.clients.map Client.redacted
    deployments := w.deployments.map Deployment.redacted }

mutual

/-- An item without passwords. -/
def Item.redacted : Item → Item
  | .items isTuple xs => .items isTuple (Item.redactedAll xs)
  | .uri u => .uri (u.map Uri.redacted)
  | .settings s => .settings (s.map Settings.redacted)
  | .connection c => .connection c.redacted
  | x => x

/-- Items without passwords. -/
def Item.redactedAll : List Item → List Item
  | [] => []
  | x :: rest => x.redacted :: Item.redactedAll rest

end

/-- The topology that the environment selects, without its password. -/
def Topology.redacted : Topology → Topology
  | .standalone s => .standalone s.redacted
  | .sentinels s => .sentinels s.redacted
  | .cluster c => .cluster c.redacted

/-! ## 2. Leaving out twice -/

@[simp] theorem Value.masked_masked (v : Value) : v.masked.masked = v.masked := by
  cases v <;> rfl

@[simp] theorem Environment.redacted_redacted (env : Environment) :
    env.redacted.redacted = env.redacted := by
  simp [Environment.redacted, Environment.unset]

@[simp] theorem Keywords.without_without (name : String) (keywords : Keywords) :
    Keywords.without name (Keywords.without name keywords) = Keywords.without name keywords := by
  simp [Keywords.without]

@[simp] theorem Credentials.redacted_redacted (c : Credentials) :
    c.redacted.redacted = c.redacted := by
  simp [Credentials.redacted]

@[simp] theorem Standalone.redacted_redacted (s : Standalone) :
    s.redacted.redacted = s.redacted := by
  simp [Standalone.redacted]

@[simp] theorem Sentinels.redacted_redacted (s : Sentinels) : s.redacted.redacted = s.redacted := by
  simp [Sentinels.redacted]

@[simp] theorem Cluster.redacted_redacted (c : Cluster) : c.redacted.redacted = c.redacted := by
  simp [Cluster.redacted]

@[simp] theorem Uri.redacted_redacted (u : Uri) : u.redacted.redacted = u.redacted := by
  simp [Uri.redacted]

@[simp] theorem Aim.redacted_redacted (a : Aim) : a.redacted.redacted = a.redacted := by
  cases a <;> simp [Aim.redacted, Shared.map]

@[simp] theorem Part.redacted_redacted (p : Part) : p.redacted.redacted = p.redacted := by
  cases p <;> simp [Part.redacted, Shared.map]

@[simp] theorem Settings.redacted_redacted (s : Settings) : s.redacted.redacted = s.redacted := by
  simp [Settings.redacted]

@[simp] theorem LiveSettings.redacted_redacted (s : LiveSettings) :
    s.redacted.redacted = s.redacted := by
  simp [LiveSettings.redacted]

@[simp] theorem Builder.redacted_redacted (b : Builder) : b.redacted.redacted = b.redacted := by
  simp [Builder.redacted]

@[simp] theorem SettingsRef.redacted_redacted (ref : SettingsRef) :
    ref.redacted.redacted = ref.redacted := by
  cases ref <;> simp [SettingsRef.redacted, Shared.map]

@[simp] theorem Connection.redacted_redacted (c : Connection) :
    c.redacted.redacted = c.redacted := by
  simp [Connection.redacted, Blueprint.redacted]

@[simp] theorem Connection.redacted_comp_redacted :
    Connection.redacted ∘ Connection.redacted = Connection.redacted :=
  funext Connection.redacted_redacted

@[simp] theorem Client.redacted_redacted (c : Client) : c.redacted.redacted = c.redacted := by
  simp [Client.redacted]

@[simp] theorem Deployment.redacted_redacted (d : Deployment) :
    d.redacted.redacted = d.redacted := by
  cases hb : d.connection <;> cases ha : d.asyncConnection <;> simp [Deployment.redacted, hb, ha]

@[simp] theorem World.redacted_redacted (w : World) : w.redacted.redacted = w.redacted := by
  simp [World.redacted, Store.map]

/-! ## 3. Objects without passwords, and objects in stores -/

@[simp] theorem Deployment.redacted_fresh (standalone : Nat) (role : Role)
    (settings : SettingsRef) :
    (Deployment.fresh standalone role settings).redacted =
      Deployment.fresh standalone role settings.redacted := rfl

section

variable {α β : Type} (f : α → β) (s : Store α)

@[simp] theorem Store.get_map (n : Nat) : (s.map f).get n = f (s.get n) := rfl

@[simp] theorem Store.size_map : (s.map f).size = s.size := rfl

@[simp] theorem Store.map_map_self {f : α → α} (h : ∀ x, f (f x) = f x) :
    (s.map f).map f = s.map f := by
  simp only [Store.map, h]

@[simp] theorem Store.map_set (n : Nat) (x : α) : (s.set n x).map f = (s.map f).set n (f x) := by
  simp only [Store.map, Store.set, Store.mk.injEq, true_and]
  funext m
  exact apply_ite f _ _ _

@[simp] theorem Store.map_add (x : α) : (s.add x).map f = (s.map f).add (f x) := by
  simp only [Store.map, Store.add, Store.mk.injEq, true_and]
  funext m
  exact apply_ite f _ _ _

end

/-- Results that are alike under a view are the same failure, or values that are alike. -/
theorem cases_of_map_eq {α β : Type} {f : α → β} {x y : Except Failure α}
    (h : x.map f = y.map f) :
    (∃ e, x = .error e ∧ y = .error e) ∨ ∃ a b, x = .ok a ∧ y = .ok b ∧ f a = f b := by
  cases x with
  | error e =>
    cases y with
    | error e' => exact .inl ⟨e, rfl, congrArg _ (Except.error.inj h).symm⟩
    | ok b => cases h
  | ok a =>
    cases y with
    | error e' => cases h
    | ok b => exact .inr ⟨a, b, rfl, rfl, Except.ok.inj h⟩

/-! ## 4. The environment -/

namespace Environment

variable (env : Environment)

@[simp] theorem get?_redacted {name : String} (h : name ≠ "REDIS_PASSWORD") :
    env.redacted.get? name = env.get? name :=
  get?_unset_of_ne env h

@[simp] theorem get?_redacted_password : env.redacted.get? "REDIS_PASSWORD" = none :=
  get?_unset_self env _

@[simp] theorem flag_redacted {name : String} (h : name ≠ "REDIS_PASSWORD") (other : Bool) :
    env.redacted.flag name other = env.flag name other := by
  simp [flag, h]

@[simp] theorem integer?_redacted {name : String} (h : name ≠ "REDIS_PASSWORD") :
    env.redacted.integer? name = env.integer? name := by
  simp [integer?, h]

@[simp] theorem holds_redacted {name : String} (h : name ≠ "REDIS_PASSWORD") :
    env.redacted.holds name = env.holds name := by
  simp [holds, h]

theorem redacted_set {name : String} (h : name ≠ "REDIS_PASSWORD") (text : String) :
    (env.set name text).redacted = env.redacted.set name text := by
  simp [redacted, set, unset, h, Bool.and_comm]

theorem redacted_unset (name : String) : (env.unset name).redacted = env.redacted.unset name := by
  simp [redacted, unset, Bool.and_comm]

theorem redacted_set_congr {env env' : Environment} (h : env.redacted = env'.redacted)
    (name text : String) : (env.set name text).redacted = (env'.set name text).redacted := by
  by_cases hname : name = "REDIS_PASSWORD"
  · subst hname
    simpa [redacted, set, unset] using h
  · rw [redacted_set _ hname, redacted_set _ hname, h]

@[simp] theorem redacted_set_password (text : String) :
    (env.set "REDIS_PASSWORD" text).redacted = env.redacted := by
  simp [redacted, set, unset]

@[simp] theorem redacted_unset_password : (env.unset "REDIS_PASSWORD").redacted = env.redacted :=
  redacted_redacted env

end Environment

theorem Node.ofEnvironment_redacted (env : Environment) {name : String}
    (h : name ≠ "REDIS_PASSWORD") :
    Node.ofEnvironment env.redacted name = Node.ofEnvironment env name := by
  simp [Node.ofEnvironment, h]

namespace LiveSettings

variable (s : LiveSettings) (env : Environment)

@[simp] theorem useSslIn_redacted : s.useSslIn env.redacted = s.useSslIn env := by
  simp [useSslIn]

@[simp] theorem verifyPeerIn_redacted : s.verifyPeerIn env.redacted = s.verifyPeerIn env := by
  simp [verifyPeerIn]

@[simp] theorem startTlsIn_redacted : s.startTlsIn env.redacted = s.startTlsIn env := by
  simp [startTlsIn]

@[simp] theorem timeoutIn_redacted : s.timeoutIn env.redacted = s.timeoutIn env := by
  simp [timeoutIn, environmentTimeout]

@[simp] theorem shutdownTimeoutIn_redacted :
    s.shutdownTimeoutIn env.redacted = s.shutdownTimeoutIn env := by
  simp [shutdownTimeoutIn, environmentTimeout]

@[simp] theorem useSslIn_of_redacted : s.redacted.useSslIn env = s.useSslIn env := rfl

@[simp] theorem verifyPeerIn_of_redacted : s.redacted.verifyPeerIn env = s.verifyPeerIn env := rfl

@[simp] theorem startTlsIn_of_redacted : s.redacted.startTlsIn env = s.startTlsIn env := rfl

@[simp] theorem timeoutIn_of_redacted : s.redacted.timeoutIn env = s.timeoutIn env := rfl

@[simp] theorem shutdownTimeoutIn_of_redacted :
    s.redacted.shutdownTimeoutIn env = s.shutdownTimeoutIn env := rfl

@[simp] theorem redacted_setUseSsl (given : Value) :
    (s.setUseSsl given).redacted = s.redacted.setUseSsl given := rfl

@[simp] theorem redacted_setVerifyPeer (given : Value) :
    (s.setVerifyPeer given).redacted = s.redacted.setVerifyPeer given := rfl

@[simp] theorem redacted_setStartTls (given : Value) :
    (s.setStartTls given).redacted = s.redacted.setStartTls given := rfl

theorem setTimeout_redacted (name : TimeoutName) (given : Value) :
    (s.redacted.setTimeout name given).map redacted = (s.setTimeout name given).map redacted := by
  unfold setTimeout
  cases Timeout.check name given with
  | error e => rfl
  | ok t => cases name <;> simp [Except.map, redacted]

end LiveSettings

@[simp] theorem Topology.ofEnvironment_redacted (env : Environment) :
    Topology.ofEnvironment env.redacted = Topology.ofEnvironment env := by
  unfold Topology.ofEnvironment
  rw [env.holds_redacted (by decide), env.holds_redacted (by decide), env.get?_redacted (by decide)]

/-! ## 5. Topologies -/

section

variable (env : Environment)

theorem Credentials.passwordIn_redacted (c : Credentials) :
    c.redacted.passwordIn env.redacted = (c.passwordIn env).masked := by
  obtain ⟨password, database⟩ := c
  cases password with
  | null =>
    -- the password of the environment is a text
    cases h : env.get? "REDIS_PASSWORD" <;>
      simp [Credentials.redacted, Credentials.passwordIn, Value.masked, h]
  | _ => simp [Credentials.redacted, Credentials.passwordIn, Value.masked, Value.orElse]

@[simp] theorem Credentials.databaseIn_redacted (c : Credentials) :
    c.redacted.databaseIn env.redacted = c.databaseIn env := by
  simp [Credentials.redacted, Credentials.databaseIn]

theorem Credentials.without_fieldsIn_redacted (c : Credentials) :
    Keywords.without "password" (c.redacted.fieldsIn env.redacted) =
      Keywords.without "password" (c.fieldsIn env) := by
  simp [Credentials.fieldsIn, Keywords.without]

/-- Credentials are made alike, whatever is given as a password. -/
theorem Credentials.make_masked (password database : Value) :
    (Credentials.make password.masked database).map Credentials.redacted =
      (Credentials.make password database).map Credentials.redacted := by
  have hset : (Credentials.setDatabase ⟨password.masked, none⟩ database).map Credentials.redacted =
      (Credentials.setDatabase ⟨password, none⟩ database).map Credentials.redacted := by
    unfold Credentials.setDatabase
    cases Credentials.readDatabase database <;> simp [Except.map, Credentials.redacted]
  cases database with
  | null => simp [Credentials.make, Except.map, Credentials.redacted]
  | _ => exact hset

theorem Standalone.make_masked (host port password database : Value) :
    (Standalone.make host port password.masked database).map Standalone.redacted =
      (Standalone.make host port password database).map Standalone.redacted := by
  unfold Standalone.make
  obtain ⟨e, h, h'⟩ | ⟨c, c', h, h', hc⟩ :=
    cases_of_map_eq (Credentials.make_masked password database)
  · rw [h, h']
  · rw [h, h']
    simp [Except.map, Standalone.redacted, hc]

theorem Sentinels.make_masked (master sentinels password database : Value) :
    (Sentinels.make master sentinels password.masked database).map Sentinels.redacted =
      (Sentinels.make master sentinels password database).map Sentinels.redacted := by
  unfold Sentinels.make
  obtain ⟨e, h, h'⟩ | ⟨c, c', h, h', hc⟩ :=
    cases_of_map_eq (Credentials.make_masked password database)
  · rw [h, h']
  · rw [h, h']
    cases NodeSetting.ofItems sentinels <;> simp [Except.map, Sentinels.redacted, hc]

theorem Cluster.make_masked (nodes password database : Value) :
    (Cluster.make nodes password.masked database).map Cluster.redacted =
      (Cluster.make nodes password database).map Cluster.redacted := by
  unfold Cluster.make
  obtain ⟨e, h, h'⟩ | ⟨c, c', h, h', hc⟩ :=
    cases_of_map_eq (Credentials.make_masked password database)
  · rw [h, h']
  · rw [h, h']
    cases NodeSetting.ofItems nodes <;> simp [Except.map, Cluster.redacted, hc]

@[simp] theorem Standalone.hostIn_redacted (s : Standalone) :
    s.redacted.hostIn env.redacted = s.hostIn env := by
  simp [Standalone.redacted, Standalone.hostIn]

@[simp] theorem Standalone.portIn_redacted (s : Standalone) :
    s.redacted.portIn env.redacted = s.portIn env := by
  simp [Standalone.redacted, Standalone.portIn, Standalone.environmentPort]

@[simp] theorem Standalone.nodeIn_redacted (s : Standalone) :
    s.redacted.nodeIn env.redacted = s.nodeIn env := by
  simp [Standalone.nodeIn]

@[simp] theorem Standalone.shownIn_redacted (s : Standalone) :
    s.redacted.shownIn env.redacted = s.shownIn env := by
  have hdatabase : s.redacted.credentials.databaseIn env.redacted = s.credentials.databaseIn env :=
    s.credentials.databaseIn_redacted env
  unfold Standalone.shownIn
  rw [s.hostIn_redacted, s.portIn_redacted, hdatabase]

theorem Standalone.redacted_setHost (s : Standalone) (given : Value) :
    (s.setHost given).redacted = s.redacted.setHost given := rfl

theorem Sentinels.redacted_setMaster (s : Sentinels) (given : Value) :
    (s.setMaster given).redacted = s.redacted.setMaster given := rfl

theorem Standalone.setPort_redacted (s : Standalone) (given : Value) :
    s.redacted.setPort given = (s.setPort given).map Standalone.redacted := by
  unfold Standalone.setPort
  cases given.toInteger <;> rfl

theorem Sentinels.addSentinel_redacted (s : Sentinels) (host port : Value) :
    s.redacted.addSentinel host port = (s.addSentinel host port).map Sentinels.redacted := by
  unfold Sentinels.addSentinel
  cases Node.ofArguments host port <;> rfl

theorem Cluster.addNode_redacted (c : Cluster) (host port : Value) :
    c.redacted.addNode host port = (c.addNode host port).map Cluster.redacted := by
  unfold Cluster.addNode
  cases Node.ofArguments host port <;> rfl

@[simp] theorem Sentinels.masterIn_redacted (s : Sentinels) :
    s.redacted.masterIn env.redacted = s.masterIn env := by
  simp [Sentinels.redacted, Sentinels.masterIn]

@[simp] theorem Sentinels.sentinelsIn_redacted (s : Sentinels) :
    s.redacted.sentinelsIn env.redacted = s.sentinelsIn env := by
  simp [Sentinels.redacted, Sentinels.sentinelsIn, Sentinels.environmentName, NodeSetting.readIn,
    Node.ofEnvironment_redacted]

@[simp] theorem Sentinels.shownIn_redacted (s : Sentinels) :
    s.redacted.shownIn env.redacted = s.shownIn env := by
  simp [Sentinels.shownIn]

@[simp] theorem Cluster.clusterNodesIn_redacted (c : Cluster) :
    c.redacted.clusterNodesIn env.redacted = c.clusterNodesIn env := by
  simp [Cluster.redacted, Cluster.clusterNodesIn, Cluster.environmentName, NodeSetting.readIn,
    Node.ofEnvironment_redacted]

@[simp] theorem Cluster.shownIn_redacted (c : Cluster) :
    c.redacted.shownIn env.redacted = c.shownIn env := by
  simp [Cluster.shownIn]

end

/-! ## 6. URIs -/

namespace Uri

variable (u : Uri)

@[simp] theorem socketTimeout_redacted : u.redacted.socketTimeout = u.socketTimeout := rfl

@[simp] theorem isSentinel_redacted : u.redacted.isSentinel = u.isSentinel := rfl

@[simp] theorem tlsKeywords_redacted : u.redacted.tlsKeywords = u.tlsKeywords := rfl

@[simp] theorem sentinelAddresses_redacted :
    u.redacted.sentinelAddresses = u.sentinelAddresses := rfl

@[simp] theorem text_redacted : u.redacted.text = u.text := rfl

@[simp] theorem label_redacted : u.redacted.label = u.label := rfl

@[simp] theorem shown_redacted : u.redacted.shown = u.shown := by
  simp [shown, fields, redacted]

theorem without_fields_redacted :
    Keywords.without "password" u.redacted.fields = Keywords.without "password" u.fields := by
  simp [fields, redacted, Keywords.without]

theorem redacted_aimedAt (host port : Value) :
    (u.aimedAt host port).redacted = u.redacted.aimedAt host port := rfl

/-- The password is one of the keywords of a URI or not; the others are the same. -/
theorem keywords_redacted (withDatabase : Bool) :
    (u.redacted.keywords withDatabase).map (Keywords.without "password") =
      (u.keywords withDatabase).map (Keywords.without "password") := by
  unfold keywords
  rw [socketTimeout_redacted]
  cases u.socketTimeout with
  | error e => rfl
  | ok timeout =>
    have hne : "socket_timeout" ≠ "password" := by decide
    simp only [Except.map, Keywords.without_cons_of_ne hne, Keywords.without_append,
      Keywords.without_unlessNull_self, tlsKeywords_redacted]
    rfl

end Uri

/-! ## 7. What is given as options and resources -/

namespace Part

variable (p : Part)

@[simp] theorem isNull_redacted : p.redacted.isNull = p.isNull := by
  cases p <;> rfl

@[simp] theorem truthy_redacted : p.redacted.truthy = p.truthy := by
  cases p <;> rfl

theorem truthy_congr {p p' : Part} (h : p.redacted = p'.redacted) : p.truthy = p'.truthy := by
  rw [← p.truthy_redacted, h, p'.truthy_redacted]

@[simp] theorem shown_redacted : p.redacted.shown = p.shown := by
  cases p <;> simp [redacted, shown, Shared.map]

@[simp] theorem redacted_orElse (other : Part) :
    (p.orElse other).redacted = p.redacted.orElse other.redacted := by
  unfold orElse
  rw [truthy_redacted]
  exact apply_ite redacted _ _ _

@[simp] theorem connectionClass_redacted (installed : ClassPath.Installation) (a : Bool) :
    p.redacted.connectionClass installed a = p.connectionClass installed a := by
  cases p <;> rfl

@[simp] theorem resourceKeywords_redacted (a : Bool) :
    p.redacted.resourceKeywords a = p.resourceKeywords a := by
  cases p <;> rfl

theorem optionKeywords_redacted :
    p.redacted.optionKeywords.map (Keywords.without "password") =
      p.optionKeywords.map (Keywords.without "password") := by
  cases p with
  | uri u => exact u.value.keywords_redacted true
  | _ => rfl

end Part

/-- Settings are made alike, whatever the passwords. -/
theorem Settings.make_redacted (useSsl verifyPeer startTls : Value) (options resources : Part)
    (timeout shutdownTimeout : Value) :
    make useSsl verifyPeer startTls options.redacted resources.redacted timeout shutdownTimeout =
      (make useSsl verifyPeer startTls options resources timeout shutdownTimeout).map
        Settings.redacted := by
  unfold make
  rw [Part.isNull_redacted]
  cases options.isNull with
  | true => rfl
  | false =>
    cases Timeout.check .command timeout with
    | error e => rfl
    | ok t => cases Timeout.check .shutdown shutdownTimeout <;> rfl

theorem Settings.make_congr {options options' resources resources' : Part}
    (ho : options.redacted = options'.redacted) (hr : resources.redacted = resources'.redacted)
    (useSsl verifyPeer startTls timeout shutdownTimeout : Value) :
    (make useSsl verifyPeer startTls options resources timeout shutdownTimeout).map redacted =
      (make useSsl verifyPeer startTls options' resources' timeout shutdownTimeout).map
        redacted := by
  rw [← make_redacted, ho, hr, make_redacted]

theorem LiveSettings.make_redacted (useSsl verifyPeer startTls : Value) (options resources : Part)
    (timeout shutdownTimeout : Value) :
    make useSsl verifyPeer startTls options.redacted resources.redacted timeout shutdownTimeout =
      (make useSsl verifyPeer startTls options resources timeout shutdownTimeout).map
        LiveSettings.redacted := by
  unfold make
  cases optionalTimeout .command timeout with
  | error e => rfl
  | ok t => cases optionalTimeout .shutdown shutdownTimeout <;> rfl

theorem LiveSettings.make_congr {options options' resources resources' : Part}
    (ho : options.redacted = options'.redacted) (hr : resources.redacted = resources'.redacted)
    (useSsl verifyPeer startTls timeout shutdownTimeout : Value) :
    (make useSsl verifyPeer startTls options resources timeout shutdownTimeout).map redacted =
      (make useSsl verifyPeer startTls options' resources' timeout shutdownTimeout).map
        redacted := by
  rw [← make_redacted, ho, hr, make_redacted]

/-- They are frozen alike. -/
theorem LiveSettings.freeze_redacted (s : LiveSettings) (env : Environment) :
    s.redacted.freeze env.redacted = (s.freeze env).map Settings.redacted := by
  simp only [freeze, timeoutIn_of_redacted, timeoutIn_redacted, shutdownTimeoutIn_of_redacted,
    shutdownTimeoutIn_redacted, useSslIn_of_redacted, useSslIn_redacted, verifyPeerIn_of_redacted,
    verifyPeerIn_redacted, startTlsIn_of_redacted, startTlsIn_redacted]
  cases s.timeoutIn env with
  | error e => rfl
  | ok timeout =>
    cases s.shutdownTimeoutIn env with
    | error e => rfl
    | ok shutdownTimeout => exact Settings.make_redacted _ _ _ _ _ _ _

theorem Builder.take_redacted (b : Builder) (step : Step) :
    b.redacted.take step.redacted = (b.take step).map redacted := by
  cases step with
  | options given =>
    simp only [take, Step.redacted, Part.isNull_redacted]
    cases given.isNull <;> rfl
  | resources given =>
    simp only [take, Step.redacted, Part.isNull_redacted]
    cases given.isNull <;> rfl
  | timeout given =>
    simp only [take, Step.redacted]
    cases Timeout.check .command given <;> rfl
  | shutdownTimeout given =>
    simp only [take, Step.redacted]
    cases Timeout.check .shutdown given <;> rfl
  | _ => rfl

theorem Builder.build_redacted (b : Builder) :
    b.redacted.build = b.build.map Settings.redacted :=
  Settings.make_redacted _ _ _ _ _ _ _

/-! ## 8. Clients -/

namespace Client

variable (c : Client)

@[simp] theorem aim_redacted : c.redacted.aim = c.aim.redacted := rfl

@[simp] theorem options_redacted : c.redacted.options = c.options.redacted := rfl

@[simp] theorem resources_redacted : c.redacted.resources = c.resources.redacted := rfl

@[simp] theorem kind_redacted : c.redacted.kind = c.kind := by
  obtain ⟨aim, _, _, _, _⟩ := c
  cases aim <;> rfl

@[simp] theorem openCount_redacted : c.redacted.openCount = c.openCount := by
  simp [openCount, redacted]

@[simp] theorem openAsyncCount_redacted : c.redacted.openAsyncCount = c.openAsyncCount := by
  simp [openAsyncCount, redacted]

@[simp] theorem uris_redacted : c.redacted.uris = c.uris.map (·.map Uri.redacted) := by
  obtain ⟨aim, _, _, _, _⟩ := c
  cases aim <;> rfl

@[simp] theorem shown_redacted : c.redacted.shown = c.shown := by
  obtain ⟨aim, options, resources, blocking, asynchronous⟩ := c
  cases aim with
  | cluster first others =>
    simp only [shown, redacted, Aim.redacted, uris, List.map_cons, List.map_map]
    rfl
  | _ => rfl

@[simp] theorem label_redacted : c.redacted.label = c.label := by
  simp [label]

@[simp] theorem connectedLine_redacted (a : Bool) :
    c.redacted.connectedLine a = c.connectedLine a := by
  obtain ⟨aim, _, _, _, _⟩ := c
  cases aim <;> simp [connectedLine, redacted, Aim.redacted, Shared.map]

@[simp] theorem closedLine_redacted : c.redacted.closedLine = c.closedLine := by
  have hblocking : c.redacted.blocking = c.blocking.map Connection.redacted := rfl
  simp [closedLine, hblocking]

@[simp] theorem redacted_fresh (aim : Aim) (options resources : Part) :
    (fresh aim options resources).redacted =
      fresh aim.redacted options.redacted resources.redacted := rfl

/-- Whether keywords repeat an argument does not depend on the password. -/
theorem refuseRepeated_without (callee : Value) {arguments : List String}
    (h : "password" ∉ arguments) (keywords : Keywords) :
    refuseRepeated callee arguments (Keywords.without "password" keywords) =
      refuseRepeated callee arguments keywords := by
  have hfind : (Keywords.without "password" keywords).find?
        (fun entry => arguments.contains entry.1) =
      keywords.find? fun entry => arguments.contains entry.1 := by
    rw [Keywords.without, List.find?_filter]
    congr 1
    funext entry
    by_cases hp : entry.1 = "password" <;> simp [hp, h]
  unfold refuseRepeated
  rw [hfind]

/-- The keywords of a connection but for its password do not depend on passwords. -/
theorem keywords_redacted (u : Uri) (a withDatabase : Bool) :
    (c.redacted.keywords u.redacted a withDatabase).map (Keywords.without "password") =
      (c.keywords u a withDatabase).map (Keywords.without "password") := by
  unfold keywords
  rw [resources_redacted, Part.resourceKeywords_redacted, options_redacted]
  cases c.resources.resourceKeywords a with
  | error e => rfl
  | ok resources =>
    obtain ⟨e, h, h'⟩ | ⟨own, own', h, h', hown⟩ :=
      cases_of_map_eq (u.keywords_redacted withDatabase)
    · rw [h, h']
    · rw [h, h']
      obtain ⟨e, h, h'⟩ | ⟨options, options', h, h', hoptions⟩ :=
        cases_of_map_eq c.options.optionKeywords_redacted
      · rw [h, h']
      · rw [h, h']
        simp only [Except.map, Keywords.without_update, hown, hoptions]

theorem directPlan_alike (u : Uri) (cls : Value) {k k' : Keywords}
    (h : Keywords.without "password" k = Keywords.without "password" k') :
    (directPlan u.redacted cls k).map Blueprint.redacted =
      (directPlan u cls k').map Blueprint.redacted := by
  have hrefuse :
      refuseRepeated cls ["host", "port"] k = refuseRepeated cls ["host", "port"] k' := by
    rw [← refuseRepeated_without cls (by simp) k, h, refuseRepeated_without cls (by simp)]
  unfold directPlan
  rw [hrefuse]
  cases refuseRepeated cls ["host", "port"] k' with
  | error e => rfl
  | ok _ =>
    cases cls with
    | cls c =>
      have hhost : "host" ≠ "password" := by decide
      have hport : "port" ≠ "password" := by decide
      simp only [Except.map, Blueprint.redacted, Keywords.without_cons_of_ne hhost,
        Keywords.without_cons_of_ne hport, h]
      rfl
    | _ => rfl

theorem sentinelPlan_alike (u : Uri) (cls : Value) (manager : ClassRef) {k k' : Keywords}
    (h : Keywords.without "password" k = Keywords.without "password" k') :
    (sentinelPlan u.redacted cls manager k).map Blueprint.redacted =
      (sentinelPlan u cls manager k').map Blueprint.redacted := by
  have hrefuse : refuseRepeated (.cls manager) ["sentinel_kwargs"] k =
      refuseRepeated (.cls manager) ["sentinel_kwargs"] k' := by
    rw [← refuseRepeated_without (.cls manager) (by simp) k, h,
      refuseRepeated_without (.cls manager) (by simp)]
  unfold sentinelPlan
  rw [Uri.sentinelAddresses_redacted, Uri.socketTimeout_redacted, hrefuse]
  cases u.sentinelAddresses with
  | error e => rfl
  | ok addresses =>
    cases u.socketTimeout with
    | error e => rfl
    | ok timeout =>
      cases refuseRepeated (.cls manager) ["sentinel_kwargs"] k' with
      | error e => rfl
      | ok _ => exact congrArg Except.ok (by simp only [Blueprint.redacted, h]; rfl)

theorem singlePlan_redacted (u : Uri) (a : Bool) (cls : Value) :
    (c.redacted.singlePlan u.redacted a cls).map Blueprint.redacted =
      (c.singlePlan u a cls).map Blueprint.redacted := by
  unfold singlePlan
  obtain ⟨e, h, h'⟩ | ⟨k, k', h, h', hk⟩ := cases_of_map_eq (c.keywords_redacted u a true)
  · rw [h, h']
  · rw [h, h', Uri.isSentinel_redacted]
    cases u.isSentinel with
    | false => exact directPlan_alike u cls hk
    | true => exact sentinelPlan_alike u cls _ hk

theorem clusterPlan_redacted (first : Uri) (all : List Uri) (a : Bool) :
    (c.redacted.clusterPlan first.redacted (all.map Uri.redacted) a).map Blueprint.redacted =
      (c.clusterPlan first all a).map Blueprint.redacted := by
  unfold clusterPlan
  obtain ⟨e, h, h'⟩ | ⟨k, k', h, h', hk⟩ := cases_of_map_eq (c.keywords_redacted first a false)
  · rw [h, h']
  · rw [h, h']
    simp only
    generalize (if a then ClassRef.asyncCluster else ClassRef.cluster) = cls
    have hrefuse : refuseRepeated (.cls cls) ["startup_nodes"] k =
        refuseRepeated (.cls cls) ["startup_nodes"] k' := by
      rw [← refuseRepeated_without (.cls cls) (by simp) k, hk,
        refuseRepeated_without (.cls cls) (by simp)]
    rw [hrefuse]
    cases refuseRepeated (.cls cls) ["startup_nodes"] k' with
    | error e => rfl
    | ok _ =>
      simp only [Except.map, Blueprint.redacted, hk, List.map_map]
      rfl

/-- A client reports the same and opens connections from the same, but for passwords. -/
theorem plan_redacted (installed : ClassPath.Installation) (a : Bool) :
    (c.redacted.plan installed a).1 = (c.plan installed a).1 ∧
      (c.redacted.plan installed a).2.map Blueprint.redacted =
        (c.plan installed a).2.map Blueprint.redacted := by
  have hsingle := fun u cls => c.singlePlan_redacted u a cls
  have hcluster := fun first all => c.clusterPlan_redacted first all a
  obtain ⟨aim, options, resources, blocking, asynchronous⟩ := c
  cases aim with
  | nowhere => exact ⟨rfl, rfl⟩
  | single uri =>
    simp only [plan, redacted, Aim.redacted, Part.connectionClass_redacted]
    cases options.connectionClass installed a with
    | error e => exact ⟨rfl, rfl⟩
    | ok cls => exact ⟨rfl, hsingle uri.value cls⟩
  | cluster first others =>
    refine ⟨rfl, ?_⟩
    have hall : (first.map Uri.redacted :: others.map (·.map Uri.redacted)).map (·.value) =
        ((first :: others).map (·.value)).map Uri.redacted := by
      simp [Shared.map, Function.comp_def]
    have hplan := hcluster first.value ((first :: others).map (·.value))
    rw [← hall] at hplan
    exact hplan

end Client

end RedisLink
