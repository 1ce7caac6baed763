/-
RedisLink.Proofs.Translation — the client that is built from a topology.

A start without a client translates the topology in use into URIs, and the
client is aimed at them. `Buildable` is the exact condition under which that
succeeds, once the timeout of commands can be read: always for a single server,
for a cluster if its nodes can be read and there are some, for a master under
sentinels if it also has a name. `Built` says what the client looks like then:
its URIs stand for the nodes in order, and everything else in them is what the
deployment and its settings read at that moment. Otherwise the start fails with
a bad value and changes nothing.

`Translation` puts this together with what does not matter: host and port of
the placeholder of a single server, when another topology is in use.
-/
import RedisLink.Session.Attribute

namespace RedisLink

/-! ## Nodes that cannot be read are bad values -/

theorem Node.make_error {host port : Value} {e : Failure} (h : Node.make host port = .error e) :
    e.category = .badValue := by
  unfold Node.make at h
  split at h
  · split at h
    · split at h
      · cases h
      · cases h; rfl
    · cases h; rfl
  · cases h; rfl

theorem Node.parse_error {s : String} {e : Failure} (h : Node.parse s = .error e) :
    e.category = .badValue := by
  unfold Node.parse at h
  split at h
  · cases h; rfl
  · split at h
    · exact Node.make_error h
    · cases h; rfl

theorem Node.readInto_texts_error {α : Type} (f : α → String) {e : Failure} : ∀ {parts : List α}
    {nodes : List Node}, Node.readInto nodes (parts.map fun part => .text (f part)) = .error e →
    e.category = .badValue
  | [], nodes, h => by cases h
  | part :: rest, nodes, h => by
    simp only [List.map_cons, Node.readInto, Node.ofValue] at h
    split at h
    · exact Node.readInto_texts_error f h
    · rename_i hpart
      cases h
      exact Node.parse_error hpart

/-- Nodes are left unread only because a variable names none that are nodes. -/
theorem NodeSetting.readIn_error {setting : NodeSetting} {env : Environment} {name : String}
    {e : Failure} (h : setting.readIn env name = .error e) : e.category = .badValue := by
  unfold NodeSetting.readIn at h
  split at h
  · cases h
  · exact Node.readInto_texts_error String.ofList h

/-! ## What a client is made from -/

/-- Settings read in one world as others do in another. -/
structure SettingsRef.Alike (ref other : SettingsRef) (w v : World) : Prop where
  useSsl : other.useSsl v = ref.useSsl w
  verifyPeer : other.verifyPeer v = ref.verifyPeer w
  startTls : other.startTls v = ref.startTls w
  options : other.options v = ref.options w
  resources : other.resources v = ref.resources w
  timeout : ∀ name, other.timeout name v = ref.timeout name w

/-- Settings that cannot be changed read the same in every world. -/
theorem SettingsRef.alike_fixed (frozen : Shared Settings) (w v : World) :
    (SettingsRef.fixed frozen).Alike (.fixed frozen) w v :=
  ⟨rfl, rfl, rfl, rfl, rfl, fun name => by cases name <;> rfl⟩

/-- What has been set of the credentials of a topology. -/
def Topology.credentials : Topology → Credentials
  | .standalone s => s.credentials
  | .sentinels s => s.credentials
  | .cluster c => c.credentials

/-- The topology of a deployment as it is now. -/
def Deployment.topologyIn (d : Deployment) (w : World) : Topology :=
  match d.role with
  | .standalone => .standalone (w.standalones.get d.standalone)
  | .sentinels m => .sentinels (w.sentinels.get m)
  | .cluster m => .cluster (w.clusters.get m)

namespace Deployment

section

variable {d other : Deployment} {w v : World}

theorem credentialsOf_topology (d : Deployment) (w : World) :
    w.credentialsOf d.topology = (d.topologyIn w).credentials := by
  unfold topology topologyIn
  cases d.role <;> rfl

theorem isCluster_eq (d : Deployment) (w : World) :
    d.isCluster = (d.topologyIn w matches .cluster _) := by
  unfold isCluster topologyIn
  cases d.role <;> rfl

theorem underSentinels_eq (d : Deployment) (w : World) :
    d.underSentinels = (d.topologyIn w matches .sentinels _) := by
  unfold underSentinels topologyIn
  cases d.role <;> rfl

theorem uri_congr (env : v.env = w.env) (topology : other.topologyIn v = d.topologyIn w)
    (settings : d.settings.Alike other.settings w v) (host port : Value) :
    other.uri host port v = d.uri host port w := by
  unfold uri TopologyRef.password TopologyRef.database
  rw [settings.timeout, settings.useSsl, settings.verifyPeer, settings.startTls,
    credentialsOf_topology, credentialsOf_topology, topology, env]

/-- Deployments with the same topology whose settings read alike make the same URIs. -/
theorem uris_congr (env : v.env = w.env) (topology : other.topologyIn v = d.topologyIn w)
    (settings : d.settings.Alike other.settings w v) : other.uris v = d.uris w := by
  have huri := uri_congr env topology settings
  unfold topologyIn at topology
  unfold uris host port
  cases hd : d.role <;> cases hother : other.role <;>
    simp only [hd, hother, reduceCtorEq, Topology.standalone.injEq, Topology.sentinels.injEq,
      Topology.cluster.injEq] at topology
  case standalone.standalone => simp only [topology, env, huri]
  case sentinels.sentinels => simp only [topology, env, huri]
  case cluster.cluster => simp only [topology, env, huri]

end

/-! ## What a start should do -/

/-- Whether a client can be built, once the timeout can be read. -/
def Buildable (d : Deployment) (w : World) : Prop :=
  match d.role with
  | .standalone => True
  | .cluster m => ∃ nodes, (w.clusters.get m).clusterNodesIn w.env = .ok nodes ∧ nodes ≠ []
  | .sentinels m => ((w.sentinels.get m).masterIn w.env).truthy = true ∧
      ∃ nodes, (w.sentinels.get m).sentinelsIn w.env = .ok nodes ∧ nodes ≠ []

/-- A URI holds what the deployment of a number and its settings read. -/
structure Reads (n : Nat) (w : World) (u : Uri) : Prop where
  password : Attribute.read w (.deployment n) "password" = .ok (.value u.password)
  database : Attribute.read w (.deployment n) "database" = .ok (.value u.database)
  ssl : Attribute.read w (.deployment n) "use_ssl" = .ok (.value u.ssl)
  verifyPeer : Attribute.read w (.deployment n) "verify_peer" = .ok (.value u.verifyPeer)
  startTls : Attribute.read w (.deployment n) "start_tls" = .ok (.value u.startTls)
  timeout : ∃ settings, Attribute.read w (.deployment n) "client_configuration" = .ok settings ∧
    Attribute.read w settings "timeout" = .ok (.value u.timeout)

/-- URIs stand for the topology in use: one for each node of a cluster, in order; one for a master,
aimed at the first sentinel; one for a single server. -/
def StandFor (n : Nat) (w : World) (us : List Uri) : Prop :=
  match (w.deployments.get n).role with
  | .cluster m => ∃ nodes, (w.clusters.get m).clusterNodesIn w.env = .ok nodes ∧
      us.map (fun u => (u.host, u.port)) = nodes.map fun node => (node.host, Value.int node.port)
  | .sentinels m => ∃ first others u,
      (w.sentinels.get m).sentinelsIn w.env = .ok (first :: others) ∧ us = [u] ∧
        u.host = first.host ∧ u.port = .int first.port ∧
        u.master = (w.sentinels.get m).masterIn w.env ∧
        u.sentinels = .tuple ((first :: others).map Node.toValue)
  | .standalone => ∃ u, us = [u] ∧
      Attribute.read w (.deployment n) "host_name" = .ok (.value u.host) ∧
      Attribute.read w (.deployment n) "port" = .ok (.value u.port)

/-- What the URIs are that a client is built from. -/
structure Aimed (n : Nat) (w : World) (us : List Uri) : Prop where
  endpoints : StandFor n w us
  reads : ∀ u ∈ us, Reads n w u
  underSentinels : ∀ u ∈ us, u.isSentinel = (w.deployments.get n).underSentinels

/-- What a client looks like that is built for the deployment of a number. -/
structure Built (n : Nat) (w : World) (c : Client) : Prop where
  kind : c.kind =
    if (w.deployments.get n).isCluster then "RedisClusterClient" else "RedisClient"
  aimed : Aimed n w (c.uris.map (·.value))

/-- What a start does when there is no client and the timeout can be read. -/
structure Translation (n : Nat) (w : World) : Prop where
  succeeds : (start n w).1 = .ok () ↔ Buildable (w.deployments.get n) w
  fails : ∀ {e}, (start n w).1 = .error e → e.category = .badValue ∧ (start n w).2 = w
  /-- The client is new. -/
  client : (start n w).1 = .ok () →
    ((start n w).2.deployments.get n).client = some w.clients.size ∧
      (start n w).2.clients.size = w.clients.size + 1
  built : (start n w).1 = .ok () → Built n w ((start n w).2.clients.get w.clients.size)
  /-- A single server has no part in the translation of another topology. -/
  placeholder : (w.deployments.get n).role ≠ .standalone → ∀ m server,
    (start n (w.setStandalone m server)).1 = (start n w).1 ∧
      (start n (w.setStandalone m server)).2.clients = (start n w).2.clients

/-! ## URIs -/

section

variable {n : Nat} {w : World}

/-- With a timeout that can be read every host and port has a URI. -/
theorem uri_reads {t : Timeout}
    (readable : (w.deployments.get n).settings.timeout .command w = .ok t)
    (host port : Value) : ∃ u, (w.deployments.get n).uri host port w = .ok u ∧ u.host = host ∧
      u.port = port ∧ u.isSentinel = false ∧ Reads n w u := by
  refine ⟨_, by unfold uri; rw [readable], rfl, rfl, rfl, rfl, rfl, rfl, rfl, rfl, ?_⟩
  refine ⟨_, rfl, ?_⟩
  cases hs : (w.deployments.get n).settings with
  | fixed s =>
    rw [hs] at readable
    cases readable
    rfl
  | live m =>
    rw [hs] at readable
    have ht : (w.live.get m).timeoutIn w.env = .ok t := readable
    show ((some (Attribute.ofTimeout ((w.live.get m).timeoutIn w.env))).getD _) = _
    rw [ht]
    rfl

theorem Reads.aimedAt {u : Uri} (h : Reads n w u) (host port : Value) :
    Reads n w (u.aimedAt host port) :=
  ⟨h.password, h.database, h.ssl, h.verifyPeer, h.startTls, h.timeout⟩

theorem map_numbered (next : Nat) (us : List Uri) :
    (numbered next us).map (·.value) = us := by
  induction us generalizing next with
  | nil => rfl
  | cons u rest ih => rw [numbered, List.map_cons, ih]

/-- The URIs of a cluster. -/
theorem uris_cluster {t : Timeout} {m : Nat} (role : (w.deployments.get n).role = .cluster m)
    (readable : (w.deployments.get n).settings.timeout .command w = .ok t) :
    (∃ e, (w.deployments.get n).uris w = .error e ∧ e.category = .badValue ∧
      ¬ Buildable (w.deployments.get n) w) ∨
    ∃ us : Uri × List Uri, (w.deployments.get n).uris w = .ok us ∧
      Buildable (w.deployments.get n) w ∧ Aimed n w (us.1 :: us.2) := by
  unfold Buildable uris
  simp only [role]
  cases hnodes : (w.clusters.get m).clusterNodesIn w.env with
  | error e =>
    refine .inl ⟨e, rfl, NodeSetting.readIn_error hnodes, ?_⟩
    rintro ⟨nodes, h, -⟩
    cases h
  | ok nodes =>
    cases nodes with
    | nil =>
      refine .inl ⟨.noClusterNodes, rfl, rfl, ?_⟩
      rintro ⟨nodes, h, hne⟩
      cases h
      exact hne rfl
    | cons first others =>
      obtain ⟨u, hu, hhost, hport, hplain, hreads⟩ :=
        uri_reads readable first.host (.int first.port)
      have haimed : ∀ v ∈ u :: others.map fun node => u.aimedAt node.host (.int node.port),
          Reads n w v ∧ v.isSentinel = false := by
        intro v hv
        rcases List.mem_cons.mp hv with rfl | hv
        · exact ⟨hreads, hplain⟩
        · obtain ⟨node, -, rfl⟩ := List.mem_map.mp hv
          exact ⟨hreads.aimedAt _ _, hplain⟩
      refine .inr ⟨(u, others.map fun node => u.aimedAt node.host (.int node.port)),
        by simp only [hu], ⟨_, rfl, List.cons_ne_nil _ _⟩, ?_, fun v hv => (haimed v hv).1, ?_⟩
      · unfold StandFor
        simp only [role]
        refine ⟨_, hnodes, ?_⟩
        simp [hhost, hport, Uri.aimedAt]
      · intro v hv
        rw [underSentinels, role]
        exact (haimed v hv).2

/-- The URI of a master under sentinels. -/
theorem uris_sentinels {t : Timeout} {m : Nat} (role : (w.deployments.get n).role = .sentinels m)
    (readable : (w.deployments.get n).settings.timeout .command w = .ok t) :
    (∃ e, (w.deployments.get n).uris w = .error e ∧ e.category = .badValue ∧
      ¬ Buildable (w.deployments.get n) w) ∨
    ∃ u, (w.deployments.get n).uris w = .ok (u, []) ∧
      Buildable (w.deployments.get n) w ∧ Aimed n w [u] := by
  unfold Buildable uris
  simp only [role]
  cases hnodes : (w.sentinels.get m).sentinelsIn w.env with
  | error e =>
    refine .inl ⟨e, rfl, NodeSetting.readIn_error hnodes, ?_⟩
    rintro ⟨-, nodes, h, -⟩
    cases h
  | ok nodes =>
    cases hmaster : ((w.sentinels.get m).masterIn w.env).truthy with
    | false => exact .inl ⟨.noMaster, rfl, rfl, fun h => by cases h.1⟩
    | true =>
      cases nodes with
      | nil =>
        refine .inl ⟨.noSentinels, rfl, rfl, ?_⟩
        rintro ⟨-, nodes, h, hne⟩
        cases h
        exact hne rfl
      | cons first others =>
        obtain ⟨u, hu, hhost, hport, -, hreads⟩ := uri_reads readable first.host (.int first.port)
        refine .inr ⟨_, by simp only [hu]; rfl, ⟨rfl, _, rfl, List.cons_ne_nil _ _⟩, ?_, ?_, ?_⟩
        · unfold StandFor
          simp only [role]
          exact ⟨first, others, _, hnodes, rfl, hhost, hport, rfl, rfl⟩
        · refine List.forall_mem_singleton.mpr ?_
          exact ⟨hreads.password, hreads.database, hreads.ssl, hreads.verifyPeer, hreads.startTls,
            hreads.timeout⟩
        · refine List.forall_mem_singleton.mpr ?_
          rw [underSentinels, role, Uri.isSentinel]
          -- a name that counts as true is there
          cases hm : (w.sentinels.get m).masterIn w.env with
          | null => rw [hm] at hmaster; cases hmaster
          | _ => rfl

/-- The URI of a single server. -/
theorem uris_standalone {t : Timeout} (role : (w.deployments.get n).role = .standalone)
    (readable : (w.deployments.get n).settings.timeout .command w = .ok t) :
    ∃ u, (w.deployments.get n).uris w = .ok (u, []) ∧
      Buildable (w.deployments.get n) w ∧ Aimed n w [u] := by
  obtain ⟨u, hu, hhost, hport, hplain, hreads⟩ := uri_reads readable
    ((w.deployments.get n).host w) ((w.deployments.get n).port w)
  refine ⟨u, ?_, ?_, ?_, ?_, ?_⟩
  · unfold uris
    simp only [role, hu]
  · unfold Buildable
    simp only [role]
  · unfold StandFor
    simp only [role]
    exact ⟨u, rfl, by rw [hhost]; rfl, by rw [hport]; rfl⟩
  · exact List.forall_mem_singleton.mpr hreads
  · refine List.forall_mem_singleton.mpr ?_
    rw [underSentinels, role, hplain]

/-! ## Clients -/

/-- A client for the URIs of a deployment. -/
theorem plan_of_uris {us : Uri × List Uri} (hus : (w.deployments.get n).uris w = .ok us)
    (haimed : Aimed n w (us.1 :: us.2))
    (hsingle : (w.deployments.get n).isCluster = false → us.2 = []) :
    ∃ c, (w.deployments.get n).plan w = .ok c ∧ Built n w c := by
  refine ⟨_, by unfold plan; rw [hus], ?_, ?_⟩
  · cases hc : (w.deployments.get n).isCluster <;> simp [Client.fresh, Client.kind]
  · cases hc : (w.deployments.get n).isCluster with
    | true => simpa [Client.fresh, Client.uris, map_numbered] using haimed
    | false =>
      rw [hsingle hc] at haimed
      simpa [Client.fresh, Client.uris] using haimed

/-- A client can be planned just when it is buildable; otherwise a value is bad. -/
theorem plan_cases {t : Timeout}
    (readable : (w.deployments.get n).settings.timeout .command w = .ok t) :
    (∃ e, (w.deployments.get n).plan w = .error e ∧ e.category = .badValue ∧
      ¬ Buildable (w.deployments.get n) w) ∨
    ∃ c, (w.deployments.get n).plan w = .ok c ∧ Buildable (w.deployments.get n) w ∧
      Built n w c := by
  have hplan : ∀ {e}, (w.deployments.get n).uris w = .error e →
      (w.deployments.get n).plan w = .error e := by
    intro e he
    unfold plan
    rw [he]
  cases role : (w.deployments.get n).role with
  | standalone =>
    obtain ⟨u, hu, hbuildable, haimed⟩ := uris_standalone role readable
    obtain ⟨c, hc, hbuilt⟩ := plan_of_uris hu haimed fun _ => rfl
    exact .inr ⟨c, hc, hbuildable, hbuilt⟩
  | sentinels m =>
    obtain ⟨e, he, hbad, hno⟩ | ⟨u, hu, hbuildable, haimed⟩ := uris_sentinels role readable
    · exact .inl ⟨e, hplan he, hbad, hno⟩
    · obtain ⟨c, hc, hbuilt⟩ := plan_of_uris hu haimed fun _ => rfl
      exact .inr ⟨c, hc, hbuildable, hbuilt⟩
  | cluster m =>
    obtain ⟨e, he, hbad, hno⟩ | ⟨us, hus, hbuildable, haimed⟩ := uris_cluster role readable
    · exact .inl ⟨e, hplan he, hbad, hno⟩
    · have hcluster : (w.deployments.get n).isCluster = true := by rw [isCluster, role]
      obtain ⟨c, hc, hbuilt⟩ := plan_of_uris hus haimed fun h => by rw [hcluster] at h; cases h
      exact .inr ⟨c, hc, hbuildable, hbuilt⟩

/-- A single server that is not in use has no part in a plan. -/
theorem plan_setStandalone {d : Deployment} (role : d.role ≠ .standalone) (m : Nat)
    (server : Standalone) : d.plan (w.setStandalone m server) = d.plan w := by
  have htopology : d.topologyIn (w.setStandalone m server) = d.topologyIn w := by
    unfold topologyIn
    cases hrole : d.role with
    | standalone => exact absurd hrole role
    | _ => rfl
  have huris : d.uris (w.setStandalone m server) = d.uris w :=
    uris_congr rfl htopology ⟨rfl, rfl, rfl, rfl, rfl, fun _ => rfl⟩
  unfold plan
  rw [huris]
  rfl

/-! ## A start -/

theorem start_of_error {e : Failure} (absent : (w.deployments.get n).client = none)
    (hplan : (w.deployments.get n).plan w = .error e) : start n w = (.error e, w) := by
  simp only [start, absent, hplan]

theorem start_of_plan {c : Client} (absent : (w.deployments.get n).client = none)
    (hplan : (w.deployments.get n).plan w = .ok c) : (start n w).1 = .ok () ∧
      ((start n w).2.deployments.get n).client = some w.clients.size ∧
      (start n w).2.clients = w.clients.add c := by
  simp [start, absent, hplan, World.record, World.setDeployment]

/-- A single server that is not in use has no part in a start. -/
theorem start_setStandalone (absent : (w.deployments.get n).client = none)
    (role : (w.deployments.get n).role ≠ .standalone) (m : Nat) (server : Standalone) :
    (start n (w.setStandalone m server)).1 = (start n w).1 ∧
      (start n (w.setStandalone m server)).2.clients = (start n w).2.clients := by
  have hplan := plan_setStandalone (w := w) role m server
  have absent' : ((w.setStandalone m server).deployments.get n).client = none := absent
  cases hp : (w.deployments.get n).plan w with
  | error e =>
    rw [start_of_error absent hp, start_of_error absent' (hplan.trans hp)]
    exact ⟨rfl, rfl⟩
  | ok c =>
    obtain ⟨hok, -, hclients⟩ := start_of_plan absent hp
    obtain ⟨hok', -, hclients'⟩ := start_of_plan absent' (hplan.trans hp)
    exact ⟨hok'.trans hok.symm, hclients'.trans hclients.symm⟩

/-- A start without a client translates the topology, if the timeout can be read. -/
theorem start_translates (absent : (w.deployments.get n).client = none)
    (readable : ∃ t, (w.deployments.get n).settings.timeout .command w = .ok t) :
    Translation n w := by
  obtain ⟨t, readable⟩ := readable
  obtain ⟨e, hp, hbad, hno⟩ | ⟨c, hp, hbuildable, hbuilt⟩ := plan_cases readable
  · have hstart := start_of_error absent hp
    have hfailed : (start n w).1 ≠ .ok () := by
      rw [hstart]
      intro h
      cases h
    constructor
    · exact ⟨fun h => absurd h hfailed, fun h => absurd h hno⟩
    · intro e' he'
      rw [hstart, Except.error.injEq] at he'
      exact ⟨he' ▸ hbad, by rw [hstart]⟩
    · exact fun h => absurd h hfailed
    · exact fun h => absurd h hfailed
    · exact start_setStandalone absent
  · obtain ⟨hok, hclient, hclients⟩ := start_of_plan absent hp
    constructor
    · exact ⟨fun _ => hbuildable, fun _ => hok⟩
    · intro e he
      rw [hok] at he
      cases he
    · intro _
      exact ⟨hclient, by rw [hclients, Store.size_add]⟩
    · intro _
      rw [hclients, Store.get_add_size]
      exact hbuilt
    · exact start_setStandalone absent

end

/-- A world in which a deployment for a cluster of two nodes has just been made. -/
def clusterOfTwo : World :=
  (make (some (.cluster 0)) (.live 0) {
    World.initial .empty ClassPath.modules default with
    clusters := Store.empty.add ⟨.unset, ⟨some
      [⟨.text "10.0.0.1", 7000, rfl, by decide⟩, ⟨.text "10.0.0.2", 7001, rfl, by decide⟩]⟩⟩ }).2

theorem start_translates_clusterOfTwo :
    (clusterOfTwo.deployments.get 0).client = none ∧
      (∃ t, (clusterOfTwo.deployments.get 0).settings.timeout .command clusterOfTwo = .ok t) ∧
      (start 0 clusterOfTwo).1 = .ok () ∧ Translation 0 clusterOfTwo :=
  ⟨rfl, ⟨_, rfl⟩, rfl, start_translates rfl ⟨_, rfl⟩⟩

end Deployment

end RedisLink
