/-
RedisLink.Proofs.Freezing — settings frozen at a moment mean what they meant
then.

Freezing reads all settings once. Where options are given and both timeouts can be
read it succeeds, and the settings that it gives read as the live ones do at that moment
(`SettingsRef.alike_of_freeze`). A deployment looks at its settings only through
these readings, so one over the frozen settings and one over the live ones,
with the same topology, are `Counterparts`: their attributes read alike, and
their starts fail alike or build clients that differ in the numbers of their
records alone (`Client.Alike`).

The frozen settings are a record. Nothing that happens later changes what it
holds, and a deployment that has been made with it keeps it
(`Deployment.settings_run`).
-/
import RedisLink.Proofs.Immutability
import RedisLink.Proofs.Lifecycle.Moves

namespace RedisLink

/-! ## 1. Clients of the same meaning -/

/-- Two clients that differ in the numbers of their records at most. Options and resources are the
ones that have been set if these count as true, and standard ones otherwise. -/
structure Client.Alike (set set' : Part) (c d : Client) : Prop where
  kind : d.kind = c.kind
  uris : d.uris.map (·.value) = c.uris.map (·.value)
  options : set.truthy = true → c.options = set ∧ d.options = set
  resources : set'.truthy = true → c.resources = set' ∧ d.resources = set'
  standardOptions : set.truthy = false → ∃ m n,
    c.options = .options ⟨m, .standard⟩ ∧ d.options = .options ⟨n, .standard⟩
  standardResources : set'.truthy = false → ∃ m n,
    c.resources = .resources ⟨m, .standard⟩ ∧ d.resources = .resources ⟨n, .standard⟩

namespace Deployment

variable {d other : Deployment} {w v : World}

/-- Deployments with the same topology whose settings read alike fail alike or plan clients of the
same meaning. -/
theorem plan_alike (env : v.env = w.env) (topology : other.topologyIn v = d.topologyIn w)
    (settings : d.settings.Alike other.settings w v) :
    (∃ e, d.plan w = .error e ∧ other.plan v = .error e) ∨
      ∃ c c', d.plan w = .ok c ∧ other.plan v = .ok c' ∧
        Client.Alike (d.settings.options w) (d.settings.resources w) c c' := by
  have huris := uris_congr env topology settings
  have hcluster : other.isCluster = d.isCluster := by
    rw [isCluster_eq other v, topology, ← isCluster_eq d w]
  unfold plan
  rw [huris, hcluster, settings.options, settings.resources]
  cases d.uris w with
  | error e => exact .inl ⟨e, rfl, rfl⟩
  | ok us =>
    refine .inr ⟨_, _, rfl, rfl, ?_⟩
    constructor
    case kind => cases d.isCluster <;> rfl
    case uris => cases d.isCluster <;> simp [Client.fresh, Client.uris, map_numbered]
    case options | resources =>
      intro given
      exact ⟨if_pos given, if_pos given⟩
    case standardOptions | standardResources =>
      intro absent
      exact ⟨_, _, if_neg (ne_true_of_eq_false absent), if_neg (ne_true_of_eq_false absent)⟩

/-- A start builds a client and gives it to its deployment. -/
structure StartBuilds (n : Nat) (w : World) (c : Client) : Prop where
  answer : (start n w).1 = .ok ()
  client : ((start n w).2.deployments.get n).client = some w.clients.size
  built : (start n w).2.clients.get w.clients.size = c

theorem startBuilds_of_plan {n : Nat} {c : Client} (absent : (w.deployments.get n).client = none)
    (hplan : (w.deployments.get n).plan w = .ok c) : StartBuilds n w c := by
  obtain ⟨hok, hclient, hclients⟩ := start_of_plan absent hplan
  exact ⟨hok, hclient, by rw [hclients, Store.get_add_size]⟩

/-- So do their starts. -/
theorem start_alike {n n' : Nat} (env : v.env = w.env)
    (topology : (v.deployments.get n').topologyIn v = (w.deployments.get n).topologyIn w)
    (settings : (w.deployments.get n).settings.Alike (v.deployments.get n').settings w v)
    (absent : (w.deployments.get n).client = none)
    (absent' : (v.deployments.get n').client = none) :
    (∃ e, start n w = (.error e, w) ∧ start n' v = (.error e, v)) ∨
      ∃ c c', StartBuilds n w c ∧ StartBuilds n' v c' ∧
        Client.Alike ((w.deployments.get n).settings.options w)
          ((w.deployments.get n).settings.resources w) c c' := by
  obtain ⟨e, he, he'⟩ | ⟨c, c', hc, hc', halike⟩ := plan_alike env topology settings
  · exact .inl ⟨e, start_of_error absent he, start_of_error absent' he'⟩
  · exact .inr ⟨c, c', startBuilds_of_plan absent hc, startBuilds_of_plan absent' hc', halike⟩

/-- Attributes that belong to settings read alike where the settings do. -/
theorem read_congr {n n' : Nat}
    (settings : (w.deployments.get n).settings.Alike (v.deployments.get n').settings w v)
    {name : String} (hname : name ∈ Attribute.settingNames) :
    Attribute.read v (.deployment n') name = Attribute.read w (.deployment n) name := by
  have hmillis (t : TimeoutName) : (v.deployments.get n').timeoutMillis t v =
      (w.deployments.get n).timeoutMillis t w := by
    unfold timeoutMillis
    rw [settings.timeout]
  simp only [Attribute.settingNames, List.mem_cons, List.not_mem_nil, or_false] at hname
  rcases hname with rfl | rfl | rfl | rfl | rfl | rfl
  · exact congrArg (fun x => Except.ok (Item.value x)) settings.useSsl
  · exact congrArg (fun x => Except.ok (Item.value x)) settings.verifyPeer
  · exact congrArg (fun x => Except.ok (Item.value x)) settings.startTls
  · exact congrArg (Except.map fun n => Item.value (.int n)) (hmillis .command)
  · exact congrArg (Except.map fun n => Item.value (.int n)) (hmillis .shutdown)
  · exact congrArg (fun x => Except.ok (Item.ofPart x)) settings.resources

/-! ## 2. Deployments keep their settings -/

theorem perform_settings (n : Nat) (op : Operation) (w : World) (k : Nat) :
    ((op.perform n w).2.deployments.get k).settings = (w.deployments.get k).settings := by
  rcases op.change_cases with hop | ⟨c, rfl⟩
  · exact (perform_moves hop w).settings k
  · rw [perform_change_after]
    exact (c.make_edit w).settings k

/-- Whatever is done, a deployment keeps the settings that it was made with. -/
theorem settings_run (n : Nat) (w : World) (ops : List Operation) (k : Nat) :
    ((run n w ops).deployments.get k).settings = (w.deployments.get k).settings := by
  refine trace_induction
    (P := fun _ v => (v.deployments.get k).settings = (w.deployments.get k).settings) ?_ rfl ops
  intro h v op hv
  exact (perform_settings n op v k).trans hv

end Deployment

/-! ## 3. Frozen settings -/

/-- The attributes that live settings and frozen ones have in common. -/
def frozenNames : List String := Attribute.settingNames ++ ["client_options"]

/-- The frozen settings read as the live ones do at the moment. -/
theorem SettingsRef.alike_of_freeze {m number : Nat} {s : Settings} {u v w : World}
    (hs : (w.live.get m).freeze w.env = .ok s) (env : u.env = w.env)
    (same : u.live.get m = w.live.get m) :
    (SettingsRef.live m).Alike (.fixed ⟨number, s⟩) u v := by
  obtain ⟨-, t, t', ht, ht', rfl⟩ := LiveSettings.freeze_eq_ok_iff.mp hs
  constructor
  case timeout =>
    rintro (_ | _)
    · simp only [timeout, same, env, ht]
    · simp only [timeout, same, env, ht']
  all_goals simp only [useSsl, verifyPeer, startTls, options, resources, same, env]

/-- Settings as an item. -/
def SettingsRef.item : SettingsRef → Item
  | .fixed s => .settings s
  | .live n => .live n

/-- A deployment over live settings and one over settings that have been frozen, both with the same
topology, and nothing that the live settings read has changed since. -/
structure Counterparts (m : Nat) (w : World) (frozen : Shared Settings) (n : Nat) (v : World)
    (n' : Nat) (v' : World) : Prop where
  live : (v.deployments.get n).settings = .live m
  fixed : (v'.deployments.get n').settings = .fixed frozen
  env : v.env = w.env
  env' : v'.env = w.env
  same : v.live.get m = w.live.get m
  topology : (v'.deployments.get n').topologyIn v' = (v.deployments.get n).topologyIn v

/-- Settings that have been frozen mean what the live ones meant. -/
structure MeaningKept (m : Nat) (w : World) (frozen : Shared Settings) : Prop where
  /-- They are those that can be made from what is read. -/
  valid : ∃ t u, (SettingsRef.live m).timeout .command w = .ok t ∧
    (SettingsRef.live m).timeout .shutdown w = .ok u ∧
    Settings.make ((SettingsRef.live m).useSsl w) ((SettingsRef.live m).verifyPeer w)
      ((SettingsRef.live m).startTls w) ((SettingsRef.live m).options w)
      ((SettingsRef.live m).resources w) (.duration t.duration) (.duration u.duration) =
        .ok frozen.value
  /-- All their attributes read as those of the live settings. -/
  snapshot : ∀ name ∈ frozenNames,
    Attribute.read w (.settings frozen) name = Attribute.read w (.live m) name
  /-- Deployments that are made with the ones and with the others are counterparts. -/
  made : ∀ u configuration topology, u.env = w.env → u.live.get m = w.live.get m →
    Construct.topologyOf u configuration = .ok topology →
    ∃ n v v', Construct.new .deployment ⟨[configuration, .live m], []⟩ u =
        (.ok (.deployment n), v) ∧
      Construct.new .deployment ⟨[configuration, .settings frozen], []⟩ u =
        (.ok (.deployment n), v') ∧
      Counterparts m w frozen n v n v' ∧
      (v.deployments.get n).client = none ∧ (v'.deployments.get n).client = none
  /-- Counterparts read alike. -/
  reads : ∀ n v n' v', Counterparts m w frozen n v n' v' → ∀ name ∈ Attribute.settingNames,
    Attribute.read v' (.deployment n') name = Attribute.read v (.deployment n) name
  /-- Their starts fail alike or build clients of the same meaning. -/
  starts : ∀ n v n' v', Counterparts m w frozen n v n' v' → (v.deployments.get n).client = none →
    (v'.deployments.get n').client = none →
      (∃ e, Deployment.start n v = (.error e, v) ∧ Deployment.start n' v' = (.error e, v')) ∨
        ∃ c c', Deployment.StartBuilds n v c ∧ Deployment.StartBuilds n' v' c' ∧
          Client.Alike (w.live.get m).options (w.live.get m).resources c c'
  /-- They read the same in every world. -/
  record : ∀ v, ∀ name ∈ frozenNames,
    Attribute.read v (.settings frozen) name = Attribute.read w (.settings frozen) name
  /-- So does a deployment over them, whatever is done. -/
  lasting : ∀ n v ops k, (v.deployments.get k).settings = .fixed frozen →
    ∀ name ∈ Attribute.settingNames,
      Attribute.read (Deployment.run n v ops) (.deployment k) name =
        Attribute.read v (.deployment k) name

/-! ## 4. Freezing keeps the meaning -/

section

variable {m : Nat} {u w : World} {s : Settings}

theorem Counterparts.alike {n n' number : Nat} {v v' : World}
    (h : Counterparts m w ⟨number, s⟩ n v n' v') (hs : (w.live.get m).freeze w.env = .ok s) :
    (v.deployments.get n).settings.Alike (v'.deployments.get n').settings v v' := by
  rw [h.live, h.fixed]
  exact SettingsRef.alike_of_freeze hs h.env h.same

theorem freeze_valid (hs : (w.live.get m).freeze w.env = .ok s) :
    ∃ t u, (SettingsRef.live m).timeout .command w = .ok t ∧
      (SettingsRef.live m).timeout .shutdown w = .ok u ∧
      Settings.make ((SettingsRef.live m).useSsl w) ((SettingsRef.live m).verifyPeer w)
        ((SettingsRef.live m).startTls w) ((SettingsRef.live m).options w)
        ((SettingsRef.live m).resources w) (.duration t.duration) (.duration u.duration) =
          .ok s := by
  obtain ⟨given, t, u, ht, hu, rfl⟩ := LiveSettings.freeze_eq_ok_iff.mp hs
  refine ⟨t, u, ht, hu, ?_⟩
  rw [Settings.make_timeouts]
  exact if_neg (ne_true_of_eq_false given)

theorem read_snapshot {number : Nat} (hs : (w.live.get m).freeze w.env = .ok s) {name : String}
    (hname : name ∈ frozenNames) :
    Attribute.read w (.settings ⟨number, s⟩) name = Attribute.read w (.live m) name := by
  have halike : (SettingsRef.live m).Alike (.fixed ⟨number, s⟩) w w :=
    SettingsRef.alike_of_freeze hs rfl rfl
  simp only [frozenNames, Attribute.settingNames, List.mem_append, List.mem_cons, List.not_mem_nil,
    or_false] at hname
  rcases hname with (rfl | rfl | rfl | rfl | rfl | rfl) | rfl
  · exact congrArg (fun x => Except.ok (Item.value x)) halike.useSsl
  · exact congrArg (fun x => Except.ok (Item.value x)) halike.verifyPeer
  · exact congrArg (fun x => Except.ok (Item.value x)) halike.startTls
  · exact congrArg Attribute.ofTimeout (halike.timeout .command)
  · exact congrArg Attribute.ofTimeout (halike.timeout .shutdown)
  · exact congrArg (fun x => Except.ok (Item.ofPart x)) halike.resources
  · exact congrArg (fun x => Except.ok (Item.ofPart x)) halike.options

/-- Nothing in the world is looked at to read frozen settings. -/
theorem read_frozen (frozen : Shared Settings) (v w : World) {name : String}
    (hname : name ∈ frozenNames) :
    Attribute.read v (.settings frozen) name = Attribute.read w (.settings frozen) name := by
  simp only [frozenNames, Attribute.settingNames, List.mem_append, List.mem_cons, List.not_mem_nil,
    or_false] at hname
  rcases hname with (rfl | rfl | rfl | rfl | rfl | rfl) | rfl <;> rfl

theorem freeze_called (hs : (w.live.get m).freeze w.env = .ok s) :
    Method.call ⟨.live m, "freeze", ⟨[], []⟩⟩ w =
      (.ok (.item (.settings ⟨w.nextRecord, s⟩)), { w with nextRecord := w.nextRecord + 1 }) := by
  have hbind : Method.Call.bind ⟨.live m, "freeze", ⟨[], []⟩⟩ w [] = .ok [] := rfl
  simp only [Method.call, Method.onLive, bind, Act.andThen, Act.world, Act.ofExcept, hbind, hs,
    Act.share, pure, Act.give]

/-- A deployment is made with the topology and the settings that it is given. -/
theorem Construct.new_deployment {configuration : Item} {topology : Option TopologyRef}
    (htopology : topologyOf u configuration = .ok topology) (settings : SettingsRef) :
    new .deployment ⟨[configuration, settings.item], []⟩ u =
      (.ok (.deployment u.deployments.size), Deployment.made topology settings u) := by
  have hnew : new .deployment ⟨[configuration, settings.item], []⟩ u =
      makeDeployment ObjectKind.deployment.signature.callee configuration settings.item u := rfl
  have hmake := Deployment.make_eq topology settings u
  rw [hnew]
  simp only [makeDeployment, bind, Act.andThen, Act.world, Act.ofExcept, htopology]
  cases settings <;> simp only [SettingsRef.item, pure, Act.give, Act.andThen, hmake]

theorem counterparts_made {frozen : Shared Settings} (env : u.env = w.env)
    (same : u.live.get m = w.live.get m) (topology : Option TopologyRef) :
    Counterparts m w frozen u.deployments.size (Deployment.made topology (.live m) u)
      u.deployments.size (Deployment.made topology (.fixed frozen) u) := by
  unfold Deployment.made Deployment.make
  rcases topology with _ | (_ | _ | _ | _) <;>
    exact ⟨by simp [Deployment.fresh], by simp [Deployment.fresh], env, env, same,
      by simp [Deployment.fresh, Deployment.topologyIn]⟩

end

/-- Live settings freeze where options are given and their timeouts can be read, and keep their
meaning. -/
theorem freeze_keeps_meaning (m : Nat) (w : World) (given : (w.live.get m).options.isNull = false)
    (readable : ∀ name, ∃ t, (SettingsRef.live m).timeout name w = .ok t) : ∃ s,
      Method.call ⟨.live m, "freeze", ⟨[], []⟩⟩ w =
          (.ok (.item (.settings ⟨w.nextRecord, s⟩)), { w with nextRecord := w.nextRecord + 1 }) ∧
        MeaningKept m w ⟨w.nextRecord, s⟩ := by
  obtain ⟨t, ht⟩ := readable .command
  obtain ⟨u, hu⟩ := readable .shutdown
  obtain ⟨s, hs⟩ : ∃ s, (w.live.get m).freeze w.env = .ok s :=
    ⟨_, LiveSettings.freeze_eq_ok_iff.mpr ⟨given, t, u, ht, hu, rfl⟩⟩
  refine ⟨s, freeze_called hs, ?_⟩
  constructor
  case valid => exact freeze_valid hs
  case snapshot => exact fun name => read_snapshot hs
  case made =>
    intro u configuration topology env same htopology
    obtain ⟨hclient, -⟩ := Deployment.made_idle topology (.live m) u
    obtain ⟨hclient', -⟩ := Deployment.made_idle topology (.fixed ⟨w.nextRecord, s⟩) u
    exact ⟨_, _, _, Construct.new_deployment htopology (.live m),
      Construct.new_deployment htopology (.fixed ⟨w.nextRecord, s⟩),
      counterparts_made env same topology, hclient, hclient'⟩
  case reads => exact fun n v n' v' h name hname => Deployment.read_congr (h.alike hs) hname
  case starts =>
    intro n v n' v' h absent absent'
    have hoptions : (v.deployments.get n).settings.options v = (w.live.get m).options := by
      rw [h.live, SettingsRef.options, h.same]
    have hresources : (v.deployments.get n).settings.resources v = (w.live.get m).resources := by
      rw [h.live, SettingsRef.resources, h.same]
    rw [← hoptions, ← hresources]
    exact Deployment.start_alike (h.env'.trans h.env.symm) h.topology (h.alike hs) absent absent'
  case record => exact fun v name => read_frozen _ v w
  case lasting =>
    intro n v ops k fixed name hname
    refine Deployment.read_congr ?_ hname
    rw [Deployment.settings_run, fixed]
    exact SettingsRef.alike_fixed _ _ _

/-- A world in which live settings leave TLS to the environment, which asks for it. -/
def World.secured : World := .leftTo (Environment.empty.set "REDIS_SSL" "Yes")

theorem freeze_keeps_meaning_secured :
    (World.secured.live.get 0).options.isNull = false ∧
    (∀ name, ∃ t, (SettingsRef.live 0).timeout name .secured = .ok t) ∧ ∃ s,
      Method.call ⟨.live 0, "freeze", ⟨[], []⟩⟩ .secured =
          (.ok (.item (.settings ⟨1, s⟩)), { World.secured with nextRecord := 2 }) ∧
        MeaningKept 0 .secured ⟨1, s⟩ :=
  have readable : ∀ name, ∃ t, (SettingsRef.live 0).timeout name .secured = .ok t := fun name => by
    cases name <;> exact ⟨_, rfl⟩
  ⟨rfl, readable, freeze_keeps_meaning 0 .secured rfl readable⟩

end RedisLink
