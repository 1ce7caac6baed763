/-
RedisLink.Proofs.Topologies.Views — a topology and all deployments on it are
views of one object.

A deployment does not copy the topology that it is made on. Password and database
are read and written through it as they are through the topology itself
(`TopologyRef.View.read`, `TopologyRef.View.write`), so all views read the same
at every time, which is what has been accepted last through any of them.

A write of one of the two replaces the credentials of the topology and nothing
else (`TopologyRef.Spares`). In particular it does not reach the placeholder of a
single server that a deployment on a cluster or on sentinels has, the settings
that deployments have, and the clients that they have built.
-/
import RedisLink.Proofs.Freezing
import RedisLink.Proofs.Topologies.Settings

namespace RedisLink

/-! ## 1. Views -/

namespace TopologyRef

/-- A topology is seen through itself and through every deployment on it. -/
inductive View (ref : TopologyRef) (w : World) : Item → Prop
  | itself : View ref w (.topology ref)
  | deployment {n : Nat} (on : (w.deployments.get n).topology = ref) : View ref w (.deployment n)

/-- The settings that can be read and written through all views. -/
inductive Viewed (ref : TopologyRef) : TopologySetting → Prop
  | password : Viewed ref (.password ref)
  | database : Viewed ref (.database ref)

variable {ref : TopologyRef} {s : TopologySetting} {w v : World} {x : Item}

theorem Viewed.owner (viewed : ref.Viewed s) : s.owner = ref := by
  cases viewed <;> rfl

/-- All views read the same. -/
theorem View.read (view : ref.View w x) (viewed : ref.Viewed s) :
    Attribute.read w x s.name = s.read w := by
  cases view with
  | itself => rw [TopologySetting.read, viewed.owner]
  | deployment on =>
    have hpassword : (TopologySetting.password ref).read w = .ok (.value (ref.password w)) := by
      cases ref <;> rfl
    have hdatabase : (TopologySetting.database ref).read w = .ok (.ofNat (ref.database w)) := by
      cases ref <;> rfl
    cases viewed with
    | password =>
      rw [hpassword, ← on]
      rfl
    | database =>
      rw [hdatabase, ← on]
      rfl

/-- A write is the same through all views. -/
theorem View.write (view : ref.View w x) (viewed : ref.Viewed s) (given : Item) :
    Attribute.write x s.name given w =
      Attribute.writeTopology s.owner s.name (given.toValue w) w := by
  cases view with
  | itself =>
    rw [viewed.owner]
    rfl
  | deployment on =>
    cases viewed with
    | password =>
      subst on
      rfl
    | database =>
      subst on
      rfl

/-! ## 2. What a write spares -/

/-- Only the credentials of a topology may differ. -/
structure Spares (ref : TopologyRef) (w v : World) : Prop where
  env : v.env = w.env
  /-- All other topologies keep their credentials, -/
  credentials : ∀ other, other ≠ ref → v.credentialsOf other = w.credentialsOf other
  /-- and all single servers, masters and clusters everything else. -/
  servers : ∀ k, (v.standalones.get k).host = (w.standalones.get k).host ∧
    (v.standalones.get k).port = (w.standalones.get k).port ∧
    (v.standalones.get k).tls = (w.standalones.get k).tls
  sentinels : ∀ k, (v.sentinels.get k).master = (w.sentinels.get k).master ∧
    (v.sentinels.get k).nodes = (w.sentinels.get k).nodes
  clusters : ∀ k, (v.clusters.get k).nodes = (w.clusters.get k).nodes
  /-- Where a single server is only a placeholder, it stays as it is. -/
  placeholders : ∀ n, (w.deployments.get n).topology = ref →
    (w.deployments.get n).role ≠ .standalone →
      v.standalones.get (w.deployments.get n).standalone =
        w.standalones.get (w.deployments.get n).standalone
  live : v.live = w.live
  builders : v.builders = w.builders
  deployments : v.deployments = w.deployments
  clients : v.clients = w.clients
  events : v.events = w.events
  log : v.log = w.log

theorem spares_setCredentials (ref : TopologyRef) (w : World) (c : Credentials) :
    ref.Spares w (w.setCredentials ref c) := by
  constructor
  case credentials =>
    intro other hne
    rw [World.credentialsOf_setCredentials, if_neg hne]
  case servers =>
    intro k
    cases ref with
    | standalone j => exact ⟨Store.get_set_of_eq Standalone.host (by rfl) k,
        Store.get_set_of_eq Standalone.port (by rfl) k,
        Store.get_set_of_eq Standalone.tls (by rfl) k⟩
    | _ => exact ⟨rfl, rfl, rfl⟩
  case sentinels =>
    intro k
    cases ref with
    | sentinels j => exact ⟨Store.get_set_of_eq Sentinels.master (by rfl) k,
        Store.get_set_of_eq Sentinels.nodes (by rfl) k⟩
    | _ => exact ⟨rfl, rfl⟩
  case clusters =>
    intro k
    cases ref with
    | cluster j => exact Store.get_set_of_eq Cluster.nodes (by rfl) k
    | _ => rfl
  case placeholders =>
    intro n on role
    cases ref with
    | standalone j =>
      unfold Deployment.topology at on
      cases hrole : (w.deployments.get n).role with
      | standalone => exact absurd hrole role
      | sentinels m =>
        rw [hrole] at on
        cases on
      | cluster m =>
        rw [hrole] at on
        cases on
    | _ => rfl
  all_goals cases ref <;> rfl

theorem Viewed.spares (viewed : ref.Viewed s) {given : Value}
    (written : Attribute.writeTopology s.owner s.name given w = (.ok (), v)) :
    ref.Spares w v := by
  cases viewed with
  | password =>
    cases written
    exact spares_setCredentials ref w _
  | database =>
    replace written : ref.setDatabase given w = _ := written
    unfold TopologyRef.setDatabase at written
    split at written
    · cases written
      exact spares_setCredentials ref w _
    · cases written

/-! ## 3. Steps -/

/-- What becomes of the views of a topology while deployments are made and objects are written. -/
structure KeepsViews (ref : TopologyRef) (w v : World) : Prop where
  there : ref.ExistsIn v
  size : w.deployments.size ≤ v.deployments.size
  views : ∀ n, n < w.deployments.size →
    (v.deployments.get n).topology = (w.deployments.get n).topology

theorem KeepsViews.refl (there : ref.ExistsIn w) : ref.KeepsViews w w :=
  ⟨there, Nat.le_refl _, fun _ _ => rfl⟩

theorem KeepsViews.trans {u : World} (h : ref.KeepsViews u v) (h' : ref.KeepsViews v w) :
    ref.KeepsViews u w :=
  ⟨h'.there, Nat.le_trans h.size h'.size, fun n hn =>
    (h'.views n (Nat.lt_of_lt_of_le hn h.size)).trans (h.views n hn)⟩

theorem keepsViews_make (there : ref.ExistsIn w) (c : Change) :
    ref.KeepsViews w (c.make w).2 := by
  have hedit := c.make_edit w
  exact ⟨(hedit.existsIn ref).mpr there, Nat.le_of_eq hedit.deployments_size.symm,
    fun n _ => hedit.topology n⟩

/-- Building is refused, or makes a deployment on the topology, perhaps after live settings for
it. -/
theorem build_cases (ref : TopologyRef) (settings : Item) (w : World) :
    (∃ e, ref.build settings w = (.error e, w)) ∨
      (∀ k, ref ≠ .credentials k) ∧ ∃ chosen u, (u = w ∨ u = (Deployment.addLive .null w).2) ∧
        ref.build settings w =
          (.ok (.deployment w.deployments.size), Deployment.made (some ref) chosen u) := by
  by_cases hcredentials : ∃ k, ref = .credentials k
  · obtain ⟨k, rfl⟩ := hcredentials
    exact .inl ⟨_, rfl⟩
  · have hne : ∀ k, ref ≠ .credentials k := fun k hk => hcredentials ⟨k, hk⟩
    have htopology : Construct.topologyOf w (.topology ref) = .ok (some ref) := by
      cases ref <;> first | rfl | exact absurd rfl (hne _)
    have hbuild : ref.build settings w =
        Construct.makeDeployment ObjectKind.deployment.signature.callee (.topology ref) settings
          w := rfl
    cases settings with
    | settings s => exact .inr ⟨hne, _, w, .inl rfl, Construct.new_deployment htopology (.fixed s)⟩
    | live n => exact .inr ⟨hne, _, w, .inl rfl, Construct.new_deployment htopology (.live n)⟩
    | value v =>
      simp only [Construct.makeDeployment, bind, Act.andThen, Act.world, Act.ofExcept,
        htopology] at hbuild
      cases v with
      | null => exact .inr ⟨hne, .live w.live.size, _, .inr rfl, hbuild⟩
      | _ => exact .inl ⟨_, hbuild⟩
    | _ =>
      simp only [Construct.makeDeployment, bind, Act.andThen, Act.world, Act.ofExcept,
        htopology] at hbuild
      exact .inl ⟨_, hbuild⟩

/-- What there is when a deployment is made stays, and the deployment is on its topology. -/
theorem made_eq (ref : TopologyRef) (hne : ∀ k, ref ≠ .credentials k) (chosen : SettingsRef)
    (u : World) : ∃ d : Deployment, d.topology = ref ∧
      Deployment.made (some ref) chosen u =
        { u with standalones := u.standalones.add .unset, deployments := u.deployments.add d } := by
  cases ref with
  | credentials k => exact absurd rfl (hne k)
  | standalone k => exact ⟨.fresh k .standalone chosen, rfl, rfl⟩
  | sentinels k => exact ⟨.fresh u.standalones.size (.sentinels k) chosen, rfl, rfl⟩
  | cluster k => exact ⟨.fresh u.standalones.size (.cluster k) chosen, rfl, rfl⟩

/-- Building leaves a topology that there is already. -/
theorem explicit_build (there : s.owner.ExistsIn w) (settings : Item) :
    s.explicit (ref.build settings w).2 = s.explicit w := by
  obtain ⟨e, hrefused⟩ | ⟨hne, chosen, u, hu, hbuilt⟩ := ref.build_cases settings w
  · rw [hrefused]
  · obtain ⟨d, -, hmade⟩ := made_eq ref hne chosen u
    have hsame : s.explicit u = s.explicit w ∧ s.owner.ExistsIn u := by
      rcases hu with rfl | rfl
      · exact ⟨rfl, there⟩
      · cases s with
        | password other | database other => cases other <;> exact ⟨rfl, there⟩
        | _ => exact ⟨rfl, there⟩
    rw [hbuilt, hmade, ← hsame.1]
    have hkept {k : Nat} (hk : ExistsIn u (.standalone k)) :
        (u.standalones.add .unset).get k = u.standalones.get k :=
      Store.get_add_of_ne _ _ (Nat.ne_of_lt hk)
    obtain ⟨-, hthere⟩ := hsame
    cases s with
    | host k => exact congrArg Standalone.host (hkept hthere)
    | port k => exact congrArg Standalone.port (hkept hthere)
    | master k => rfl
    | password other | database other =>
      cases other with
      | standalone k => simp only [TopologySetting.explicit, World.credentialsOf, hkept hthere]
      | _ => rfl

theorem keepsViews_build (there : ref.ExistsIn w) (settings : Item) :
    ref.KeepsViews w (ref.build settings w).2 := by
  obtain ⟨e, hrefused⟩ | ⟨hne, chosen, u, hu, hbuilt⟩ := ref.build_cases settings w
  · rw [hrefused]
    exact .refl there
  · obtain ⟨d, -, hmade⟩ := made_eq ref hne chosen u
    have hu' : u.deployments = w.deployments ∧ ref.ExistsIn u := by
      rcases hu with rfl | rfl
      · exact ⟨rfl, there⟩
      · cases ref <;> exact ⟨rfl, there⟩
    obtain ⟨hdeployments, hthere⟩ := hu'
    rw [hbuilt, hmade]
    constructor
    case there =>
      cases ref with
      | standalone k => exact Nat.lt_succ_of_lt hthere
      | _ => exact hthere
    case size => exact hdeployments ▸ Nat.le_succ _
    case views =>
      intro n hn
      rw [hdeployments]
      exact congrArg Deployment.topology (Store.get_add_of_ne _ _ (Nat.ne_of_lt hn))

/-- A deployment that has been built is a new view. -/
theorem view_of_build {settings : Item} {n : Nat}
    (built : ref.build settings w = (.ok (.deployment n), v)) :
    n = w.deployments.size ∧ ref.View v (.deployment n) := by
  obtain ⟨e, hrefused⟩ | ⟨hne, chosen, u, hu, hbuilt⟩ := ref.build_cases settings w
  · rw [hrefused] at built
    cases built
  · obtain ⟨d, hd, hmade⟩ := made_eq ref hne chosen u
    have hsize : u.deployments = w.deployments := by
      rcases hu with rfl | rfl <;> rfl
    rw [hbuilt, hmade, hsize] at built
    cases built
    exact ⟨rfl, .deployment ((congrArg Deployment.topology (Store.get_add_size _ _)).trans hd)⟩

/-! ## 4. Runs of steps -/

/-- A deployment is built on a topology, or something is written. -/
inductive ViewStep
  | build (settings : Item)
  | change (c : Change)

/-- The world after a step. -/
def ViewStep.after (ref : TopologyRef) (w : World) : ViewStep → World
  | .build settings => (ref.build settings w).2
  | .change c => (c.make w).2

/-- What a step puts in for a setting. -/
def ViewStep.enters (s : TopologySetting) (w : World) : ViewStep → Option Value
  | .build _ => none
  | .change c => c.enters s w

/-- The world that steps one after the other end in. -/
def runViews (ref : TopologyRef) (w : World) : List ViewStep → World
  | [] => w
  | step :: rest => runViews ref (step.after ref w) rest

/-- What steps have put in for a setting, in order. -/
def entered (ref : TopologyRef) (s : TopologySetting) (w : World) : List ViewStep → List Value
  | [] => []
  | step :: rest => (step.enters s w).toList ++ entered ref s (step.after ref w) rest

theorem keepsViews_after (there : ref.ExistsIn w) (step : ViewStep) :
    ref.KeepsViews w (step.after ref w) := by
  cases step with
  | build settings => exact keepsViews_build there settings
  | change c => exact keepsViews_make there c

theorem explicit_after (there : s.owner.ExistsIn w) (step : ViewStep) :
    s.explicit (step.after ref w) = (step.enters s w).getD (s.explicit w) := by
  cases step with
  | build settings => exact explicit_build there settings
  | change c => exact c.make_enters s w

theorem keepsViews_run (there : ref.ExistsIn w) (steps : List ViewStep) :
    ref.KeepsViews w (runViews ref w steps) := by
  induction steps generalizing w with
  | nil => exact .refl there
  | cons step rest ih =>
    have hstep := keepsViews_after there step
    exact hstep.trans (ih hstep.there)

/-- At the end of a run a setting has what came in last. -/
theorem explicit_runViews (owner : s.owner = ref) (there : ref.ExistsIn w)
    (steps : List ViewStep) : s.explicit (runViews ref w steps) =
      ((entered ref s w steps).getLast?).getD (s.explicit w) := by
  induction steps generalizing w with
  | nil => rfl
  | cons step rest ih =>
    have hstep : s.explicit (step.after ref w) = _ := explicit_after (owner ▸ there) step
    rw [runViews, entered, ih (keepsViews_after there step).there, hstep, List.getLast?_append]
    cases (entered ref s (step.after ref w) rest).getLast? <;> cases step.enters s w <;> rfl

/-! ## 5. One object -/

/-- What a setting has after steps: what came in last, else what it began with. -/
def inForce (ref : TopologyRef) (s : TopologySetting) (w : World) (steps : List ViewStep) : Value :=
  ((entered ref s w steps).getLast?).getD (s.explicit w)

/-- All views of a topology are views of one object. -/
structure SeenAlike (ref : TopologyRef) (w : World) : Prop where
  /-- A deployment that is built on the topology becomes a view of it, -/
  built : ∀ settings n v, ref.build settings w = (.ok (.deployment n), v) →
    n = w.deployments.size ∧ ref.View v (.deployment n)
  /-- and it stays one. -/
  lasting : ∀ steps n, n < w.deployments.size → ref.View w (.deployment n) →
    ref.View (runViews ref w steps) (.deployment n)
  /-- After all steps there is one value that all views read: the one in force, or where that is
  `null` what the environment leaves. -/
  reads : ∀ steps s, ref.Viewed s → ∃ y,
    (ref.inForce s w steps ≠ .null → y = ref.inForce s w steps) ∧
    (ref.inForce s w steps = .null → s.LeftTo (runViews ref w steps).env y) ∧
    ∀ x, ref.View (runViews ref w steps) x →
      Attribute.read (runViews ref w steps) x s.name = .ok (.value y)
  /-- Through each view a value that is accepted is put in, and everything else is spared. -/
  written : ∀ s, ref.Viewed s → ∀ x, ref.View w x → ∀ given y,
    s.Accepts (Item.toValue w given) y →
      ∃ v, Attribute.write x s.name given w = (.ok (), v) ∧ s.Puts y w v ∧ ref.Spares w v
  /-- No other value is taken, and then nothing changes. -/
  refused : ∀ s, ref.Viewed s → ∀ x, ref.View w x → ∀ given,
    (∀ y, ¬ s.Accepts (Item.toValue w given) y) →
      ∃ e, Attribute.write x s.name given w = (.error e, w)
  /-- The topology is there after all steps, so that all of this goes on. -/
  there : ∀ steps, ref.ExistsIn (runViews ref w steps)

/-- A topology is shared by the deployments on it. -/
theorem views_agree (there : ref.ExistsIn w) : ref.SeenAlike w := by
  constructor
  case built => exact fun settings n v => view_of_build
  case lasting =>
    intro steps n hn view
    cases view with
    | deployment on => exact .deployment (((keepsViews_run there steps).views n hn).trans on)
  case reads =>
    intro steps s viewed
    have hforce : s.explicit (runViews ref w steps) = ref.inForce s w steps :=
      explicit_runViews viewed.owner there steps
    by_cases hnull : ref.inForce s w steps = .null
    · obtain ⟨y, left, hread⟩ := TopologySetting.read_left (hforce.trans hnull)
      exact ⟨y, fun h => absurd hnull h, fun _ => left,
        fun x view => (view.read viewed).trans hread⟩
    · refine ⟨_, fun _ => rfl, fun h => absurd h hnull, fun x view => ?_⟩
      rw [view.read viewed, ← hforce]
      exact TopologySetting.read_explicit (hforce ▸ hnull)
  case written =>
    intro s viewed x view given y accepts
    have htakes := TopologySetting.takes_eq_some_iff.mpr accepts
    obtain ⟨e, hnone, -⟩ | ⟨z, v, hsome, hwrite, hputs⟩ := s.write_cases (given.toValue w) w
    · rw [htakes] at hnone
      cases hnone
    · rw [htakes] at hsome
      cases hsome
      exact ⟨v, (view.write viewed given).trans hwrite, hputs, viewed.spares hwrite⟩
  case refused =>
    intro s viewed x view given refuses
    obtain ⟨e, -, hwrite⟩ | ⟨y, v, hsome, -⟩ := s.write_cases (given.toValue w) w
    · exact ⟨e, (view.write viewed given).trans hwrite⟩
    · exact absurd (TopologySetting.takes_eq_some_iff.mp hsome) (refuses y)
  case there => exact fun steps => (keepsViews_run there steps).there

end TopologyRef

/-- A world with a cluster that a deployment has been built on. -/
def World.clustered : World :=
  ((TopologyRef.cluster 0).build Item.null
    (Construct.new .cluster ⟨[], []⟩ (.initial .empty ClassPath.modules default)).2).2

theorem TopologyRef.views_agree_clustered :
    (cluster 0).ExistsIn .clustered ∧ (cluster 0).SeenAlike .clustered :=
  have there : (cluster 0).ExistsIn .clustered := Nat.lt_succ_self 0
  ⟨there, views_agree there⟩

end RedisLink
