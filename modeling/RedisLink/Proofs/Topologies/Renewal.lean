/-
RedisLink.Proofs.Topologies.Renewal — a topology that has been reset is as good
as new.

A reset puts back everything that a topology holds, its nodes and the use of TLS
included, and touches nothing else. What it leaves is what a topology of the kind
holds that has been made without arguments.

Two topologies that hold the same cannot be told apart. They are `Twins` if, in
addition, their worlds agree on the environment and the clients, which is all
that operations of a topology look at besides. Whatever is done with one of them
and likewise with the other is answered alike and leaves twins
(`TopologyRef.Likewise.perform`), so a whole run of uses, which may change the
environment in between, answers alike (`TopologyRef.Twins.run`). Deployments on
twins read and start alike.

That is the last part of what there is to say about the settings of a topology.
All of it is put together in `TopologySetting.Precedence`.
-/
import RedisLink.Proofs.Freezing
import RedisLink.Proofs.Topologies.Settings
import RedisLink.Session

namespace RedisLink

/-! ## 1. Twins -/

namespace TopologyRef

/-- Two topologies, each in a world of its own, hold the same. -/
inductive SameIn (w v : World) : TopologyRef → TopologyRef → Prop
  | credentials {j k : Nat} (same : v.credentials.get k = w.credentials.get j) :
      SameIn w v (.credentials j) (.credentials k)
  | standalone {j k : Nat} (same : v.standalones.get k = w.standalones.get j) :
      SameIn w v (.standalone j) (.standalone k)
  | sentinels {j k : Nat} (same : v.sentinels.get k = w.sentinels.get j) :
      SameIn w v (.sentinels j) (.sentinels k)
  | cluster {j k : Nat} (same : v.clusters.get k = w.clusters.get j) :
      SameIn w v (.cluster j) (.cluster k)

/-- Two topologies hold the same, in worlds with the same environment and the same clients. -/
structure Twins (ref other : TopologyRef) (w v : World) : Prop where
  env : v.env = w.env
  clients : v.clients = w.clients
  here : ref.ExistsIn w
  there : other.ExistsIn v
  same : SameIn w v ref other

/-- Two outcomes have the same answer and leave twins. -/
structure Alike {α : Type} (ref other : TopologyRef) (r s : Except Failure α × World) : Prop where
  answer : s.1 = r.1
  twins : ref.Twins other r.2 s.2

variable {ref other : TopologyRef} {w v : World}

/-- Two operations that on twins have the same answer and leave twins. -/
def Likewise {α : Type} (ref other : TopologyRef) (a b : Act α) : Prop :=
  ∀ w v, ref.Twins other w v → ref.Alike other (a w) (b v)

namespace Likewise

variable {α β : Type} {a b : Act α} {f g : α → Act β}

theorem ofExcept (r : Except Failure α) :
    ref.Likewise other (Act.ofExcept r) (Act.ofExcept r) := fun _ _ h => ⟨rfl, h⟩

theorem give (x : α) : ref.Likewise other (pure x) (pure x) := fun _ _ h => ⟨rfl, h⟩

/-- Operations one after the other. -/
theorem next (first : ref.Likewise other a b) (second : ∀ x, ref.Likewise other (f x) (g x)) :
    ref.Likewise other (a >>= f) (b >>= g) := by
  intro w v h
  obtain ⟨answer, twins⟩ := first w v h
  show ref.Alike other (Act.andThen a f w) (Act.andThen b g v)
  unfold Act.andThen
  rcases ha : a w with ⟨r, u⟩
  rcases hb : b v with ⟨s, u'⟩
  rw [ha, hb] at answer twins
  cases answer
  cases r with
  | error e => exact ⟨rfl, twins⟩
  | ok x => exact second x u u' twins

/-- Operations on the world as it is. -/
theorem world {f g : World → Act β}
    (hf : ∀ w v, ref.Twins other w v → ref.Likewise other (f w) (g v)) :
    ref.Likewise other (Act.world >>= f) (Act.world >>= g) := fun w v h => hf w v h w v h

end Likewise

/-! ## 2. Reading and writing twins -/

namespace Twins

/-- An answer that is the same for both, and no change. -/
theorem alike {α : Type} (h : ref.Twins other w v) {r s : Except Failure α} (same : s = r) :
    ref.Alike other (r, w) (s, v) := ⟨same, h⟩

theorem credentialsOf (h : ref.Twins other w v) :
    v.credentialsOf other = w.credentialsOf ref := by
  cases h.same with
  | credentials same => exact same
  | standalone same => exact congrArg Standalone.credentials same
  | sentinels same => exact congrArg Sentinels.credentials same
  | cluster same => exact congrArg Cluster.credentials same

/-- Both may be replaced by the same object. -/
theorem setOwn {j k : Nat} (h : (credentials j).Twins (credentials k) w v) (c : Credentials) :
    (credentials j).Twins (credentials k) { w with credentials := w.credentials.set j c }
      { v with credentials := v.credentials.set k c } :=
  ⟨h.env, h.clients, h.here, h.there, .credentials (by simp only [Store.get_set_self])⟩

theorem setStandalone {j k : Nat} (h : (standalone j).Twins (standalone k) w v) (s : Standalone) :
    (standalone j).Twins (standalone k) (w.setStandalone j s) (v.setStandalone k s) :=
  ⟨h.env, h.clients, h.here, h.there,
    .standalone (by simp only [World.setStandalone, Store.get_set_self])⟩

theorem setSentinels {j k : Nat} (h : (sentinels j).Twins (sentinels k) w v) (s : Sentinels) :
    (sentinels j).Twins (sentinels k) { w with sentinels := w.sentinels.set j s }
      { v with sentinels := v.sentinels.set k s } :=
  ⟨h.env, h.clients, h.here, h.there, .sentinels (by simp only [Store.get_set_self])⟩

theorem setCluster {j k : Nat} (h : (cluster j).Twins (cluster k) w v) (c : Cluster) :
    (cluster j).Twins (cluster k) { w with clusters := w.clusters.set j c }
      { v with clusters := v.clusters.set k c } :=
  ⟨h.env, h.clients, h.here, h.there, .cluster (by simp only [Store.get_set_self])⟩

/-- Both may be given the same credentials. -/
theorem setCredentials (h : ref.Twins other w v) (c : Credentials) :
    ref.Twins other (w.setCredentials ref c) (v.setCredentials other c) := by
  cases h.same with
  | credentials same => exact h.setOwn c
  | @standalone j k same =>
    show Twins _ _ _ (v.setStandalone k { v.standalones.get k with credentials := c })
    rw [same]
    exact h.setStandalone _
  | @sentinels j k same =>
    show Twins _ _ _ { v with
      sentinels := v.sentinels.set k { v.sentinels.get k with credentials := c } }
    rw [same]
    exact h.setSentinels _
  | @cluster j k same =>
    show Twins _ _ _ { v with
      clusters := v.clusters.set k { v.clusters.get k with credentials := c } }
    rw [same]
    exact h.setCluster _

theorem setPassword (h : ref.Twins other w v) (given : Value) :
    ref.Alike other (ref.setPassword given w) (other.setPassword given v) := by
  unfold TopologyRef.setPassword
  rw [h.credentialsOf]
  exact ⟨rfl, h.setCredentials _⟩

theorem setDatabase (h : ref.Twins other w v) (given : Value) :
    ref.Alike other (ref.setDatabase given w) (other.setDatabase given v) := by
  unfold TopologyRef.setDatabase
  rw [h.credentialsOf]
  split
  · exact ⟨rfl, h.setCredentials _⟩
  · exact ⟨rfl, h⟩

/-- Every attribute of the one reads as that of the other. -/
theorem find (h : ref.Twins other w v) (name : String) :
    Attribute.find v name (.topology other) = Attribute.find w name (.topology ref) := by
  obtain ⟨env, -, -, -, same⟩ := h
  show Attribute.ofTopology other v name = Attribute.ofTopology ref w name
  unfold Attribute.ofTopology
  cases same <;> split <;>
    simp_all [TopologyRef.password, TopologyRef.database, World.credentialsOf]

theorem kind (h : ref.Twins other w v) :
    (Item.topology other).kind v = (Item.topology ref).kind w := by
  cases h.same <;> rfl

theorem lacks (h : ref.Twins other w v) (name : String) :
    (Item.topology other).lacks v name = (Item.topology ref).lacks w name :=
  congrArg (Failure.noAttribute · name) h.kind

theorem read (h : ref.Twins other w v) (name : String) :
    Attribute.read v (.topology other) name = Attribute.read w (.topology ref) name := by
  unfold Attribute.read
  rw [h.find, h.lacks]

theorem delete (h : ref.Twins other w v) (name : String) :
    Attribute.delete v (.topology other) name = Attribute.delete w (.topology ref) name := by
  unfold Attribute.delete
  rw [h.find, h.kind, h.lacks]
  rfl

theorem unwritable (h : ref.Twins other w v) (name : String) :
    Attribute.unwritable v (.topology other) name =
      Attribute.unwritable w (.topology ref) name := by
  unfold Attribute.unwritable
  rw [h.find, h.kind, h.lacks]

theorem writeTopology (h : ref.Twins other w v) (name : String) (given : Value) :
    ref.Alike other (Attribute.writeTopology ref name given w)
      (Attribute.writeTopology other name given v) := by
  have hrefused : ref.Alike other
      (.error (Attribute.unwritable w (.topology ref) name), w)
      (.error (Attribute.unwritable v (.topology other) name), v) :=
    h.alike (α := Unit) (congrArg Except.error (h.unwritable name))
  have hsame := h.same
  unfold Attribute.writeTopology
  split
  case h_1 => exact h.setPassword given
  case h_2 => exact h.setDatabase given
  case h_3 =>
    cases hsame with
    | @standalone _ k same =>
      show Alike _ _ _ (.ok (), v.setStandalone k ((v.standalones.get k).setHost given))
      rw [same]
      exact ⟨rfl, h.setStandalone _⟩
  case h_4 =>
    rename_i j
    cases hsame with
    | @standalone _ k same =>
      have hother : (v.standalones.get k).setPort given = (w.standalones.get j).setPort given := by
        rw [same]
      cases hport : (w.standalones.get j).setPort given with
      | ok s =>
        simp only [hother, hport]
        exact ⟨rfl, h.setStandalone s⟩
      | error e =>
        simp only [hother, hport]
        exact ⟨rfl, h⟩
  case h_5 =>
    cases hsame with
    | @standalone _ k same =>
      show Alike _ _ _ (.ok (), v.setStandalone k { v.standalones.get k with tls := given })
      rw [same]
      exact ⟨rfl, h.setStandalone _⟩
  case h_6 =>
    cases hsame with
    | @sentinels _ k same =>
      show Alike _ _ _ (.ok (), { v with
        sentinels := v.sentinels.set k ((v.sentinels.get k).setMaster given) })
      rw [same]
      exact ⟨rfl, h.setSentinels _⟩
  case h_7 =>
    have hother : Attribute.writeTopology other name given v =
        (.error (Attribute.unwritable v (.topology other) name), v) := by
      unfold Attribute.writeTopology
      cases hsame <;> split <;> simp_all
    show Alike _ _ _ (Attribute.writeTopology other name given v)
    rw [hother]
    exact hrefused

end Twins

/-! ## 3. Doing the same with twins -/

namespace Likewise

theorem write (name : String) (given : Item) :
    ref.Likewise other (Attribute.write (.topology ref) name given)
      (Attribute.write (.topology other) name given) := by
  intro w v h
  show ref.Alike other (Attribute.writeTopology ref name (given.toValue w) w)
    (Attribute.writeTopology other name (given.toValue v) v)
  rw [Item.toValue_of_clients h.clients]
  exact h.writeTopology name _

theorem addNode (host port : Value) :
    ref.Likewise other (Method.addNode ref host port) (Method.addNode other host port) := by
  intro w v h
  have hsame := h.same
  unfold Method.addNode
  cases hsame with
  | credentials same => exact ⟨rfl, h⟩
  | standalone same => exact ⟨rfl, h⟩
  | @sentinels j k same =>
    simp only [same]
    cases (w.sentinels.get j).addSentinel host port with
    | ok s => exact ⟨rfl, h.setSentinels s⟩
    | error e => exact ⟨rfl, h⟩
  | @cluster j k same =>
    simp only [same]
    cases (w.clusters.get j).addNode host port with
    | ok c => exact ⟨rfl, h.setCluster c⟩
    | error e => exact ⟨rfl, h⟩

theorem resetTopology :
    ref.Likewise other (Method.resetTopology ref) (Method.resetTopology other) := by
  intro w v h
  cases h.same with
  | credentials same => exact ⟨rfl, h.setOwn _⟩
  | standalone same => exact ⟨rfl, h.setStandalone _⟩
  | sentinels same => exact ⟨rfl, h.setSentinels _⟩
  | cluster same => exact ⟨rfl, h.setCluster _⟩

end Likewise

namespace Twins

theorem topologyFields (h : ref.Twins other w v) :
    Method.topologyFields other v = Method.topologyFields ref w := by
  obtain ⟨env, -, -, -, same⟩ := h
  cases same <;> simp only [Method.topologyFields, *]

theorem addNodeMethod (h : ref.Twins other w v) :
    Method.addNodeMethod other = Method.addNodeMethod ref := by
  cases h.same <;> rfl

theorem shown (h : ref.Twins other w v) :
    (Item.topology other).shown v = (Item.topology ref).shown w := by
  obtain ⟨env, -, -, -, same⟩ := h
  cases same <;> simp only [Item.shown, Item.shownTopology, *]

theorem text (h : ref.Twins other w v) :
    (Item.topology other).text v = (Item.topology ref).text w := h.shown

/-- Taken apart, both look the same. -/
theorem inspection (h : ref.Twins other w v) :
    Inspection.of v (.topology other) = Inspection.of w (.topology ref) := by
  have hnames : Inspection.attributeNames v (.topology other) =
      Inspection.attributeNames w (.topology ref) := by
    cases h.same <;> rfl
  have hform : Inspection.hasShownForm v (.topology other) =
      Inspection.hasShownForm w (.topology ref) := by
    cases h.same <;> rfl
  have hextras : Inspection.extras v (.topology other) =
      Inspection.extras w (.topology ref) := by
    simp only [Inspection.extras, h.topologyFields]
  unfold Inspection.of
  rw [hnames, hform, hextras, h.kind, h.shown, funext h.read]

theorem bind (h : ref.Twins other w v) (method : String) (arguments : Arguments)
    (parameters : List Parameter) :
    Method.Call.bind ⟨.topology other, method, arguments⟩ v parameters =
      Method.Call.bind ⟨.topology ref, method, arguments⟩ w parameters :=
  congrArg (Method.Call.bindOwned ⟨.topology ref, method, arguments⟩ · parameters) h.kind

theorem values (h : ref.Twins other w v) (method : String) (arguments : Arguments)
    (parameters : List Parameter) :
    Method.Call.values ⟨.topology other, method, arguments⟩ v parameters =
      Method.Call.values ⟨.topology ref, method, arguments⟩ w parameters := by
  unfold Method.Call.values
  rw [h.bind, funext (Item.toValues_of_clients h.clients)]

end Twins

theorem Likewise.call (method : String) (arguments : Arguments) :
    ref.Likewise other (Method.call ⟨.topology ref, method, arguments⟩)
      (Method.call ⟨.topology other, method, arguments⟩) := by
  show ref.Likewise other (Method.onTopology ref _) (Method.onTopology other _)
  unfold Method.onTopology
  refine .world fun w v h => ?_
  rw [h.bind, h.topologyFields, h.addNodeMethod, h.values]
  split
  · exact (Likewise.ofExcept _).next fun _ => Likewise.resetTopology.next fun _ => .give _
  · split
    · exact (Likewise.ofExcept _).next fun _ => (Likewise.ofExcept _).next fun _ => .give _
    · split
      · refine (Likewise.ofExcept _).next fun values => ?_
        split
        · exact (Likewise.addNode _ _).next fun _ => .give _
        · exact .give _
      · intro u u' h'
        exact ⟨congrArg Except.error (h'.lacks method), h'⟩

end TopologyRef

/-! ## 4. Runs of uses -/

/-- Something that is done with a topology, or to the environment. -/
inductive TopologyUse
  | read (name : String)
  | write (name : String) (given : Item)
  | delete (name : String)
  | call (method : String) (arguments : Arguments)
  | inspect
  | shown
  | text
  | setVariable (name text : String)
  | unsetVariable (name : String)

namespace TopologyUse

/-- Use a topology, as a session does. -/
def perform (ref : TopologyRef) : TopologyUse → Act Answer
  | read name => do
    let w ← Act.world
    return .item (← Act.ofExcept (Attribute.read w (.topology ref) name))
  | write name given => do
    Attribute.write (.topology ref) name given
    return .item Item.null
  | delete name => do
    let w ← Act.world
    Act.ofExcept (.error (Attribute.delete w (.topology ref) name))
  | call method arguments => do
    match ← Method.call ⟨.topology ref, method, arguments⟩ with
    | .item x => return .item x
    | .itself => return .itself
  | inspect => do
    let w ← Act.world
    return .inspection (Inspection.of w (.topology ref))
  | shown => do
    let w ← Act.world
    return .item (.value (.text (← Act.ofExcept ((Item.topology ref).shown w))))
  | text => do
    let w ← Act.world
    return .item (.value (.text (← Act.ofExcept ((Item.topology ref).text w))))
  | setVariable name given => do
    Act.change fun w => { w with env := w.env.set name given }
    return .item Item.null
  | unsetVariable name => do
    Act.change fun w => { w with env := w.env.unset name }
    return .item Item.null

/-- The answers to uses one after the other; one that fails does not end them. -/
def answers (ref : TopologyRef) (w : World) : List TopologyUse → List (Except Failure Answer)
  | [] => []
  | use :: rest => (use.perform ref w).1 :: answers ref (use.perform ref w).2 rest

/-- The world that uses one after the other end in. -/
def run (ref : TopologyRef) (w : World) : List TopologyUse → World
  | [] => w
  | use :: rest => run ref (use.perform ref w).2 rest

end TopologyUse

namespace TopologyRef

variable {ref other : TopologyRef} {w v : World}

/-- The environment of twins may be changed. -/
theorem Likewise.environment (f : Environment → Environment) :
    ref.Likewise other (Act.change fun w => { w with env := f w.env })
      (Act.change fun w => { w with env := f w.env }) := by
  intro w v h
  refine ⟨rfl, ?_⟩
  obtain ⟨env, clients, here, there, same⟩ := h
  cases same with
  | credentials same => exact ⟨congrArg f env, clients, here, there, .credentials same⟩
  | standalone same => exact ⟨congrArg f env, clients, here, there, .standalone same⟩
  | sentinels same => exact ⟨congrArg f env, clients, here, there, .sentinels same⟩
  | cluster same => exact ⟨congrArg f env, clients, here, there, .cluster same⟩

/-- The same use of twins is answered alike. -/
theorem Likewise.perform (use : TopologyUse) :
    ref.Likewise other (use.perform ref) (use.perform other) := by
  unfold TopologyUse.perform
  cases use with
  | read name =>
    refine .world fun w v h => ?_
    rw [h.read]
    exact (Likewise.ofExcept _).next fun _ => .give _
  | write name given => exact (Likewise.write name given).next fun _ => .give _
  | delete name =>
    refine .world fun w v h => ?_
    rw [h.delete]
    exact .ofExcept _
  | call method arguments =>
    refine (Likewise.call method arguments).next fun reply => ?_
    cases reply with
    | item x => exact .give _
    | itself => exact .give _
  | inspect =>
    refine .world fun w v h => ?_
    rw [h.inspection]
    exact .give _
  | shown =>
    refine .world fun w v h => ?_
    rw [h.shown]
    exact (Likewise.ofExcept _).next fun _ => .give _
  | text =>
    refine .world fun w v h => ?_
    rw [h.text]
    exact (Likewise.ofExcept _).next fun _ => .give _
  | setVariable name given =>
    exact (Likewise.environment (·.set name given)).next fun _ => .give _
  | unsetVariable name => exact (Likewise.environment (·.unset name)).next fun _ => .give _

/-- So are all uses of a run. -/
theorem Twins.run (h : ref.Twins other w v) (uses : List TopologyUse) :
    TopologyUse.answers other v uses = TopologyUse.answers ref w uses ∧
      ref.Twins other (TopologyUse.run ref w uses) (TopologyUse.run other v uses) := by
  induction uses generalizing w v with
  | nil => exact ⟨rfl, h⟩
  | cons use rest ih =>
    obtain ⟨answer, twins⟩ := Likewise.perform use w v h
    obtain ⟨hrest, hend⟩ := ih twins
    exact ⟨congrArg₂ List.cons answer hrest, hend⟩

/-! ## 5. Deployments on twins -/

/-- Two deployments, each in its world, look at their topologies and at the environment alike. -/
structure DeployedAlike (n n' : Nat) (w v : World) : Prop where
  env : v.env = w.env
  topology : (v.deployments.get n').topologyIn v = (w.deployments.get n).topologyIn w
  host : (v.deployments.get n').host v = (w.deployments.get n).host w
  port : (v.deployments.get n').port v = (w.deployments.get n).port w
  idle : (w.deployments.get n).client = none
  idle' : (v.deployments.get n').client = none

/-- Deployments that are made on twins look at them alike, and have not been started. -/
theorem Twins.deployed (h : ref.Twins other w v) {settings settings' : SettingsRef} {n n' : Nat}
    {u u' : World}
    (made : ref.build settings.item w = (.ok (.deployment n), u))
    (made' : other.build settings'.item v = (.ok (.deployment n'), u')) :
    DeployedAlike n n' u u' := by
  have hkept {z : World} {k : Nat} (hk : ExistsIn z (.standalone k)) :
      (z.standalones.add .unset).get k = z.standalones.get k :=
    Store.get_add_of_ne _ _ (Nat.ne_of_lt hk)
  obtain ⟨env, clients, here, there, same⟩ := h
  cases same with
  | credentials same => cases made
  | standalone same =>
    rw [build, Construct.new_deployment rfl] at made made'
    cases made
    cases made'
    constructor <;>
      simp [Deployment.made, Deployment.make, Deployment.fresh, Deployment.topologyIn,
        Deployment.host, Deployment.port, env, hkept here, hkept there, same]
  | sentinels same | cluster same =>
    rw [build, Construct.new_deployment rfl] at made made'
    cases made
    cases made'
    constructor <;>
      simp [Deployment.made, Deployment.make, Deployment.fresh, Deployment.topologyIn,
        Deployment.host, Deployment.port, env, same]

/-- The attributes of a deployment that it reads off its topology. -/
def topologyNames : List String :=
  ["is_sentinel_aware", "is_cluster_aware", "host_name", "port", "password", "database"]

theorem DeployedAlike.read {n n' : Nat} (h : DeployedAlike n n' w v) {name : String}
    (hname : name ∈ topologyNames) :
    Attribute.read v (.deployment n') name = Attribute.read w (.deployment n) name := by
  have hcredentials : v.credentialsOf (v.deployments.get n').topology =
      w.credentialsOf (w.deployments.get n).topology := by
    rw [Deployment.credentialsOf_topology, Deployment.credentialsOf_topology, h.topology]
  simp only [topologyNames, List.mem_cons, List.not_mem_nil, or_false] at hname
  rcases hname with rfl | rfl | rfl | rfl | rfl | rfl
  · refine congrArg (fun b => Except.ok (Item.ofBool b)) ?_
    rw [Deployment.underSentinels_eq _ v, Deployment.underSentinels_eq _ w, h.topology]
  · refine congrArg (fun b => Except.ok (Item.ofBool b)) ?_
    rw [Deployment.isCluster_eq _ v, Deployment.isCluster_eq _ w, h.topology]
  · exact congrArg (fun x => Except.ok (Item.value x)) h.host
  · exact congrArg (fun x => Except.ok (Item.value x)) h.port
  · refine congrArg (fun x => Except.ok (Item.value x)) ?_
    unfold TopologyRef.password
    rw [hcredentials, h.env]
  · refine congrArg (fun n => Except.ok (Item.ofNat n)) ?_
    unfold TopologyRef.database
    rw [hcredentials, h.env]

/-! ## 6. As good as new -/

/-- Two topologies, each in its world, cannot be told apart. -/
structure Indistinguishable (ref other : TopologyRef) (w v : World) : Prop where
  /-- Whatever is done with them is answered alike. -/
  answers : ∀ uses, TopologyUse.answers other v uses = TopologyUse.answers ref w uses
  /-- At every time a deployment can be made on the one if it can be made on the other. Both read
  alike, and with settings that read alike they start alike. -/
  deployments : ∀ uses (settings settings' : SettingsRef) n u,
    ref.build settings.item (TopologyUse.run ref w uses) = (.ok (.deployment n), u) →
      ∃ n' u', other.build settings'.item (TopologyUse.run other v uses) =
          (.ok (.deployment n'), u') ∧
        (∀ name ∈ topologyNames,
          Attribute.read u' (.deployment n') name = Attribute.read u (.deployment n) name) ∧
        ((u.deployments.get n).settings.Alike (u'.deployments.get n').settings u u' →
          (∃ e, Deployment.start n u = (.error e, u) ∧ Deployment.start n' u' = (.error e, u')) ∨
            ∃ c c', Deployment.StartBuilds n u c ∧ Deployment.StartBuilds n' u' c' ∧
              Client.Alike ((u.deployments.get n).settings.options u)
                ((u.deployments.get n).settings.resources u) c c')

theorem Twins.indistinguishable (h : ref.Twins other w v) : ref.Indistinguishable other w v := by
  constructor
  case answers => exact fun uses => (h.run uses).1
  case deployments =>
    intro uses settings settings' n u made
    have hrun := (h.run uses).2
    obtain ⟨n', u', made'⟩ : ∃ n' u',
        other.build settings'.item (TopologyUse.run other v uses) =
          (.ok (.deployment n'), u') := by
      cases hrun.same with
      | credentials same => cases made
      | _ => exact ⟨_, _, Construct.new_deployment rfl settings'⟩
    have hdeployed := hrun.deployed made made'
    refine ⟨n', u', made', fun name => hdeployed.read, fun halike => ?_⟩
    exact Deployment.start_alike hdeployed.env hdeployed.topology halike hdeployed.idle
      hdeployed.idle'

/-- What a reset leaves is what a topology of the kind holds that is made without arguments. -/
theorem twins_of_reset {u : World} (here : ref.ExistsIn w)
    (env : u.env = (Method.resetTopology ref w).2.env)
    (clients : u.clients = (Method.resetTopology ref w).2.clients) :
    ∃ other v, Construct.new ref.kind ⟨[], []⟩ u = (.ok (.topology other), v) ∧
      ref.Twins other (Method.resetTopology ref w).2 v := by
  cases ref with
  | credentials k =>
    refine ⟨.credentials u.credentials.size, _, rfl, env, clients, here, Nat.lt_succ_self _, ?_⟩
    exact .credentials ((Store.get_add_size _ _).trans (Store.get_set_self _ _ _).symm)
  | standalone k =>
    refine ⟨.standalone u.standalones.size, _, rfl, env, clients, here, Nat.lt_succ_self _, ?_⟩
    exact .standalone ((Store.get_add_size _ _).trans (Store.get_set_self _ _ _).symm)
  | sentinels k =>
    refine ⟨.sentinels u.sentinels.size, _, rfl, env, clients, here, Nat.lt_succ_self _, ?_⟩
    exact .sentinels ((Store.get_add_size _ _).trans (Store.get_set_self _ _ _).symm)
  | cluster k =>
    refine ⟨.cluster u.clusters.size, _, rfl, env, clients, here, Nat.lt_succ_self _, ?_⟩
    exact .cluster ((Store.get_add_size _ _).trans (Store.get_set_self _ _ _).symm)

end TopologyRef

/-! ## 7. Explicit values before the environment -/

/-- What holds of the settings of all topologies in a world. -/
structure TopologySetting.Precedence (w : World) : Prop where
  /-- A setting of a new topology begins with the value in its place. -/
  made : ∀ (s : TopologySetting) arguments u,
    Construct.new s.owner.kind arguments u = (.ok (.topology s.owner), w) →
      ∃ items given, s.owner.kind.signature.bind arguments = .ok items ∧
        (Item.toValues u items)[s.place]? = some given ∧ s.Begins given (s.explicit w)
  /-- A single server that is made from a URL begins with what the URL says. -/
  url : ∀ k url u, Construct.static .standalone "from_url" ⟨[.value (.text url)], []⟩ u =
      (.ok (.topology (.standalone k)), w) →
    ∃ t, Url.Target.ofUrl url = .ok t ∧ ∀ x, (TopologySetting.ofServer k x).explicit w = x.saidBy t
  /-- A value that is accepted is put in, and all other settings have what they had. -/
  written : ∀ (s : TopologySetting) given x, s.Accepts (Item.toValue w given) x →
    ∃ v, Attribute.write (.topology s.owner) s.name given w = (.ok (), v) ∧ s.Puts x w v
  /-- No other value is taken. -/
  refused : ∀ (s : TopologySetting) given, (∀ x, ¬ s.Accepts (Item.toValue w given) x) →
    ∃ e, Attribute.write (.topology s.owner) s.name given w = (.error e, w)
  /-- Whatever is refused changes nothing at all. -/
  quiet : ∀ (c : Change) e, (c.make w).1 = .error e → (c.make w).2 = w
  /-- What comes in for a setting are the accepted values that are written, through its topology or
  through a deployment, and `null` where its topology is reset. -/
  entered : ∀ (c : Change) (s : TopologySetting) x, c.enters s w = some x ↔
    (∃ given, c.about w = some (s, given) ∧ s.Accepts given x) ∨
      c = .resetTopology s.owner ∧ x = .null
  /-- At the end of a run a setting has what came in last, else what it began with. -/
  lasting : ∀ n ops (s : TopologySetting), s.explicit (Deployment.run n w ops) =
    ((Deployment.History.enters (Deployment.trace n w ops) s).getLast?).getD (s.explicit w)
  /-- What has been set is read. -/
  explicit : ∀ s : TopologySetting, s.explicit w ≠ .null → s.read w = .ok (.value (s.explicit w))
  /-- Otherwise the environment is, or the default. -/
  left : ∀ s : TopologySetting, s.explicit w = .null →
    ∃ x, s.LeftTo w.env x ∧ s.read w = .ok (.value x)
  /-- Of the environment only the variable of the setting is looked at. -/
  own : ∀ (s : TopologySetting) env, env.get? s.variableName = w.env.get? s.variableName →
    s.read { w with env := env } = s.read w
  /-- A database is an integer that is not negative. -/
  index : ∀ ref, ∃ n : Nat, (TopologySetting.database ref).read w = .ok (.value (.int n))
  /-- A topology that has been reset cannot be told from one that is made without arguments. -/
  renewed : ∀ ref : TopologyRef, ref.ExistsIn w →
    ∃ v, Method.call ⟨.topology ref, "reset", ⟨[], []⟩⟩ w = (.ok Method.nothing, v) ∧
      ∀ u, u.env = v.env → u.clients = v.clients →
        ∃ other u', Construct.new ref.kind ⟨[], []⟩ u = (.ok (.topology other), u') ∧
          ref.Indistinguishable other v u'

/-- In every world, an explicit value of a setting comes before the environment. -/
theorem explicit_before_environment (w : World) : TopologySetting.Precedence w := by
  constructor
  case made =>
    intro s arguments u made
    obtain ⟨-, items, hbind, hmade⟩ := Construct.madeWith_of_new made
    obtain ⟨given, hplace, hbegins⟩ := TopologySetting.begins_of_madeWith hmade
    exact ⟨items, given, hbind, hplace, hbegins⟩
  case url => exact fun k url u => TopologySetting.explicit_of_url
  case written =>
    intro s given x accepts
    obtain ⟨e, hnone, -⟩ | ⟨y, v, hsome, hwrite, hputs⟩ := s.write_cases (given.toValue w) w
    · rw [TopologySetting.takes_eq_some_iff.mpr accepts] at hnone
      cases hnone
    · rw [TopologySetting.takes_eq_some_iff.mpr accepts] at hsome
      cases hsome
      exact ⟨v, hwrite, hputs⟩
  case refused =>
    intro s given refuses
    obtain ⟨e, -, hwrite⟩ | ⟨y, v, hsome, -⟩ := s.write_cases (given.toValue w) w
    · exact ⟨e, hwrite⟩
    · exact absurd (TopologySetting.takes_eq_some_iff.mp hsome) (refuses y)
  case quiet => exact fun c => c.atomic_make w
  case entered => exact fun c s x => Change.enters_eq_some_iff
  case lasting => exact fun n ops s => Deployment.explicit_run n w ops s
  case explicit => exact fun s => TopologySetting.read_explicit
  case left => exact fun s => TopologySetting.read_left
  case own => exact fun s env => TopologySetting.read_congr
  case index => exact fun ref => TopologySetting.read_database ref w
  case renewed =>
    intro ref here
    refine ⟨(Method.resetTopology ref w).2, by cases ref <;> rfl, fun u env clients => ?_⟩
    obtain ⟨other, u', made, twins⟩ := TopologyRef.twins_of_reset here env clients
    exact ⟨other, u', made, twins.indistinguishable⟩

end RedisLink
