/-
RedisLink.Proofs.Lifecycle.Edits — what writes are made of.

Every write replaces the environment or one object, or it is refused and changes
nothing: `World.Edit`. The object is replaced by one that keeps what the write
does not concern: of a deployment everything but whether callers share, and of a
topology the nodes that it has been given, unless the write is about nodes
(`Change.writesNodes`). `Change.make_edit` goes through all writes once, so that
what they keep is looked up here, one edit at a time.
-/
import RedisLink.Proofs.Lifecycle.Run

namespace RedisLink

/-- What holds of an object holds of the one it is replaced by, if the two agree about it. -/
theorem Store.get_set_of_eq {α β : Type} (f : α → β) {s : Store α} {n : Nat} {x : α}
    (h : f x = f (s.get n)) (m : Nat) : f ((s.set n x).get m) = f (s.get m) := by
  by_cases hm : m = n
  · rw [hm, Store.get_set_self, h]
  · rw [Store.get_set_of_ne _ _ hm]

/-- Whether a write is about nodes. -/
def Change.writesNodes : Change → Bool
  | .resetTopology _ | .addNode _ _ _ => true
  | _ => false

/-- What a write does, which may be about nodes or not. -/
inductive World.Edit (aboutNodes : Bool) (w : World) : World → Prop
  | nothing : Edit aboutNodes w w
  | environment (env : Environment) : Edit aboutNodes w { w with env := env }
  | credentials (k : Nat) (c : Credentials) :
      Edit aboutNodes w { w with credentials := w.credentials.set k c }
  | standalone (k : Nat) (s : Standalone) : Edit aboutNodes w (w.setStandalone k s)
  | sentinels (k : Nat) (s : Sentinels)
      (nodes : aboutNodes = false → s.nodes = (w.sentinels.get k).nodes) :
      Edit aboutNodes w { w with sentinels := w.sentinels.set k s }
  | cluster (k : Nat) (c : Cluster)
      (nodes : aboutNodes = false → c.nodes = (w.clusters.get k).nodes) :
      Edit aboutNodes w { w with clusters := w.clusters.set k c }
  | live (k : Nat) (s : LiveSettings) : Edit aboutNodes w (w.setLive k s)
  | share (n : Nat) (given : Value) :
      Edit aboutNodes w (w.setDeployment n { w.deployments.get n with share := given })

namespace World.Edit

variable {aboutNodes : Bool}

/-! ## 1. Every write is an edit -/

theorem setCredentials (w : World) (ref : TopologyRef) (c : Credentials) :
    w.Edit aboutNodes (w.setCredentials ref c) := by
  cases ref with
  | credentials k => exact .credentials k c
  | standalone k => exact .standalone k _
  | sentinels k => exact .sentinels k _ fun _ => rfl
  | cluster k => exact .cluster k _ fun _ => rfl

theorem setDatabase (ref : TopologyRef) (given : Value) (w : World) :
    w.Edit aboutNodes (ref.setDatabase given w).2 := by
  unfold TopologyRef.setDatabase
  split
  · exact setCredentials w ref _
  · exact .nothing

theorem setPort (k : Nat) (given : Value) (w : World) :
    w.Edit aboutNodes (match (w.standalones.get k).setPort given with
      | .ok s => ((.ok (), w.setStandalone k s) : Except Failure Unit × World)
      | .error e => (.error e, w)).2 := by
  split
  · exact .standalone k _
  · exact .nothing

theorem change (ref : SettingsRef) (f : LiveSettings → Except Failure LiveSettings) (w : World) :
    w.Edit aboutNodes (ref.change f w).2 := by
  unfold SettingsRef.change
  cases ref with
  | fixed s => exact .nothing
  | live k =>
    simp only
    split
    · exact .live k _
    · exact .nothing

theorem write (n : Nat) (entry : Deployment.Write) (w : World) :
    w.Edit aboutNodes (Deployment.write n entry w).2 := by
  cases entry with
  | host given => exact .standalone _ _
  | port given => exact setPort _ given w
  | password given => exact setCredentials w _ _
  | database given => exact setDatabase _ given w
  | timeout name given =>
    simp only [Deployment.write]
    split
    · exact change _ _ w
    · exact .nothing
  | share given => exact .share n given
  | _ => exact change _ _ w

theorem writeTopology (ref : TopologyRef) (name : String) (given : Value) (w : World) :
    w.Edit aboutNodes (Attribute.writeTopology ref name given w).2 := by
  unfold Attribute.writeTopology
  split
  · exact setCredentials w _ _
  · exact setDatabase _ given w
  · exact .standalone _ _
  · exact setPort _ given w
  · exact .standalone _ _
  · exact .sentinels _ _ fun _ => rfl
  · exact .nothing

theorem writeLive (k : Nat) (name : String) (given : Item) (w : World) :
    w.Edit aboutNodes (Attribute.writeLive k name given w).2 := by
  unfold Attribute.writeLive
  split
  any_goals exact change _ _ w
  exact .nothing

theorem resetTopology (ref : TopologyRef) (w : World) :
    w.Edit true (Method.resetTopology ref w).2 := by
  cases ref with
  | credentials k => exact .credentials k _
  | standalone k => exact .standalone k _
  | sentinels k => exact .sentinels k _ nofun
  | cluster k => exact .cluster k _ nofun

theorem addNode (ref : TopologyRef) (host port : Value) (w : World) :
    w.Edit true (Method.addNode ref host port w).2 := by
  unfold Method.addNode
  split
  · split
    · exact .sentinels _ _ nofun
    · exact .nothing
  · split
    · exact .cluster _ _ nofun
    · exact .nothing
  · exact .nothing

end World.Edit

/-- A write makes one edit or none. -/
theorem Change.make_edit (c : Change) (w : World) : w.Edit c.writesNodes (c.make w).2 := by
  cases c with
  | setVariable name text => exact .environment _
  | unsetVariable name => exact .environment _
  | deployment n entry => exact .write n entry w
  | topology ref name given => exact .writeTopology ref name given w
  | resetTopology ref => exact .resetTopology ref w
  | addNode ref host port => exact .addNode ref host port w
  | live k name given => exact .writeLive k name given w

/-! ## 2. What edits keep -/

/-- A topology has been made. -/
def TopologyRef.ExistsIn (w : World) : TopologyRef → Prop
  | .credentials k => k < w.credentials.size
  | .standalone k => k < w.standalones.size
  | .sentinels k => k < w.sentinels.size
  | .cluster k => k < w.clusters.size

namespace World.Edit

variable {aboutNodes : Bool} {w v : World}

/-- Modules and connections are as they were, no class is called, and nothing is reported. -/
theorem quiet (edit : w.Edit aboutNodes v) :
    v.installed = w.installed ∧ v.conducts = w.conducts ∧ v.called = w.called ∧ v.log = w.log := by
  cases edit <;> exact ⟨rfl, rfl, rfl, rfl⟩

/-- A deployment keeps the settings that it was made with. -/
theorem settings (edit : w.Edit aboutNodes v) (n : Nat) :
    (v.deployments.get n).settings = (w.deployments.get n).settings := by
  cases edit with
  | share k given => exact Store.get_set_of_eq Deployment.settings (by rfl) n
  | _ => rfl

/-- It keeps the topology that it was made on. -/
theorem topology (edit : w.Edit aboutNodes v) (n : Nat) :
    (v.deployments.get n).topology = (w.deployments.get n).topology := by
  cases edit with
  | share k given => exact Store.get_set_of_eq Deployment.topology (by rfl) n
  | _ => rfl

/-- No deployment is made. -/
theorem deployments_size (edit : w.Edit aboutNodes v) :
    v.deployments.size = w.deployments.size := by
  cases edit <;> rfl

/-- The topologies that there are stay the same. -/
theorem existsIn (edit : w.Edit aboutNodes v) (ref : TopologyRef) :
    ref.ExistsIn v ↔ ref.ExistsIn w := by
  cases ref <;> cases edit <;> exact Iff.rfl

end World.Edit

end RedisLink
