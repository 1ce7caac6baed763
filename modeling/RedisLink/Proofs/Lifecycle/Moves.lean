/-
RedisLink.Proofs.Lifecycle.Moves — what operations on a deployment are made of.

Operations that are not writes are made of six moves: they report, call a class,
number a connection, replace a client, add one, or replace their deployment by
one with the same settings that shares alike. `perform_moves` says that there are no
others. What every move keeps is kept by all these operations, so it is looked
up here, one move at a time, and not in the operations again: that they never
touch what is configured is `perform_configuration`.
-/
import Mathlib.Logic.Relation
import RedisLink.Proofs.Lifecycle.Effect
import RedisLink.Proofs.Opening

namespace RedisLink

/-- Whether an operation is a write. -/
def Deployment.Operation.isChange : Operation → Bool
  | .call (.change _) => true
  | _ => false

/-- An operation is a write or is not. -/
theorem Deployment.Operation.change_cases (op : Operation) :
    op.isChange = false ∨ ∃ c, op = .call (.change c) := by
  cases op with
  | call c =>
    cases c with
    | change c => exact .inr ⟨c, rfl⟩
    | _ => exact .inl rfl
  | _ => exact .inl rfl

/-! ## 1. Moves -/

/-- What an operation that is not a write does at a time. -/
inductive World.Move (n : Nat) (w : World) : World → Prop
  | record (events : List Event) (log : List LogLine) : Move n w (w.record events log)
  | call : Move n w w.countCall
  | number (k : Nat) : Move n w { w with opened := k }
  | setClient (client : Nat) (c : Client) (source : c.source = (w.clients.get client).source) :
      Move n w (w.setClient client c)
  /-- A new client comes with records of its own. -/
  | addClient (c : Client) (next : Nat) :
      Move n w { w with nextRecord := next, clients := w.clients.add c }
  | setDeployment (d : Deployment) (settings : d.settings = (w.deployments.get n).settings)
      (share : d.share = (w.deployments.get n).share) : Move n w (w.setDeployment n d)

/-- One move after the other. -/
abbrev World.Moves (n : Nat) : World → World → Prop := Relation.ReflTransGen (World.Move n)

namespace Client

theorem connect_moves (n client : Nat) (a : Bool) (w : World) :
    w.Moves n (connect client a w).2 := by
  have hconnecting := connecting client a w
  generalize connect client a w = result at hconnecting
  cases hconnecting with
  | unplanned lines e plan => exact .single (.record _ _)
  | refused lines b e plan call => exact (Relation.ReflTransGen.single .call).tail (.record _ _)
  | opened lines b plan call =>
    refine (((Relation.ReflTransGen.single .call).tail (.number _)).tail
      (.setClient client _ ?_)).tail (.record _ _)
    cases a <;> rfl

theorem close_moves (n client : Nat) (w : World) : w.Moves n (close client w).2 :=
  (Relation.ReflTransGen.single (.setClient client _ rfl)).tail (.record _ _)

theorem closeAsync_moves (n client : Nat) (limit : Limit) (w : World) :
    w.Moves n (closeAsync client limit w).2 :=
  (Relation.ReflTransGen.single (.setClient client _ rfl)).tail (.record _ _)

theorem shutdownAll_moves (n client : Nat) (t : Timeout) (w : World) :
    w.Moves n (shutdownAll client (.duration t.duration) w).2 := by
  have hclose := close_moves n client w
  rw [shutdownAll_eq]
  rcases hc : close client w with ⟨_ | _, v⟩ <;> rw [hc] at hclose
  · exact hclose
  · exact hclose.trans (closeAsync_moves n client _ v)

end Client

namespace Deployment

theorem start_moves (n : Nat) (w : World) : w.Moves n (start n w).2 := by
  cases hc : (w.deployments.get n).client with
  | some client =>
    simp only [start, hc]
    exact .refl
  | none =>
    cases hp : (w.deployments.get n).plan w with
    | error e =>
      simp only [start, hc, hp]
      exact .refl
    | ok c =>
      simp only [start, hc, hp]
      exact ((Relation.ReflTransGen.single (.addClient c _)).tail (.setDeployment _ rfl rfl)).tail
        (.record _ _)

/-- Keeping a connection for callers to share leaves what is configured for the deployment. -/
theorem setShared_moves {n : Nat} {w : World} {d : Deployment} (h : w.deployments.get n = d)
    (a : Bool) (k : Connection) : w.Moves n (w.setDeployment n (d.setShared a k)) := by
  subst h
  refine .single (.setDeployment _ ?_ ?_) <;> cases a <;> rfl

theorem handOut_moves (n : Nat) (a : Bool) (w : World) : w.Moves n (handOut n a w).2 := by
  cases hc : (w.deployments.get n).client with
  | none =>
    simp only [handOut, hc]
    exact .refl
  | some client =>
    have hconnect := Client.connect_moves n client a w
    have hcases := Client.connect_cases client a w
    simp only [handOut, hc]
    split
    · split
      · exact .refl
      · rcases hr : Client.connect client a w with ⟨_ | k, v⟩ <;> rw [hr] at hconnect hcases
        · exact hconnect
        · obtain ⟨e, herror, -⟩ | ⟨_, -, -, hdep⟩ := hcases
          · cases herror
          · exact hconnect.trans (setShared_moves (congrArg (·.get n) hdep) a k)
    · exact hconnect

theorem release_moves (n client : Nat) (w : World) : w.Moves n (release n client w).2 :=
  (Relation.ReflTransGen.single (.setDeployment _ rfl rfl)).tail (.record _ _)

theorem destroy_moves (n : Nat) (w : World) : w.Moves n (destroy n w).2 := by
  cases hc : (w.deployments.get n).client with
  | none =>
    simp only [destroy, hc]
    exact .refl
  | some client =>
    have hclose := Client.close_moves n client w
    simp only [destroy, hc]
    split
    · exact .refl
    · rcases hr : Client.close client w with ⟨_ | _, v⟩ <;> rw [hr] at hclose
      · exact hclose
      · exact hclose.trans (release_moves n client v)

theorem destroyAsync_moves (n : Nat) (w : World) : w.Moves n (destroyAsync n w).2 := by
  cases hc : (w.deployments.get n).client with
  | none =>
    simp only [destroyAsync, hc]
    exact .refl
  | some client =>
    cases ht : (w.deployments.get n).settings.timeout .shutdown w with
    | error e =>
      simp only [destroyAsync, hc, ht]
      exact .refl
    | ok t =>
      have hclose := Client.shutdownAll_moves n client t w
      simp only [destroyAsync, hc, ht]
      rcases hr : Client.shutdownAll client (.duration t.duration) w with ⟨_ | _, v⟩ <;>
        rw [hr] at hclose
      · exact hclose
      · exact hclose.trans (release_moves n client v)

/-- The world after an operation does not depend on what is made of its result. -/
theorem map_after {α β : Type} (act : Act α) (f : α → β) (w : World) :
    (act.map f w).2 = (act w).2 := by
  unfold Act.map
  rcases act w with ⟨_ | _, _⟩ <;> rfl

theorem map_answer {α β : Type} (act : Act α) (f : α → β) (w : World) :
    (act.map f w).1 = (act w).1.map f := by
  unfold Act.map
  rcases act w with ⟨_ | _, _⟩ <;> rfl

theorem perform_change_after (n : Nat) (c : Change) (w : World) :
    (Operation.perform n (.call (.change c)) w).2 = (c.make w).2 :=
  map_after c.make _ w

/-- Every operation that is not a write is made of moves. -/
theorem perform_moves {n : Nat} {op : Operation} (hop : op.isChange = false) (w : World) :
    w.Moves n (op.perform n w).2 := by
  have hdirect : ∀ {α : Type} (name : String) (act : Nat → Act α) (f : α → Option Connection),
      (∀ client, w.Moves n (act client w).2) →
        w.Moves n (withClient n name (fun client => (act client).map f) w).2 := by
    intro α name act f hact
    unfold withClient
    split
    · exact .refl
    · rw [map_after]
      exact hact _
  cases op with
  | call c =>
    cases c with
    | start => simpa only [Operation.perform, Call.perform, map_after] using start_moves n w
    | handOut a => simpa only [Operation.perform, Call.perform, map_after] using handOut_moves n a w
    | destroy => simpa only [Operation.perform, Call.perform, map_after] using destroy_moves n w
    | destroyAsync =>
      simpa only [Operation.perform, Call.perform, map_after] using destroyAsync_moves n w
    | change c => cases hop
  | connect a => exact hdirect _ _ _ fun client => Client.connect_moves n client a w
  | close => exact hdirect _ _ _ fun client => Client.close_moves n client w
  | closeAll t => exact hdirect _ _ _ fun client => Client.shutdownAll_moves n client t w

end Deployment

/-! ## 2. What is configured -/

/-- Everything that operations on deployments only read is the same. -/
structure World.SameConfiguration (w v : World) : Prop where
  env : v.env = w.env
  installed : v.installed = w.installed
  conducts : v.conducts = w.conducts
  credentials : v.credentials = w.credentials
  standalones : v.standalones = w.standalones
  sentinels : v.sentinels = w.sentinels
  clusters : v.clusters = w.clusters
  live : v.live = w.live

namespace World

variable {n : Nat} {u v w : World}

theorem SameConfiguration.refl (w : World) : w.SameConfiguration w :=
  ⟨rfl, rfl, rfl, rfl, rfl, rfl, rfl, rfl⟩

theorem SameConfiguration.trans (h : u.SameConfiguration v) (h' : v.SameConfiguration w) :
    u.SameConfiguration w :=
  ⟨h'.env.trans h.env, h'.installed.trans h.installed, h'.conducts.trans h.conducts,
    h'.credentials.trans h.credentials, h'.standalones.trans h.standalones,
    h'.sentinels.trans h.sentinels, h'.clusters.trans h.clusters, h'.live.trans h.live⟩

/-- Every deployment keeps the settings that it was made with. -/
theorem Move.settings (h : w.Move n v) (k : Nat) :
    (v.deployments.get k).settings = (w.deployments.get k).settings := by
  cases h with
  | setDeployment d settings share => exact Store.get_set_of_eq Deployment.settings settings k
  | _ => rfl

theorem Moves.settings (h : w.Moves n v) (k : Nat) :
    (v.deployments.get k).settings = (w.deployments.get k).settings := by
  induction h with
  | refl => rfl
  | tail _ move ih => exact (move.settings k).trans ih

theorem Move.configuration (h : w.Move n v) : w.SameConfiguration v := by
  cases h <;> exact ⟨rfl, rfl, rfl, rfl, rfl, rfl, rfl, rfl⟩

theorem Moves.configuration (h : w.Moves n v) : w.SameConfiguration v := by
  induction h with
  | refl => exact .refl w
  | tail _ move ih => exact ih.trans move.configuration

end World

/-- Only writes change what is configured. -/
theorem Deployment.perform_configuration {n : Nat} {op : Operation} (hop : op.isChange = false)
    (w : World) : w.SameConfiguration (op.perform n w).2 :=
  (perform_moves hop w).configuration

end RedisLink
