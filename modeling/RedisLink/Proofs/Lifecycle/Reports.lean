/-
RedisLink.Proofs.Lifecycle.Reports — what has been reported is never read.

Operations add lines to the log and none of them looks at it. So an operation does
the same in a world in which other lines have been reported before: it gives the
same answer, and the world after it differs in these lines alone
(`Act.Unheeding`). Operations put together from such operations are of the kind
(`map`, `next`, `withClient`), and what clients and deployments do is, writes
included. `Deployment.run_preceded` is the same of whole runs.

Closing connections and releasing clients notice even less of the world; they
commute with every change that `World.Unnoticed` describes, of which other lines in
the log are one.

Two worlds that differ in their logs are both the world without a log, preceded
by different lines. Whatever is done with a deployment in one of them goes as it
would in the other (`World.GoesOn.of_logs`).
-/
import RedisLink.Proofs.Lifecycle.Run

namespace RedisLink

/-! ## 1. Worlds with different logs -/

namespace World

/-- The world as it is if lines have been reported before all others. -/
def preceded (w : World) (before : List LogLine) : World := { w with log := before ++ w.log }

/-- The world as it is if nothing has been reported. -/
def silent (w : World) : World := { w with log := [] }

theorem preceded_silent (w : World) : w.silent.preceded w.log = w := by
  simp [preceded, silent]

section

variable (w : World) (before : List LogLine)

@[simp] theorem silent_preceded : (w.preceded before).silent = w.silent := rfl

@[simp] theorem preceded_installed : (w.preceded before).installed = w.installed := rfl

@[simp] theorem preceded_called : (w.preceded before).called = w.called := rfl

@[simp] theorem preceded_opened : (w.preceded before).opened = w.opened := rfl

@[simp] theorem preceded_conducts : (w.preceded before).conducts = w.conducts := rfl

@[simp] theorem preceded_standalones : (w.preceded before).standalones = w.standalones := rfl

@[simp] theorem preceded_sentinels : (w.preceded before).sentinels = w.sentinels := rfl

@[simp] theorem preceded_clusters : (w.preceded before).clusters = w.clusters := rfl

@[simp] theorem preceded_live : (w.preceded before).live = w.live := rfl

@[simp] theorem preceded_clients : (w.preceded before).clients = w.clients := rfl

@[simp] theorem preceded_deployments : (w.preceded before).deployments = w.deployments := rfl

@[simp] theorem preceded_record (events : List Event) (log : List LogLine) :
    (w.preceded before).record events log = (w.record events log).preceded before := by
  simp [record, preceded]

@[simp] theorem preceded_countCall :
    (w.preceded before).countCall = w.countCall.preceded before := rfl

@[simp] theorem preceded_track (n : Nat) (a : Bool) (k : Connection) :
    (w.preceded before).track n a k = (w.track n a k).preceded before := rfl

@[simp] theorem preceded_credentialsOf (ref : TopologyRef) :
    (w.preceded before).credentialsOf ref = w.credentialsOf ref := by
  cases ref <;> rfl

@[simp] theorem preceded_plan (d : Deployment) : d.plan (w.preceded before) = d.plan w := rfl

@[simp] theorem preceded_toValue (x : Item) : x.toValue (w.preceded before) = x.toValue w :=
  Item.toValue_of_clients (w.preceded_clients before) x

@[simp] theorem preceded_toPart (x : Item) : x.toPart (w.preceded before) = x.toPart w :=
  Item.toPart_of_clients (w.preceded_clients before) x

end

end World

/-! ## 2. Operations that do not look at the log -/

/-- An operation does the same whatever has been reported before. -/
def Act.Unheeding {α : Type} (act : Act α) : Prop :=
  ∀ before w, act (w.preceded before) = ((act w).1, (act w).2.preceded before)

namespace Act.Unheeding

variable {α β : Type}

theorem map {act : Act α} (h : act.Unheeding) (f : α → β) : (act.map f).Unheeding := by
  intro before w
  unfold Act.map
  rw [h before w]
  rcases act w with ⟨_ | _, _⟩ <;> rfl

/-- Operations on the client of a deployment. -/
theorem withClient {n : Nat} {name : String} {f : Nat → Act α}
    (h : ∀ client, (f client).Unheeding) : (Deployment.withClient n name f).Unheeding := by
  intro before w
  simp only [Deployment.withClient, World.preceded_deployments]
  cases (w.deployments.get n).client with
  | none => rfl
  | some client => exact h client before w

end Act.Unheeding

/-! ## 3. Closing and releasing -/

/-- A change of the world that closing and releasing do not notice. -/
structure World.Unnoticed (f : World → World) : Prop where
  clients : ∀ w, (f w).clients = w.clients
  deployments : ∀ w, (f w).deployments = w.deployments
  conducts : ∀ w, (f w).conducts = w.conducts
  timeout : ∀ (ref : SettingsRef) name w, ref.timeout name (f w) = ref.timeout name w
  setClient : ∀ w n c, (f w).setClient n c = f (w.setClient n c)
  setDeployment : ∀ w n d, (f w).setDeployment n d = f (w.setDeployment n d)
  record : ∀ w events log, (f w).record events log = f (w.record events log)

theorem World.unnoticed_preceded (before : List LogLine) : Unnoticed (·.preceded before) where
  clients _ := rfl
  deployments _ := rfl
  conducts _ := rfl
  timeout _ _ _ := rfl
  setClient _ _ _ := rfl
  setDeployment _ _ _ := rfl
  record w events log := w.preceded_record before events log

/-- An operation does the same after a change of the world as before it. -/
def Act.Commutes {α : Type} (f : World → World) (act : Act α) : Prop :=
  ∀ w, act (f w) = ((act w).1, f (act w).2)

theorem Act.Commutes.next {α β : Type} {f : World → World} {act : Act α} {g : α → Act β}
    (h : act.Commutes f) (hg : ∀ x, (g x).Commutes f) : (act >>= g).Commutes f := by
  intro w
  simp only [bind, Act.andThen, h w]
  rcases act w with ⟨_ | x, v⟩
  · rfl
  · exact hg x v

section

variable {f : World → World} (hf : World.Unnoticed f)

include hf

namespace Client

theorem close_commutes (n : Nat) : (close n).Commutes f := by
  intro w
  simp only [close, hf.clients, hf.conducts, hf.setClient, hf.record]

theorem closeAsync_commutes (n : Nat) (limit : Limit) : (closeAsync n limit).Commutes f := by
  intro w
  simp only [closeAsync, hf.clients, hf.conducts, hf.setClient, hf.record]

theorem shutdownAll_commutes (n : Nat) (timeout : Value) : (shutdownAll n timeout).Commutes f :=
  (close_commutes hf n).next fun _ =>
    Act.Commutes.next (fun _ => rfl) fun limit => closeAsync_commutes hf n limit

end Client

namespace Deployment

theorem release_commutes (n client : Nat) : (release n client).Commutes f := by
  intro w
  simp only [release, hf.deployments, hf.clients, hf.setDeployment, hf.record]

theorem destroy_commutes (n : Nat) : (destroy n).Commutes f := by
  intro w
  simp only [destroy, hf.deployments, hf.clients]
  cases (w.deployments.get n).client with
  | none => rfl
  | some client =>
    simp only [Client.close_commutes hf client w]
    split
    · rfl
    · rcases Client.close client w with ⟨_ | _, v⟩
      · rfl
      · exact release_commutes hf n client v

theorem destroyAsync_commutes (n : Nat) : (destroyAsync n).Commutes f := by
  intro w
  simp only [destroyAsync, hf.deployments, hf.timeout]
  cases (w.deployments.get n).client with
  | none => rfl
  | some client =>
    cases (w.deployments.get n).settings.timeout .shutdown w with
    | error e => rfl
    | ok t =>
      simp only [Client.shutdownAll_commutes hf client _ w]
      rcases Client.shutdownAll client (.duration t.duration) w with ⟨_ | _, v⟩
      · rfl
      · exact release_commutes hf n client v

end Deployment

end

/-! ## 4. Clients and deployments -/

namespace Client

theorem connect_unheeding (n : Nat) (a : Bool) : (connect n a).Unheeding := by
  intro before w
  simp only [connect, World.preceded_clients, World.preceded_installed, World.preceded_conducts,
    World.preceded_called, World.preceded_opened, World.preceded_countCall, World.preceded_track]
  rcases (w.clients.get n).plan w.installed a with ⟨lines, e | b⟩
  · simp only [World.preceded_record]
  · cases w.conducts.calls w.called with
    | some e => simp only [World.preceded_record]
    | none => simp only [World.preceded_record]

theorem close_unheeding (n : Nat) : (close n).Unheeding := fun before =>
  close_commutes (World.unnoticed_preceded before) n

theorem shutdownAll_unheeding (n : Nat) (timeout : Value) : (shutdownAll n timeout).Unheeding :=
  fun before => shutdownAll_commutes (World.unnoticed_preceded before) n timeout

end Client

namespace Deployment

theorem start_unheeding (n : Nat) : (start n).Unheeding := by
  intro before w
  simp only [start, World.preceded_deployments, World.preceded_plan]
  cases (w.deployments.get n).client with
  | some client => rfl
  | none =>
    cases (w.deployments.get n).plan w with
    | error e => rfl
    | ok c => simp [World.record, World.setDeployment, World.preceded]

theorem handOut_unheeding (n : Nat) (a : Bool) : (handOut n a).Unheeding := by
  intro before w
  simp only [handOut, World.preceded_deployments]
  cases (w.deployments.get n).client with
  | none => rfl
  | some client =>
    simp only [Client.connect_unheeding client a before w]
    cases (w.deployments.get n).share.truthy with
    | false => rfl
    | true =>
      cases (w.deployments.get n).shared a with
      | some k => rfl
      | none => rcases Client.connect client a w with ⟨_ | k, v⟩ <;> rfl

theorem destroy_unheeding (n : Nat) : (destroy n).Unheeding := fun before =>
  destroy_commutes (World.unnoticed_preceded before) n

theorem destroyAsync_unheeding (n : Nat) : (destroyAsync n).Unheeding := fun before =>
  destroyAsync_commutes (World.unnoticed_preceded before) n

end Deployment

/-! ## 5. Writes -/

namespace Change

theorem setPassword_unheeding (ref : TopologyRef) (given : Value) :
    (ref.setPassword given).Unheeding := by
  intro before w
  cases ref <;> rfl

theorem setDatabase_unheeding (ref : TopologyRef) (given : Value) :
    (ref.setDatabase given).Unheeding := by
  intro before w
  simp only [TopologyRef.setDatabase, World.preceded_credentialsOf]
  cases (w.credentialsOf ref).setDatabase given with
  | error e => rfl
  | ok c => cases ref <;> rfl

theorem change_unheeding (ref : SettingsRef) (f : LiveSettings → Except Failure LiveSettings) :
    (ref.change f).Unheeding := by
  intro before w
  cases ref with
  | fixed s => rfl
  | live n =>
    simp only [SettingsRef.change, World.preceded_live]
    cases f (w.live.get n) <;> rfl

theorem write_unheeding (n : Nat) (entry : Deployment.Write) :
    (Deployment.write n entry).Unheeding := by
  intro before w
  cases entry with
  | host given => rfl
  | port given =>
    simp only [Deployment.write, World.preceded_deployments, World.preceded_standalones]
    cases (w.standalones.get (w.deployments.get n).standalone).setPort given <;> rfl
  | password given => exact setPassword_unheeding _ given before w
  | database given => exact setDatabase_unheeding _ given before w
  | timeout name given =>
    simp only [Deployment.write, World.preceded_deployments]
    cases Duration.ofMillis given with
    | error e => rfl
    | ok t => exact change_unheeding _ _ before w
  | share given => rfl
  | _ =>
    simp only [Deployment.write, World.preceded_deployments]
    exact change_unheeding _ _ before w

theorem writeTopology_unheeding (ref : TopologyRef) (name : String) (given : Value) :
    (Attribute.writeTopology ref name given).Unheeding := by
  intro before w
  unfold Attribute.writeTopology
  split
  · exact setPassword_unheeding _ given before w
  · exact setDatabase_unheeding _ given before w
  · rfl
  · simp only [World.preceded_standalones]
    cases (w.standalones.get _).setPort given <;> rfl
  · rfl
  · rfl
  · rfl

theorem writeLive_unheeding (k : Nat) (name : String) (given : Item) :
    (Attribute.writeLive k name given).Unheeding := by
  intro before w
  unfold Attribute.writeLive
  simp only [World.preceded_toValue, World.preceded_toPart]
  split
  any_goals exact change_unheeding _ _ before w
  rfl

theorem addNode_unheeding (ref : TopologyRef) (host port : Value) :
    (Method.addNode ref host port).Unheeding := by
  intro before w
  cases ref with
  | sentinels n =>
    simp only [Method.addNode, World.preceded_sentinels]
    cases (w.sentinels.get n).addSentinel host port <;> rfl
  | cluster n =>
    simp only [Method.addNode, World.preceded_clusters]
    cases (w.clusters.get n).addNode host port <;> rfl
  | _ => rfl

theorem make_unheeding (c : Change) : c.make.Unheeding := by
  cases c with
  | setVariable name text => exact fun _ _ => rfl
  | unsetVariable name => exact fun _ _ => rfl
  | deployment n entry => exact write_unheeding n entry
  | topology ref name given => exact writeTopology_unheeding ref name given
  | resetTopology ref => cases ref <;> exact fun _ _ => rfl
  | addNode ref host port => exact addNode_unheeding ref host port
  | live k name given => exact writeLive_unheeding k name given

end Change

/-! ## 6. Runs -/

namespace Deployment

theorem perform_unheeding (n : Nat) (op : Operation) : (op.perform n).Unheeding := by
  cases op with
  | call c =>
    cases c with
    | start => exact (start_unheeding n).map _
    | handOut a => exact (handOut_unheeding n a).map _
    | destroy => exact (destroy_unheeding n).map _
    | destroyAsync => exact (destroyAsync_unheeding n).map _
    | change c => exact c.make_unheeding.map _
  | connect a => exact .withClient fun client => (Client.connect_unheeding client a).map _
  | close => exact .withClient fun client => (Client.close_unheeding client).map _
  | closeAll t => exact .withClient fun client => (Client.shutdownAll_unheeding client _).map _

/-- A moment in worlds in which nothing has been reported. -/
def Moment.silent (m : Moment) : Moment :=
  { m with before := m.before.silent, after := m.after.silent }

/-- A run after other reports: its moments differ in the logs of their worlds alone, and it ends in
the same world after these reports. -/
theorem run_preceded (n : Nat) (before : List LogLine) (w : World) (ops : List Operation) :
    (trace n (w.preceded before) ops).map Moment.silent = (trace n w ops).map Moment.silent ∧
      run n (w.preceded before) ops = (run n w ops).preceded before := by
  induction ops generalizing w with
  | nil => exact ⟨rfl, rfl⟩
  | cons op rest ih =>
    have hafter : (Moment.of n op (w.preceded before)).after =
        (Moment.of n op w).after.preceded before :=
      congrArg Prod.snd (perform_unheeding n op before w)
    have hmoment : (Moment.of n op (w.preceded before)).silent = (Moment.of n op w).silent := by
      simp [Moment.silent, Moment.of, perform_unheeding n op before w]
    obtain ⟨hmoments, hend⟩ := ih (Moment.of n op w).after
    constructor
    · simp only [trace, List.map_cons, hmoment, hafter, hmoments]
    · simp only [run, hafter, hend]

end Deployment

/-- What is done with deployments goes in one world as it does in another. -/
structure World.GoesOn (w v : World) : Prop where
  /-- Each operation has the same answer, and the worlds before and after it differ in what has been
  reported alone. -/
  moments : ∀ n ops, (Deployment.trace n v ops).map Deployment.Moment.silent =
    (Deployment.trace n w ops).map Deployment.Moment.silent
  /-- A run reports the same and ends in the same world but for what had been reported before. -/
  ends : ∀ n ops, ∃ lines, (Deployment.run n w ops).log = w.log ++ lines ∧
    Deployment.run n v ops = { Deployment.run n w ops with log := v.log ++ lines }

theorem World.GoesOn.of_logs {w v : World} (same : v.silent = w.silent) : w.GoesOn v := by
  have hw := w.preceded_silent
  have hv := v.preceded_silent
  rw [same] at hv
  have hrun n ops := Deployment.run_preceded n w.log w.silent ops
  have hrun' n ops := Deployment.run_preceded n v.log w.silent ops
  rw [hw] at hrun
  rw [hv] at hrun'
  constructor
  · intro n ops
    rw [(hrun n ops).1, (hrun' n ops).1]
  · intro n ops
    refine ⟨(Deployment.run n w.silent ops).log, ?_, ?_⟩
    · rw [(hrun n ops).2]
      rfl
    · rw [(hrun n ops).2, (hrun' n ops).2]
      rfl

end RedisLink
