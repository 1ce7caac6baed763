/-
RedisLink.Proofs.Secrecy.Operations — operations that cannot tell passwords
apart.

What can be told of an operation is its result, seen through a view that leaves
out what may differ, and the world after it without passwords: `Act.seen`. Two
operations agree if that is the same wherever they are done in worlds that are
alike but for passwords, `Act.Agree`. An operation agrees with itself if it can
be done in the redacted world instead (`Agree.of_blind`), and operations that
agree can be put one after the other (`Agree.bind`).

Everything that clients and deployments do agrees with itself. Connections are
the only results in which a password can be found, so only they need a view.
-/
import RedisLink.Proofs.Lifecycle.Closing
import RedisLink.Proofs.Secrecy.Redaction

namespace RedisLink

/-! ## 1. What can be told -/

namespace Act

variable {α β γ δ : Type}

/-- What can be told of an operation: its result under a view, and the world after it without
passwords. -/
def seen (view : α → β) (act : Act α) (w : World) : Except Failure β × World :=
  ((act w).1.map view, (act w).2.redacted)

theorem seen_ext {view : α → β} {act act' : Act α} {w w' : World}
    (result : (act w).1.map view = (act' w').1.map view)
    (world : (act w).2.redacted = (act' w').2.redacted) :
    act.seen view w = act'.seen view w' :=
  Prod.ext result world

/-- Operations that cannot be told apart in worlds that are alike but for passwords. -/
def Agree (view : α → β) (act act' : Act α) : Prop :=
  ∀ w w' : World, w.redacted = w'.redacted → act.seen view w = act'.seen view w'

namespace Agree

/-- It is enough that an operation can be done with redacted arguments in the redacted world. -/
theorem of_blind {view : α → β} (f : γ → Act α) (redact : γ → γ)
    (blind : ∀ x w, (f (redact x)).seen view w.redacted = (f x).seen view w) {x x' : γ}
    (h : redact x = redact x') : Agree view (f x) (f x') := by
  intro w w' hw
  rw [← blind x w, ← blind x' w', h, hw]

theorem of_blind_self {view : α → β} {act : Act α}
    (blind : ∀ w, act.seen view w.redacted = act.seen view w) : Agree view act act := by
  intro w w' hw
  rw [← blind w, ← blind w', hw]

theorem give {view : α → β} {x x' : α} (h : view x = view x') :
    Agree view (pure x : Act α) (pure x') := by
  intro w w' hw
  exact Prod.ext (congrArg Except.ok h) hw

theorem ofExcept {view : α → β} {r r' : Except Failure α} (h : r.map view = r'.map view) :
    Agree view (Act.ofExcept r) (Act.ofExcept r') := by
  intro w w' hw
  exact Prod.ext h hw

theorem fail (view : α → β) (e : Failure) : Agree view (Act.fail e) (Act.fail e) := by
  intro w w' hw
  exact Prod.ext rfl hw

/-- Operations one after the other. -/
theorem bind {view : α → γ} {view' : β → δ} {act act' : Act α} {f f' : α → Act β}
    (h : Agree view act act') (hf : ∀ x x', view x = view x' → Agree view' (f x) (f' x')) :
    Agree view' (act >>= f) (act' >>= f') := by
  intro w w' hw
  have hact := h w w' hw
  simp only [seen, Prod.mk.injEq] at hact
  obtain ⟨hresult, hworld⟩ := hact
  rcases ha : act w with ⟨r, v⟩
  rcases ha' : act' w' with ⟨r', v'⟩
  rw [ha, ha'] at hresult hworld
  simp only [seen, Bind.bind, andThen, ha, ha']
  obtain ⟨e, rfl, rfl⟩ | ⟨x, x', rfl, rfl, hx⟩ := cases_of_map_eq hresult
  · exact Prod.ext rfl hworld
  · exact hf x x' hx v v' hworld

/-- Operations after a result that is there or not. -/
theorem ofExcept_bind {view : α → γ} {view' : β → δ} {r r' : Except Failure α}
    {f f' : α → Act β} (h : r.map view = r'.map view)
    (hf : ∀ x x', r = .ok x → r' = .ok x' → view x = view x' → Agree view' (f x) (f' x')) :
    Agree view' (Act.ofExcept r >>= f) (Act.ofExcept r' >>= f') := by
  obtain ⟨e, rfl, rfl⟩ | ⟨x, x', rfl, rfl, hx⟩ := cases_of_map_eq h
  · exact fail view' e
  · exact hf x x' rfl rfl hx

/-- Operations one after the other, where the result of the first can be told. -/
theorem next {view : β → δ} {act act' : Act α} {f f' : α → Act β} (h : Agree id act act')
    (hf : ∀ x, Agree view (f x) (f' x)) : Agree view (act >>= f) (act' >>= f') :=
  h.bind fun x _ hx => by
    obtain rfl := hx
    exact hf x

/-- Operations on the world as it is. -/
theorem world {view : β → δ} {f f' : World → Act β}
    (hf : ∀ w w' : World, w.redacted = w'.redacted → Agree view (f w) (f' w')) :
    Agree view (Act.world >>= f) (Act.world >>= f') := by
  intro w w' hw
  exact hf w w' hw w w' hw

theorem change {f f' : World → World}
    (h : ∀ w w' : World, w.redacted = w'.redacted → (f w).redacted = (f' w').redacted) :
    Agree id (Act.change f) (Act.change f') := by
  intro w w' hw
  exact Prod.ext rfl (h w w' hw)

/-- A record gets the same number. -/
theorem share (redact : α → β) {x x' : α} (h : redact x = redact x') :
    Agree (Shared.map redact) (Act.share x) (Act.share x') := by
  intro w w' hw
  have hnext : w.nextRecord = w'.nextRecord := by
    show w.redacted.nextRecord = w'.redacted.nextRecord
    rw [hw]
  refine Prod.ext ?_ ?_
  · exact congrArg Except.ok (by simp only [Shared.map, h, hnext])
  · show { w.redacted with nextRecord := w.nextRecord + 1 } =
      { w'.redacted with nextRecord := w'.nextRecord + 1 }
    rw [hw, hnext]

theorem share_self (x : α) : Agree id (Act.share x) (Act.share x) :=
  share id rfl

theorem report (line : LogLine) : Agree id (Act.report line) (Act.report line) := by
  refine change fun w w' hw => ?_
  show { w.redacted with log := w.redacted.log ++ [line] } =
    { w'.redacted with log := w'.redacted.log ++ [line] }
  rw [hw]

end Agree

end Act

/-! ## 2. Reading and changing the redacted world -/

namespace World

variable (w : World)

@[simp] theorem redacted_env : w.redacted.env = w.env.redacted := rfl

@[simp] theorem redacted_installed : w.redacted.installed = w.installed := rfl

@[simp] theorem redacted_conducts : w.redacted.conducts = w.conducts := rfl

@[simp] theorem redacted_nextRecord : w.redacted.nextRecord = w.nextRecord := rfl

@[simp] theorem redacted_called : w.redacted.called = w.called := rfl

@[simp] theorem redacted_opened : w.redacted.opened = w.opened := rfl

@[simp] theorem redacted_standalones :
    w.redacted.standalones = w.standalones.map Standalone.redacted := rfl

@[simp] theorem redacted_sentinels :
    w.redacted.sentinels = w.sentinels.map Sentinels.redacted := rfl

@[simp] theorem redacted_clusters : w.redacted.clusters = w.clusters.map Cluster.redacted := rfl

@[simp] theorem redacted_live : w.redacted.live = w.live.map LiveSettings.redacted := rfl

@[simp] theorem redacted_builders : w.redacted.builders = w.builders.map Builder.redacted := rfl

@[simp] theorem redacted_clients : w.redacted.clients = w.clients.map Client.redacted := rfl

@[simp] theorem redacted_deployments :
    w.redacted.deployments = w.deployments.map Deployment.redacted := rfl

@[simp] theorem redacted_sharedResources : w.redacted.sharedResources = w.sharedResources := rfl

@[simp] theorem redacted_record (events : List Event) (log : List LogLine) :
    (w.record events log).redacted = w.redacted.record events log := rfl

@[simp] theorem redacted_countCall : w.countCall.redacted = w.redacted.countCall := rfl

@[simp] theorem redacted_setClient (n : Nat) (c : Client) :
    (w.setClient n c).redacted = w.redacted.setClient n c.redacted := by
  simp [redacted, setClient]

@[simp] theorem redacted_track (n : Nat) (a : Bool) (k : Connection) :
    (w.track n a k).redacted = w.redacted.track n a k.redacted := by
  have hnumber : k.redacted.number = k.number := rfl
  cases a <;> simp [redacted, track, setClient, Client.track, Client.redacted, hnumber]

@[simp] theorem redacted_setDeployment (n : Nat) (d : Deployment) :
    (w.setDeployment n d).redacted = w.redacted.setDeployment n d.redacted := by
  simp [redacted, setDeployment]

@[simp] theorem redacted_setLive (n : Nat) (s : LiveSettings) :
    (w.setLive n s).redacted = w.redacted.setLive n s.redacted := by
  simp [redacted, setLive]

@[simp] theorem redacted_setStandalone (n : Nat) (s : Standalone) :
    (w.setStandalone n s).redacted = w.redacted.setStandalone n s.redacted := by
  simp [redacted, setStandalone]

@[simp] theorem credentialsOf_redacted (ref : TopologyRef) :
    w.redacted.credentialsOf ref = (w.credentialsOf ref).redacted := by
  cases ref <;> rfl

@[simp] theorem redacted_setCredentials (ref : TopologyRef) (c : Credentials) :
    (w.setCredentials ref c).redacted = w.redacted.setCredentials ref c.redacted := by
  cases ref <;>
    simp [redacted, setCredentials, Standalone.redacted, Sentinels.redacted, Cluster.redacted]

end World

/-! ## 3. Clients -/

namespace Client

variable (n : Nat) (a : Bool) (w : World)

theorem connect_blind :
    (connect n a).seen Connection.redacted w.redacted =
      (connect n a).seen Connection.redacted w := by
  obtain ⟨hlines, hplan⟩ := (w.clients.get n).plan_redacted w.installed a
  unfold Act.seen connect
  simp only [World.redacted_clients, World.redacted_installed, World.redacted_conducts,
    World.redacted_called, World.redacted_opened, Store.get_map]
  rcases hc : (w.clients.get n).plan w.installed a with ⟨lines, r⟩
  rcases hc' : (w.clients.get n).redacted.plan w.installed a with ⟨lines', r'⟩
  rw [hc, hc'] at hlines hplan
  obtain rfl : lines' = lines := hlines
  obtain ⟨e, rfl, rfl⟩ | ⟨b', b, rfl, rfl, hb⟩ := cases_of_map_eq hplan
  · simp [Except.map]
  · cases w.conducts.calls w.called with
    | some e => simp [Except.map]
    | none =>
      have hk : ∀ number, Connection.redacted ⟨number, b'⟩ = Connection.redacted ⟨number, b⟩ :=
        fun number => by rw [Connection.redacted, hb]; rfl
      refine Prod.ext (congrArg Except.ok (hk _)) ?_
      simp only [World.redacted_record, World.redacted_track, World.redacted_countCall,
        World.redacted_redacted, connectedLine_redacted, hk]

theorem closeAll_redacted (conducts : Conducts) : ∀ cs : List Connection,
    closeAll conducts (cs.map Connection.redacted) =
      { closeAll conducts cs with
        remaining := (closeAll conducts cs).remaining.map Connection.redacted }
  | [] => rfl
  | c :: rest => by
    have ih := closeAll_redacted conducts rest
    simp only [List.map_cons, closeAll, Connection.redacted]
    cases closeFailure? c.number (conducts.blocking c.number) with
    | some e => rfl
    | none => exact congrArg (fun closing : Closing =>
        { closing with events := .close c.number :: closing.events }) ih

theorem asyncCloseAll_redacted (conducts : Conducts) (limit : Limit) : ∀ cs : List Connection,
    asyncCloseAll conducts limit (cs.map Connection.redacted) =
      { asyncCloseAll conducts limit cs with
        remaining := (asyncCloseAll conducts limit cs).remaining.map Connection.redacted }
  | [] => rfl
  | c :: rest => by
    have ih := asyncCloseAll_redacted conducts limit rest
    simp only [List.map_cons, asyncCloseAll, Connection.redacted]
    rcases asyncClose c.number (conducts.asynchronous c.number) limit with ⟨events, ending⟩
    cases ending with
    | failed e => rfl
    | closed => exact congrArg (fun closing : Closing =>
        { closing with events := events ++ closing.events }) ih
    | expired => exact congrArg (fun closing : Closing =>
        { closing with
          events := events ++ closing.events
          log := expiredLine limit c.number :: closing.log }) ih

theorem shutdown_redacted (c : Client) (conducts : Conducts) :
    c.redacted.shutdown conducts =
      { c.shutdown conducts with
        remaining := (c.shutdown conducts).remaining.map Connection.redacted } := by
  have hall := closeAll_redacted conducts c.blocking
  unfold shutdown
  rw [show c.redacted.blocking = c.blocking.map Connection.redacted from rfl, hall]
  cases hf : (closeAll conducts c.blocking).failure <;> simp [hf]

theorem close_blind : (close n).seen id w.redacted = (close n).seen id w := by
  unfold Act.seen close
  simp only [World.redacted_clients, World.redacted_conducts, Store.get_map, shutdown_redacted]
  refine Prod.ext rfl ?_
  simp only [World.redacted_record, World.redacted_setClient, World.redacted_redacted]
  congr 2
  simp [redacted]

theorem closeAsync_blind (limit : Limit) :
    (closeAsync n limit).seen id w.redacted = (closeAsync n limit).seen id w := by
  unfold Act.seen closeAsync
  have hasync : (w.clients.get n).redacted.asynchronous =
    (w.clients.get n).asynchronous.map Connection.redacted := rfl
  simp only [World.redacted_clients, World.redacted_conducts, Store.get_map, hasync,
    asyncCloseAll_redacted]
  refine Prod.ext rfl ?_
  simp only [World.redacted_record, World.redacted_setClient, World.redacted_redacted]
  congr 2
  simp [redacted]

open Act (Agree)

theorem connect_agree : Agree Connection.redacted (connect n a) (connect n a) :=
  .of_blind_self fun w => connect_blind n a w

theorem close_agree : Agree id (close n) (close n) := .of_blind_self fun w => close_blind n w

theorem shutdownAll_agree (timeout : Value) :
    Agree id (shutdownAll n timeout) (shutdownAll n timeout) :=
  (close_agree n).next fun _ => (Agree.ofExcept rfl).next fun limit =>
    .of_blind_self fun w => closeAsync_blind n w limit

end Client

/-! ## 4. What a deployment reads -/

section

variable (w : World)

theorem TopologyRef.password_redacted (ref : TopologyRef) :
    ref.password w.redacted = (ref.password w).masked := by
  simp only [password, World.credentialsOf_redacted, World.redacted_env,
    Credentials.passwordIn_redacted]

@[simp] theorem TopologyRef.database_redacted (ref : TopologyRef) :
    ref.database w.redacted = ref.database w := by
  simp [database]

namespace SettingsRef

variable (ref : SettingsRef)

@[simp] theorem useSsl_redacted : ref.redacted.useSsl w.redacted = ref.useSsl w := by
  cases ref <;> simp [redacted, useSsl, Shared.map, Settings.redacted]

@[simp] theorem verifyPeer_redacted : ref.redacted.verifyPeer w.redacted = ref.verifyPeer w := by
  cases ref <;> simp [redacted, verifyPeer, Shared.map, Settings.redacted]

@[simp] theorem startTls_redacted : ref.redacted.startTls w.redacted = ref.startTls w := by
  cases ref <;> simp [redacted, startTls, Shared.map, Settings.redacted]

@[simp] theorem options_redacted :
    ref.redacted.options w.redacted = (ref.options w).redacted := by
  cases ref <;> rfl

@[simp] theorem resources_redacted :
    ref.redacted.resources w.redacted = (ref.resources w).redacted := by
  cases ref <;> rfl

@[simp] theorem timeout_redacted (name : TimeoutName) :
    ref.redacted.timeout name w.redacted = ref.timeout name w := by
  cases ref <;> cases name <;> simp [redacted, timeout, Shared.map, Settings.redacted]

end SettingsRef

namespace Deployment

variable (d : Deployment)

@[simp] theorem topology_redacted : d.redacted.topology = d.topology := rfl

@[simp] theorem underSentinels_redacted : d.redacted.underSentinels = d.underSentinels := rfl

@[simp] theorem isCluster_redacted : d.redacted.isCluster = d.isCluster := rfl

@[simp] theorem settings_redacted : d.redacted.settings = d.settings.redacted := rfl

@[simp] theorem client_redacted : d.redacted.client = d.client := rfl

@[simp] theorem share_redacted : d.redacted.share = d.share := rfl

@[simp] theorem role_redacted : d.redacted.role = d.role := rfl

@[simp] theorem standalone_redacted : d.redacted.standalone = d.standalone := rfl

@[simp] theorem host_redacted : d.redacted.host w.redacted = d.host w := by
  simp [host, redacted]

@[simp] theorem port_redacted : d.redacted.port w.redacted = d.port w := by
  simp [port, redacted]

@[simp] theorem timeoutMillis_redacted (name : TimeoutName) :
    d.redacted.timeoutMillis name w.redacted = d.timeoutMillis name w := by
  simp [timeoutMillis]

theorem shared_redacted (a : Bool) :
    d.redacted.shared a = (d.shared a).map Connection.redacted := by
  cases a <;> rfl

theorem uri_redacted (host port : Value) :
    d.redacted.uri host port w.redacted = (d.uri host port w).map Uri.redacted := by
  simp only [uri, settings_redacted, SettingsRef.timeout_redacted]
  cases d.settings.timeout .command w with
  | error e => rfl
  | ok timeout =>
    simp [Except.map, Uri.redacted, TopologyRef.password_redacted]

theorem uris_redacted : d.redacted.uris w.redacted =
    (d.uris w).map fun us => (us.1.redacted, us.2.map Uri.redacted) := by
  unfold uris
  rw [role_redacted]
  cases d.role with
  | standalone =>
    simp only [host_redacted, port_redacted, uri_redacted]
    cases d.uri (d.host w) (d.port w) w <;> rfl
  | sentinels m =>
    simp only [World.redacted_sentinels, World.redacted_env, Store.get_map,
      Sentinels.masterIn_redacted, Sentinels.sentinelsIn_redacted]
    cases (w.sentinels.get m).sentinelsIn w.env with
    | error e => rfl
    | ok nodes =>
      cases nodes with
      | nil => cases ((w.sentinels.get m).masterIn w.env).truthy <;> rfl
      | cons first rest =>
        simp only [uri_redacted]
        cases ((w.sentinels.get m).masterIn w.env).truthy <;>
          cases d.uri first.host (.int first.port) w <;> rfl
  | cluster m =>
    simp only [World.redacted_clusters, World.redacted_env, Store.get_map,
      Cluster.clusterNodesIn_redacted]
    cases (w.clusters.get m).clusterNodesIn w.env with
    | error e => rfl
    | ok nodes =>
      cases nodes with
      | nil => rfl
      | cons first rest =>
        simp only [uri_redacted]
        cases d.uri first.host (.int first.port) w with
        | error e => rfl
        | ok u => simp [Except.map, Uri.redacted_aimedAt]

theorem numbered_redacted : ∀ (next : Nat) (us : List Uri),
    numbered next (us.map Uri.redacted) = (numbered next us).map (·.map Uri.redacted)
  | _, [] => rfl
  | next, u :: rest => by
    rw [List.map_cons, numbered, numbered_redacted, numbered, List.map_cons]
    rfl

/-- The same client is planned but for passwords. -/
theorem plan_redacted : d.redacted.plan w.redacted = (d.plan w).map Client.redacted := by
  unfold plan
  rw [uris_redacted]
  cases d.uris w with
  | error e => rfl
  | ok us =>
    obtain ⟨first, others⟩ := us
    have hown : ∀ o, Part.redacted (.options o) = .options o := fun _ => rfl
    have hown' : ∀ r, Part.redacted (.resources r) = .resources r := fun _ => rfl
    simp only [Except.map, World.redacted_nextRecord, settings_redacted,
      SettingsRef.resources_redacted, SettingsRef.options_redacted, isCluster_redacted,
      numbered_redacted, List.length_map, Client.redacted_fresh, Part.redacted_orElse, hown, hown']
    cases d.isCluster <;> rfl

end Deployment

end

/-! ## 5. What a deployment does -/

namespace Deployment

open Act (Agree)

variable (n : Nat) (w : World)

theorem start_blind : (start n).seen id w.redacted = (start n).seen id w := by
  have hplan := (w.deployments.get n).plan_redacted w
  cases hc : (w.deployments.get n).client with
  | some client => simp [Act.seen, start, hc]
  | none =>
    cases hp : (w.deployments.get n).plan w with
    | error e =>
      rw [hp] at hplan
      simp [Act.seen, start, hc, hp, hplan, Except.map]
    | ok c =>
      rw [hp] at hplan
      simp only [Act.seen, start, World.redacted_deployments, Store.get_map, client_redacted, hc,
        hp, hplan, Except.map]
      refine Prod.ext rfl ?_
      have hclients : { w.redacted with
            nextRecord := w.nextRecord + c.redacted.uris.length + 2
            clients := (w.clients.map Client.redacted).add c.redacted }.redacted =
          { w with
            nextRecord := w.nextRecord + c.uris.length + 2
            clients := w.clients.add c }.redacted := by
        simp [World.redacted]
      have hdeployment : { (w.deployments.get n).redacted with
            client := some w.clients.size }.redacted =
          { w.deployments.get n with client := some w.clients.size }.redacted := by
        simp [redacted]
      simp only [World.redacted_record, World.redacted_setDeployment, Client.label_redacted]
      exact congrArg₂ (fun (v : World) d => (v.setDeployment n d).record _ _) hclients hdeployment

theorem start_agree : Agree id (start n) (start n) := .of_blind_self (start_blind n)

theorem handOut_blind (a : Bool) :
    (handOut n a).seen Connection.redacted w.redacted =
      (handOut n a).seen Connection.redacted w := by
  have hconnect := fun client => Client.connect_blind client a w
  have hshared := (w.deployments.get n).shared_redacted a
  cases hc : (w.deployments.get n).client with
  | none => simp [Act.seen, handOut, hc]
  | some client =>
    cases hs : (w.deployments.get n).share.truthy with
    | false =>
      have hrun : ∀ v : World, (v.deployments.get n).client = some client →
          (v.deployments.get n).share.truthy = false →
            handOut n a v = Client.connect client a v := by
        intro v hv hshare
        simp [handOut, hv, hshare]
      unfold Act.seen
      rw [hrun w hc hs, hrun w.redacted hc hs]
      exact hconnect client
    | true =>
      cases hk : (w.deployments.get n).shared a with
      | some k =>
        rw [hk] at hshared
        simp [Act.seen, handOut, hc, hs, hk, hshared, Except.map]
      | none =>
        rw [hk] at hshared
        have hboth := hconnect client
        unfold Act.seen at hboth ⊢
        simp only [handOut, World.redacted_deployments, Store.get_map, client_redacted, hc,
          share_redacted, hs, hk, hshared, Option.map_none, if_true]
        rcases hw : Client.connect client a w with ⟨r, v⟩
        rcases hw' : Client.connect client a w.redacted with ⟨r', v'⟩
        rw [hw, hw'] at hboth
        simp only [Prod.mk.injEq] at hboth
        obtain ⟨hresult, hworld⟩ := hboth
        obtain ⟨e, rfl, rfl⟩ | ⟨k', k, rfl, rfl, hk'⟩ := cases_of_map_eq hresult
        · exact Prod.ext rfl hworld
        · refine Prod.ext (congrArg Except.ok hk') ?_
          simp only [World.redacted_setDeployment, hworld]
          congr 1
          cases a <;> simp [setShared, redacted, hk']

theorem handOut_agree (a : Bool) : Agree Connection.redacted (handOut n a) (handOut n a) :=
  .of_blind_self fun w => handOut_blind n w a

theorem release_agree (client : Nat) : Agree id (release n client) (release n client) := by
  refine .of_blind_self fun w => Act.seen_ext rfl ?_
  simp [release, released, redacted]

theorem destroy_agree : Agree id (destroy n) (destroy n) := by
  refine .of_blind_self fun w => ?_
  cases hc : (w.deployments.get n).client with
  | none => simp [Act.seen, destroy, hc]
  | some client =>
    by_cases hopen : (w.clients.get client).openAsyncCount = 0
    · have hopen' : (w.redacted.clients.get client).openAsyncCount = 0 := by simp [hopen]
      have hall := (Client.close_agree client).next fun _ => release_agree n client
      have hboth := hall w.redacted w w.redacted_redacted
      unfold Act.seen at hboth ⊢
      rw [destroy_eq hc hopen, destroy_eq (w := w.redacted) hc hopen']
      exact hboth
    · simp [Act.seen, destroy, hc, hopen, Except.map]

theorem destroyAsync_agree : Agree id (destroyAsync n) (destroyAsync n) := by
  refine .of_blind_self fun w => ?_
  cases hc : (w.deployments.get n).client with
  | none => simp [Act.seen, destroyAsync, hc]
  | some client =>
    cases ht : (w.deployments.get n).settings.timeout .shutdown w with
    | error e => simp [Act.seen, destroyAsync, hc, ht, Except.map]
    | ok t =>
      have ht' : (w.redacted.deployments.get n).settings.timeout .shutdown w.redacted = .ok t := by
        simp [ht]
      have hall := (Client.shutdownAll_agree client (.duration t.duration)).next
        fun _ => release_agree n client
      have hboth := hall w.redacted w w.redacted_redacted
      unfold Act.seen at hboth ⊢
      rw [destroyAsync_eq hc ht, destroyAsync_eq (w := w.redacted) hc ht']
      exact hboth

/-! ## 6. Writing and making -/

theorem setPassword_blind (ref : TopologyRef) (given : Value) :
    (ref.setPassword given.masked).seen id w.redacted = (ref.setPassword given).seen id w := by
  refine Act.seen_ext rfl ?_
  simp [TopologyRef.setPassword, Credentials.setPassword, Credentials.redacted]

theorem setDatabase_blind (ref : TopologyRef) (given : Value) :
    (ref.setDatabase given).seen id w.redacted = (ref.setDatabase given).seen id w := by
  simp only [Act.seen, TopologyRef.setDatabase, World.credentialsOf_redacted,
    Credentials.setDatabase]
  cases Credentials.readDatabase given with
  | error e => exact Act.seen_ext rfl w.redacted_redacted
  | ok k =>
    refine Act.seen_ext rfl ?_
    simp [Credentials.redacted]

/-- Settings are changed alike by changes that agree on them but for passwords. -/
theorem change_blind (ref : SettingsRef) {f g : LiveSettings → Except Failure LiveSettings}
    (h : ∀ s, (g s.redacted).map LiveSettings.redacted = (f s).map LiveSettings.redacted) :
    (ref.redacted.change g).seen id w.redacted = (ref.change f).seen id w := by
  cases ref with
  | fixed s => exact Act.seen_ext rfl w.redacted_redacted
  | live m =>
    simp only [Act.seen, SettingsRef.redacted, SettingsRef.change, World.redacted_live,
      Store.get_map]
    obtain ⟨e, hg, hf⟩ | ⟨s, s', hg, hf, hs⟩ := cases_of_map_eq (h (w.live.get m))
    · rw [hg, hf]
      exact Act.seen_ext rfl w.redacted_redacted
    · rw [hg, hf]
      exact Act.seen_ext rfl (by simp [hs])

/-- A write without the text of a password. -/
def Write.masked : Write → Write
  | .password given => .password given.masked
  | .resources given => .resources given.redacted
  | entry => entry

theorem write_blind (entry : Write) :
    (write n entry.masked).seen id w.redacted = (write n entry).seen id w := by
  have hchange (f : LiveSettings → Except Failure LiveSettings)
      {g : LiveSettings → Except Failure LiveSettings}
      (h : ∀ s, (g s.redacted).map LiveSettings.redacted = (f s).map LiveSettings.redacted) :=
    change_blind w (w.deployments.get n).settings h
  cases entry with
  | host given =>
    refine Act.seen_ext rfl ?_
    simp [write, Write.masked, Standalone.redacted_setHost]
  | port given =>
    simp only [Act.seen, write, Write.masked, World.redacted_deployments,
      World.redacted_standalones, Store.get_map, standalone_redacted, Standalone.setPort_redacted]
    cases (w.standalones.get (w.deployments.get n).standalone).setPort given with
    | error e => exact Act.seen_ext rfl w.redacted_redacted
    | ok s => exact Act.seen_ext rfl (by simp)
  | password given => exact setPassword_blind w _ given
  | database given => exact setDatabase_blind w _ given
  | timeout name given =>
    simp only [Act.seen, write, Write.masked]
    cases Duration.ofMillis given with
    | error e => exact Act.seen_ext rfl w.redacted_redacted
    | ok t =>
      exact hchange _ fun s => s.setTimeout_redacted name _
  | share given =>
    refine Act.seen_ext rfl ?_
    simp [write, Write.masked, redacted]
  | resources given => exact hchange _ fun s => by simp [Except.map, LiveSettings.redacted]
  | useSsl given => exact hchange _ fun s => by simp [Except.map]
  | verifyPeer given => exact hchange _ fun s => by simp [Except.map]
  | startTls given => exact hchange _ fun s => by simp [Except.map]

theorem make_blind (topology : Option TopologyRef) (settings : SettingsRef) :
    (make topology settings.redacted).seen id w.redacted = (make topology settings).seen id w := by
  refine Act.seen_ext rfl ?_
  rcases topology with _ | _ | _ | _ | _ <;>
    simp [make, World.redacted]

/-- The settings may hold different passwords. -/
theorem make_agree (topology : Option TopologyRef) {settings settings' : SettingsRef}
    (h : settings.redacted = settings'.redacted) :
    Agree id (make topology settings) (make topology settings') :=
  .of_blind (make topology) SettingsRef.redacted (fun ref w => make_blind w topology ref) h

theorem addLive_agree (useSsl : Value) : Agree id (addLive useSsl) (addLive useSsl) := by
  refine (Agree.share_self _).next fun options => .of_blind_self fun w => ?_
  refine Act.seen_ext rfl ?_
  simp [World.redacted]

/-- Topologies may have different passwords. -/
theorem addTopology_agree {t t' : Topology} (h : t.redacted = t'.redacted) :
    Agree id (addTopology t) (addTopology t') := by
  refine .of_blind addTopology Topology.redacted (fun t w => ?_) h
  cases t <;> exact Act.seen_ext rfl (by simp [addTopology, Topology.redacted, World.redacted])

theorem ofEnvironment_agree : Agree id ofEnvironment ofEnvironment := by
  refine .world fun w w' hw => ?_
  have henv : w.env.redacted = w'.env.redacted := congrArg World.env hw
  have htopology : Topology.ofEnvironment w.env = Topology.ofEnvironment w'.env := by
    rw [← Topology.ofEnvironment_redacted, henv, Topology.ofEnvironment_redacted]
  have htls : ∀ t, asksForTls w.env t = asksForTls w'.env t := by
    intro t
    have hssl : w.env.get? "REDIS_SSL" = w'.env.get? "REDIS_SSL" := by
      rw [← w.env.get?_redacted (by decide), henv, w'.env.get?_redacted (by decide)]
    simp only [asksForTls, hssl]
  refine (Agree.ofExcept (by rw [htopology])).next fun t => ?_
  refine (addTopology_agree rfl).next fun ref => ?_
  rw [htls]
  exact (addLive_agree _).next fun live => make_agree _ rfl

end Deployment

end RedisLink
