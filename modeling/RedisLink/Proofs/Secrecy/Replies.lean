/-
RedisLink.Proofs.Secrecy.Replies — methods called without passwords.

Methods reply alike whatever the passwords are, but for the entry of the
password in a table that holds one: `Method.call_agree`.
-/
import RedisLink.Proofs.Secrecy.Making
import RedisLink.Session.Method

namespace RedisLink

open Act (Agree)

/-! ## 1. What a method gives back -/

/-- The methods that give a table with an entry for the password of what they are called on. -/
def Method.tables : List String := ["to_dict", "connection_kwargs"]

/-- Whether an item keeps a password. -/
def Item.keepsPassword : Item → Bool
  | .topology _ | .uri _ => true
  | _ => false

@[simp] theorem Item.keepsPassword_redacted (x : Item) :
    x.redacted.keepsPassword = x.keepsPassword := by
  cases x <;> rfl

/-- Whether a call gives a table with an entry for a password. -/
def Method.Call.tells (c : Call) : Bool := c.receiver.keepsPassword && tables.contains c.method

/-- A reply of a method without passwords. -/
def Reply.disclosed (tells : Bool) : Reply → Reply
  | .item x => .item (if tells then x.censored else x.redacted)
  | .itself => .itself

namespace Method

theorem reply_congr {x x' : Item} (tells : Bool) (h : x.redacted = x'.redacted) :
    (Reply.item x).disclosed tells = (Reply.item x').disclosed tells := by
  simp only [Reply.disclosed, h, Item.censored_congr h]

/-! ## 2. Calls -/

/-- Calls that are alike but for passwords. -/
structure Call.Alike (c c' : Call) : Prop where
  receiver : c.receiver.redacted = c'.receiver.redacted
  method : c.method = c'.method
  arguments : c.arguments.redacted = c'.arguments.redacted

section

variable {c c' : Call} (h : c.Alike c')

include h

theorem bindOwned_congr (owner : String) {ps : List Parameter}
    (plain : ∀ p ∈ ps, p.Plain fun _ => Item.redacted) :
    (c.bindOwned owner ps).map (List.map Item.redacted) =
      (c'.bindOwned owner ps).map (List.map Item.redacted) := by
  unfold Call.bindOwned
  rw [← Signature.bind_redacted plain, ← Signature.bind_redacted plain, h.method, h.arguments]

theorem unknown_agree {β : Type} (view : Reply → β) : Agree view c.unknown c'.unknown := by
  intro w w' hw
  have hlacks : c.receiver.lacks w c.method = c'.receiver.lacks w' c'.method := by
    rw [← c.receiver.lacks_redacted, ← c'.receiver.lacks_redacted, h.receiver, h.method, hw]
  exact Act.seen_ext (congrArg Except.error hlacks) hw

variable {w w' : World} (hw : w.redacted = w'.redacted)

include hw

theorem bind_congr {ps : List Parameter} (plain : ∀ p ∈ ps, p.Plain fun _ => Item.redacted) :
    (c.bind w ps).map (List.map Item.redacted) = (c'.bind w' ps).map (List.map Item.redacted) := by
  unfold Call.bind
  rw [Item.kind_congr hw h.receiver, bindOwned_congr h _ plain]

theorem values_congr {ps : List Parameter} (plain : ∀ p ∈ ps, p.Plain fun _ => Item.redacted) :
    c.values w ps = c'.values w' ps := by
  unfold Call.values
  obtain ⟨e, he, he'⟩ | ⟨xs, xs', hxs, hxs', hx⟩ := cases_of_map_eq (bind_congr h hw plain)
  · rw [he, he']
    rfl
  · rw [hxs, hxs']
    exact congrArg Except.ok (Item.toValues_congr hw hx)

/-- A call with nothing to bind. -/
theorem bindNone_agree {α γ : Type} {view : α → γ} {f f' : List Item → Act α}
    (hf : ∀ xs xs', Agree view (f xs) (f' xs')) :
    Agree view (Act.ofExcept (c.bind w []) >>= f) (Act.ofExcept (c'.bind w' []) >>= f') :=
  (Agree.ofExcept (bind_congr h hw (List.forall_mem_nil _))).bind fun xs xs' _ => hf xs xs'

end

/-! ## 3. Topologies and URIs -/

theorem without_topologyFields_redacted (ref : TopologyRef) (w : World) :
    (topologyFields ref w.redacted).map (Keywords.without "password") =
      (topologyFields ref w).map (Keywords.without "password") := by
  have hcons : ∀ {name : String} (v : Value) {k k' : Keywords}, name ≠ "password" →
      Keywords.without "password" k = Keywords.without "password" k' →
      Keywords.without "password" ((name, v) :: k) =
        Keywords.without "password" ((name, v) :: k') := by
    intro name v k k' hne hk
    rw [Keywords.without_cons_of_ne hne, Keywords.without_cons_of_ne hne, hk]
  have hcredentials := fun c : Credentials => c.without_fieldsIn_redacted w.env
  cases ref with
  | credentials n => exact congrArg Except.ok (hcredentials _)
  | standalone n =>
    refine congrArg Except.ok ?_
    simp only [Standalone.fieldsIn, World.redacted_standalones, World.redacted_env, Store.get_map,
      Standalone.hostIn_redacted, Standalone.portIn_redacted]
    exact hcons _ (by decide) (hcons _ (by decide) (hcredentials _))
  | sentinels n =>
    simp only [topologyFields, Sentinels.fieldsIn, World.redacted_sentinels, World.redacted_env,
      Store.get_map, Sentinels.sentinelsIn_redacted, Sentinels.masterIn_redacted]
    cases (w.sentinels.get n).sentinelsIn w.env with
    | error e => rfl
    | ok nodes =>
      exact congrArg Except.ok (hcons _ (by decide) (hcons _ (by decide) (hcredentials _)))
  | cluster n =>
    simp only [topologyFields, Cluster.fieldsIn, World.redacted_clusters, World.redacted_env,
      Store.get_map, Cluster.clusterNodesIn_redacted]
    cases (w.clusters.get n).clusterNodesIn w.env with
    | error e => rfl
    | ok nodes => exact congrArg Except.ok (hcons _ (by decide) (hcredentials _))

theorem resetTopology_agree (ref : TopologyRef) :
    Agree id (resetTopology ref) (resetTopology ref) := by
  refine .of_blind_self fun w => Act.seen_ext rfl ?_
  cases ref <;> simp [resetTopology, Act.change, World.redacted]

theorem addNode_agree (ref : TopologyRef) (host port : Value) :
    Agree id (addNode ref host port) (addNode ref host port) := by
  refine .of_blind_self fun w => ?_
  cases ref with
  | sentinels n =>
    simp only [Act.seen, addNode, World.redacted_sentinels, Store.get_map,
      Sentinels.addSentinel_redacted]
    cases (w.sentinels.get n).addSentinel host port with
    | error e => exact Act.seen_ext rfl w.redacted_redacted
    | ok s => exact Act.seen_ext rfl (by simp [World.redacted])
  | cluster n =>
    simp only [Act.seen, addNode, World.redacted_clusters, Store.get_map, Cluster.addNode_redacted]
    cases (w.clusters.get n).addNode host port with
    | error e => exact Act.seen_ext rfl w.redacted_redacted
    | ok c => exact Act.seen_ext rfl (by simp [World.redacted])
  | _ => exact Act.seen_ext rfl w.redacted_redacted

theorem table_congr {tells : Bool} (ht : tells = true) {k k' : Keywords}
    (h : Keywords.without "password" k = Keywords.without "password" k') :
    (ofValue (.dict k)).disclosed tells = (ofValue (.dict k')).disclosed tells := by
  simp [ofValue, Reply.disclosed, ht, Item.censored, h]

theorem onTopology_agree (ref : TopologyRef) {c c' : Call} (h : c.Alike c')
    (hkeeps : c.receiver.keepsPassword = true) :
    Agree (Reply.disclosed c.tells) (onTopology ref c) (onTopology ref c') := by
  have hfields : ∀ w w' : World, w.redacted = w'.redacted →
      (topologyFields ref w).map (Keywords.without "password") =
        (topologyFields ref w').map (Keywords.without "password") := by
    intro w w' hw
    rw [← without_topologyFields_redacted, hw, without_topologyFields_redacted]
  unfold onTopology
  rw [← h.method]
  refine .world fun w w' hw => ?_
  split
  · exact bindNone_agree h hw fun _ _ => (resetTopology_agree ref).next fun _ => .give rfl
  · split
    case isTrue hm =>
      refine bindNone_agree h hw fun _ _ => ?_
      refine (Agree.ofExcept (hfields w w' hw)).bind fun k k' hk => .give ?_
      exact table_congr (by simp [Call.tells, tables, hkeeps, hm]) hk
    case isFalse =>
      split
      · rw [values_congr h hw (by simp)]
        refine (Agree.ofExcept rfl).next fun values => ?_
        split
        · exact (addNode_agree ref _ _).next fun _ => .give rfl
        · exact .give rfl
      · exact unknown_agree h _

theorem onUri_agree {u u' : Shared Uri} (hu : u.map Uri.redacted = u'.map Uri.redacted)
    {c c' : Call} (h : c.Alike c') (hkeeps : c.receiver.keepsPassword = true) :
    Agree (Reply.disclosed c.tells) (onUri u c) (onUri u' c') := by
  have hvalue : u.value.redacted = u'.value.redacted := congrArg Shared.value hu
  unfold onUri
  rw [← h.method]
  refine .world fun w w' hw => ?_
  split
  · refine (Agree.ofExcept (bind_congr h hw (by simp))).bind fun xs xs' hxs => ?_
    cases xs with
    | nil =>
      cases xs' with
      | nil => exact .give rfl
      | cons _ _ => cases hxs
    | cons x _ =>
      cases xs' with
      | nil => cases hxs
      | cons x' _ =>
        obtain ⟨hx, -⟩ := List.cons.inj hxs
        have hread : ∀ name, name ≠ "password" →
            (Attribute.read w x name).map Item.redacted =
              (Attribute.read w' x' name).map Item.redacted := by
          intro name hname
          have hconcealed : Item.concealed name = Item.redacted :=
            funext (Item.concealed_of_ne hname)
          rw [← hconcealed, ← Attribute.read_redacted, ← Attribute.read_redacted, hx, hw]
        refine (Agree.ofExcept (hread "host" (by decide))).bind fun host host' hhost => ?_
        refine (Agree.ofExcept (hread "port" (by decide))).bind fun port port' hport => ?_
        refine (Agree.share Uri.redacted ?_).bind fun v v' hv => .give ?_
        · rw [Item.toValue_congr hw hhost, Item.toValue_congr hw hport, Uri.redacted_aimedAt,
            hvalue, Uri.redacted_aimedAt]
        · exact reply_congr _ (congrArg Item.uri hv)
  · rw [values_congr h hw (by simp)]
    refine (Agree.ofExcept rfl).next fun values => ?_
    cases values with
    | nil => exact .give rfl
    | cons v _ =>
      have hkeywords : (u.value.keywords v.truthy).map (Keywords.without "password") =
          (u'.value.keywords v.truthy).map (Keywords.without "password") := by
        rw [← u.value.keywords_redacted, hvalue, u'.value.keywords_redacted]
      refine (Agree.ofExcept hkeywords).bind fun k k' hk => .give ?_
      refine table_congr ?_ hk
      simp_all [Call.tells, tables]
  · exact unknown_agree h _

/-! ## 4. Options, resources, and settings -/

theorem onOptions_agree (o : Shared Options) {c c' : Call} (h : c.Alike c') :
    Agree (Reply.disclosed c.tells) (onOptions o c) (onOptions o c') := by
  unfold onOptions
  rw [← h.method]
  refine .world fun w w' hw => ?_
  have hinstalled : w.redacted.installed = w'.redacted.installed := congrArg World.installed hw
  rw [w.redacted_installed, w'.redacted_installed] at hinstalled
  rw [hinstalled]
  split
  · exact bindNone_agree h hw fun _ _ => (Agree.ofExcept rfl).next fun _ => .give rfl
  · exact bindNone_agree h hw fun _ _ => (Agree.ofExcept rfl).next fun _ => .give rfl
  · exact bindNone_agree h hw fun _ _ => .give rfl
  · exact unknown_agree h _

theorem onResources_agree (r : Shared Resources) {c c' : Call} (h : c.Alike c') :
    Agree (Reply.disclosed c.tells) (onResources r c) (onResources r c') := by
  unfold onResources
  rw [← h.method]
  refine .world fun w w' hw => ?_
  split
  · exact bindNone_agree h hw fun _ _ => .give rfl
  · exact bindNone_agree h hw fun _ _ => .give rfl
  · rw [values_congr h hw (by simp)]
    refine (Agree.ofExcept rfl).next fun values => ?_
    cases values <;> exact .give rfl
  · exact unknown_agree h _

theorem builderStep_redacted (method : String) (w : World) (x : Item) :
    builderStep method w.redacted x.redacted =
      (builderStep method w x).map Builder.Step.redacted := by
  unfold builderStep
  rw [x.toValue_redacted w, x.toPart_redacted w]
  split <;> rfl

/-- A method that stands for a step stands for one whatever the passwords are. -/
theorem builderStep_cases {w w' : World} (hw : w.redacted = w'.redacted) (method : String)
    {x x' : Item} (hx : x.redacted = x'.redacted) :
    (builderStep method w x = none ∧ builderStep method w' x' = none) ∨
      ∃ step step', builderStep method w x = some step ∧ builderStep method w' x' = some step' ∧
        step.redacted = step'.redacted := by
  have hboth : (builderStep method w x).map Builder.Step.redacted =
      (builderStep method w' x').map Builder.Step.redacted := by
    rw [← builderStep_redacted, hx, hw, builderStep_redacted]
  cases hstep : builderStep method w x with
  | none =>
    rw [hstep, Option.map_none, eq_comm, Option.map_eq_none_iff] at hboth
    exact .inl ⟨rfl, hboth⟩
  | some step =>
    rw [hstep, Option.map_some, eq_comm, Option.map_eq_some_iff] at hboth
    obtain ⟨step', hstep', hsame⟩ := hboth
    exact .inr ⟨step, step', rfl, hstep', hsame.symm⟩

theorem builderParameters_plain (method : String) :
    ∀ p ∈ builderParameters method, p.Plain fun _ => Item.redacted := by
  unfold builderParameters
  split <;> simp

theorem takeStep_agree (n : Nat) {step step' : Builder.Step}
    (h : step.redacted = step'.redacted) : Agree id (takeStep n step) (takeStep n step') := by
  refine .of_blind (takeStep n) Builder.Step.redacted (fun step w => ?_) h
  simp only [Act.seen, takeStep, World.redacted_builders, Store.get_map, Builder.take_redacted]
  cases (w.builders.get n).take step with
  | error e => exact Act.seen_ext rfl w.redacted_redacted
  | ok b => exact Act.seen_ext rfl (by simp [World.redacted])

theorem onBuilder_agree (n : Nat) {c c' : Call} (h : c.Alike c') :
    Agree (Reply.disclosed c.tells) (onBuilder n c) (onBuilder n c') := by
  unfold onBuilder
  rw [← h.method]
  refine .world fun w w' hw => ?_
  have hbuild : (w.builders.get n).build.map Settings.redacted =
      (w'.builders.get n).build.map Settings.redacted := by
    have hbuilder : (w.builders.get n).redacted = (w'.builders.get n).redacted :=
      congrArg (fun v : World => v.builders.get n) hw
    rw [← Builder.build_redacted, hbuilder, Builder.build_redacted]
  split
  · refine bindNone_agree h hw fun _ _ => (Agree.ofExcept hbuild).bind fun s s' hs => ?_
    exact (Agree.share _ hs).bind fun _ _ hs =>
      .give (reply_congr _ (congrArg Item.settings hs))
  · obtain ⟨hnone, hnone'⟩ | ⟨_, _, hsome, hsome', -⟩ :=
      builderStep_cases hw c.method (x := Item.null) rfl
    · rw [hnone, hnone']
      exact unknown_agree h _
    · rw [hsome, hsome']
      have hitems := bind_congr h hw (builderParameters_plain c.method)
      refine (Agree.ofExcept hitems).bind fun xs xs' hxs => ?_
      have hhead : (xs.headD Item.null).redacted = (xs'.headD Item.null).redacted := by
        cases xs <;> cases xs' <;> simp_all
      obtain ⟨hnone, hnone'⟩ | ⟨_, _, hsome, hsome', hstep⟩ :=
        builderStep_cases hw c.method hhead
      · rw [hnone, hnone']
        exact unknown_agree h _
      · rw [hsome, hsome']
        exact (takeStep_agree n hstep).next fun _ => .give rfl

theorem onLive_agree (n : Nat) {c c' : Call} (h : c.Alike c') :
    Agree (Reply.disclosed c.tells) (onLive n c) (onLive n c') := by
  unfold onLive
  rw [← h.method]
  refine .world fun w w' hw => ?_
  have hfreeze : ((w.live.get n).freeze w.env).map Settings.redacted =
      ((w'.live.get n).freeze w'.env).map Settings.redacted := by
    have hlive : (w.live.get n).redacted = (w'.live.get n).redacted :=
      congrArg (fun v : World => v.live.get n) hw
    have henv : w.env.redacted = w'.env.redacted := congrArg World.env hw
    rw [← LiveSettings.freeze_redacted, hlive, henv, LiveSettings.freeze_redacted]
  split
  · refine bindNone_agree h hw fun _ _ => (Agree.ofExcept hfreeze).bind fun s s' hs => ?_
    exact (Agree.share _ hs).bind fun _ _ hs =>
      .give (reply_congr _ (congrArg Item.settings hs))
  · exact unknown_agree h _

/-! ## 5. Clients and deployments -/

theorem connectReply_agree {tells : Bool} {act : Act Connection}
    (h : Agree Connection.redacted act act) :
    Agree (Reply.disclosed tells) (do return .item (.connection (← act)))
      (do return .item (.connection (← act))) :=
  h.bind fun _ _ hk => .give (reply_congr tells (congrArg Item.connection hk))

theorem onClient_agree (n : Nat) {c c' : Call} (h : c.Alike c') :
    Agree (Reply.disclosed c.tells) (onClient n c) (onClient n c') := by
  unfold onClient
  rw [← h.method]
  refine .world fun w w' hw => ?_
  have huris : (w.clients.get n).uris.isEmpty = (w'.clients.get n).uris.isEmpty := by
    have hclient : (w.clients.get n).redacted = (w'.clients.get n).redacted :=
      congrArg (fun v : World => v.clients.get n) hw
    have := congrArg (fun c : Client => c.uris.isEmpty) hclient
    simpa using this
  rw [huris]
  split
  · refine (Agree.ofExcept (bindOwned_congr h _ (List.forall_mem_nil _))).bind fun _ _ _ => ?_
    exact (Client.close_agree n).next fun _ => .give rfl
  · refine (Agree.ofExcept (bindOwned_congr h _ (by simp))).bind fun xs xs' hxs => ?_
    cases xs with
    | nil =>
      cases xs' with
      | nil => exact .give rfl
      | cons _ _ => cases hxs
    | cons x _ =>
      cases xs' with
      | nil => cases hxs
      | cons x' _ =>
        obtain ⟨hx, -⟩ := List.cons.inj hxs
        simp only [Item.toValue_congr hw hx]
        exact (Client.shutdownAll_agree n _).next fun _ => .give rfl
  · split
    · exact unknown_agree h _
    · exact bindNone_agree h hw fun _ _ => connectReply_agree (Client.connect_agree n false)
  · split
    · exact unknown_agree h _
    · exact bindNone_agree h hw fun _ _ => connectReply_agree (Client.connect_agree n true)
  · exact unknown_agree h _

theorem onDeployment_agree (n : Nat) {c c' : Call} (h : c.Alike c') :
    Agree (Reply.disclosed c.tells) (onDeployment n c) (onDeployment n c') := by
  unfold onDeployment
  rw [← h.method]
  refine .world fun w w' hw => ?_
  have hplain : ((c.bind w []).map fun _ => ()) = (c'.bind w' []).map fun _ => () := by
    obtain ⟨e, he, he'⟩ | ⟨xs, xs', hxs, hxs', -⟩ :=
      cases_of_map_eq (bind_congr h hw (List.forall_mem_nil _))
    · rw [he, he']
    · rw [hxs, hxs']
      rfl
  simp only [hplain]
  have hafter : ∀ {f f' : Unit → Act Reply}, (∀ u, Agree (Reply.disclosed c.tells) (f u) (f' u)) →
      Agree (Reply.disclosed c.tells)
        (Act.ofExcept ((c'.bind w' []).map fun _ => ()) >>= f)
        (Act.ofExcept ((c'.bind w' []).map fun _ => ()) >>= f') :=
    fun hf => (Agree.ofExcept rfl).next hf
  split
  · exact hafter fun _ => (Deployment.start_agree n).next fun _ => .give rfl
  · exact hafter fun _ => connectReply_agree (Deployment.handOut_agree n false)
  · exact hafter fun _ => connectReply_agree (Deployment.handOut_agree n true)
  · exact hafter fun _ => (Deployment.destroy_agree n).next fun _ => .give rfl
  · exact hafter fun _ => (Deployment.destroyAsync_agree n).next fun _ => .give rfl
  · exact hafter fun _ => (Deployment.start_agree n).next fun _ => .give rfl
  · exact hafter fun _ => (Deployment.start_agree n).next fun _ => .give rfl
  · exact (Deployment.destroy_agree n).next fun _ => .give rfl
  · exact (Deployment.destroyAsync_agree n).next fun _ => .give rfl
  · exact unknown_agree h _

/-- Methods reply alike, but for the password in a table. -/
theorem call_agree {c c' : Call} (h : c.Alike c') :
    Agree (Reply.disclosed c.tells) (call c) (call c') := by
  unfold call
  obtain hx | ⟨u, u', hx, hx', hu⟩ | ⟨_, _, hx, hx', -⟩ | ⟨_, _, hx, hx', -⟩ |
    ⟨_, _, _, hx, hx', -⟩ := Item.cases_of_redacted_eq h.receiver
  · rw [← hx]
    split
    case h_1 ref href => exact onTopology_agree ref h (by rw [href]; rfl)
    case h_2 u hu => exact onUri_agree rfl h (by rw [hu]; rfl)
    · exact onOptions_agree _ h
    · exact onResources_agree _ h
    · exact onBuilder_agree _ h
    · exact onLive_agree _ h
    · exact onClient_agree _ h
    · exact onDeployment_agree _ h
    · exact unknown_agree h _
  · rw [hx, hx']
    exact onUri_agree hu h (by rw [hx]; rfl)
  all_goals
    rw [hx, hx']
    exact unknown_agree h _

end Method

end RedisLink
