/-
RedisLink.Proofs.Secrecy.Making — objects made without passwords.

Objects are made alike, whatever they are given as a password:
`Construct.fromItems_agree`. The makers of a kind besides are given none.
-/
import Mathlib.Data.List.Basic
import RedisLink.Proofs.Secrecy.Arguments
import RedisLink.Session.Construct

namespace RedisLink

open Act (Agree)

/-! ## 1. Options, resources, and clients -/

theorem ObjectKind.password_nullable (kind : ObjectKind) :
    ∀ p ∈ kind.parameters, p.name = "password" → p.default = some Item.null := by
  cases kind <;>
    simp [parameters, Signature.nullable, Signature.optional, Signature.required, Item.null]

/-- Items for the parameters of a kind of objects: a password is left out. -/
def ObjectKind.conceal (kind : ObjectKind) (items : List Item) : List Item :=
  Signature.viewed Item.concealed kind.parameters items

namespace Construct

theorem misplaced_agree {α β : Type} (view : α → β) (callee : String) {x x' : Item}
    (h : x.redacted = x'.redacted) :
    Agree view (misplaced callee x : Act α) (misplaced callee x') := by
  intro w w' hw
  have hkind : x.kind w = x'.kind w' := by
    rw [← x.kind_redacted w, ← x'.kind_redacted w', h, hw]
  simp [Act.seen, misplaced, hkind, hw, Except.map]

theorem optionsOrNew_agree {p p' : Part} (h : p.redacted = p'.redacted) :
    Agree Part.redacted (optionsOrNew p) (optionsOrNew p') := by
  unfold optionsOrNew
  rw [Part.truthy_congr h]
  split
  · exact .give h
  · exact (Agree.share_self _).next fun o => .give rfl

theorem resourcesOrNew_agree {p p' : Part} (h : p.redacted = p'.redacted) :
    Agree Part.redacted (resourcesOrNew p) (resourcesOrNew p') := by
  unfold resourcesOrNew
  rw [Part.truthy_congr h]
  split
  · exact .give h
  · exact (Agree.share_self _).next fun r => .give rfl

theorem addClient_agree {aim aim' : Aim} {options options' resources resources' : Part}
    (ha : aim.redacted = aim'.redacted) (ho : options.redacted = options'.redacted)
    (hr : resources.redacted = resources'.redacted) :
    Agree Item.redacted (addClient aim options resources)
      (addClient aim' options' resources') := by
  intro w w' hw
  have hclient : (Client.fresh aim options resources).redacted =
      (Client.fresh aim' options' resources').redacted := by
    simp only [Client.redacted_fresh, ha, ho, hr]
  have hclients : w.clients.map Client.redacted = w'.clients.map Client.redacted :=
    congrArg World.clients hw
  have hsize : w.clients.size = w'.clients.size := by
    simpa using congrArg Store.size hclients
  refine Act.seen_ext (congrArg (fun n => Except.ok (Item.client n)) hsize) ?_
  show { w.redacted with
      clients := (w.clients.add (.fresh aim options resources)).map Client.redacted } =
    { w'.redacted with
      clients := (w'.clients.add (.fresh aim' options' resources')).map Client.redacted }
  rw [Store.map_add, Store.map_add, hclients, hclient, hw]

theorem addTopology_agree {t t' : Except Failure Topology}
    (h : t.map Topology.redacted = t'.map Topology.redacted) :
    Agree Item.redacted (addTopology t) (addTopology t') :=
  (Agree.ofExcept h).bind fun _ _ ht => (Deployment.addTopology_agree ht).next fun _ =>
    .give rfl

theorem urisOf_redacted (callee : String) (w : World) (items : List Item) :
    urisOf callee w.redacted (items.map Item.redacted) =
      (urisOf callee w items).map (List.map (·.map Uri.redacted)) := by
  induction items with
  | nil => rfl
  | cons x rest ih =>
    have hkind := x.kind_redacted w
    cases x with
    | uri u =>
      simp only [List.map_cons, Item.redacted, urisOf, ih]
      cases urisOf callee w rest <;> rfl
    | _ =>
      exact congrArg
        (fun kind => Except.error (Failure.wrongArguments callee ("cannot use " ++ kind))) hkind

theorem addCredentials_agree {c c' : Except Failure Credentials}
    (h : c.map Credentials.redacted = c'.map Credentials.redacted) :
    Agree Item.redacted (addCredentials c) (addCredentials c') := by
  refine .of_blind addCredentials (Except.map Credentials.redacted) (fun c w => ?_) h
  cases c with
  | error e => exact Act.seen_ext rfl w.redacted_redacted
  | ok c =>
    refine Act.seen_ext rfl ?_
    simp [addCredentials, Except.map, Act.ofExcept, Act.andThen, bind, World.redacted]

/-- The URIs that a cluster client is given. -/
def urisGiven (callee : String) (w : World) : Item → Except Failure (List (Shared Uri))
  | .items _ xs => urisOf callee w xs
  | item => (item.toValue w).items >>= fun xs => urisOf callee w (xs.map .value)

theorem urisGiven_redacted (callee : String) (w : World) (x : Item) :
    urisGiven callee w.redacted x.redacted =
      (urisGiven callee w x).map (List.map (·.map Uri.redacted)) := by
  have hvalues : ∀ v : Value, (v.items >>= fun xs => urisOf callee w.redacted (xs.map .value)) =
      (v.items >>= fun xs => urisOf callee w (xs.map .value)).map
        (List.map (·.map Uri.redacted)) := by
    intro v
    cases v.items with
    | error e => rfl
    | ok xs =>
      have huris := urisOf_redacted callee w (xs.map .value)
      rw [List.map_map] at huris
      exact huris
  have hvalue := x.toValue_redacted w
  cases x with
  | items isTuple xs =>
    simp only [Item.redacted, urisGiven, Item.redactedAll_eq_map]
    exact urisOf_redacted callee w xs
  | _ =>
    refine Eq.trans ?_ (hvalues _)
    exact congrArg (fun v : Value => v.items >>= fun xs => urisOf callee w.redacted (xs.map .value))
      hvalue

/-- A cluster client is made from its options, its resources, and the URIs it is given. -/
theorem makeClusterClient_eq (callee : String) (uris : Item) (options resources : Part) :
    makeClusterClient callee uris options resources = (do
      let options ← optionsOrNew options
      let resources ← resourcesOrNew resources
      let w ← Act.world
      match ← Act.ofExcept (urisGiven callee w uris) with
      | [] => Act.fail .noInitialUri
      | first :: others => addClient (.cluster first others) options resources) := by
  unfold makeClusterClient
  refine congrArg (optionsOrNew options >>= ·) (funext fun options => ?_)
  refine congrArg (resourcesOrNew resources >>= ·) (funext fun resources => ?_)
  refine congrArg (Act.world >>= ·) (funext fun w => ?_)
  have hvalue : ∀ (v : Value) (next : List (Shared Uri) → Act Item),
      (Act.ofExcept v.items >>= fun xs => Act.ofExcept (urisOf callee w (xs.map .value)) >>= next) =
        Act.ofExcept (v.items >>= fun xs => urisOf callee w (xs.map .value)) >>= next := by
    intro v next
    cases v.items <;> rfl
  cases uris with
  | items isTuple xs => rfl
  | _ => exact hvalue _ _

theorem makeClusterClient_agree (callee : String) {uris uris' : Item}
    {options options' resources resources' : Part} (hu : uris.redacted = uris'.redacted)
    (ho : options.redacted = options'.redacted) (hr : resources.redacted = resources'.redacted) :
    Agree Item.redacted (makeClusterClient callee uris options resources)
      (makeClusterClient callee uris' options' resources') := by
  rw [makeClusterClient_eq, makeClusterClient_eq]
  refine (optionsOrNew_agree ho).bind fun options options' ho => ?_
  refine (resourcesOrNew_agree hr).bind fun resources resources' hr => ?_
  refine .world fun w w' hw => ?_
  have hgiven : (urisGiven callee w uris).map (List.map (·.map Uri.redacted)) =
      (urisGiven callee w' uris').map (List.map (·.map Uri.redacted)) := by
    rw [← urisGiven_redacted, ← urisGiven_redacted, hu, hw]
  refine Agree.ofExcept_bind hgiven fun us us' _ _ hus => ?_
  cases us with
  | nil =>
    cases us' with
    | nil => exact .fail _ _
    | cons _ _ => cases hus
  | cons first others =>
    cases us' with
    | nil => cases hus
    | cons first' others' =>
      obtain ⟨hfirst, hothers⟩ := List.cons.inj hus
      refine addClient_agree ?_ ho hr
      simp only [Aim.redacted, hfirst, hothers]

theorem givenOptions_agree {w w' : World} (hw : w.redacted = w'.redacted) {x x' : Item}
    (h : x.redacted = x'.redacted) :
    Agree Part.redacted (givenOptions w x) (givenOptions w' x') := by
  have hgiven : Agree Part.redacted (pure (x.toPart w)) (pure (x'.toPart w')) :=
    .give (Item.toPart_congr hw h)
  obtain rfl | ⟨_, _, rfl, rfl, -⟩ | ⟨_, _, rfl, rfl, -⟩ | ⟨_, _, rfl, rfl, -⟩ |
    ⟨_, _, _, rfl, rfl, -⟩ := Item.cases_of_redacted_eq h
  · unfold givenOptions
    split
    · split
      · exact (Agree.share_self _).next fun o => .give rfl
      · exact .give rfl
    · exact hgiven
  all_goals exact hgiven

theorem makeSettings_agree {w w' : World} (hw : w.redacted = w'.redacted)
    {items items' : List Item} (hl : items.length = 7) (hl' : items'.length = 7)
    (h : items.map Item.redacted = items'.map Item.redacted) :
    Agree Item.redacted (makeSettings w items) (makeSettings w' items') := by
  match items, items', hl, hl' with
  | [ssl, verify, tls, options, resources, timeout, shutdown],
    [ssl', verify', tls', options', resources', timeout', shutdown'], _, _ =>
    simp only [List.map_cons, List.map_nil, List.cons.injEq, and_true] at h
    obtain ⟨hssl, hverify, htls, hoptions, hresources, htimeout, hshutdown⟩ := h
    simp only [makeSettings]
    rw [Item.toValue_congr hw hssl, Item.toValue_congr hw hverify,
      Item.toValue_congr hw htls, Item.toValue_congr hw htimeout, Item.toValue_congr hw hshutdown]
    refine (givenOptions_agree hw hoptions).bind fun options options' ho => ?_
    have hmake := Settings.make_congr ho (Item.toPart_congr hw hresources)
    exact (Agree.ofExcept (hmake _ _ _ _ _)).bind fun s s' hs =>
      (Agree.share _ hs).bind fun s s' hs => .give (congrArg Item.settings hs)

theorem addLive_agree {s s' : LiveSettings} (h : s.redacted = s'.redacted) :
    Agree Item.redacted (addLive s) (addLive s') := by
  refine .of_blind addLive LiveSettings.redacted (fun s w => Act.seen_ext rfl ?_) h
  simp [addLive, World.redacted]

theorem makeLive_agree {w w' : World} (hw : w.redacted = w'.redacted)
    {items items' : List Item} (hl : items.length = 7) (hl' : items'.length = 7)
    (h : items.map Item.redacted = items'.map Item.redacted) :
    Agree Item.redacted (makeLive w items) (makeLive w' items') := by
  match items, items', hl, hl' with
  | [ssl, verify, tls, options, resources, timeout, shutdown],
    [ssl', verify', tls', options', resources', timeout', shutdown'], _, _ =>
    simp only [List.map_cons, List.map_nil, List.cons.injEq, and_true] at h
    obtain ⟨hssl, hverify, htls, hoptions, hresources, htimeout, hshutdown⟩ := h
    simp only [makeLive]
    rw [Item.toValue_congr hw hssl, Item.toValue_congr hw hverify,
      Item.toValue_congr hw htls, Item.toValue_congr hw htimeout, Item.toValue_congr hw hshutdown]
    refine (optionsOrNew_agree (Item.toPart_congr hw hoptions)).bind fun options options' ho => ?_
    have hmake := LiveSettings.make_congr ho (Item.toPart_congr hw hresources)
    exact (Agree.ofExcept (hmake _ _ _ _ _)).bind fun s s' hs => addLive_agree hs

theorem topologyOf_redacted (w : World) (x : Item) :
    topologyOf w.redacted x.redacted = topologyOf w x := by
  have hkind := x.kind_redacted w
  cases x with
  | topology ref => cases ref <;> rfl
  | value v => cases v <;> rfl
  | _ => exact congrArg (fun kind => Except.error (Failure.unsupportedTopology kind)) hkind

/-- The settings that a deployment is made with. -/
def deploymentSettings (callee : String) : Item → Act SettingsRef
  | .settings s => pure (.fixed s)
  | .live n => pure (.live n)
  | .value .null => do
    let n ← Deployment.addLive .null
    pure (.live n)
  | item => misplaced callee item

theorem deploymentSettings_agree (callee : String) {x x' : Item} (h : x.redacted = x'.redacted) :
    Agree SettingsRef.redacted (deploymentSettings callee x) (deploymentSettings callee x') := by
  refine .of_blind (deploymentSettings callee) Item.redacted (fun x w => ?_) h
  have hmisplaced := misplaced_agree (α := SettingsRef) SettingsRef.redacted callee
    x.redacted_redacted w.redacted w w.redacted_redacted
  have hgive : ∀ {r r' : SettingsRef}, r.redacted = r'.redacted → _ := fun {r r'} h =>
    (Agree.give h : Agree SettingsRef.redacted (pure r) (pure r')) w.redacted w
      w.redacted_redacted
  cases x with
  | settings s => exact hgive (SettingsRef.redacted_redacted (.fixed s))
  | live n => exact hgive rfl
  | value v =>
    cases v with
    | null =>
      exact ((Deployment.addLive_agree .null).next fun n => .give rfl)
        w.redacted w w.redacted_redacted
    | _ => exact hmisplaced
  | _ => exact hmisplaced

theorem makeDeployment_eq (callee : String) (configuration settings : Item) :
    makeDeployment callee configuration settings = (do
      let w ← Act.world
      let topology ← Act.ofExcept (topologyOf w configuration)
      let settings ← deploymentSettings callee settings
      return .deployment (← Deployment.make topology settings)) := by
  cases settings with
  | value v => cases v <;> rfl
  | _ => rfl

theorem makeDeployment_agree (callee : String)
    {configuration configuration' settings settings' : Item}
    (hc : configuration.redacted = configuration'.redacted)
    (hs : settings.redacted = settings'.redacted) :
    Agree Item.redacted (makeDeployment callee configuration settings)
      (makeDeployment callee configuration' settings') := by
  rw [makeDeployment_eq, makeDeployment_eq]
  refine .world fun w w' hw => ?_
  rw [← topologyOf_redacted w, ← topologyOf_redacted w', hc, hw]
  refine (Agree.ofExcept rfl).next fun topology => ?_
  refine (deploymentSettings_agree callee hs).bind fun settings settings' hs => ?_
  exact (Deployment.make_agree topology hs).next fun n => .give rfl

theorem addBuilder_agree : Agree Item.redacted addBuilder addBuilder := by
  refine .next (.share_self _) fun options => .of_blind_self fun w => Act.seen_ext rfl ?_
  simp [World.redacted]

/-- Add a client that is aimed at one URI. -/
def addAimed (callee : String) (options resources : Part) : Item → Act Item
  | .uri u => addClient (.single u) options resources
  | item => misplaced callee item

theorem addAimed_agree (callee : String) {options options' resources resources' : Part}
    (ho : options.redacted = options'.redacted) (hr : resources.redacted = resources'.redacted)
    {x x' : Item} (h : x.redacted = x'.redacted) :
    Agree Item.redacted (addAimed callee options resources x)
      (addAimed callee options' resources' x') := by
  have hmisplaced := misplaced_agree Item.redacted callee h
  obtain rfl | ⟨u, u', rfl, rfl, hu⟩ | ⟨_, _, rfl, rfl, -⟩ | ⟨_, _, rfl, rfl, -⟩ |
    ⟨_, _, _, rfl, rfl, -⟩ := Item.cases_of_redacted_eq h
  · unfold addAimed
    split
    · exact addClient_agree rfl ho hr
    · exact hmisplaced
  · refine addClient_agree ?_ ho hr
    simp only [Aim.redacted, hu]
  all_goals exact hmisplaced

/-- Items for a kind of objects that are given no password. -/
theorem conceal_of_plain {kind : ObjectKind} (h : ∀ p ∈ kind.parameters, p.name ≠ "password")
    (items : List Item) : kind.conceal items = items.map Item.redacted := by
  have hviewed : ∀ (ps : List Parameter) (xs : List Item), (∀ p ∈ ps, p.name ≠ "password") →
      Signature.viewed Item.concealed ps xs = xs.map Item.redacted := by
    intro ps
    induction ps with
    | nil => exact fun xs _ => List.map_congr_left fun x _ => Item.concealed_of_ne (by decide) x
    | cons p ps ih =>
      intro xs hps
      cases xs with
      | nil => rfl
      | cons x xs =>
        rw [Signature.viewed, ih xs fun q hq => hps q (List.mem_cons_of_mem _ hq),
          Item.concealed_of_ne (hps p List.mem_cons_self)]
        rfl
  exact hviewed _ _ h

theorem topologies_alike {α : Type} (toTopology : α → Topology) (redact : α → α)
    (hredact : ∀ x, (toTopology x).redacted = toTopology (redact x)) {r r' : Except Failure α}
    (h : r.map redact = r'.map redact) :
    (r.map toTopology).map Topology.redacted = (r'.map toTopology).map Topology.redacted := by
  obtain ⟨e, rfl, rfl⟩ | ⟨x, x', rfl, rfl, hx⟩ := cases_of_map_eq h
  · rfl
  · simp only [Except.map, hredact, hx]

theorem length_eq_ten {α : Type} {l : List α} (h : l.length = 10) :
    ∃ a b c d e f g i j k, l = [a, b, c, d, e, f, g, i, j, k] := by
  obtain ⟨a, b, c, d, hfirst⟩ := List.length_eq_four.mp
    (show (l.take 4).length = 4 by rw [List.length_take]; omega)
  obtain ⟨e, f, g, i, hsecond⟩ := List.length_eq_four.mp
    (show ((l.drop 4).take 4).length = 4 by rw [List.length_take, List.length_drop]; omega)
  obtain ⟨j, k, hlast⟩ := List.length_eq_two.mp
    (show ((l.drop 4).drop 4).length = 2 by rw [List.length_drop, List.length_drop]; omega)
  refine ⟨a, b, c, d, e, f, g, i, j, k, ?_⟩
  rw [← List.take_append_drop 4 l, ← List.take_append_drop 4 (l.drop 4), hfirst, hsecond, hlast]
  rfl

/-- Objects of a kind that is given no password are made alike from items that are alike. -/
theorem fromItems_plain_agree {kind : ObjectKind} {items items' : List Item}
    (hl : items.length = kind.parameters.length) (hl' : items'.length = kind.parameters.length)
    (plain : ∀ p ∈ kind.parameters, p.name ≠ "password")
    (hall : items.map Item.redacted = items'.map Item.redacted) :
    Agree Item.redacted (fromItems kind items) (fromItems kind items') := by
  cases kind with
  | credentials | standalone | sentinels | cluster | uri =>
    simp [ObjectKind.parameters, Signature.nullable, Signature.optional,
      Signature.required] at plain
  | node =>
    obtain ⟨a, b, rfl⟩ := List.length_eq_two.mp hl
    obtain ⟨a', b', rfl⟩ := List.length_eq_two.mp hl'
    refine .world fun w w' hw => ?_
    have hvalues := Item.toValues_congr hw hall
    simp only [Item.toValues, List.cons.injEq, and_true] at hvalues
    obtain ⟨ha, hb⟩ := hvalues
    refine .next (.ofExcept ?_) fun _ => .give rfl
    rw [ha, hb]
  | options =>
    refine .world fun w w' hw => ?_
    refine .next (.ofExcept ?_) fun o => .next (.share_self o) fun _ => .give rfl
    rw [Item.toValues_congr hw hall]
  | settings => exact .world fun w w' hw => makeSettings_agree hw hl hl' hall
  | live => exact .world fun w w' hw => makeLive_agree hw hl hl' hall
  | builder => exact .world fun w w' hw => addBuilder_agree
  | resources =>
    obtain ⟨a, b, c, rfl⟩ := List.length_eq_three.mp hl
    obtain ⟨a', b', c', rfl⟩ := List.length_eq_three.mp hl'
    refine .world fun w w' hw => ?_
    have hvalues := Item.toValues_congr hw hall
    simp only [Item.toValues, List.cons.injEq, and_true] at hvalues
    obtain ⟨ha, hb, hc⟩ := hvalues
    refine .next (.ofExcept ?_) fun r => .next (.share_self r) fun _ => .give rfl
    rw [ha, hb, hc]
  | baseClient =>
    obtain ⟨options, resources, rfl⟩ := List.length_eq_two.mp hl
    obtain ⟨options', resources', rfl⟩ := List.length_eq_two.mp hl'
    simp only [List.map_cons, List.map_nil, List.cons.injEq, and_true] at hall
    obtain ⟨ho, hr⟩ := hall
    refine .world fun w w' hw => ?_
    refine (optionsOrNew_agree (Item.toPart_congr hw ho)).bind fun options options' ho => ?_
    exact (resourcesOrNew_agree (Item.toPart_congr hw hr)).bind fun resources resources' hr =>
      addClient_agree rfl ho hr
  | client =>
    obtain ⟨uri, options, resources, rfl⟩ := List.length_eq_three.mp hl
    obtain ⟨uri', options', resources', rfl⟩ := List.length_eq_three.mp hl'
    simp only [List.map_cons, List.map_nil, List.cons.injEq, and_true] at hall
    obtain ⟨hu, ho, hr⟩ := hall
    refine .world fun w w' hw => ?_
    refine (optionsOrNew_agree (Item.toPart_congr hw ho)).bind fun options options' ho => ?_
    exact (resourcesOrNew_agree (Item.toPart_congr hw hr)).bind fun resources resources' hr =>
      addAimed_agree _ ho hr hu
  | clusterClient =>
    obtain ⟨uris, options, resources, rfl⟩ := List.length_eq_three.mp hl
    obtain ⟨uris', options', resources', rfl⟩ := List.length_eq_three.mp hl'
    simp only [List.map_cons, List.map_nil, List.cons.injEq, and_true] at hall
    obtain ⟨hu, ho, hr⟩ := hall
    exact .world fun w w' hw => makeClusterClient_agree _ hu (Item.toPart_congr hw ho)
      (Item.toPart_congr hw hr)
  | deployment =>
    obtain ⟨configuration, settings, rfl⟩ := List.length_eq_two.mp hl
    obtain ⟨configuration', settings', rfl⟩ := List.length_eq_two.mp hl'
    simp only [List.map_cons, List.map_nil, List.cons.injEq, and_true] at hall
    obtain ⟨hc, hs⟩ := hall
    exact .world fun w w' hw => makeDeployment_agree _ hc hs

/-- Objects are made alike, whatever they are given as a password. -/
theorem fromItems_agree {kind : ObjectKind} {items items' : List Item}
    (hl : items.length = kind.parameters.length) (hl' : items'.length = kind.parameters.length)
    (h : kind.conceal items = kind.conceal items') :
    Agree Item.redacted (fromItems kind items) (fromItems kind items') := by
  by_cases hplain : ∀ p ∈ kind.parameters, p.name ≠ "password"
  · rw [conceal_of_plain hplain, conceal_of_plain hplain] at h
    exact fromItems_plain_agree hl hl' hplain h
  cases kind with
  | credentials =>
    obtain ⟨p, d, rfl⟩ := List.length_eq_two.mp hl
    obtain ⟨p', d', rfl⟩ := List.length_eq_two.mp hl'
    obtain ⟨hp, hd⟩ : p.masked = p'.masked ∧ d.redacted = d'.redacted := by
      simpa [ObjectKind.conceal, ObjectKind.parameters, Signature.viewed, Signature.nullable,
        Signature.optional, Item.concealed] using h
    refine .world fun w w' hw => addCredentials_agree ?_
    rw [← Credentials.make_masked, Item.toValue_masked_congr hw hp, Item.toValue_congr hw hd,
      Credentials.make_masked]
  | standalone =>
    obtain ⟨a, b, p, d, rfl⟩ := List.length_eq_four.mp hl
    obtain ⟨a', b', p', d', rfl⟩ := List.length_eq_four.mp hl'
    obtain ⟨ha, hb, hp, hd⟩ : a.redacted = a'.redacted ∧ b.redacted = b'.redacted ∧
        p.masked = p'.masked ∧ d.redacted = d'.redacted := by
      simpa [ObjectKind.conceal, ObjectKind.parameters, Signature.viewed, Signature.nullable,
        Signature.optional, Item.concealed] using h
    refine .world fun w w' hw => addTopology_agree ?_
    refine topologies_alike .standalone Standalone.redacted (fun _ => rfl) ?_
    rw [← Standalone.make_masked, Item.toValue_masked_congr hw hp, Item.toValue_congr hw ha,
      Item.toValue_congr hw hb, Item.toValue_congr hw hd, Standalone.make_masked]
  | sentinels =>
    obtain ⟨a, b, p, d, rfl⟩ := List.length_eq_four.mp hl
    obtain ⟨a', b', p', d', rfl⟩ := List.length_eq_four.mp hl'
    obtain ⟨ha, hb, hp, hd⟩ : a.redacted = a'.redacted ∧ b.redacted = b'.redacted ∧
        p.masked = p'.masked ∧ d.redacted = d'.redacted := by
      simpa [ObjectKind.conceal, ObjectKind.parameters, Signature.viewed, Signature.nullable,
        Signature.optional, Item.concealed] using h
    refine .world fun w w' hw => addTopology_agree ?_
    refine topologies_alike .sentinels Sentinels.redacted (fun _ => rfl) ?_
    rw [← Sentinels.make_masked, Item.toValue_masked_congr hw hp, Item.toValue_congr hw ha,
      Item.toValue_congr hw hb, Item.toValue_congr hw hd, Sentinels.make_masked]
  | cluster =>
    obtain ⟨a, p, d, rfl⟩ := List.length_eq_three.mp hl
    obtain ⟨a', p', d', rfl⟩ := List.length_eq_three.mp hl'
    obtain ⟨ha, hp, hd⟩ : a.redacted = a'.redacted ∧ p.masked = p'.masked ∧
        d.redacted = d'.redacted := by
      simpa [ObjectKind.conceal, ObjectKind.parameters, Signature.viewed, Signature.nullable,
        Signature.optional, Item.concealed] using h
    refine .world fun w w' hw => addTopology_agree ?_
    refine topologies_alike .cluster Cluster.redacted (fun _ => rfl) ?_
    rw [← Cluster.make_masked, Item.toValue_masked_congr hw hp, Item.toValue_congr hw ha,
      Item.toValue_congr hw hd, Cluster.make_masked]
  | uri =>
    obtain ⟨a, b, p, c, d, e, f, g, i, j, rfl⟩ := length_eq_ten hl
    obtain ⟨a', b', p', c', d', e', f', g', i', j', rfl⟩ := length_eq_ten hl'
    obtain ⟨ha, hb, hp, hc, hd, he, hf, hg, hi, hj⟩ : a.redacted = a'.redacted ∧
        b.redacted = b'.redacted ∧ p.masked = p'.masked ∧ c.redacted = c'.redacted ∧
        d.redacted = d'.redacted ∧ e.redacted = e'.redacted ∧ f.redacted = f'.redacted ∧
        g.redacted = g'.redacted ∧ i.redacted = i'.redacted ∧ j.redacted = j'.redacted := by
      simpa [ObjectKind.conceal, ObjectKind.parameters, Signature.viewed, Signature.nullable,
        Signature.optional, Signature.required, Item.concealed] using h
    refine .world fun w w' hw => ?_
    refine .bind (.share Uri.redacted ?_) fun u u' hu => .give (congrArg Item.uri hu)
    simp only [makeUri, Item.toValues, Uri.redacted, Item.toValue_masked_congr hw hp,
      Item.toValue_congr hw ha, Item.toValue_congr hw hb, Item.toValue_congr hw hc,
      Item.toValue_congr hw hd, Item.toValue_congr hw he, Item.toValue_congr hw hf,
      Item.toValue_congr hw hg, Item.toValue_congr hw hi, Item.toValue_congr hw hj]
  | _ =>
    refine absurd ?_ hplain
    simp [ObjectKind.parameters, Signature.nullable, Signature.optional, Signature.required]

/-- Defaults hold no passwords. -/
theorem parameters_plain (kind : ObjectKind) :
    ∀ p ∈ kind.parameters, p.Plain fun _ => Item.redacted := by
  have hoptions : (⟨"client_options", some (.options ⟨0, .standard⟩)⟩ : Parameter).Plain
      fun _ => Item.redacted := rfl
  cases kind <;>
    simp only [ObjectKind.parameters, List.forall_mem_cons, List.not_mem_nil, false_imp_iff,
      implies_true, hoptions, Signature.plain_required, Signature.plain_optional,
      Signature.plain_nullable, and_self]

theorem conceal_bind (kind : ObjectKind) (a : Arguments) :
    (kind.signature.bind a).map kind.conceal =
      kind.signature.bind (a.viewed Item.concealed kind.parameters) := by
  refine (Signature.bind_viewed (fun p hp => ?_) a).symm
  by_cases h : p.name = "password"
  · rw [Parameter.Plain, h, kind.password_nullable p hp h]
    rfl
  · exact (Item.concealed_of_ne h _).trans (parameters_plain kind p hp)

theorem new_agree {kind : ObjectKind} {a a' : Arguments}
    (h : (kind.signature.bind a).map kind.conceal = (kind.signature.bind a').map kind.conceal) :
    Agree Item.redacted (new kind a) (new kind a') :=
  .ofExcept_bind h fun _ _ hi hi' hview =>
    fromItems_agree (Signature.length_of_bind hi) (Signature.length_of_bind hi') hview

theorem new_agree_of_redacted (kind : ObjectKind) {a a' : Arguments}
    (h : a.redacted = a'.redacted) : Agree Item.redacted (new kind a) (new kind a') := by
  refine new_agree ?_
  rw [conceal_bind, conceal_bind, ← a.concealed_redacted, h, a'.concealed_redacted]

theorem bindValues_agree {w w' : World} (hw : w.redacted = w'.redacted) (s : Signature)
    (plain : ∀ p ∈ s.parameters, p.Plain fun _ => Item.redacted) {a a' : Arguments}
    (h : a.redacted = a'.redacted) :
    Agree id (do
        let items ← Act.ofExcept (s.bind a)
        return Item.toValues w items)
      (do
        let items ← Act.ofExcept (s.bind a')
        return Item.toValues w' items) := by
  have hbind :
      (s.bind a).map (List.map Item.redacted) = (s.bind a').map (List.map Item.redacted) := by
    rw [← Signature.bind_redacted plain, ← Signature.bind_redacted plain, h]
  exact (Agree.ofExcept hbind).bind fun _ _ hitems => .give (Item.toValues_congr hw hitems)

/-- The makers of a kind are given no password. -/
theorem static_agree (kind : ObjectKind) (method : String) {a a' : Arguments}
    (h : a.redacted = a'.redacted) :
    Agree Item.redacted (static kind method a) (static kind method a') := by
  unfold static
  refine .world fun w w' hw => ?_
  have hnone : ∀ callee : String, _ := fun callee =>
    bindValues_agree hw ⟨callee, []⟩ (by simp) h
  have hone : ∀ callee name : String, _ := fun callee name =>
    bindValues_agree hw ⟨callee, [Signature.required name]⟩ (by simp) h
  split
  · refine (hone _ _).next fun values => ?_
    cases values with
    | nil => exact .give rfl
    | cons v _ => exact (Agree.ofExcept rfl).next fun _ => .give rfl
  · refine (hone _ _).next fun values => ?_
    cases values with
    | nil => exact .give rfl
    | cons v _ => exact addTopology_agree rfl
  · refine (hnone _).next fun _ => .world fun w w' hw => ?_
    exact (Agree.ofExcept rfl).next fun o => (Agree.share_self o).next fun _ => .give rfl
  · exact (hnone _).next fun _ => new_agree_of_redacted _ rfl
  · exact (hnone _).next fun _ => addBuilder_agree
  · exact (hnone _).next fun _ => Deployment.ofEnvironment_agree.next fun _ => .give rfl
  · exact .fail _ _

end Construct

end RedisLink
