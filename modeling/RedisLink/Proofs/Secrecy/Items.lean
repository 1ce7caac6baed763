/-
RedisLink.Proofs.Secrecy.Items — items of a session without passwords.

Items lose their passwords as objects do. Whatever is read of an item, the
password apart, reads the same of the redacted item in the redacted world:
`Attribute.find_redacted`. Attributes are written alike, whatever is written as
a password: `Attribute.write_agree`.
-/
import RedisLink.Proofs.Secrecy.Operations
import RedisLink.Session.Attribute

namespace RedisLink

open Act (Agree)

/-! ## 1. Items -/

/-- A value under the name of an attribute: a password is left out. -/
def Value.concealed (name : String) (v : Value) : Value :=
  if name = "password" then v.masked else v

namespace Item

@[simp] theorem redactedAll_eq_map : ∀ xs : List Item, redactedAll xs = xs.map redacted
  | [] => rfl
  | x :: rest => by rw [redactedAll, redactedAll_eq_map, List.map_cons]

mutual

@[simp] theorem redacted_redacted : ∀ x : Item, x.redacted.redacted = x.redacted
  | .items isTuple xs => by simp only [redacted, redactedAll_redactedAll]
  | .uri u => by simp [redacted, Shared.map]
  | .settings s => by simp [redacted, Shared.map]
  | .connection c => by simp [redacted]
  | .value _ | .options _ | .resources _ | .topology _ | .live _ | .builder _ | .client _
  | .deployment _ => rfl

theorem redactedAll_redactedAll : ∀ xs : List Item, redactedAll (redactedAll xs) = redactedAll xs
  | [] => rfl
  | x :: rest => by
    simp only [redactedAll, redacted_redacted x, redactedAll_redactedAll rest]

end

/-- Items that are alike without passwords are the same, or two URIs, records of settings,
connections, or sequences. -/
theorem cases_of_redacted_eq {x x' : Item} (h : x.redacted = x'.redacted) :
    x = x' ∨
    (∃ u u', x = .uri u ∧ x' = .uri u' ∧ u.map Uri.redacted = u'.map Uri.redacted) ∨
    (∃ s s', x = .settings s ∧ x' = .settings s' ∧
      s.map Settings.redacted = s'.map Settings.redacted) ∨
    (∃ k k', x = .connection k ∧ x' = .connection k' ∧ k.redacted = k'.redacted) ∨
    ∃ isTuple xs xs', x = .items isTuple xs ∧ x' = .items isTuple xs' ∧
      xs.map redacted = xs'.map redacted := by
  cases x <;> cases x' <;> simp_all [redacted]

/-- An item that may be a password: texts are left out. -/
def masked : Item → Item
  | .value v => .value v.masked
  | x => x.redacted

@[simp] theorem masked_redacted (x : Item) : x.redacted.masked = x.masked := by
  cases x <;> simp [redacted, masked, Shared.map]

/-- An item under the name of an attribute or a parameter: a password is left out. -/
def concealed (name : String) (x : Item) : Item :=
  if name = "password" then x.masked else x.redacted

theorem concealed_of_ne {name : String} (h : name ≠ "password") (x : Item) :
    x.concealed name = x.redacted :=
  if_neg h

theorem concealed_redacted (name : String) (x : Item) :
    x.redacted.concealed name = x.concealed name := by
  simp [concealed]

/-- An item that may be a password, or a table with an entry for one: what is said of the password
is left out. -/
def censored : Item → Item
  | .value (.dict fields) => .value (.dict (Keywords.without "password" fields))
  | x => x.masked

@[simp] theorem censored_redacted (x : Item) : x.redacted.censored = x.censored := by
  cases x <;> simp [redacted, censored, masked, Shared.map]

@[simp] theorem censored_masked (x : Item) : x.masked.censored = x.censored := by
  cases x with
  | value v => cases v <;> rfl
  | _ => simp [masked]

theorem censored_congr {x x' : Item} (h : x.redacted = x'.redacted) : x.censored = x'.censored := by
  rw [← x.censored_redacted, h, x'.censored_redacted]

variable (w : World)

@[simp] theorem kind_redacted (x : Item) : x.redacted.kind w.redacted = x.kind w := by
  cases x with
  | topology ref => cases ref <;> rfl
  | client n => simp [redacted, kind]
  | _ => rfl

@[simp] theorem lacks_redacted (x : Item) (name : String) :
    x.redacted.lacks w.redacted name = x.lacks w name := by
  cases x with
  | value v => rfl
  | _ => exact congrArg (Failure.noAttribute · name) (kind_redacted w _)

mutual

@[simp] theorem toValue_redacted : ∀ x : Item, x.redacted.toValue w.redacted = x.toValue w
  | .value _ => rfl
  | .items isTuple xs => by
    have := toValues_redacted xs
    cases isTuple <;> simp_all [redacted, toValue]
  | .client n => by simp [redacted, toValue, kind, number]
  | .topology ref => by cases ref <;> rfl
  | .uri _ | .options _ | .settings _ | .resources _ | .connection _ | .live _ | .builder _
  | .deployment _ => rfl

theorem toValues_redacted : ∀ xs : List Item,
    toValues w.redacted (redactedAll xs) = toValues w xs
  | [] => rfl
  | x :: rest => by
    simp only [redactedAll, toValues, toValue_redacted x, toValues_redacted rest]

end

@[simp] theorem toValues_map_redacted (xs : List Item) :
    toValues w.redacted (xs.map redacted) = toValues w xs := by
  rw [← redactedAll_eq_map, toValues_redacted]

theorem toValue_masked (x : Item) : x.masked.toValue w.redacted = (x.toValue w).masked := by
  cases x with
  | value v => rfl
  | items isTuple xs =>
    refine (toValue_redacted w _).trans ?_
    cases isTuple <;> rfl
  | _ => exact toValue_redacted w _

theorem toValue_concealed (name : String) (x : Item) :
    (x.concealed name).toValue w.redacted = (x.toValue w).concealed name := by
  by_cases h : name = "password"
  · subst h
    exact toValue_masked w x
  · rw [concealed_of_ne h, Value.concealed, if_neg h, toValue_redacted]

section

variable {w} {w' : World} {x x' : Item}

theorem kind_congr (hw : w.redacted = w'.redacted) (h : x.redacted = x'.redacted) :
    x.kind w = x'.kind w' := by
  rw [← kind_redacted w, ← kind_redacted w', h, hw]

theorem toValue_congr (hw : w.redacted = w'.redacted) (h : x.redacted = x'.redacted) :
    x.toValue w = x'.toValue w' := by
  rw [← toValue_redacted w, ← toValue_redacted w', h, hw]

theorem toValue_masked_congr (hw : w.redacted = w'.redacted) (h : x.masked = x'.masked) :
    (x.toValue w).masked = (x'.toValue w').masked := by
  rw [← toValue_masked w, ← toValue_masked w', h, hw]

theorem toValues_congr (hw : w.redacted = w'.redacted) {xs xs' : List Item}
    (h : xs.map redacted = xs'.map redacted) : toValues w xs = toValues w' xs' := by
  rw [← toValues_map_redacted w, ← toValues_map_redacted w', h, hw]

end

@[simp] theorem redacted_ofPart (p : Part) : (ofPart p).redacted = ofPart p.redacted := by
  cases p <;> rfl

/-- What an item is as options or as resources. -/
theorem toPart_redacted (x : Item) : x.redacted.toPart w.redacted = (x.toPart w).redacted := by
  cases x with
  | options _ | resources _ | uri _ => rfl
  | _ => exact congrArg Part.value (toValue_redacted w _)

theorem toPart_congr {w w' : World} {x x' : Item} (hw : w.redacted = w'.redacted)
    (h : x.redacted = x'.redacted) : (x.toPart w).redacted = (x'.toPart w').redacted := by
  rw [← toPart_redacted w, ← toPart_redacted w', h, hw]

theorem ofSequence_redacted (isTuple : Bool) (xs : List Item) :
    ofSequence w.redacted isTuple (xs.map redacted) = (ofSequence w isTuple xs).redacted := by
  unfold ofSequence
  have hall : ∀ isValue : Item → Bool, (∀ x, isValue (redacted x) = isValue x) →
      (xs.map redacted).all isValue = xs.all isValue := by
    intro isValue h
    rw [List.all_map]
    exact congrArg _ (funext h)
  simp only
  rw [hall _ fun x => by cases x <;> rfl, toValues_map_redacted]
  split <;> cases isTuple <;> simp [redacted]

@[simp] theorem redacted_ofUris (uris : List (Shared Uri)) :
    (ofUris uris).redacted = ofUris (uris.map (·.map Uri.redacted)) := by
  simp [ofUris, redacted, Function.comp_def]

@[simp] theorem redacted_ofBool (b : Bool) : (ofBool b).redacted = ofBool b := rfl

@[simp] theorem redacted_ofNat (n : Nat) : (ofNat n).redacted = ofNat n := rfl

@[simp] theorem redacted_value (v : Value) : (value v).redacted = value v := rfl

end Item

/-! ## 2. Reading attributes -/

namespace Attribute

variable (w : World)

theorem ofNodes_redacted (nodes : Except Failure (List Node)) :
    (ofNodes nodes).map Item.redacted = ofNodes nodes := by
  cases nodes <;> rfl

theorem ofTimeout_redacted (t : Except Failure Timeout) :
    (ofTimeout t).map Item.redacted = ofTimeout t := by
  cases t <;> rfl

theorem ofTopology_redacted (ref : TopologyRef) (name : String) :
    ofTopology ref w.redacted name =
      (ofTopology ref w name).map (Except.map (Item.concealed name)) := by
  unfold ofTopology
  split
  case h_5 => rfl
  case h_6 n =>
    rw [World.redacted_standalones, World.redacted_env, Store.get_map, Standalone.nodeIn_redacted]
    cases (w.standalones.get n).nodeIn w.env <;> rfl
  case h_8 n =>
    rw [World.redacted_sentinels, World.redacted_env, Store.get_map, Sentinels.sentinelsIn_redacted]
    exact congrArg some (ofNodes_redacted _).symm
  case h_9 n =>
    rw [World.redacted_clusters, World.redacted_env, Store.get_map, Cluster.clusterNodesIn_redacted]
    exact congrArg some (ofNodes_redacted _).symm
  all_goals simp [Except.map, Item.concealed, Item.masked, TopologyRef.password_redacted]

theorem fieldOf_concealed {name : String} (h : name ≠ "password") (fields : Keywords) :
    ((fieldOf fields name).map Except.ok).map (Except.map (Item.concealed name)) =
      ((fieldOf fields name).map Except.ok : Option (Except Failure Item)) := by
  unfold fieldOf
  cases fields.lookup name with
  | none => rfl
  | some v => simp [Except.map, Item.concealed_of_ne h]

theorem ofUri_redacted (u : Shared Uri) (name : String) :
    ofUri (u.map Uri.redacted) name =
      (ofUri u name).map (Except.map (Item.concealed name)) := by
  fun_cases ofUri u name
  case case1 =>
    simp only [ofUri, Shared.map, Uri.socketTimeout_redacted]
    cases u.value.socketTimeout <;> rfl
  case case2 => rfl
  case case3 h h' =>
    simp only [ofUri]
    by_cases hp : name = "password"
    · subst hp
      rfl
    · have hfields : fieldOf (u.map Uri.redacted).value.fields name =
          fieldOf u.value.fields name := by
        have hlookup := congrArg (Keywords.get? · name) u.value.without_fields_redacted
        simp only [Keywords.get?_without_of_ne _ hp] at hlookup
        exact congrArg (Option.map Item.value) hlookup
      rw [hfields, fieldOf_concealed hp]

theorem ofSettings_redacted (s : Shared Settings) (name : String) :
    ofSettings (s.map Settings.redacted) name =
      (ofSettings s name).map (Except.map (Item.concealed name)) := by
  unfold ofSettings
  split <;> simp [Except.map, Item.concealed, ofTimeout, Item.redacted, Shared.map,
    Settings.redacted]

theorem ofLive_redacted (n : Nat) (name : String) :
    ofLive n w.redacted name = (ofLive n w name).map (Except.map (Item.concealed name)) := by
  unfold ofLive
  simp only [World.redacted_live, World.redacted_env, Store.get_map,
    LiveSettings.useSslIn_of_redacted, LiveSettings.useSslIn_redacted,
    LiveSettings.verifyPeerIn_of_redacted, LiveSettings.verifyPeerIn_redacted,
    LiveSettings.startTlsIn_of_redacted, LiveSettings.startTlsIn_redacted,
    LiveSettings.timeoutIn_of_redacted, LiveSettings.timeoutIn_redacted,
    LiveSettings.shutdownTimeoutIn_of_redacted, LiveSettings.shutdownTimeoutIn_redacted]
  split
  case h_6 => exact congrArg some (ofTimeout_redacted _).symm
  case h_7 => exact congrArg some (ofTimeout_redacted _).symm
  all_goals simp [Except.map, Item.concealed, Item.redacted, LiveSettings.redacted]

theorem ofClient_redacted (n : Nat) (name : String) :
    ofClient n w.redacted name = (ofClient n w name).map (Except.map (Item.concealed name)) := by
  unfold ofClient
  simp only [World.redacted_clients, Store.get_map, Client.aim_redacted,
    Client.options_redacted, Client.resources_redacted, Client.openCount_redacted,
    Client.openAsyncCount_redacted, Client.uris_redacted]
  cases (w.clients.get n).aim <;> simp only [Aim.redacted] <;> split <;>
    simp_all [Except.map, Item.concealed, Item.redacted]

theorem ofDeployment_redacted (n : Nat) (name : String) :
    ofDeployment n w.redacted name =
      (ofDeployment n w name).map (Except.map (Item.concealed name)) := by
  unfold ofDeployment
  simp only [World.redacted_deployments, Store.get_map, Deployment.topology_redacted,
    Deployment.underSentinels_redacted, Deployment.isCluster_redacted,
    Deployment.settings_redacted, Deployment.client_redacted,
    Deployment.share_redacted, Deployment.role_redacted, Deployment.standalone_redacted,
    Deployment.host_redacted, Deployment.port_redacted, Deployment.timeoutMillis_redacted,
    TopologyRef.password_redacted, TopologyRef.database_redacted, SettingsRef.useSsl_redacted,
    SettingsRef.verifyPeer_redacted, SettingsRef.startTls_redacted,
    SettingsRef.resources_redacted]
  split
  case h_10 => cases (w.deployments.get n).timeoutMillis .command w <;> rfl
  case h_11 => cases (w.deployments.get n).timeoutMillis .shutdown w <;> rfl
  case h_14 => cases (w.deployments.get n).client <;> rfl
  case h_16 => cases (w.deployments.get n).role <;> rfl
  case h_17 => cases (w.deployments.get n).role <;> rfl
  case h_18 => cases (w.deployments.get n).settings <;> rfl
  all_goals simp_all [Except.map, Item.concealed, Item.redacted, Item.masked]

/-- An attribute of a redacted item reads as that of the item, but for a password. -/
theorem find_redacted (name : String) (x : Item) : find w.redacted name x.redacted =
    (find w name x).map (Except.map (Item.concealed name)) := by
  cases x with
  | topology ref => exact ofTopology_redacted w ref name
  | uri u => exact ofUri_redacted u name
  | options o =>
    simp only [find, Item.redacted]
    by_cases hp : name = "password"
    · subst hp
      rfl
    · exact (fieldOf_concealed hp _).symm
  | settings s => exact ofSettings_redacted s name
  | resources r =>
    simp only [find, Item.redacted, ofResources]
    split <;> simp_all [Except.map, Item.concealed]
  | live n => exact ofLive_redacted w n name
  | client n => exact ofClient_redacted w n name
  | deployment n => exact ofDeployment_redacted w n name
  | value v =>
    cases v with
    | node host port =>
      simp only [find, Item.redacted]
      split <;> simp_all [Except.map, Item.concealed]
    | _ => rfl
  | _ => rfl

theorem read_redacted (x : Item) (name : String) :
    read w.redacted x.redacted name = (read w x name).map (Item.concealed name) := by
  simp only [read, find_redacted, Item.lacks_redacted]
  cases find w name x <;> rfl

/-- Whether an attribute cannot be written does not depend on passwords. -/
theorem unwritable_redacted (x : Item) (name : String) :
    unwritable w.redacted x.redacted name = unwritable w x name := by
  simp only [unwritable, find_redacted, Item.kind_redacted, Item.lacks_redacted]
  cases find w name x <;> rfl

@[simp] theorem isRecord_redacted (x : Item) : isRecord x.redacted = isRecord x := by
  cases x <;> rfl

theorem delete_redacted (x : Item) (name : String) :
    delete w.redacted x.redacted name = delete w x name := by
  simp only [delete, find_redacted, Item.kind_redacted, Item.lacks_redacted, isRecord_redacted]
  cases find w name x <;> rfl

/-! ## 3. Writing attributes -/

theorem writeTopology_blind (ref : TopologyRef) (name : String) (given : Value) :
    (writeTopology ref name (given.concealed name)).seen id w.redacted =
      (writeTopology ref name given).seen id w := by
  unfold Act.seen writeTopology
  split
  case h_1 => exact Deployment.setPassword_blind w ref given
  case h_2 => exact Deployment.setDatabase_blind w ref given
  case h_4 n =>
    have hport := (w.standalones.get n).setPort_redacted given
    simp only [World.redacted_standalones, Store.get_map, Value.concealed, String.reduceEq,
      if_false]
    cases hs : (w.standalones.get n).setPort given with
    | ok s =>
      rw [hs] at hport
      simp [hport, Except.map]
    | error e =>
      rw [hs] at hport
      simp [hport, Except.map]
  case h_7 =>
    rw [← unwritable_redacted w (.topology ref) name]
    exact Act.seen_ext rfl w.redacted_redacted
  case h_3 => exact Act.seen_ext rfl (by simp [Value.concealed, Standalone.redacted_setHost])
  case h_5 => exact Act.seen_ext rfl (by simp [Value.concealed, Standalone.redacted])
  case h_6 =>
    refine Act.seen_ext rfl ?_
    simp [Value.concealed, World.redacted, Sentinels.redacted_setMaster]

theorem writeLive_blind (n : Nat) (name : String) (given : Item) :
    (writeLive n name (given.concealed name)).seen id w.redacted =
      (writeLive n name given).seen id w := by
  have hchange (f : LiveSettings → Except Failure LiveSettings)
      {g : LiveSettings → Except Failure LiveSettings}
      (h : ∀ s, (g s.redacted).map LiveSettings.redacted = (f s).map LiveSettings.redacted) :=
    Deployment.change_blind w (.live n) h
  unfold Act.seen writeLive
  simp only [Item.toValue_concealed]
  split
  case h_4 | h_5 => exact hchange _ fun s => LiveSettings.setTimeout_redacted s _ _
  case h_6 | h_7 =>
    rw [Item.concealed_of_ne (by decide), Item.toPart_redacted]
    exact hchange _ fun s => by simp [Except.map, LiveSettings.redacted]
  case h_8 =>
    rw [← unwritable_redacted w (.live n) name]
    exact Act.seen_ext rfl w.redacted_redacted
  all_goals exact hchange _ fun s => by simp [Except.map, Value.concealed]

theorem deploymentWrite_redacted (name : String) (given : Item) :
    deploymentWrite w.redacted name (given.concealed name) =
      (deploymentWrite w name given).map Deployment.Write.masked := by
  unfold deploymentWrite
  simp only [Item.toValue_concealed]
  split
  case h_11 =>
    rw [Item.concealed_of_ne (by decide), Item.toPart_redacted]
    rfl
  all_goals simp_all [Value.concealed, Deployment.Write.masked]

/-- Attributes are written alike, whatever is given as a password. -/
theorem write_blind (x : Item) (name : String) (given : Item) :
    (write x.redacted name (given.concealed name)).seen id w.redacted =
      (write x name given).seen id w := by
  have hfailure := unwritable_redacted w x name
  cases hrecord : isRecord x with
  | true => simp [Act.seen, write, hrecord]
  | false =>
    cases x with
    | topology ref =>
      simp only [Act.seen, write, hrecord, Item.redacted, Item.toValue_concealed]
      exact writeTopology_blind w ref name (given.toValue w)
    | live n => exact writeLive_blind w n name given
    | deployment n =>
      have hwrite := deploymentWrite_redacted w name given
      simp only [Item.redacted] at hfailure
      cases hw : deploymentWrite w name given with
      | none =>
        rw [hw] at hwrite
        simp [Act.seen, write, hrecord, Item.redacted, hw, hwrite, Except.map, hfailure]
      | some entry =>
        rw [hw] at hwrite
        simp only [Act.seen, write, hrecord, Item.redacted, hw, hwrite, Option.map]
        exact Deployment.write_blind n w entry
    | _ => simp_all [Act.seen, write, Item.redacted, isRecord]

theorem write_agree {x x' : Item} (hx : x.redacted = x'.redacted) (name : String)
    {given given' : Item} (h : given.concealed name = given'.concealed name) :
    Agree id (write x name given) (write x' name given') := by
  intro w w' hw
  rw [← write_blind w x name given, ← write_blind w' x' name given', hx, h, hw]

end Attribute

end RedisLink
