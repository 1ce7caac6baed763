/-
RedisLink.Proofs.Lifecycle.Untraced — a connection that is not opened leaves no
trace.

Whether there is a plan for a connection is settled by the URIs, options and
resources of a client before anything happens: `Client.Able` lists what it takes,
and `Client.plan_isOk_iff` that nothing else matters. A URI needs a timeout, a path
of a class has to lead to something, and the additional keywords may repeat no
argument that a connection is opened with besides. Then the class is called, and
whether that succeeds is not for the client to say: the call may fail for any reason
(`Asked.Granted`).

An attempt that fails either way, at a client or through a deployment that shares
connections or does not, has changed nothing; at most it has reported that TLS
cannot be started, and called a class. As reports are never read, everything that is
done afterwards goes as it would have gone without the attempt, when the calls to
come end as they do. A release calls no class and does what it would have done.
`failed_connect_untraced` says so of every attempt.
-/
import RedisLink.Proofs.Lifecycle.Closing
import RedisLink.Proofs.Lifecycle.Reports
import RedisLink.Proofs.Opening
import RedisLink.Proofs.Secrecy.Arguments

namespace RedisLink

/-! ## 1. Clients that can open connections -/

namespace Part

/-- What is given as options has keywords to give; a value has none. -/
def HasKeywords : Part → Prop
  | .options _ | .resources _ => True
  | .uri u => ∃ d, u.value.timeout = .duration d
  | .value _ => False

/-- The names of the additional keywords of what is given as options. -/
def additionalNames : Part → List String
  | .options o => o.value.additional.map Prod.fst
  | _ => []

end Part

theorem Uri.keywords_isOk_iff {u : Uri} {d : Bool} :
    (∃ keywords, u.keywords d = .ok keywords) ↔ ∃ t, u.timeout = .duration t := by
  unfold keywords socketTimeout
  cases u.timeout <;> simp

namespace Part

theorem optionKeywords_isOk_iff {p : Part} :
    (∃ keywords, p.optionKeywords = .ok keywords) ↔ p.HasKeywords := by
  cases p with
  | uri u => exact Uri.keywords_isOk_iff
  | value v => simp [optionKeywords, HasKeywords]
  | _ => exact ⟨fun _ => trivial, fun _ => ⟨_, rfl⟩⟩

theorem resourceKeywords_isOk_iff {p : Part} {a : Bool} :
    (∃ keywords, p.resourceKeywords a = .ok keywords) ↔ ∃ r, p = .resources r := by
  cases p <;> simp [resourceKeywords]

/-- Only options have classes. -/
theorem hasKeywords_of_connectionClass {p : Part} {installed : ClassPath.Installation} {a : Bool}
    {cls : Value} (h : p.connectionClass installed a = .ok cls) : p.HasKeywords := by
  cases p with
  | options o => trivial
  | _ => cases h

end Part

namespace Client

/-- A client has a plan for connections of a kind. -/
inductive Able (c : Client) (installed : ClassPath.Installation) (asynchronous : Bool) : Prop
  /-- To a server, if what is given as its class is one. -/
  | direct (uri : Shared Uri) (r : ClassRef) (aim : c.aim = .single uri)
      (plain : uri.value.isSentinel = false)
      (cls : c.options.connectionClass installed asynchronous = .ok (.cls r))
      (timed : ∃ d, uri.value.timeout = .duration d)
      (resources : ∃ r, c.resources = .resources r)
      (host : "host" ∉ c.options.additionalNames)
      (port : "port" ∉ c.options.additionalNames)
  /-- To a master, if its sentinels are nodes; its class may be anything. -/
  | sentinel (uri : Shared Uri) (cls : Value) (addresses : List (Value × Value))
      (aim : c.aim = .single uri) (master : uri.value.isSentinel = true)
      (resolved : c.options.connectionClass installed asynchronous = .ok cls)
      (timed : ∃ d, uri.value.timeout = .duration d)
      (resources : ∃ r, c.resources = .resources r)
      (sentinels : uri.value.sentinelAddresses = .ok addresses)
      (own : "sentinel_kwargs" ∉ c.options.additionalNames)
  /-- To a cluster; the classes of the options have no part in it. -/
  | cluster (first : Shared Uri) (others : List (Shared Uri)) (aim : c.aim = .cluster first others)
      (timed : ∃ d, first.value.timeout = .duration d)
      (resources : ∃ r, c.resources = .resources r) (options : c.options.HasKeywords)
      (nodes : "startup_nodes" ∉ c.options.additionalNames)

variable {c : Client} {u : Uri} {installed : ClassPath.Installation} {a d : Bool}
  {keywords : Keywords}

theorem refuseRepeated_eq_ok_iff {callee : Value} {arguments : List String} :
    refuseRepeated callee arguments keywords = .ok () ↔
      ∀ name ∈ arguments, name ∉ keywords.map Prod.fst := by
  constructor
  · intro h name hname
    exact not_mem_of_refuseRepeated h hname
  · intro h
    have hnone : (keywords.find? fun entry => arguments.contains entry.1) = none := by
      rw [List.find?_eq_none]
      intro entry hentry hcontains
      exact h entry.1 (List.contains_iff_mem.mp hcontains) (List.mem_map_of_mem hentry)
    simp only [refuseRepeated, hnone]

/-- The names of arguments that connections are opened with besides their keywords. -/
def ownArguments : List String := ["host", "port", "sentinel_kwargs", "startup_nodes"]

/-- No layer but that of the additional keywords has such an argument. -/
theorem setting?_isSome_iff {name : String} (own : name ∈ ownArguments) :
    (c.setting? u a d name).isSome ↔ name ∈ c.options.additionalNames := by
  simp only [ownArguments, List.mem_cons, List.not_mem_nil, or_false] at own
  have hresources : c.resources.resourceSetting? a name = none := by
    rcases own with rfl | rfl | rfl | rfl <;> cases c.resources <;>
      simp [Part.resourceSetting?, Resources.setting?]
  have huri : u.setting? d name = none := by
    rcases own with rfl | rfl | rfl | rfl <;> simp [Uri.setting?]
  rw [setting?, hresources, huri]
  cases c.options with
  | options o =>
    have hoptions : o.value.setting? name = none := by
      rcases own with rfl | rfl | rfl | rfl <;> simp [Options.setting?]
    simp [Part.optionSetting?, Part.additionalNames, hoptions, Keywords.last?_isSome_iff]
  | _ =>
    rcases own with rfl | rfl | rfl | rfl <;>
      simp [Part.optionSetting?, Part.additionalNames, Resources.setting?, Uri.setting?]

/-- Only additional keywords can repeat such an argument. -/
theorem refuseRepeated_keywords_iff (h : c.keywords u a d = .ok keywords) {callee : Value}
    {arguments : List String} (own : arguments ⊆ ownArguments) :
    refuseRepeated callee arguments keywords = .ok () ↔
      ∀ name ∈ arguments, name ∉ c.options.additionalNames := by
  have hname : ∀ name ∈ arguments,
      (name ∈ keywords.map Prod.fst ↔ name ∈ c.options.additionalNames) := by
    intro name hname
    rw [← Keywords.get?_isSome_iff, (keywords_layers h).2, setting?_isSome_iff (own hname)]
  rw [refuseRepeated_eq_ok_iff]
  exact forall₂_congr fun name hmem => not_congr (hname name hmem)

/-- The keywords of a connection take a URI with a timeout, resources, and options that have
keywords. -/
theorem keywords_isOk_iff : (∃ keywords, c.keywords u a d = .ok keywords) ↔
    (∃ t, u.timeout = .duration t) ∧ (∃ r, c.resources = .resources r) ∧ c.options.HasKeywords := by
  rw [← Uri.keywords_isOk_iff (d := d), ← Part.resourceKeywords_isOk_iff (a := a),
    ← Part.optionKeywords_isOk_iff]
  unfold Client.keywords
  cases c.resources.resourceKeywords a with
  | error e => simp
  | ok resources =>
    cases u.keywords d with
    | error e => simp
    | ok own => cases c.options.optionKeywords <;> simp

theorem socketTimeout_of_timed (timed : ∃ t, u.timeout = .duration t) :
    ∃ timeout, u.socketTimeout = .ok timeout := by
  obtain ⟨t, ht⟩ := timed
  simp only [Uri.socketTimeout, ht]
  exact ⟨_, rfl⟩

theorem able_of_singlePlan {uri : Shared Uri} {cls : Value} {b : Blueprint}
    (aim : c.aim = .single uri) (hcls : c.options.connectionClass installed a = .ok cls)
    (h : c.singlePlan uri.value a cls = .ok b) : c.Able installed a := by
  unfold singlePlan at h
  split at h
  · cases h
  · rename_i keywords hkeywords
    obtain ⟨timed, resources, -⟩ := keywords_isOk_iff.mp ⟨_, hkeywords⟩
    split at h
    · rename_i master
      unfold sentinelPlan at h
      split at h
      · cases h
      · cases h
      · rename_i addresses timeout sentinels htimeout
        split at h
        · cases h
        · rename_i hfree
          rw [refuseRepeated_keywords_iff hkeywords (by decide)] at hfree
          exact .sentinel uri cls addresses aim master hcls timed resources sentinels
            (hfree _ (List.mem_singleton.mpr rfl))
    · rename_i plain
      unfold directPlan at h
      split at h
      · cases h
      · rename_i r hfree
        rw [refuseRepeated_keywords_iff hkeywords (by decide)] at hfree
        exact .direct uri r aim (by simpa using plain) hcls timed resources (hfree _ (by simp))
          (hfree _ (by simp))
      · cases h

theorem able_of_clusterPlan {first : Shared Uri} {others : List (Shared Uri)} {all : List Uri}
    {b : Blueprint} (aim : c.aim = .cluster first others)
    (h : c.clusterPlan first.value all a = .ok b) : c.Able installed a := by
  simp only [clusterPlan] at h
  split at h
  · cases h
  · rename_i keywords hkeywords
    split at h
    · cases h
    · rename_i hfree
      rw [refuseRepeated_keywords_iff hkeywords (by decide)] at hfree
      obtain ⟨timed, resources, options⟩ := keywords_isOk_iff.mp ⟨_, hkeywords⟩
      exact .cluster first others aim timed resources options
        (hfree _ (List.mem_singleton.mpr rfl))

/-- Nothing else matters for a plan. -/
theorem plan_isOk_iff (c : Client) (installed : ClassPath.Installation) (a : Bool) :
    (∃ b, (c.plan installed a).2 = .ok b) ↔ c.Able installed a := by
  constructor
  · rintro ⟨b, h⟩
    unfold plan at h
    split at h
    · cases h
    · rename_i uri aim
      split at h
      · cases h
      · rename_i cls hcls
        exact able_of_singlePlan aim hcls h
    · rename_i first others aim
      exact able_of_clusterPlan aim h
  · intro able
    cases able with
    | direct uri r aim plain cls timed resources host port =>
      obtain ⟨keywords, hkeywords⟩ := (keywords_isOk_iff (a := a) (d := true)).mpr
        ⟨timed, resources, Part.hasKeywords_of_connectionClass cls⟩
      have hfree : refuseRepeated (.cls r) ["host", "port"] keywords = .ok () := by
        rw [refuseRepeated_keywords_iff hkeywords (by decide)]
        intro name hname
        obtain rfl | rfl := List.mem_pair.mp hname
        · exact host
        · exact port
      simp [plan, aim, cls, singlePlan, hkeywords, plain, directPlan, hfree]
    | sentinel uri cls addresses aim master resolved timed resources sentinels own =>
      obtain ⟨keywords, hkeywords⟩ := (keywords_isOk_iff (a := a) (d := true)).mpr
        ⟨timed, resources, Part.hasKeywords_of_connectionClass resolved⟩
      obtain ⟨timeout, htimeout⟩ := socketTimeout_of_timed timed
      have hfree : ∀ callee, refuseRepeated callee ["sentinel_kwargs"] keywords = .ok () := by
        intro callee
        rw [refuseRepeated_keywords_iff hkeywords (by decide)]
        simpa only [List.forall_mem_singleton] using own
      simp [plan, aim, resolved, singlePlan, hkeywords, master, sentinelPlan, sentinels, htimeout,
        hfree]
    | cluster first others aim timed resources options nodes =>
      obtain ⟨keywords, hkeywords⟩ := (keywords_isOk_iff (a := a) (d := false)).mpr
        ⟨timed, resources, options⟩
      have hfree : ∀ callee, refuseRepeated callee ["startup_nodes"] keywords = .ok () := by
        intro callee
        rw [refuseRepeated_keywords_iff hkeywords (by decide)]
        simpa only [List.forall_mem_singleton] using nodes
      simp [plan, aim, clusterPlan, hkeywords, hfree]

/-- On the way to a connection only warnings are reported. -/
theorem plan_warns (c : Client) (installed : ClassPath.Installation) (a : Bool) :
    ∀ line ∈ (c.plan installed a).1, line.level = .warning := by
  have htls : ∀ uri : Uri, ∀ line ∈ startTlsWarning uri, line.level = .warning := by
    intro uri line hline
    unfold startTlsWarning at hline
    split at hline
    · rw [List.mem_singleton.mp hline]
    · cases hline
  unfold plan
  split
  · exact List.forall_mem_nil _
  · split
    · exact List.forall_mem_nil _
    · exact htls _
  · exact htls _

end Client

/-- What an attempt that fails leaves: warnings, and the call of a class that it may have made. -/
inductive World.Attempted (w : World) : World → Prop
  | refused (lines : List LogLine) (warnings : ∀ line ∈ lines, line.level = .warning) :
      Attempted w (w.record [] lines)
  | called (lines : List LogLine) (warnings : ∀ line ∈ lines, line.level = .warning) :
      Attempted w (w.countCall.record [] lines)

theorem World.Attempted.nothing (w : World) : w.Attempted w := by
  simpa [World.record] using World.Attempted.refused (w := w) [] (List.forall_mem_nil _)

namespace Client

/-- A client opens a connection: it has a plan, and the call of the class ends well. -/
def Opens (n : Nat) (a : Bool) (w : World) : Prop :=
  (w.clients.get n).Able w.installed a ∧ w.conducts.calls w.called = none

theorem connect_outcome (n : Nat) (a : Bool) (w : World) :
    (Opens n a w ∧ ∃ k, (connect n a w).1 = .ok k) ∨
      (¬ Opens n a w ∧ ∃ e v, connect n a w = (.error e, v) ∧ w.Attempted v) := by
  have hwarns := (w.clients.get n).plan_warns w.installed a
  have hplan := (w.clients.get n).plan_isOk_iff w.installed a
  have hconnecting := connecting n a w
  generalize connect n a w = result at hconnecting
  unfold Opens
  rw [← hplan]
  cases hconnecting with
  | unplanned lines e plan =>
    rw [plan] at hwarns ⊢
    exact .inr ⟨by simp, e, _, rfl, .refused lines hwarns⟩
  | refused lines b e plan call =>
    rw [plan] at hwarns
    exact .inr ⟨by simp [call], e, _, rfl, .called lines hwarns⟩
  | opened lines b plan call =>
    rw [plan]
    exact .inl ⟨⟨⟨b, rfl⟩, call⟩, _, rfl⟩

end Client

/-! ## 2. Asking for connections -/

/-- Where a connection is asked for. -/
inductive Asked
  | client (number : Nat)
  | deployment (number : Nat)

namespace Asked

def item : Asked → Item
  | .client n => .client n
  | .deployment n => .deployment n

/-- The name of the method that gives connections of a kind. -/
def method : Asked → Bool → String
  | .client _, false => "connect"
  | .client _, true => "connect_async"
  | .deployment _, false => "get_connection"
  | .deployment _, true => "get_async_connection"

/-- The call that asks for a connection. -/
def call (asked : Asked) (asynchronous : Bool) (arguments : Arguments) : Method.Call :=
  ⟨asked.item, asked.method asynchronous, arguments⟩

/-- What the call does if it is accepted. -/
def act : Asked → Bool → Act Connection
  | .client n, a => Client.connect n a
  | .deployment n, a => Deployment.handOut n a

/-- A connection is there for the asking. -/
inductive Granted (asynchronous : Bool) (w : World) : Asked → Prop
  | client (n : Nat) (opens : Client.Opens n asynchronous w) : Granted asynchronous w (.client n)
  /-- Callers share one already. -/
  | shared (n client : Nat) (k : Connection) (present : (w.deployments.get n).client = some client)
      (sharing : (w.deployments.get n).share.truthy = true)
      (shared : (w.deployments.get n).shared asynchronous = some k) :
      Granted asynchronous w (.deployment n)
  | opened (n client : Nat) (present : (w.deployments.get n).client = some client)
      (opens : Client.Opens client asynchronous w) : Granted asynchronous w (.deployment n)

theorem granted_client_iff {n : Nat} {a : Bool} {w : World} :
    (client n).Granted a w ↔ Client.Opens n a w := by
  constructor
  · rintro ⟨_, opens⟩
    exact opens
  · exact .client n

theorem granted_deployment_iff {n number : Nat} {a : Bool} {w : World}
    (present : (w.deployments.get n).client = some number) :
    (deployment n).Granted a w ↔
      ((w.deployments.get n).share.truthy = true ∧ ∃ k, (w.deployments.get n).shared a = some k) ∨
        Client.Opens number a w := by
  constructor
  · intro granted
    cases granted with
    | shared _ _ k _ sharing shared => exact .inl ⟨sharing, k, shared⟩
    | opened _ other present' opens =>
      obtain rfl : number = other := Option.some.inj (present.symm.trans present')
      exact .inr opens
  · rintro (⟨sharing, k, shared⟩ | opens)
    · exact .shared n number k present sharing shared
    · exact .opened n number present opens

theorem not_granted_of_absent {n : Nat} {a : Bool} {w : World}
    (absent : (w.deployments.get n).client = none) : ¬ (deployment n).Granted a w := by
  intro granted
  cases granted with
  | shared _ _ _ present => cases absent.symm.trans present
  | opened _ _ present => cases absent.symm.trans present

/-- A connection is given if it is there for the asking. Otherwise nothing has changed. -/
theorem act_outcome (asked : Asked) (a : Bool) (w : World) :
    (asked.Granted a w ∧ ∃ k, (asked.act a w).1 = .ok k) ∨
      (¬ asked.Granted a w ∧ ∃ e v, asked.act a w = (.error e, v) ∧ w.Attempted v) := by
  cases asked with
  | client n =>
    rw [granted_client_iff]
    exact Client.connect_outcome n a w
  | deployment n =>
    cases hclient : (w.deployments.get n).client with
    | none =>
      refine .inr ⟨not_granted_of_absent hclient, .notInitialized, w, ?_, .nothing w⟩
      simp only [act, Deployment.handOut, hclient]
    | some number =>
      rw [granted_deployment_iff hclient]
      have hconnect := Client.connect_outcome number a w
      simp only [act, Deployment.handOut, hclient]
      cases hshare : (w.deployments.get n).share.truthy with
      | false =>
        obtain ⟨opens, hk⟩ | ⟨refused, e, v, he, hv⟩ := hconnect
        · exact .inl ⟨.inr opens, hk⟩
        · exact .inr ⟨by simp [refused], e, v, he, hv⟩
      | true =>
        cases hshared : (w.deployments.get n).shared a with
        | some k => exact .inl ⟨.inl ⟨rfl, k, rfl⟩, k, rfl⟩
        | none =>
          obtain ⟨opens, k, hk⟩ | ⟨refused, e, v, he, hv⟩ := hconnect
          · refine .inl ⟨.inr opens, k, ?_⟩
            rcases hr : Client.connect number a w with ⟨_ | _, v⟩
            · simp [hr] at hk
            · simpa [hr] using hk
          · refine .inr ⟨by simp [refused], e, v, ?_, hv⟩
            simp [he]

/-- A call that gives a connection does so if its arguments are accepted. -/
theorem reply_of_accepted {α : Type} (accepted : Except Failure α) (act : Act Connection)
    (w : World) :
    (do
      let _ ← Act.ofExcept accepted
      return .item (.connection (← act)) : Act Reply) w =
    match accepted with
    | .ok _ => ((act w).1.map fun k => .item (.connection k), (act w).2)
    | .error e => (.error e, w) := by
  cases accepted with
  | error e => rfl
  | ok _ =>
    show Act.andThen act (fun k => Act.give (Reply.item (.connection k))) w = _
    unfold Act.andThen
    rcases act w with ⟨_ | _, _⟩ <;> rfl

/-- The call does what it stands for, unless it is given arguments or its client is aimed at
nothing. -/
theorem call_outcome (asked : Asked) (a : Bool) (arguments : Arguments) (w : World) :
    (arguments = ⟨[], []⟩ ∧ Method.call (asked.call a arguments) w =
        ((asked.act a w).1.map fun k => .item (.connection k), (asked.act a w).2)) ∨
      (¬ (arguments = ⟨[], []⟩ ∧ asked.Granted a w) ∧
        ∃ e, Method.call (asked.call a arguments) w = (.error e, w)) := by
  have hbind := Signature.bind_none_cases (asked.item.kind w ++ "." ++ asked.method a) arguments
  change (_ ∧ (asked.call a arguments).bind w [] = _) ∨
    (_ ∧ ∃ e, (asked.call a arguments).bind w [] = .error e) at hbind
  cases asked with
  | client n =>
    have hcall : Method.call ((client n).call a arguments) w =
        (if (w.clients.get n).uris.isEmpty then ((client n).call a arguments).unknown
        else do
          let _ ← Act.ofExcept (((client n).call a arguments).bind w [])
          return .item (.connection (← Client.connect n a)) : Act Reply) w := by
      cases a <;> rfl
    rw [hcall]
    split
    · rename_i hempty
      refine .inr ⟨?_, _, rfl⟩
      rintro ⟨-, granted⟩
      cases (granted_client_iff.mp granted).1 with
      | direct uri r aim => simp [Client.uris, aim] at hempty
      | sentinel uri cls addresses aim => simp [Client.uris, aim] at hempty
      | cluster first others aim => simp [Client.uris, aim] at hempty
    · rw [reply_of_accepted]
      obtain ⟨hnone, hok⟩ | ⟨hsome, e, herror⟩ := hbind
      · rw [hok]
        exact .inl ⟨hnone, rfl⟩
      · rw [herror]
        exact .inr ⟨fun h => hsome h.1, e, rfl⟩
  | deployment n =>
    have hcall : Method.call ((deployment n).call a arguments) w =
        (do
          let _ ← Act.ofExcept ((((deployment n).call a arguments).bind w []).map fun _ => ())
          return .item (.connection (← Deployment.handOut n a)) : Act Reply) w := by
      cases a <;> rfl
    rw [hcall, reply_of_accepted]
    obtain ⟨hnone, hok⟩ | ⟨hsome, e, herror⟩ := hbind
    · rw [hok]
      exact .inl ⟨hnone, rfl⟩
    · rw [herror]
      exact .inr ⟨fun h => hsome h.1, e, rfl⟩

end Asked

/-! ## 3. Operations that call no class -/

/-- The world as it is when a number of calls of classes have been made. -/
def World.calledAt (w : World) (k : Nat) : World := { w with called := k }

theorem World.unnoticed_calledAt (k : Nat) : Unnoticed (·.calledAt k) where
  clients _ := rfl
  deployments _ := rfl
  conducts _ := rfl
  timeout ref _ _ := by cases ref <;> rfl
  setClient _ _ _ := rfl
  setDeployment _ _ _ := rfl
  record _ _ _ := rfl

/-- An operation calls no class: it does the same however many calls have been made. -/
def Act.CallsNone {α : Type} (act : Act α) : Prop := ∀ k, act.Commutes (·.calledAt k)

namespace Deployment

theorem destroy_callsNone (n : Nat) : (destroy n).CallsNone := fun k =>
  destroy_commutes (World.unnoticed_calledAt k) n

theorem destroyAsync_callsNone (n : Nat) : (destroyAsync n).CallsNone := fun k =>
  destroyAsync_commutes (World.unnoticed_calledAt k) n

end Deployment

/-! ## 4. Attempts that fail -/

/-- An operation does in a later world what it does in an earlier one: it gives the same, and the
worlds after it differ as those before it do, in calls that have been made and in lines that have
been reported. -/
structure Act.Repeats {α : Type} (act : Act α) (w v : World) : Prop where
  answer : (act v).1 = (act w).1
  after : ∃ lines, (act w).2.log = w.log ++ lines ∧
    (act v).2 = { (act w).2 with log := v.log ++ lines, called := v.called }

theorem Act.repeats_of_callsNone {α : Type} {act : Act α} (calls : act.CallsNone)
    (unheeding : act.Unheeding) {w v : World} (same : v.silent = w.silent.calledAt v.called) :
    act.Repeats w v := by
  have hw := unheeding w.log w.silent
  rw [w.preceded_silent] at hw
  have hv := unheeding v.log v.silent
  rw [v.preceded_silent, same, calls v.called w.silent] at hv
  constructor
  case answer => rw [hw, hv]
  case after =>
    rw [hw, hv]
    exact ⟨(act w.silent).2.log, rfl, rfl⟩

/-- Nothing tells a later world from an earlier one but warnings that have been reported and the
call of a class that has been made. -/
structure World.Untraced (w v : World) : Prop where
  warned : ∃ lines : List LogLine, (∀ line ∈ lines, line.level = .warning) ∧
    v = { w with log := w.log ++ lines, called := v.called }
  called : v.called = w.called ∨ v.called = w.called + 1
  /-- No connection has been opened, and every client counts and tracks those that it did. -/
  connections : v.opened = w.opened ∧ v.events = w.events ∧ ∀ n,
    (v.clients.get n).openCount = (w.clients.get n).openCount ∧
      (v.clients.get n).openAsyncCount = (w.clients.get n).openAsyncCount ∧
      ∀ a, (v.clients.get n).tracked a = (w.clients.get n).tracked a
  /-- Every deployment has the client that it had, and callers share what they shared. -/
  deployments : ∀ n, (v.deployments.get n).client = (w.deployments.get n).client ∧
    ∀ a, (v.deployments.get n).shared a = (w.deployments.get n).shared a
  /-- A release does what it would have done before. -/
  releases : ∀ n, (Deployment.destroy n).Repeats w v ∧ (Deployment.destroyAsync n).Repeats w v
  /-- Whatever is done with deployments from now on goes as it would have gone before, when the
  calls to come end as they do now. -/
  goesOn : (w.calledAt v.called).GoesOn v

theorem World.Attempted.untraced {w v : World} (attempted : w.Attempted v) : w.Untraced v := by
  obtain ⟨hwarned, hcalled⟩ : (∃ lines : List LogLine, (∀ line ∈ lines, line.level = .warning) ∧
      v = { w with log := w.log ++ lines, called := v.called }) ∧
        (v.called = w.called ∨ v.called = w.called + 1) := by
    cases attempted with
    | refused lines warnings => exact ⟨⟨lines, warnings, by simp [record]⟩, .inl rfl⟩
    | called lines warnings => exact ⟨⟨lines, warnings, by simp [record, countCall]⟩, .inr rfl⟩
  have hsilent : v.silent = w.silent.calledAt v.called := by
    obtain ⟨lines, -, hv⟩ := hwarned
    rw [hv]
    rfl
  refine ⟨hwarned, hcalled, ?_, ?_, fun n => ⟨?_, ?_⟩, .of_logs hsilent⟩
  · obtain ⟨lines, -, hv⟩ := hwarned
    rw [hv]
    exact ⟨rfl, rfl, fun _ => ⟨rfl, rfl, fun _ => rfl⟩⟩
  · obtain ⟨lines, -, hv⟩ := hwarned
    rw [hv]
    exact fun _ => ⟨rfl, fun _ => rfl⟩
  · exact Act.repeats_of_callsNone (Deployment.destroy_callsNone n)
      (Deployment.destroy_unheeding n) hsilent
  · exact Act.repeats_of_callsNone (Deployment.destroyAsync_callsNone n)
      (Deployment.destroyAsync_unheeding n) hsilent

/-- What comes of asking for a connection of a kind. -/
structure Asked.FailsUntraced (asked : Asked) (a : Bool) (arguments : Arguments) (w : World) :
    Prop where
  /-- It fails if it comes with arguments or no connection is there for the asking, and only
  then. -/
  fails_iff : (∃ e, (Method.call (asked.call a arguments) w).1 = .error e) ↔
    ¬ (arguments = ⟨[], []⟩ ∧ asked.Granted a w)
  /-- Then it has left no trace. -/
  untraced : ∀ e v, Method.call (asked.call a arguments) w = (.error e, v) → w.Untraced v

theorem failed_connect_untraced (asked : Asked) (a : Bool) (arguments : Arguments) (w : World) :
    asked.FailsUntraced a arguments w := by
  have hcall := asked.call_outcome a arguments w
  have hact := asked.act_outcome a w
  constructor
  case fails_iff =>
    obtain ⟨hnone, hreply⟩ | ⟨hrefused, e, herror⟩ := hcall
    · rw [hreply]
      obtain ⟨granted, k, hk⟩ | ⟨refused, e, v, he, -⟩ := hact
      · simp [hk, hnone, granted, Except.map]
      · simp [he, refused, Except.map]
    · rw [herror]
      exact ⟨fun _ => hrefused, fun _ => ⟨e, rfl⟩⟩
  case untraced =>
    intro e v h
    obtain ⟨hnone, hreply⟩ | ⟨hrefused, e', herror⟩ := hcall
    · rw [hreply] at h
      obtain ⟨granted, k, hk⟩ | ⟨refused, e', v', he, attempted⟩ := hact
      · rw [hk] at h
        cases h
      · rw [he] at h
        cases h
        exact attempted.untraced
    · rw [herror] at h
      cases h
      exact World.Attempted.untraced (.nothing w)

/-- A deployment shares connections, and the class of its client does not know an additional
keyword. It is reported that TLS cannot be started. -/
def World.clashing : World :=
  { World.initial .empty ClassPath.modules { (default : Conducts) with
      calls := fun k =>
        if k = 0 then some (.raised "TypeError"
          "AbstractConnection.__init__() got an unexpected keyword argument 'colour'")
        else none } with
    clients := Store.empty.add (.fresh
      (.single ⟨1, { Uri.standard (.text "h") (.int 6379) with startTls := .bool true }⟩)
      (.options ⟨2, { Options.standard with additional := [("colour", .text "red")] }⟩)
      (.resources ⟨3, .standard⟩))
    deployments := Store.empty.add { (default : Deployment) with client := some 0 } }

theorem failed_connect_untraced_clashing :
    ∃ v, Method.call ((Asked.deployment 0).call false ⟨[], []⟩) .clashing =
        (.error (.raised "TypeError"
          "AbstractConnection.__init__() got an unexpected keyword argument 'colour'"), v) ∧
      v.log = [⟨.warning, .clients,
        "STARTTLS is not supported by redis-py; ignoring it for redis://h:6379/0"⟩] ∧
      v.called = 1 ∧ World.clashing.Untraced v :=
  ⟨_, rfl, rfl, rfl, (failed_connect_untraced (.deployment 0) false ⟨[], []⟩ .clashing).untraced
    _ _ rfl⟩

end RedisLink
