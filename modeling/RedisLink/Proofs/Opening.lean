/-
RedisLink.Proofs.Opening — what a connection is opened from, keyword by keyword.

The keywords of a connection come in four layers. A keyword has the value that
the additional keywords of the options give it, else the option of that name
that is set, else the value of the URI, else that of the resources, and no
connection has any other keyword: `Client.setting?`. `Client.Specifies` says
what else a connection is opened from: host and port of a server, all sentinels
of a master in order, all nodes of a cluster in order.

`connect_specified` proves this of every connection that any client opens.
Since the layers depend on the kind of connection in one place only, a blocking
and an asynchronous connection of one client are counterparts: their classes
differ, and the kind of their retry policies (`Blueprint.Counterparts`).

A cluster has no database, so the layers of a cluster leave out that of the URI.
The additional keywords are not looked at, and `cluster_database_iff` says that
they are the only way for a database to get to a cluster.
-/
import RedisLink.Client.Lifecycle
import RedisLink.Proofs.Keywords

namespace RedisLink

/-! ## 1. Layers -/

/-- A value unless it is `null`. -/
def Value.present? (v : Value) : Option Value := if v.isNull then none else some v

/-- The value of a keyword among the options, without the additional keywords. -/
def Options.setting? (o : Options) (key : String) : Option Value :=
  if key = "decode_responses" then some o.decodeResponses
  else if key = "socket_connect_timeout" then o.connectTimeout.present?
  else if key = "socket_keepalive" then o.keepalive.present?
  else if key = "client_name" then o.clientName.present?
  else none

/-- The value of a keyword that a URI gives, with its database or without. -/
def Uri.setting? (u : Uri) (withDatabase : Bool) (key : String) : Option Value :=
  if key = "socket_timeout" then u.socketTimeout.toOption
  else if key = "db" then if withDatabase then some u.database else none
  else if key = "password" then u.password.present?
  else if key = "ssl" then if u.ssl.truthy then some (.bool true) else none
  else if key = "ssl_cert_reqs" then
    if u.ssl.truthy then some (.text (if u.verifyPeer.truthy then "required" else "none"))
    else none
  else none

/-- The value of a keyword that resources give to connections of a kind. -/
def Resources.setting? (r : Resources) (asynchronous : Bool) (key : String) : Option Value :=
  if key = "retry" then some (.retry asynchronous r.retries r.backoff)
  else if key = "health_check_interval" then some r.healthCheck
  else none

/-- The value of a keyword among what is given as options: that of the additional keywords, else of
the options. Resources and URIs given as options have keywords of their own. -/
def Part.optionSetting? (p : Part) (key : String) : Option Value :=
  match p with
  | .options o => (o.value.additional.last? key).or (o.value.setting? key)
  | .resources r => r.value.setting? false key
  | .uri u => u.value.setting? true key
  | .value _ => none

/-- The value of a keyword that what is given as resources gives to connections of a kind. -/
def Part.resourceSetting? (p : Part) (asynchronous : Bool) (key : String) : Option Value :=
  match p with
  | .resources r => r.value.setting? asynchronous key
  | _ => none

/-- The value of a keyword of a connection of a client to a URI: that of the additional keywords,
else of the options, else of the URI, else of the resources. -/
def Client.setting? (c : Client) (uri : Uri) (asynchronous withDatabase : Bool) (key : String) :
    Option Value :=
  (c.options.optionSetting? key).or <|
    (uri.setting? withDatabase key).or (c.resources.resourceSetting? asynchronous key)

/-! ## 2. What a client specifies -/

/-- What a client opens connections from: its URIs, its options and its resources. What it has
opened so far has no part in it. -/
def Client.source (c : Client) : Aim × Part × Part :=
  (c.aim, c.options, c.resources)

/-- What a client specifies for its connections of a kind, among the modules that are installed. -/
inductive Client.Specifies (c : Client) (installed : ClassPath.Installation) (asynchronous : Bool)
    (b : Blueprint) : Prop
  /-- To a server: its host and port stand among the keywords. -/
  | direct (uri : Shared Uri) (aim : c.aim = .single uri) (plain : uri.value.isSentinel = false)
      (cls : c.options.connectionClass installed asynchronous = .ok b.cls)
      (route : b.route = .direct)
      (host : b.keywords.get? "host" = some uri.value.host)
      (port : b.keywords.get? "port" = some uri.value.port)
      (layers : ∀ key, key ≠ "host" → key ≠ "port" →
        b.keywords.get? key = c.setting? uri.value asynchronous true key)
  /-- To a master: by all sentinels in order, which are reached under the timeout alone. -/
  | sentinel (uri : Shared Uri) (nodes : List (Value × Nat)) (timeout : Value)
      (aim : c.aim = .single uri) (master : uri.value.isSentinel = true)
      (sentinels : uri.value.sentinels.items = .ok (nodes.map fun node => .node node.1 node.2))
      (limit : uri.value.socketTimeout = .ok timeout)
      (cls : c.options.connectionClass installed asynchronous = .ok b.cls)
      (route : b.route = .sentinel (if asynchronous then .asyncSentinel else .sentinel)
        (nodes.map fun node => (node.1, .int node.2)) [("socket_timeout", timeout)]
        uri.value.master)
      (layers : ∀ key, b.keywords.get? key = c.setting? uri.value asynchronous true key)
  /-- To a cluster: from all nodes in order, with what the first URI gives. -/
  | cluster (first : Shared Uri) (others : List (Shared Uri)) (aim : c.aim = .cluster first others)
      (cls : b.cls = .cls (if asynchronous then .asyncCluster else .cluster))
      (route : b.route =
        .cluster ((first :: others).map fun uri => (uri.value.host, uri.value.port)))
      (layers : ∀ key, b.keywords.get? key = c.setting? first.value asynchronous false key)

/-- The way of an asynchronous connection that goes where a blocking one goes. -/
def Route.asynchronous : Route → Route
  | .sentinel _ sentinels own master => .sentinel .asyncSentinel sentinels own master
  | route => route

/-- A blocking and an asynchronous connection are opened from the same but for their classes and
for the kind of retry policy. -/
structure Blueprint.Counterparts (blocking asynchronous : Blueprint) : Prop where
  route : asynchronous.route = blocking.route.asynchronous
  keywords : ∀ key, asynchronous.keywords.get? key = blocking.keywords.get? key ∨
    key = "retry" ∧ ∃ retries backoff,
      blocking.keywords.get? key = some (.retry false retries backoff) ∧
        asynchronous.keywords.get? key = some (.retry true retries backoff)

/-! ## 3. Each layer -/

theorem Keywords.get?_unlessNull (name : String) (value : Value) (key : String) :
    (Keywords.unlessNull name value).get? key = if key = name then value.present? else none := by
  unfold Keywords.unlessNull Value.present?
  cases value.isNull
  · simp only [Bool.false_eq_true, if_false, Keywords.get?_cons, Keywords.get?_nil]
  · simp only [if_true, Keywords.get?_nil, ite_self]

theorem Keywords.map_fst_unlessNull_sublist (name : String) (value : Value) :
    ((Keywords.unlessNull name value).map Prod.fst).Sublist [name] := by
  unfold Keywords.unlessNull
  split
  · exact List.nil_sublist _
  · exact List.Sublist.refl _

theorem Resources.get?_keywords (r : Resources) (a : Bool) (key : String) :
    (r.keywords a).get? key = r.setting? a key := by
  simp only [Resources.keywords, Keywords.get?_cons]
  rfl

theorem Resources.nodup_keywords (r : Resources) (a : Bool) :
    ((r.keywords a).map Prod.fst).Nodup := by
  simp [Resources.keywords]

theorem Options.get?_ownKeywords (o : Options) (key : String) :
    o.ownKeywords.get? key = o.setting? key := by
  simp only [Options.ownKeywords, Keywords.get?_cons, Keywords.get?_append,
    Keywords.get?_unlessNull, Options.setting?]
  by_cases h1 : key = "socket_connect_timeout"
  · subst h1; simp
  · by_cases h2 : key = "socket_keepalive"
    · subst h2; simp
    · by_cases h3 : key = "client_name" <;> simp [h1, h2, h3]

theorem Options.nodup_ownKeywords (o : Options) : (o.ownKeywords.map Prod.fst).Nodup := by
  have hsub : (o.ownKeywords.map Prod.fst).Sublist
      ["decode_responses", "socket_connect_timeout", "socket_keepalive", "client_name"] := by
    simp only [Options.ownKeywords, List.map_cons, List.map_append]
    refine List.Sublist.cons_cons _ ?_
    exact ((Keywords.map_fst_unlessNull_sublist _ _).append
      (Keywords.map_fst_unlessNull_sublist _ _)).append (Keywords.map_fst_unlessNull_sublist _ _)
  exact hsub.nodup (by decide)

/-- The options give a keyword the value that additional keywords give it, else their own. -/
theorem Options.get?_keywords (o : Options) (key : String) :
    o.keywords.get? key = (o.additional.last? key).or (o.setting? key) := by
  rw [Options.keywords, Keywords.get?_update, Options.get?_ownKeywords]
  rfl

theorem Uri.get?_tlsKeywords (u : Uri) (key : String) : u.tlsKeywords.get? key =
    if key = "ssl" then if u.ssl.truthy then some (.bool true) else none
    else if key = "ssl_cert_reqs" then
      if u.ssl.truthy then some (.text (if u.verifyPeer.truthy then "required" else "none"))
      else none
    else none := by
  unfold Uri.tlsKeywords
  cases u.ssl.truthy
  · simp [Keywords.get?_nil]
  · simp only [if_true, Keywords.get?_cons, Keywords.get?_nil]

theorem Uri.map_fst_tlsKeywords_sublist (u : Uri) :
    (u.tlsKeywords.map Prod.fst).Sublist ["ssl", "ssl_cert_reqs"] := by
  unfold Uri.tlsKeywords
  split
  · exact List.Sublist.refl _
  · exact List.nil_sublist _

/-- The keywords of a URI are distinct and form a layer, if its timeout can be read. -/
theorem Uri.keywords_layer {u : Uri} {d : Bool} {own : Keywords} (h : u.keywords d = .ok own) :
    (own.map Prod.fst).Nodup ∧ ∀ key, own.get? key = u.setting? d key := by
  unfold Uri.keywords at h
  split at h
  · cases h
  · rename_i timeout ht
    obtain rfl := Except.ok.inj h
    have hnames : ((if d then [("db", u.database)] else [] : Keywords).map Prod.fst).Sublist
        ["db"] := by
      cases d
      · exact List.nil_sublist _
      · exact List.Sublist.refl _
    constructor
    · have hsub := List.Sublist.cons_cons "socket_timeout"
        ((hnames.append (Keywords.map_fst_unlessNull_sublist "password" u.password)).append
          u.map_fst_tlsKeywords_sublist)
      rw [List.map_cons, List.map_append, List.map_append]
      exact hsub.nodup (by decide)
    · intro key
      have hdatabase : Keywords.get? (if d then [("db", u.database)] else []) key =
          if key = "db" then if d then some u.database else none else none := by
        cases d <;> simp only [Bool.false_eq_true, if_false, if_true, Keywords.get?_cons,
          Keywords.get?_nil, ite_self]
      simp only [Keywords.get?_cons, Keywords.get?_append, Keywords.get?_unlessNull,
        Uri.get?_tlsKeywords, hdatabase, Uri.setting?, ht]
      by_cases h1 : key = "socket_timeout"
      · simp [h1, Except.toOption]
      · by_cases h2 : key = "db"
        · subst h2; simp
        · by_cases h3 : key = "password" <;> simp [h1, h2, h3]

/-- What is given as options has distinct keywords that form a layer, if it has any. -/
theorem Part.optionKeywords_layer {p : Part} {keywords : Keywords}
    (h : p.optionKeywords = .ok keywords) :
    (keywords.map Prod.fst).Nodup ∧ ∀ key, keywords.get? key = p.optionSetting? key := by
  cases p with
  | options o =>
    obtain rfl := Except.ok.inj h
    exact ⟨Keywords.nodup_update (Options.nodup_ownKeywords _) _, o.value.get?_keywords⟩
  | resources r =>
    obtain rfl := Except.ok.inj h
    exact ⟨r.value.nodup_keywords false, r.value.get?_keywords false⟩
  | uri u => exact Uri.keywords_layer h
  | value v => cases h

/-- What is given as resources has distinct keywords that form a layer, if it has any. -/
theorem Part.resourceKeywords_layer {p : Part} {a : Bool} {keywords : Keywords}
    (h : p.resourceKeywords a = .ok keywords) :
    (keywords.map Prod.fst).Nodup ∧ ∀ key, keywords.get? key = p.resourceSetting? a key := by
  cases p with
  | resources r =>
    obtain rfl := Except.ok.inj h
    exact ⟨r.value.nodup_keywords a, r.value.get?_keywords a⟩
  | _ => cases h

/-! ## 4. All layers together -/

namespace Client

/-- The keywords of a connection are those of the four layers, each once. -/
theorem keywords_layers {c : Client} {u : Uri} {a d : Bool} {keywords : Keywords}
    (h : c.keywords u a d = .ok keywords) :
    (keywords.map Prod.fst).Nodup ∧ ∀ key, keywords.get? key = c.setting? u a d key := by
  unfold Client.keywords at h
  split at h
  · cases h
  · rename_i resources hresources
    split at h
    · cases h
    · rename_i own hown
      split at h
      · cases h
      · rename_i options hoptions
        obtain rfl := Except.ok.inj h
        obtain ⟨hdistinct, hresources⟩ := Part.resourceKeywords_layer hresources
        obtain ⟨hown', hown⟩ := Uri.keywords_layer hown
        obtain ⟨hoptions', hoptions⟩ := Part.optionKeywords_layer hoptions
        refine ⟨Keywords.nodup_update (Keywords.nodup_update hdistinct _) _, fun key => ?_⟩
        rw [Keywords.get?_update_of_nodup _ hoptions', Keywords.get?_update_of_nodup _ hown',
          hoptions, hown, hresources, setting?]

/-- Keywords that have not been refused hold none of the arguments that are given besides. -/
theorem not_mem_of_refuseRepeated {callee : Value} {arguments : List String} {keywords : Keywords}
    (h : refuseRepeated callee arguments keywords = .ok ()) {name : String}
    (hname : name ∈ arguments) : name ∉ keywords.map Prod.fst := by
  unfold refuseRepeated at h
  split at h
  · cases h
  · rename_i hnone
    intro hmem
    obtain ⟨entry, hentry, rfl⟩ := List.mem_map.mp hmem
    have := List.find?_eq_none.mp hnone entry hentry
    simp [hname] at this

/-- The addresses of sentinels are those of nodes, in order. -/
theorem sentinelAddresses_eq_ok {u : Uri} {addresses : List (Value × Value)}
    (h : u.sentinelAddresses = .ok addresses) : ∃ nodes : List (Value × Nat),
      u.sentinels.items = .ok (nodes.map fun node => .node node.1 node.2) ∧
        addresses = nodes.map fun node => (node.1, .int node.2) := by
  have hread : ∀ (values : List Value) (addresses : List (Value × Value)),
      values.mapM Uri.address = .ok addresses → ∃ nodes : List (Value × Nat),
        values = nodes.map (fun node => .node node.1 node.2) ∧
          addresses = nodes.map fun node => (node.1, .int node.2) := by
    intro values
    induction values with
    | nil =>
      intro addresses h
      obtain rfl := Except.ok.inj h
      exact ⟨[], rfl, rfl⟩
    | cons v rest ih =>
      intro addresses h
      cases v with
      | node host port =>
        cases hrest : rest.mapM Uri.address with
        | error e => simp [List.mapM_cons, hrest, Uri.address, bind, Except.bind] at h
        | ok others =>
          obtain ⟨nodes, rfl, rfl⟩ := ih others hrest
          simp only [List.mapM_cons, hrest, Uri.address, bind, Except.bind, pure, Except.pure,
            Except.ok.injEq] at h
          exact ⟨(host, port) :: nodes, rfl, h.symm⟩
      | _ => simp [List.mapM_cons, Uri.address, bind, Except.bind] at h
  unfold Uri.sentinelAddresses at h
  split at h
  · cases h
  · rename_i values hvalues
    obtain ⟨nodes, rfl, hnodes⟩ := hread values addresses h
    exact ⟨nodes, hvalues, hnodes⟩

/-- A plan for a single URI is as the client specifies. -/
theorem singlePlan_specified {c : Client} {uri : Shared Uri} {installed : ClassPath.Installation}
    {a : Bool} {cls : Value} {b : Blueprint} (aim : c.aim = .single uri)
    (hcls : c.options.connectionClass installed a = .ok cls)
    (h : c.singlePlan uri.value a cls = .ok b) :
    c.Specifies installed a b ∧ (b.keywords.map Prod.fst).Nodup := by
  unfold singlePlan at h
  split at h
  · cases h
  · rename_i keywords hkeywords
    obtain ⟨hdistinct, hlayers⟩ := keywords_layers hkeywords
    split at h
    · rename_i hsentinel
      unfold sentinelPlan at h
      split at h
      · cases h
      · cases h
      · rename_i addresses timeout haddresses htimeout
        split at h
        · cases h
        · obtain rfl := Except.ok.inj h
          obtain ⟨nodes, hitems, rfl⟩ := sentinelAddresses_eq_ok haddresses
          exact ⟨.sentinel uri nodes timeout aim hsentinel hitems htimeout hcls rfl hlayers,
            hdistinct⟩
    · rename_i hplain
      unfold directPlan at h
      split at h
      · cases h
      · rename_i hfree
        obtain rfl := Except.ok.inj h
        have hhost : "host" ∉ keywords.map Prod.fst :=
          not_mem_of_refuseRepeated hfree (by simp)
        have hport : "port" ∉ keywords.map Prod.fst :=
          not_mem_of_refuseRepeated hfree (by simp)
        refine ⟨.direct uri aim (by simpa using hplain) hcls rfl ?_ ?_ ?_, ?_⟩
        · simp [Keywords.get?_cons]
        · simp [Keywords.get?_cons]
        · intro key h1 h2
          rw [Keywords.get?_cons, if_neg h1, Keywords.get?_cons, if_neg h2]
          exact hlayers key
        · simp [hhost, hport, hdistinct]
      · cases h

/-- Whatever a client opens a connection from is as it specifies, each keyword once. -/
theorem plan_specified {c : Client} {installed : ClassPath.Installation} {a : Bool} {b : Blueprint}
    (h : (c.plan installed a).2 = .ok b) :
    c.Specifies installed a b ∧ (b.keywords.map Prod.fst).Nodup := by
  unfold plan at h
  split at h
  · cases h
  · rename_i uri aim
    split at h
    · cases h
    · rename_i cls hcls
      exact singlePlan_specified aim hcls h
  · rename_i first others aim
    simp only [clusterPlan] at h
    split at h
    · cases h
    · rename_i keywords hkeywords
      obtain ⟨hdistinct, hlayers⟩ := keywords_layers hkeywords
      split at h
      · cases h
      · obtain rfl := Except.ok.inj h
        refine ⟨.cluster first others aim rfl ?_ hlayers, hdistinct⟩
        simp only [List.map_map]
        rfl

/-- A connection is opened from the plan of the client. -/
theorem connect_eq_ok {n : Nat} {a : Bool} {w : World} {k : Connection}
    (h : (connect n a w).1 = .ok k) :
    ((w.clients.get n).plan w.installed a).2 = .ok k.blueprint := by
  have hconnecting := connecting n a w
  generalize connect n a w = result at h hconnecting
  cases hconnecting with
  | unplanned lines e plan => cases h
  | refused lines b e plan call => cases h
  | opened lines b plan call =>
    obtain rfl := Except.ok.inj h
    rw [plan]

/-- The layers depend on the kind of a connection only for the retry policy. -/
theorem setting?_kinds (c : Client) (u : Uri) (d : Bool) (key : String) :
    c.setting? u true d key = c.setting? u false d key ∨
      key = "retry" ∧ ∃ retries backoff,
        c.setting? u false d key = some (.retry false retries backoff) ∧
          c.setting? u true d key = some (.retry true retries backoff) := by
  by_cases h : key = "retry"
  · subst h
    -- above the resources, the kind of a connection plays no part
    simp only [setting?, ← Option.or_assoc]
    cases (c.options.optionSetting? "retry").or (u.setting? d "retry") with
    | some v => exact .inl rfl
    | none =>
      cases c.resources with
      | resources r =>
        exact .inr ⟨trivial, r.value.retries, r.value.backoff, rfl, rfl⟩
      | _ => exact .inl rfl
  · left
    cases hresources : c.resources <;>
      simp [setting?, Part.resourceSetting?, Resources.setting?, h, hresources]

theorem setting?_of_source {c d : Client} (source : d.source = c.source) (u : Uri) (a b : Bool)
    (key : String) : d.setting? u a b key = c.setting? u a b key := by
  simp only [Client.source, Prod.mk.injEq] at source
  rw [setting?, setting?, source.2.1, source.2.2]

/-- What one client specifies for a blocking and for an asynchronous connection are
counterparts. -/
theorem Specifies.counterparts {c d : Client} {i j : ClassPath.Installation} {b b' : Blueprint}
    (source : d.source = c.source) (h : c.Specifies i false b) (h' : d.Specifies j true b') :
    b.Counterparts b' := by
  have haim : d.aim = c.aim := congrArg Prod.fst source
  have hkinds : ∀ u withDatabase key,
      d.setting? u true withDatabase key = c.setting? u false withDatabase key ∨
        key = "retry" ∧ ∃ retries backoff,
          c.setting? u false withDatabase key = some (.retry false retries backoff) ∧
            d.setting? u true withDatabase key = some (.retry true retries backoff) := by
    intro u withDatabase key
    rw [setting?_of_source source]
    exact c.setting?_kinds u withDatabase key
  cases h with
  | direct uri aim plain cls route host port layers =>
    cases h' with
    | direct uri' aim' plain' cls' route' host' port' layers' =>
      obtain rfl : uri' = uri := by simpa [aim, aim'] using haim
      refine ⟨by rw [route, route']; rfl, fun key => ?_⟩
      by_cases h1 : key = "host"
      · exact .inl (by rw [h1, host, host'])
      · by_cases h2 : key = "port"
        · exact .inl (by rw [h2, port, port'])
        · rw [layers key h1 h2, layers' key h1 h2]
          exact hkinds uri'.value true key
    | sentinel uri' nodes timeout aim' master =>
      obtain rfl : uri' = uri := by simpa [aim, aim'] using haim
      exact absurd (plain.symm.trans master) Bool.false_ne_true
    | cluster first others aim' => cases aim.symm.trans (haim.symm.trans aim')
  | sentinel uri nodes timeout aim master items limit cls route layers =>
    cases h' with
    | direct uri' aim' plain =>
      obtain rfl : uri' = uri := by simpa [aim, aim'] using haim
      exact absurd (plain.symm.trans master) Bool.false_ne_true
    | sentinel uri' nodes' timeout' aim' master' items' limit' cls' route' layers' =>
      obtain rfl : uri' = uri := by simpa [aim, aim'] using haim
      obtain rfl : timeout' = timeout := by simpa using limit'.symm.trans limit
      have hnodes : nodes' = nodes := by
        refine List.map_injective_iff.mpr ?_ (Except.ok.inj (items'.symm.trans items))
        rintro ⟨host, port⟩ ⟨host', port'⟩ heq
        cases heq
        rfl
      refine ⟨by rw [route, route', hnodes]; rfl, fun key => ?_⟩
      rw [layers key, layers' key]
      exact hkinds uri'.value true key
    | cluster first others aim' => cases aim.symm.trans (haim.symm.trans aim')
  | cluster first others aim cls route layers =>
    cases h' with
    | direct uri aim' => cases aim.symm.trans (haim.symm.trans aim')
    | sentinel uri nodes timeout aim' => cases aim.symm.trans (haim.symm.trans aim')
    | cluster first' others' aim' cls' route' layers' =>
      obtain ⟨rfl, rfl⟩ : first' = first ∧ others' = others := by simpa [aim, aim'] using haim
      refine ⟨by rw [route, route']; rfl, fun key => ?_⟩
      rw [layers key, layers' key]
      exact hkinds first'.value false key

/-! ## 5. Every connection -/

/-- Every connection is opened from what its client specifies, and the connections of one client,
or of two with the same URIs, options and resources, are counterparts. -/
theorem connect_specified (n : Nat) (w : World) :
    (∀ a k, (connect n a w).1 = .ok k →
      (w.clients.get n).Specifies w.installed a k.blueprint ∧
        (k.blueprint.keywords.map Prod.fst).Nodup) ∧
    ∀ m v, (v.clients.get m).source = (w.clients.get n).source → ∀ k k',
      (connect n false w).1 = .ok k → (connect m true v).1 = .ok k' →
        k.blueprint.Counterparts k'.blueprint := by
  refine ⟨fun a k h => plan_specified (connect_eq_ok h), fun m v source k k' h h' => ?_⟩
  obtain ⟨hblocking, -⟩ := plan_specified (connect_eq_ok h)
  obtain ⟨hasync, -⟩ := plan_specified (connect_eq_ok h')
  exact hblocking.counterparts source hasync

/-- A world with a client for a master under two sentinels, whose additional keywords hide a
database and a timeout. -/
def watched : World :=
  { World.initial .empty ClassPath.modules default with
    clients := Store.empty.add (.fresh
      (.single ⟨1, { Uri.standard (.text "10.0.0.1") (.int 26379) with
        password := .text "secret", ssl := .bool true, master := .text "mymaster",
        sentinels := .tuple [.node (.text "10.0.0.1") 26379, .node (.text "10.0.0.2") 26379] }⟩)
      (.options ⟨2, { Options.standard with
        additional := [("db", .int 5), ("socket_timeout", .null)] }⟩)
      (.resources ⟨3, .standard⟩)) }

theorem connect_specified_watched : ∃ k k', (connect 0 false watched).1 = .ok k ∧
    (connect 0 true watched).1 = .ok k' ∧
      (watched.clients.get 0).Specifies watched.installed false k.blueprint ∧
        k.blueprint.Counterparts k'.blueprint :=
  ⟨_, _, rfl, rfl, ((connect_specified 0 watched).1 false _ rfl).1,
    (connect_specified 0 watched).2 0 watched rfl _ _ rfl rfl⟩

/-- The database of a connection to a cluster is the one that the additional keywords name; without
one among them there is none. -/
theorem cluster_database_iff {n : Nat} {a : Bool} {w : World} {k : Connection} {first : Shared Uri}
    {others : List (Shared Uri)} {o : Shared Options}
    (aim : (w.clients.get n).aim = .cluster first others)
    (options : (w.clients.get n).options = .options o) (h : (connect n a w).1 = .ok k) :
    ("db" ∈ k.blueprint.keywords.map Prod.fst ↔ "db" ∈ o.value.additional.map Prod.fst) ∧
      k.blueprint.keywords.get? "db" = o.value.additional.last? "db" := by
  have hvalue : k.blueprint.keywords.get? "db" = o.value.additional.last? "db" := by
    cases (plan_specified (connect_eq_ok h)).1 with
    | direct uri aim' => cases aim.symm.trans aim'
    | sentinel uri nodes timeout aim' => cases aim.symm.trans aim'
    | cluster first' others' aim' cls route layers =>
      -- below the additional keywords no layer of a cluster names a database
      rw [layers "db"]
      cases hresources : (w.clients.get n).resources <;>
        simp [setting?, options, hresources, Part.optionSetting?, Part.resourceSetting?,
          Options.setting?, Uri.setting?, Resources.setting?]
  refine ⟨?_, hvalue⟩
  rw [← Keywords.get?_isSome_iff, hvalue, Keywords.last?_isSome_iff]

/-- A world with a client for a cluster, whose additional keywords name a database. -/
def numberedCluster : World :=
  { World.initial .empty ClassPath.modules default with
    clients := Store.empty.add (.fresh
      (.cluster ⟨1, { Uri.standard (.text "10.0.0.1") (.int 7000) with database := .int 2 }⟩ [])
      (.options ⟨2, { Options.standard with additional := [("db", .int 3)] }⟩)
      (.resources ⟨3, .standard⟩)) }

theorem cluster_database_iff_numberedCluster : ∃ first others o k,
    (numberedCluster.clients.get 0).aim = .cluster first others ∧
      (numberedCluster.clients.get 0).options = .options o ∧
        (connect 0 true numberedCluster).1 = .ok k ∧
          k.blueprint.keywords.get? "db" = o.value.additional.last? "db" :=
  ⟨_, _, _, _, rfl, rfl, rfl,
    (cluster_database_iff (n := 0) (a := true) (w := numberedCluster) rfl rfl rfl).2⟩

theorem cluster_connection_with_database : ∃ first others k,
    (numberedCluster.clients.get 0).aim = .cluster first others ∧
      (connect 0 false numberedCluster).1 = .ok k ∧
        k.blueprint.keywords.get? "db" = some (.int 3) :=
  ⟨_, _, _, rfl, rfl, rfl⟩

end Client

end RedisLink
