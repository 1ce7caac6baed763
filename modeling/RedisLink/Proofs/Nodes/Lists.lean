/-
RedisLink.Proofs.Nodes.Lists — the nodes that a topology lists.

A master under sentinels and a cluster are both known by nodes (`NodeHolder`),
and both list the nodes that they have accepted since they were made or last
reset, without repetition, or those of a variable if there are none.
`NodeHolder.Accepted` says of a history which nodes have been accepted, with one
rule for each kind of moment: a refused addition and everything that is not
about the nodes of this topology leave them as they are.

The setting of a topology is a function of the nodes it has accepted, repeated
ones included (`NodeSetting.ofAccepted`), because adding a node to first
occurrences gives first occurrences. So one equation for each moment carries
through a run (`NodeHolder.run_accepted`), and what is read is looked up in that
setting at the end (`NodeHolder.Listed`).
-/
import RedisLink.Proofs.Lifecycle.Moves
import RedisLink.Proofs.Nodes.Text
import RedisLink.Proofs.Topologies.Settings
import RedisLink.Session

namespace RedisLink

/-! ## 1. Nodes that are given -/

namespace Node

/-- A value gives a node: the node by itself, or a text that writes it. -/
inductive Given : Value → Node → Prop
  | node (n : Node) : Given n.toValue n
  | text {s : String} {n : Node} (written : Written s.toList n) : Given (.text s) n

/-- Two arguments name a node: the node by itself, whatever the second is, or its host and port. -/
inductive Named : Value → Value → Node → Prop
  | node (n : Node) (port : Value) : Named n.toValue port n
  | parts (n : Node) (host : ∀ other port, n.host ≠ .node other port) :
      Named n.host (.int n.port) n

theorem make_eq_ok_iff {host port : Value} {n : Node} :
    make host port = .ok n ↔ host = n.host ∧ port = .int n.port := by
  constructor
  · intro h
    obtain ⟨hhost, hport⟩ := make_eq_ok h
    exact ⟨hhost.symm, hport⟩
  · rintro ⟨rfl, rfl⟩
    exact make_toValue n

theorem ofValue_eq_ok_iff {v : Value} {n : Node} : ofValue v = .ok n ↔ Given v n := by
  constructor
  · intro h
    unfold ofValue at h
    split at h
    · obtain ⟨rfl, hport⟩ := make_eq_ok_iff.mp h
      obtain rfl : _ = n.port := by simpa using hport
      exact .node n
    · exact .text (parse_eq_ok_iff.mp h)
    · cases h
  · rintro (n | hwritten)
    · exact make_toValue n
    · exact parse_eq_ok_iff.mpr hwritten

theorem ofArguments_eq_ok_iff {host port : Value} {n : Node} :
    ofArguments host port = .ok n ↔ Named host port n := by
  constructor
  · intro h
    unfold ofArguments at h
    split at h
    · obtain ⟨rfl, hport⟩ := make_eq_ok_iff.mp h
      obtain rfl : _ = n.port := by simpa using hport
      exact .node n port
    · rename_i hnode
      obtain ⟨rfl, rfl⟩ := make_eq_ok_iff.mp h
      exact .parts n hnode
  · rintro (⟨n, port⟩ | ⟨n, hnode⟩)
    · exact make_toValue n
    · unfold ofArguments
      split
      · rename_i other k heq
        exact absurd heq (hnode other k)
      · exact make_toValue n

theorem ofArguments_error {host port : Value} {e : Failure}
    (h : ofArguments host port = .error e) : e.category = .badValue := by
  unfold ofArguments at h
  split at h <;> exact make_error h

end Node

namespace NodeSetting

/-- The setting of a topology that has accepted nodes, some of them perhaps more than once. -/
def ofAccepted (accepted : List Node) : NodeSetting :=
  if accepted = [] then unset else ⟨some (Node.distinct accepted)⟩

theorem add_ofAccepted (accepted : List Node) (n : Node) :
    (ofAccepted accepted).add n = ofAccepted (accepted ++ [n]) := by
  simp only [ofAccepted, List.append_eq_nil_iff, List.cons_ne_nil, and_false, if_false,
    Node.distinct_append_singleton, add]
  split
  · rename_i hnone
    rw [hnone]
    rfl
  · rfl

/-- All items that a topology is made with have to give nodes. -/
theorem ofItems_eq_ok {values : Value} {setting : NodeSetting} (h : ofItems values = .ok setting) :
    ∃ items begun, values.items = .ok items ∧ List.Forall₂ Node.Given items begun ∧
      setting = ofAccepted begun := by
  unfold ofItems at h
  cases hitems : values.items with
  | error e =>
    rw [hitems] at h
    cases h
  | ok items =>
    rw [hitems] at h
    cases items with
    | nil =>
      cases h
      exact ⟨[], [], rfl, .nil, rfl⟩
    | cons v rest =>
      simp only at h
      split at h
      · cases h
      · rename_i nodes hread
        cases h
        obtain ⟨begun, hgiven, rfl⟩ := Node.readInto_eq_ok_iff.mp hread
        simp only [Node.ofValue_eq_ok_iff] at hgiven
        have hsome : begun ≠ [] := by
          rintro rfl
          cases hgiven
        exact ⟨v :: rest, begun, rfl, hgiven, by rw [ofAccepted, if_neg hsome]; rfl⟩

end NodeSetting

/-! ## 2. Topologies that are known by nodes -/

/-- A topology that is known by nodes. -/
inductive NodeHolder
  | sentinels (k : Nat)
  | cluster (k : Nat)

namespace NodeHolder

/-- The topology itself. -/
def ref : NodeHolder → TopologyRef
  | sentinels k => .sentinels k
  | cluster k => .cluster k

/-- What kind of object it is. -/
def kind : NodeHolder → ObjectKind
  | sentinels _ => .sentinels
  | cluster _ => .cluster

/-- The place of the nodes among the parameters that it is made with. -/
def place : NodeHolder → Nat
  | sentinels _ => 1
  | cluster _ => 0

/-- The attribute that its nodes are read from. -/
def nodesName : NodeHolder → String
  | sentinels _ => "sentinels"
  | cluster _ => "cluster_nodes"

/-- The method that adds a node. -/
def method : NodeHolder → String
  | sentinels _ => "sentinel"
  | cluster _ => "cluster_node"

/-- The variable that names nodes until some have been given. -/
def variableName : NodeHolder → String
  | sentinels _ => Sentinels.environmentName
  | cluster _ => Cluster.environmentName

/-- What has been set of its nodes. -/
def setting (w : World) : NodeHolder → NodeSetting
  | sentinels k => (w.sentinels.get k).nodes
  | cluster k => (w.clusters.get k).nodes

/-- What its attribute reads as. -/
def read (x : NodeHolder) (w : World) : Except Failure Item :=
  Attribute.read w (.topology x.ref) x.nodesName

/-- The text of its variable. -/
def variableText (x : NodeHolder) (env : Environment) : String := (env.get? x.variableName).getD ""

variable {x : NodeHolder} {w v : World}

theorem read_eq (x : NodeHolder) (w : World) :
    x.read w = Attribute.ofNodes ((x.setting w).readIn w.env x.variableName) := by
  cases x <;> rfl

/-! ## 3. Making a topology -/

/-- The nodes that a topology is made with, one for each item that is given for them. -/
def Begun (x : NodeHolder) (arguments : Arguments) (w : World) (begun : List Node) : Prop :=
  ∃ parameters items, x.kind.signature.bind arguments = .ok parameters ∧
    ((parameters.getD x.place Item.null).toValue w).items = .ok items ∧
    List.Forall₂ Node.Given items begun

/-- The nodes that have been set in a new topology come from the value in their place. -/
theorem ofItems_of_madeWith {values : List Value} (made : x.ref.MadeWith v values) :
    ∃ given, values[x.place]? = some given ∧ NodeSetting.ofItems given = .ok (x.setting v) := by
  cases x with
  | sentinels k =>
    cases made with
    | sentinels makes =>
      obtain ⟨c, nodes, -, hnodes, hs⟩ := Sentinels.make_eq_ok_iff.mp makes
      refine ⟨_, rfl, ?_⟩
      rw [setting, hs]
      exact hnodes
  | cluster k =>
    cases made with
    | cluster makes =>
      obtain ⟨c, nodes, -, hnodes, hs⟩ := Cluster.make_eq_ok_iff.mp makes
      refine ⟨_, rfl, ?_⟩
      rw [setting, hs]
      exact hnodes

theorem ofItems_of_new {arguments : Arguments}
    (made : Construct.new x.kind arguments w = (.ok (.topology x.ref), v)) :
    ∃ parameters, x.kind.signature.bind arguments = .ok parameters ∧
      NodeSetting.ofItems ((parameters.getD x.place Item.null).toValue w) = .ok (x.setting v) := by
  have hkind : x.ref.kind = x.kind := by cases x <;> rfl
  rw [← hkind] at made ⊢
  obtain ⟨-, parameters, hbind, hmade⟩ := Construct.madeWith_of_new made
  obtain ⟨given, hplace, hset⟩ := ofItems_of_madeWith hmade
  rw [Item.toValues_eq_map, List.getElem?_map] at hplace
  obtain ⟨item, hitem, rfl⟩ := Option.map_eq_some_iff.mp hplace
  refine ⟨parameters, hbind, ?_⟩
  rw [List.getD_eq_getElem?_getD, hitem]
  exact hset

/-- A topology is made with the nodes that it is given. -/
theorem setting_of_new {arguments : Arguments}
    (made : Construct.new x.kind arguments w = (.ok (.topology x.ref), v)) :
    ∃ begun, x.Begun arguments w begun ∧ x.setting v = .ofAccepted begun := by
  obtain ⟨parameters, hbind, hset⟩ := ofItems_of_new made
  obtain ⟨items, begun, hitems, hgiven, heq⟩ := NodeSetting.ofItems_eq_ok hset
  exact ⟨begun, ⟨parameters, items, hbind, hitems, hgiven⟩, heq⟩

/-! ## 4. Histories -/

/-- A moment is about the nodes of a topology. -/
def Concerns (x : NodeHolder) (m : Deployment.Moment) : Prop :=
  (∃ host port, m.operation = .call (.change (.addNode x.ref host port))) ∨
    m.operation = .call (.change (.resetTopology x.ref))

/-- The nodes that a history has accepted since the last reset, or since the beginning. -/
inductive Accepted (x : NodeHolder) (begun : List Node) : Deployment.History → List Node → Prop
  | begun : Accepted x begun [] begun
  | added {h : Deployment.History} {nodes : List Node} {m : Deployment.Moment} {host port : Value}
      {n : Node} (before : Accepted x begun h nodes)
      (operation : m.operation = .call (.change (.addNode x.ref host port)))
      (named : Node.Named host port n) (answer : m.answer = .ok none) :
      Accepted x begun (h ++ [m]) (nodes ++ [n])
  | refused {h : Deployment.History} {nodes : List Node} {m : Deployment.Moment}
      {host port : Value} {e : Failure} (before : Accepted x begun h nodes)
      (operation : m.operation = .call (.change (.addNode x.ref host port)))
      (unnamed : ∀ n, ¬ Node.Named host port n) (answer : m.answer = .error e)
      (kind : e.category = .badValue) (same : m.after = m.before) :
      Accepted x begun (h ++ [m]) nodes
  | reset {h : Deployment.History} {nodes : List Node} {m : Deployment.Moment}
      (before : Accepted x begun h nodes)
      (operation : m.operation = .call (.change (.resetTopology x.ref)))
      (answer : m.answer = .ok none) : Accepted x begun (h ++ [m]) []
  | other {h : Deployment.History} {nodes : List Node} {m : Deployment.Moment}
      (before : Accepted x begun h nodes) (unconcerned : ¬ x.Concerns m) :
      Accepted x begun (h ++ [m]) nodes

/-- No edit touches the nodes of a topology. -/
theorem setting_edit (edit : w.Edit false v) (x : NodeHolder) : x.setting v = x.setting w := by
  cases edit with
  | sentinels k s nodes =>
    cases x with
    | sentinels j => exact Store.get_set_of_eq Sentinels.nodes (nodes rfl) j
    | cluster j => rfl
  | cluster k c nodes =>
    cases x with
    | sentinels j => rfl
    | cluster j => exact Store.get_set_of_eq Cluster.nodes (nodes rfl) j
  | _ => cases x <;> rfl

theorem setting_configuration (same : w.SameConfiguration v) (x : NodeHolder) :
    x.setting v = x.setting w := by
  cases x with
  | sentinels k => rw [setting, setting, same.sentinels]
  | cluster k => rw [setting, setting, same.clusters]

theorem setting_set_sentinels {j : Nat} {s : Sentinels} (other : TopologyRef.sentinels j ≠ x.ref) :
    x.setting { w with sentinels := w.sentinels.set j s } = x.setting w := by
  cases x with
  | sentinels k =>
    have hk : k ≠ j := fun h => other (congrArg TopologyRef.sentinels h.symm)
    simp only [setting, Store.get_set_of_ne _ _ hk]
  | cluster k => rfl

theorem setting_set_cluster {j : Nat} {c : Cluster} (other : TopologyRef.cluster j ≠ x.ref) :
    x.setting { w with clusters := w.clusters.set j c } = x.setting w := by
  cases x with
  | sentinels k => rfl
  | cluster k =>
    have hk : k ≠ j := fun h => other (congrArg TopologyRef.cluster h.symm)
    simp only [setting, Store.get_set_of_ne _ _ hk]

theorem setting_reset_other {ref : TopologyRef} (other : ref ≠ x.ref) (w : World) :
    x.setting (Method.resetTopology ref w).2 = x.setting w := by
  cases ref with
  | sentinels j => exact setting_set_sentinels other
  | cluster j => exact setting_set_cluster other
  | _ => cases x <;> rfl

theorem setting_reset_self (x : NodeHolder) (w : World) :
    x.setting (Method.resetTopology x.ref w).2 = .unset := by
  cases x with
  | sentinels k => exact congrArg Sentinels.nodes (Store.get_set_self w.sentinels k .unset)
  | cluster k => exact congrArg Cluster.nodes (Store.get_set_self w.clusters k .unset)

theorem setting_addNode_other {ref : TopologyRef} (other : ref ≠ x.ref) (host port : Value)
    (w : World) : x.setting (Method.addNode ref host port w).2 = x.setting w := by
  unfold Method.addNode
  split
  · split
    · exact setting_set_sentinels other
    · rfl
  · split
    · exact setting_set_cluster other
    · rfl
  · rfl

/-- A node that is named is added. -/
theorem addNode_of_named {host port : Value} {n : Node} (named : Node.Named host port n)
    (x : NodeHolder) (w : World) : ∃ v, Method.addNode x.ref host port w = (.ok (), v) ∧
      x.setting v = (x.setting w).add n := by
  have hnode := Node.ofArguments_eq_ok_iff.mpr named
  cases x with
  | sentinels k =>
    simp only [Method.addNode, ref, Sentinels.addSentinel, hnode]
    exact ⟨_, rfl, congrArg Sentinels.nodes (Store.get_set_self _ _ _)⟩
  | cluster k =>
    simp only [Method.addNode, ref, Cluster.addNode, hnode]
    exact ⟨_, rfl, congrArg Cluster.nodes (Store.get_set_self _ _ _)⟩

/-- Otherwise the addition is refused, and everything is as before. -/
theorem addNode_of_unnamed {host port : Value} (unnamed : ∀ n, ¬ Node.Named host port n)
    (x : NodeHolder) (w : World) : ∃ e, Method.addNode x.ref host port w = (.error e, w) ∧
      e.category = .badValue := by
  cases hnode : Node.ofArguments host port with
  | ok n => exact absurd (Node.ofArguments_eq_ok_iff.mp hnode) (unnamed n)
  | error e =>
    refine ⟨e, ?_, Node.ofArguments_error hnode⟩
    cases x with
    | sentinels k => simp only [Method.addNode, ref, Sentinels.addSentinel, hnode]
    | cluster k => simp only [Method.addNode, ref, Cluster.addNode, hnode]

/-- What is not about the nodes of a topology leaves them. -/
theorem setting_unconcerned {n : Nat} {op : Deployment.Operation}
    (unconcerned : ¬ x.Concerns (.of n op w)) :
    x.setting (Deployment.Moment.of n op w).after = x.setting w := by
  show x.setting (op.perform n w).2 = x.setting w
  rcases op.change_cases with hop | ⟨c, rfl⟩
  · exact setting_configuration (Deployment.perform_configuration hop w) x
  · rw [Deployment.perform_change_after]
    cases hc : c.writesNodes with
    | false => exact setting_edit (hc ▸ c.make_edit w) x
    | true =>
      cases c with
      | addNode ref host port =>
        refine setting_addNode_other (fun h => unconcerned (.inl ⟨host, port, ?_⟩)) host port w
        rw [← h]
        rfl
      | resetTopology ref =>
        refine setting_reset_other (fun h => unconcerned (.inr ?_)) w
        rw [← h]
        rfl
      | _ => cases hc

/-- Each moment keeps the setting in step with what has been accepted. -/
theorem accepted_step {begun nodes : List Node} {h : Deployment.History}
    (accepted : x.Accepted begun h nodes) (hset : x.setting w = .ofAccepted nodes) (n : Nat)
    (op : Deployment.Operation) : ∃ nodes', x.Accepted begun (h ++ [.of n op w]) nodes' ∧
      x.setting (Deployment.Moment.of n op w).after = .ofAccepted nodes' := by
  by_cases hx : x.Concerns (.of n op w)
  · obtain ⟨host, port, hop⟩ | hop := hx
    · obtain rfl : op = .call (.change (.addNode x.ref host port)) := hop
      by_cases hnamed : ∃ node, Node.Named host port node
      · obtain ⟨node, hnode⟩ := hnamed
        obtain ⟨v, hadd, hv⟩ := addNode_of_named hnode x w
        have hmake : (Change.addNode x.ref host port).make w = (.ok (), v) := hadd
        rw [Deployment.Moment.of_eq (Deployment.Operation.perform_change hmake)]
        refine ⟨nodes ++ [node], .added accepted rfl hnode rfl, ?_⟩
        rw [hv, hset, NodeSetting.add_ofAccepted]
      · have hunnamed := not_exists.mp hnamed
        obtain ⟨e, hadd, he⟩ := addNode_of_unnamed hunnamed x w
        have hmake : (Change.addNode x.ref host port).make w = (.error e, w) := hadd
        rw [Deployment.Moment.of_eq (Deployment.Operation.perform_change hmake)]
        exact ⟨nodes, .refused accepted rfl hunnamed rfl he rfl, hset⟩
    · obtain rfl : op = .call (.change (.resetTopology x.ref)) := hop
      exact ⟨[], .reset accepted rfl rfl, setting_reset_self x w⟩
  · exact ⟨nodes, .other accepted hx, (setting_unconcerned hx).trans hset⟩

/-- So does a run. -/
theorem run_accepted {begun : List Node} (hset : x.setting w = .ofAccepted begun) (n : Nat)
    (ops : List Deployment.Operation) : ∃ nodes,
      x.Accepted begun (Deployment.trace n w ops) nodes ∧
        x.setting (Deployment.run n w ops) = .ofAccepted nodes := by
  refine Deployment.trace_induction
    (P := fun h v => ∃ nodes, x.Accepted begun h nodes ∧ x.setting v = .ofAccepted nodes)
    ?_ ⟨begun, .begun, hset⟩ ops
  rintro h v op ⟨nodes, accepted, hv⟩
  exact accepted_step accepted hv n op

/-! ## 5. What is read -/

/-- Nodes as an attribute gives them. -/
def listed (nodes : List Node) : Item := .value (.list (nodes.map Node.toValue))

/-- A value is a node with a host that is not empty and a port in range. -/
inductive IsEndpoint : Value → Prop
  | node {host : Value} {port : Nat} (present : host.truthy = true) (low : 1 ≤ port)
      (high : port ≤ 65535) : IsEndpoint (.node host port)

/-- The parameters of the method that adds a node. -/
def parameters : List Parameter := [Signature.required "host", Signature.nullable "port"]

/-- What a topology that has accepted nodes has to say about them in a world. -/
structure Listed (x : NodeHolder) (accepted : List Node) (w : World) : Prop where
  /-- It lists the first occurrences of the nodes that it has accepted. -/
  explicit : accepted ≠ [] →
    ∃ nodes, Node.FirstOccurrences accepted nodes ∧ x.read w = .ok (listed nodes)
  /-- If there are none, it lists the nodes that its variable writes. -/
  left : accepted = [] →
    (∀ part ∈ Node.listParts (x.variableText w.env), ∃ n, Node.Written part n) →
      ∃ nodes, Node.ListWritten (x.variableText w.env) nodes ∧ x.read w = .ok (listed nodes)
  /-- If a part of that writes no node, there is nothing to list. -/
  malformed : accepted = [] →
    (∃ part ∈ Node.listParts (x.variableText w.env), ∀ n, ¬ Node.Written part n) →
      ∃ e, x.read w = .error e ∧ e.category = .badValue
  /-- What is listed are endpoints, no two of them equal. -/
  endpoints : ∀ item, x.read w = .ok item → ∃ values, item = .value (.list values) ∧
    (∀ v ∈ values, IsEndpoint v) ∧ values.Pairwise fun u v => u.equals v = false
  /-- Whatever a session makes of lists that it has read, it reads the same again; and asking
  changes nothing. -/
  own : ∀ (names : Names) (name : String), Session.find names name = .ok (.topology x.ref) →
    Session.perform names (.read name x.nodesName) w = ((x.read w).map .item, w)
  /-- A call of the method that adds a node is an addition, and changes nothing if its arguments
  cannot be bound. -/
  called : ∀ c : Method.Call, c.receiver = .topology x.ref → c.method = x.method →
    (∀ host port, c.values w parameters = .ok [host, port] →
      Method.call c w = (Change.addNode x.ref host port).make.map (fun _ => Reply.itself) w) ∧
    ∀ e, c.values w parameters = .error e → Method.call c w = (.error e, w)
  /-- So is a call of the method that resets. -/
  emptied : ∀ c : Method.Call, c.receiver = .topology x.ref → c.method = "reset" →
    (∀ items, c.bind w [] = .ok items →
      Method.call c w = (Change.resetTopology x.ref).make.map (fun _ => Method.nothing) w) ∧
    ∀ e, c.bind w [] = .error e → Method.call c w = (.error e, w)

theorem isEndpoint_toValue (n : Node) : IsEndpoint n.toValue :=
  .node n.host_present n.port_valid.1 (Nat.le_of_lt_succ n.port_valid.2)

theorem equals_toValue (m n : Node) : m.toValue.equals n.toValue = m.same n := by
  simp [Node.toValue, Value.equals, Node.same, beq_eq_decide]

/-- What is read are first occurrences, wherever they come from. -/
theorem firstOccurrences_of_readIn {accepted nodes : List Node} {env : Environment} {name : String}
    (h : (NodeSetting.ofAccepted accepted).readIn env name = .ok nodes) :
    ∃ all, Node.FirstOccurrences all nodes := by
  by_cases hnone : accepted = []
  · subst hnone
    obtain ⟨written, -, hfirst⟩ := Node.listWritten_of_ofListText h
    exact ⟨written, hfirst⟩
  · rw [NodeSetting.ofAccepted, if_neg hnone] at h
    cases h
    exact ⟨accepted, Node.firstOccurrences_distinct accepted⟩

theorem call_eq {c : Method.Call} (receiver : c.receiver = .topology x.ref)
    (method : c.method = x.method) (w : World) :
    Method.call c w = (do
      match ← Act.ofExcept (c.values w parameters) with
      | [host, port] =>
        Method.addNode x.ref host port
        return Reply.itself
      | _ => return Method.nothing) w := by
  obtain ⟨receiver, method, arguments⟩ := c
  subst receiver method
  cases x <;> rfl

theorem listed_of_setting {accepted : List Node} (hset : x.setting w = .ofAccepted accepted) :
    x.Listed accepted w := by
  have hread : x.read w = Attribute.ofNodes
      ((NodeSetting.ofAccepted accepted).readIn w.env x.variableName) := by rw [read_eq, hset]
  constructor
  case explicit =>
    intro hsome
    rw [NodeSetting.ofAccepted, if_neg hsome] at hread
    exact ⟨_, Node.firstOccurrences_distinct accepted, hread⟩
  case left =>
    rintro rfl hparts
    replace hread : x.read w = Attribute.ofNodes (Node.ofListText (x.variableText w.env)) := hread
    cases htext : Node.ofListText (x.variableText w.env) with
    | ok nodes =>
      rw [htext] at hread
      exact ⟨nodes, Node.listWritten_of_ofListText htext, hread⟩
    | error e =>
      obtain ⟨part, hpart, hnone⟩ := Node.ofListText_error_iff.mp ⟨e, htext⟩
      obtain ⟨n, hn⟩ := hparts part hpart
      exact absurd hn (hnone n)
  case malformed =>
    rintro rfl hpart
    replace hread : x.read w = Attribute.ofNodes (Node.ofListText (x.variableText w.env)) := hread
    obtain ⟨e, he⟩ := Node.ofListText_error_iff.mpr hpart
    rw [he] at hread
    exact ⟨e, hread, Node.ofListText_error he⟩
  case endpoints =>
    intro item hitem
    rw [hread] at hitem
    cases hnodes : (NodeSetting.ofAccepted accepted).readIn w.env x.variableName with
    | error e =>
      rw [hnodes] at hitem
      cases hitem
    | ok nodes =>
      rw [hnodes] at hitem
      cases hitem
      obtain ⟨all, hfirst⟩ := firstOccurrences_of_readIn hnodes
      refine ⟨nodes.map Node.toValue, rfl, ?_, ?_⟩
      · simp only [List.forall_mem_map]
        exact fun n _ => isEndpoint_toValue n
      · simp only [List.pairwise_map, equals_toValue]
        exact hfirst.pairwise
  case own =>
    intro names name hname
    simp only [Session.perform, bind, Act.andThen, Act.world, Act.ofExcept, hname]
    rw [← read]
    cases x.read w <;> rfl
  case called =>
    intro c receiver method
    rw [call_eq receiver method]
    constructor
    · intro host port hvalues
      simp only [hvalues, Act.ofExcept, bind, Act.andThen, Act.map, Change.make]
      rfl
    · intro e hvalues
      simp only [hvalues, Act.ofExcept, bind, Act.andThen]
  case emptied =>
    rintro ⟨receiver, method, arguments⟩ rfl rfl
    constructor
    · intro items hitems
      simp only [Method.call, Method.onTopology, bind, Act.andThen, Act.world, Act.ofExcept,
        if_true, hitems]
      rfl
    · intro e hitems
      simp only [Method.call, Method.onTopology, bind, Act.andThen, Act.world, Act.ofExcept,
        if_true, hitems]

/-- A topology lists the nodes that it has accepted since it was made or reset, without repetition,
or those that its variable writes; whatever is done in between. -/
theorem nodes_listed {arguments : Arguments}
    (made : Construct.new x.kind arguments w = (.ok (.topology x.ref), v)) (n : Nat)
    (ops : List Deployment.Operation) : ∃ begun, x.Begun arguments w begun ∧
      ∃ accepted, x.Accepted begun (Deployment.trace n v ops) accepted ∧
        x.Listed accepted (Deployment.run n v ops) := by
  obtain ⟨begun, hbegun, hset⟩ := setting_of_new made
  obtain ⟨accepted, haccepted, hend⟩ := run_accepted hset n ops
  exact ⟨begun, hbegun, accepted, haccepted, listed_of_setting hend⟩

/-- Nodes that a cluster is made with, one of them twice. -/
def threeTexts : Arguments :=
  ⟨[.value (.list [.text "a:7000", .text " b:+7_001", .text "a:07000"])], []⟩

/-- The world in which the cluster has just been made. -/
def madeOfTexts : World :=
  (Construct.new .cluster threeTexts (.initial .empty ClassPath.modules default)).2

theorem nodes_listed_threeTexts :
    Construct.new .cluster threeTexts (.initial .empty ClassPath.modules default) =
        (.ok (.topology (.cluster 0)), madeOfTexts) ∧
      ∃ begun, (cluster 0).Begun threeTexts (.initial .empty ClassPath.modules default) begun ∧
        ∃ accepted, (cluster 0).Accepted begun (Deployment.trace 0 madeOfTexts
            [.call (.change (.addNode (.cluster 0) (.text "c") (.int 0)))]) accepted ∧
          (cluster 0).Listed accepted (Deployment.run 0 madeOfTexts
            [.call (.change (.addNode (.cluster 0) (.text "c") (.int 0)))]) :=
  ⟨rfl, nodes_listed (x := cluster 0) rfl 0 _⟩

end NodeHolder

end RedisLink
