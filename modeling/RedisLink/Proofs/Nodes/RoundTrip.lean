/-
RedisLink.Proofs.Nodes.RoundTrip — sequences of nodes through a variable and
back.

A variable that is set to the texts of nodes with commas between them reads as
these nodes again. Two things about hosts are needed for it (`Node.Plain`): a
comma would cut the text of a node in two, and a blank at the beginning would be
taken off. A blank at the end of a host stays, because the colon and the port
stand behind it, and so do colons inside, because the last one counts.

Nodes that come from a variable are plain, and no two of them are equal. So they
can be written into a variable as they are, whatever the text was that they had
been read from.
-/
import RedisLink.Proofs.Nodes.Lists

namespace RedisLink

open RedisLink.Number RedisLink.Text

namespace Node

/-! ## 1. One node -/

/-- A node whose text can stand between commas: its host is a text without a comma, and no blank
comes first. -/
def Plain (n : Node) : Prop :=
  ∃ host : String, n.host = .text host ∧ ',' ∉ host.toList ∧ ∀ c ∈ host.toList.head?,
    isBlank c = false

/-- A node that can be read from its text: its host is a text, and no blank comes first. -/
def Legible (n : Node) : Prop :=
  ∃ host : String, n.host = .text host ∧ ∀ c ∈ host.toList.head?, isBlank c = false

variable {n : Node} {host : String}

theorem Plain.legible (plain : n.Plain) : n.Legible := by
  obtain ⟨host, htext, -, hblank⟩ := plain
  exact ⟨host, htext, hblank⟩

theorem text_toList (text : n.host = .text host) :
    n.text.toList = host.toList ++ ':' :: Nat.toDigits 10 n.port := by
  simp [Node.text, text, Value.asText]

theorem host_ne_nil (text : n.host = .text host) : host.toList ≠ [] := by
  have hpresent := n.host_present
  rw [text] at hpresent
  simpa [Value.truthy] using hpresent

/-- The port of a node has five digits at most. -/
theorem length_port_le (n : Node) : (Nat.toDigits 10 n.port).length ≤ digitLimit := by
  have hdigits : (Nat.toDigits 10 n.port).length ≤ 5 :=
    (Nat.length_toDigits_le_iff (by decide) (by decide)).mpr (by have := n.port_valid.2; omega)
  exact Nat.le_trans hdigits (by decide)

theorem isDigit_of_mem_port {c : Char} (h : c ∈ Nat.toDigits 10 n.port) : c.isDigit = true :=
  Nat.isDigit_of_mem_toDigits (by decide) (by decide) h

/-- There are no blanks at the ends of the text of a legible node. -/
theorem trim_text (legible : n.Legible) : trim n.text.toList = n.text.toList := by
  obtain ⟨host, htext, hblank⟩ := legible
  rw [text_toList htext]
  refine trimBy_of_ends ?_ ?_
  · rwa [List.head?_append_of_ne_nil _ (host_ne_nil htext)]
  · intro c hc
    rw [List.getLast?_append_of_ne_nil _ (List.cons_ne_nil _ _),
      List.getLast?_cons_of_ne_nil Nat.toDigits_ne_nil] at hc
    exact isBlank_of_isDigit (isDigit_of_mem_port (List.mem_of_getLast? hc))

/-- The text of a legible node writes it. -/
theorem written_text (legible : n.Legible) : Written n.text.toList n := by
  have htrim := trim_text legible
  obtain ⟨host, htext, -⟩ := legible
  refine ⟨host.toList, Nat.toDigits 10 n.port, ?_, ?_, ?_, integerText_toDigits (length_port_le n)⟩
  · rw [htrim, text_toList htext]
  · exact fun hcolon => absurd (isDigit_of_mem_port hcolon) (by decide)
  · rw [htext, String.ofList_toList]

/-- Whatever text writes a node, the node is legible. -/
theorem legible_of_written {cs : List Char} (written : Written cs n) : n.Legible := by
  obtain ⟨host, port, htrim, -, htext, -⟩ := written
  have hsome : host ≠ [] := by simpa using host_ne_nil htext
  refine ⟨String.ofList host, htext, ?_⟩
  intro c hc
  rw [String.toList_ofList] at hc
  have hhead : c ∈ (trim cs).head? := by
    rwa [htrim, List.head?_append_of_ne_nil _ hsome]
  exact head?_trimBy c hhead

theorem comma_not_mem_text (plain : n.Plain) : ',' ∉ n.text.toList := by
  obtain ⟨host, htext, hcomma, -⟩ := plain
  rw [text_toList htext, List.mem_append, List.mem_cons]
  rintro (hhost | hcolon | hdigit)
  · exact hcomma hhost
  · cases hcolon
  · exact absurd (isDigit_of_mem_port hdigit) (by decide)

/-- A node that is written in a part between commas is plain. -/
theorem plain_of_written {part : List Char} (comma : ',' ∉ part) (written : Written part n) :
    n.Plain := by
  obtain ⟨text, htext, hblank⟩ := legible_of_written written
  obtain ⟨host, port, htrim, -, hhost, -⟩ := written
  obtain rfl : text = String.ofList host := Value.text.inj (htext.symm.trans hhost)
  refine ⟨String.ofList host, htext, ?_, hblank⟩
  intro hmem
  rw [String.toList_ofList] at hmem
  have hpart : ',' ∈ trim part := htrim ▸ List.mem_append_left _ hmem
  exact comma (mem_of_mem_trimBy hpart)

/-! ## 2. Sequences of nodes -/

theorem listText_toList (nodes : List Node) :
    (listText nodes).toList = List.intercalate [','] (nodes.map fun n => n.text.toList) := by
  rw [listText, String.toList_intercalate, List.map_map]
  rfl

/-- The parts of the text of a sequence are the texts of its nodes. -/
theorem listParts_listText {nodes : List Node} (plain : ∀ n ∈ nodes, n.Plain) :
    listParts (listText nodes) = nodes.map fun n => n.text.toList := by
  cases nodes with
  | nil => rfl
  | cons first others =>
    have hparts : ∀ part ∈ (first :: others).map fun n => n.text.toList, ',' ∉ part :=
      List.forall_mem_map.mpr fun n hn => comma_not_mem_text (plain n hn)
    rw [listParts, listText_toList, cutAll_intercalate (by simp) hparts, List.filter_eq_self,
      List.forall_mem_map]
    intro n hn
    have hsome : n.text.toList ≠ [] := by
      obtain ⟨host, htext, -⟩ := plain n hn
      simp [text_toList htext]
    simpa [trim_text (plain n hn).legible] using hsome

/-- Plain nodes of which no two are equal are read from their text. -/
theorem ofListText_listText {nodes : List Node} (plain : ∀ n ∈ nodes, n.Plain)
    (different : nodes.Pairwise fun m n => m.same n = false) :
    ofListText (listText nodes) = .ok nodes := by
  refine ofListText_eq_ok_iff.mpr ⟨nodes, ?_, (distinct_of_pairwise different).symm⟩
  rw [listParts_listText plain, List.forall₂_map_left_iff, List.forall₂_same]
  exact fun n hn => written_text (plain n hn).legible

/-- All nodes that a text writes are plain. -/
theorem plain_of_ofListText {s : String} {nodes : List Node} (h : ofListText s = .ok nodes) :
    ∀ n ∈ nodes, n.Plain := by
  obtain ⟨written, hparts, hfirst⟩ := listWritten_of_ofListText h
  have hplain : List.Forall₂ (fun n part => n.Plain ∧ Written part n) written (listParts s) := by
    have hcomma : ∀ part ∈ listParts s, ',' ∉ part := fun part hpart =>
      not_mem_of_mem_cutAll (List.mem_of_mem_filter hpart)
    refine (List.Forall₂.imp ?_ ((List.forall₂_and_left _ _).mpr ⟨hcomma, hparts⟩)).flip
    exact fun part n h => ⟨plain_of_written h.1 h.2, h.2⟩
  exact fun n hn => ((List.forall₂_and_left _ _).mp hplain).1 n (hfirst.subset hn)

/-! ## 3. Through a variable -/

/-- Nodes come back as they are from a variable that is set to their text, and so they do from a
topology in which no node has been set. -/
structure ComesBack (nodes : List Node) : Prop where
  read : ∀ (env : Environment) (name : String),
    ofEnvironment (env.set name (listText nodes)) name = .ok nodes
  listed : ∀ (x : NodeHolder) (w : World), x.setting w = .unset →
    x.read ((Change.setVariable x.variableName (listText nodes)).make w).2 =
      .ok (NodeHolder.listed nodes)

theorem comesBack_of_ofListText {nodes : List Node}
    (h : ofListText (listText nodes) = .ok nodes) : ComesBack nodes := by
  have hread (env : Environment) (name : String) :
      ofEnvironment (env.set name (listText nodes)) name = .ok nodes := by
    rw [ofEnvironment, Environment.get?_set_self]
    exact h
  constructor
  case read => exact hread
  case listed =>
    intro x w hnone
    have hkept := NodeHolder.setting_edit
      ((Change.setVariable x.variableName (listText nodes)).make_edit w) x
    rw [NodeHolder.read_eq, hkept, hnone]
    exact congrArg Attribute.ofNodes (hread w.env x.variableName)

/-- The nodes that come back are the plain ones of which no two are equal, and they are those that
are read from any variable at all. -/
theorem comesBack_iff (nodes : List Node) :
    (ComesBack nodes ↔
      (∀ n ∈ nodes, n.Plain) ∧ nodes.Pairwise fun m n => m.same n = false) ∧
    (ComesBack nodes ↔ ∃ env name, ofEnvironment env name = .ok nodes) := by
  have hplain : ((∀ n ∈ nodes, n.Plain) ∧ nodes.Pairwise fun m n => m.same n = false) →
      ComesBack nodes := fun h => comesBack_of_ofListText (ofListText_listText h.1 h.2)
  have hread : (∃ env name, ofEnvironment env name = .ok nodes) →
      (∀ n ∈ nodes, n.Plain) ∧ nodes.Pairwise fun m n => m.same n = false := by
    rintro ⟨env, name, h⟩
    obtain ⟨written, -, hfirst⟩ := listWritten_of_ofListText h
    exact ⟨plain_of_ofListText h, hfirst.pairwise⟩
  have hback : ComesBack nodes → ∃ env name, ofEnvironment env name = .ok nodes := fun h =>
    ⟨_, _, h.read .empty Cluster.environmentName⟩
  exact ⟨⟨fun h => hread (hback h), hplain⟩, ⟨hback, fun h => hplain (hread h)⟩⟩

end Node

end RedisLink
