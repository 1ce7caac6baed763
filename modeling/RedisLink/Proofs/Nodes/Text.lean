/-
RedisLink.Proofs.Nodes.Text — the texts of nodes and of sequences of nodes.

`Node.Written` is the grammar of one node: without the blanks at its ends the
text is a host, a colon and an integer in which no colon stands, so the colon is
the last one. That the host is not empty and the port in range is part of being
a node. `Node.ListWritten` is the grammar of a sequence: every part between
commas that is not blank writes a node, and the sequence is their first
occurrences.

Reading accepts just these texts (`parse_eq_ok_iff`, `ofListText_eq_ok_iff`). A
text of a sequence is refused only for a part that writes no node, as a bad
value (`ofListText_error_iff`).
-/
import Mathlib.Data.List.Forall2
import RedisLink.Proofs.Nodes.Occurrences
import RedisLink.Proofs.Numerals
import RedisLink.Proofs.Translation

namespace RedisLink.Node

open RedisLink.Number RedisLink.Text

/-! ## 1. One node -/

/-- A text writes a node. -/
inductive Written (cs : List Char) (n : Node) : Prop
  | intro (host port : List Char) (trimmed : trim cs = host ++ ':' :: port) (last : ':' ∉ port)
      (text : n.host = .text (String.ofList host)) (number : IntegerText port n.port)

/-- Reading accepts exactly the texts of nodes. -/
theorem parse_eq_ok_iff {s : String} {n : Node} : parse s = .ok n ↔ Written s.toList n := by
  constructor
  · intro h
    unfold parse at h
    split at h
    · cases h
    · rename_i host port hcut
      obtain ⟨htrim, huncut⟩ := cutLast?_eq_some hcut
      split at h
      · rename_i p hp
        obtain ⟨hhost, hport⟩ := make_eq_ok h
        cases hport
        exact ⟨host, port, htrim, huncut, hhost, readInteger_eq_ok_iff.mp hp⟩
      · cases h
  · rintro ⟨host, port, htrim, huncut, hhost, hport⟩
    unfold parse
    rw [htrim, cutLast?_append huncut]
    simp only [readInteger_eq_ok_iff.mpr hport]
    rw [← hhost]
    exact make_toValue n

/-! ## 2. Sequences of nodes -/

/-- Values are read into a sequence if each of them is a node. -/
theorem readInto_eq_ok_iff {nodes result : List Node} {values : List Value} :
    readInto nodes values = .ok result ↔
      ∃ read, List.Forall₂ (fun v n => ofValue v = .ok n) values read ∧
        result = read.foldl addTo nodes := by
  induction values generalizing nodes with
  | nil => simp [readInto, eq_comm]
  | cons v rest ih =>
    simp only [readInto, List.forall₂_cons_left_iff]
    cases hv : ofValue v with
    | error e => simp
    | ok n =>
      simp only [ih]
      constructor
      · rintro ⟨read, hread, rfl⟩
        exact ⟨n :: read, ⟨n, read, rfl, hread, rfl⟩, rfl⟩
      · rintro ⟨-, ⟨m, read, hm, hread, rfl⟩, rfl⟩
        obtain rfl := Except.ok.inj hm
        exact ⟨read, hread, rfl⟩

/-- They are not if one of them is none. -/
theorem readInto_error_iff {nodes : List Node} {values : List Value} :
    (∃ e, readInto nodes values = .error e) ↔ ∃ v ∈ values, ∀ n, ofValue v ≠ .ok n := by
  induction values generalizing nodes with
  | nil => simp [readInto]
  | cons v rest ih =>
    simp only [readInto, List.exists_mem_cons_iff]
    cases hv : ofValue v with
    | error e => simp
    | ok n => simp [ih]

/-- A text writes a sequence of nodes. -/
def ListWritten (s : String) (nodes : List Node) : Prop :=
  ∃ written, List.Forall₂ Written (listParts s) written ∧ FirstOccurrences written nodes

/-- The nodes that the parts of a text write, without repetition, are what it reads as. -/
theorem ofListText_eq_ok_iff {s : String} {nodes : List Node} : ofListText s = .ok nodes ↔
    ∃ written, List.Forall₂ Written (listParts s) written ∧ nodes = distinct written := by
  rw [ofListText, readInto_eq_ok_iff]
  simp only [List.forall₂_map_left_iff, ofValue, parse_eq_ok_iff, String.toList_ofList]
  rfl

theorem listWritten_of_ofListText {s : String} {nodes : List Node} (h : ofListText s = .ok nodes) :
    ListWritten s nodes := by
  obtain ⟨written, hparts, rfl⟩ := ofListText_eq_ok_iff.mp h
  exact ⟨written, hparts, firstOccurrences_distinct written⟩

/-- Only a part that writes no node makes a text unreadable. -/
theorem ofListText_error_iff {s : String} : (∃ e, ofListText s = .error e) ↔
    ∃ part ∈ listParts s, ∀ n, ¬ Written part n := by
  rw [ofListText, readInto_error_iff]
  simp only [List.mem_map, exists_exists_and_eq_and, ofValue, ne_eq, parse_eq_ok_iff,
    String.toList_ofList]

theorem ofListText_error {s : String} {e : Failure} (h : ofListText s = .error e) :
    e.category = .badValue :=
  readInto_texts_error String.ofList h

end RedisLink.Node
