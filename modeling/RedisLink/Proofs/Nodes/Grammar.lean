/-
RedisLink.Proofs.Nodes.Grammar — which texts are nodes, and why others are none.

Without the blanks at its ends, the text of a node is a host, a colon and a port.
The port is an integer in which no colon stands, so the host may hold colons. A
text that is no node is refused for the first of four reasons (`Node.Refused`):
there is no colon, what stands behind the last one is no integer, nothing stands
before it, or the integer is out of range. These are the only outcomes, and every
refusal is a bad value.

A node that has been read is read again from its own text. Of the nodes that are
made from a host and a port, those come back whose host is a text that no blank
begins (`Node.parse_text_iff`): a blank would be taken off, and what is no text
comes back as one.
-/
import RedisLink.Proofs.Nodes.RoundTrip
import RedisLink.Session.Construct

namespace RedisLink.Node

open RedisLink.Number RedisLink.Text

/-! ## 1. The grammar -/

/-- A text comes apart at its last colon. -/
structure CutAt (s : String) (host port : List Char) : Prop where
  trimmed : trim s.toList = host ++ ':' :: port
  last : ':' ∉ port

/-- Why a text is no node. -/
inductive Refused (s : String) : Failure → Prop
  | uncut (colon : ':' ∉ trim s.toList) : Refused s (.nodeWithoutPort s)
  | unreadable {host port : List Char} (cut : CutAt s host port)
      (port : ∀ k, ¬ IntegerText port k) : Refused s (.nodePortUnreadable s)
  | hostless {port : List Char} {k : Int} (cut : CutAt s [] port) (number : IntegerText port k) :
      Refused s .emptyHost
  | outOfRange {host port : List Char} {k : Int} (cut : CutAt s host port) (present : host ≠ [])
      (number : IntegerText port k) (outside : ¬ (0 < k ∧ k < 65536)) :
      Refused s (.portOutOfRange k)

/-- What there is to say about a text that is read as a node. -/
structure Parsed (s : String) : Prop where
  /-- It is read as the node of a host and a port if it is in the grammar, and only then. -/
  accepted : ∀ host port, (∃ n, parse s = .ok n ∧ n.host = host ∧ n.port = port) ↔
    ∃ before after, CutAt s before after ∧ host = .text (String.ofList before) ∧ before ≠ [] ∧
      IntegerText after port ∧ 0 < port ∧ port < 65536
  refused : ∀ e, parse s = .error e ↔ Refused s e
  badValue : ∀ e, Refused s e → e.category = .badValue
  /-- The node that it is read as is read again from its own text. -/
  again : ∀ n, parse s = .ok n → parse n.text = .ok n
  /-- Reading it is what the maker of nodes does. -/
  called : ∀ w, Construct.static .node "parse" ⟨[.value (.text s)], []⟩ w =
    ((parse s).map fun n => .value n.toValue, w)

/-! ## 2. Texts that are refused -/

variable {s : String} {host port : List Char} {e : Failure}

theorem truthy_text_iff : (Value.text (String.ofList host)).truthy = true ↔ host ≠ [] := by
  simp [Value.truthy]

/-- A node is not made without a host, and not of a port out of range. -/
theorem make_text_error_iff {k : Int} : make (.text (String.ofList host)) (.int k) = .error e ↔
    (host = [] ∧ e = .emptyHost) ∨
      (host ≠ [] ∧ ¬ (0 < k ∧ k < 65536) ∧ e = .portOutOfRange k) := by
  unfold make
  by_cases hhost : host = []
  · subst hhost
    simp [Value.truthy, eq_comm]
  · rw [dif_pos (truthy_text_iff.mpr hhost)]
    by_cases hk : 0 < k ∧ k < 65536
    · simp [hk, hhost]
    · simp [hk, hhost, eq_comm]

/-- A text is read as its parts are. -/
theorem parse_of_cut (cut : CutAt s host port) : parse s =
    match readInteger port with
    | .ok k => make (.text (String.ofList host)) (.int k)
    | .error _ => .error (.nodePortUnreadable s) := by
  have hcut : cutLast? ':' (trim s.toList) = some (host, port) := by
    rw [cut.trimmed, cutLast?_append cut.last]
  unfold parse
  generalize cutLast? ':' (trim s.toList) = parts at hcut
  subst hcut
  rfl

theorem readInteger_error_of {cs : List Char} (none : ∀ k, ¬ IntegerText cs k) :
    ∃ fault, readInteger cs = .error fault := by
  cases h : readInteger cs with
  | error fault => exact ⟨fault, rfl⟩
  | ok k => exact absurd (readInteger_eq_ok_iff.mp h) (none k)

theorem parse_error_iff : parse s = .error e ↔ Refused s e := by
  constructor
  · intro h
    cases hcut : cutLast? ':' (trim s.toList) with
    | none =>
      simp only [parse, hcut, Except.error.injEq] at h
      subst h
      exact .uncut (cutLast?_eq_none_iff.mp hcut)
    | some parts =>
      obtain ⟨htrim, hlast⟩ := cutLast?_eq_some hcut
      have cut : CutAt s parts.1 parts.2 := ⟨htrim, hlast⟩
      rw [parse_of_cut cut] at h
      split at h
      · rename_i k hk
        have number := readInteger_eq_ok_iff.mp hk
        obtain ⟨hnone, rfl⟩ | ⟨present, outside, rfl⟩ := make_text_error_iff.mp h
        · rw [hnone] at cut
          exact .hostless cut number
        · exact .outOfRange cut present number outside
      · rename_i fault hfault
        cases h
        refine .unreadable cut ?_
        intro k number
        rw [readInteger_eq_ok_iff.mpr number] at hfault
        cases hfault
  · intro h
    cases h with
    | uncut colon => rw [parse, cutLast?_eq_none_iff.mpr colon]
    | unreadable cut none =>
      obtain ⟨fault, hfault⟩ := readInteger_error_of none
      rw [parse_of_cut cut, hfault]
    | hostless cut number =>
      rw [parse_of_cut cut, readInteger_eq_ok_iff.mpr number]
      exact make_text_error_iff.mpr (.inl ⟨rfl, rfl⟩)
    | outOfRange cut present number outside =>
      rw [parse_of_cut cut, readInteger_eq_ok_iff.mpr number]
      exact make_text_error_iff.mpr (.inr ⟨present, outside, rfl⟩)

/-! ## 3. Nodes that come back -/

/-- The nodes that are read from their own texts are those whose host is a text that no blank
begins. -/
theorem parse_text_iff {n : Node} : parse n.text = .ok n ↔ n.Legible := by
  constructor
  · intro h
    exact legible_of_written (parse_eq_ok_iff.mp h)
  · intro legible
    exact parse_eq_ok_iff.mpr (written_text legible)

/-! ## 4. Every text -/

theorem parsed (s : String) : Parsed s := by
  constructor
  case refused => exact fun e => parse_error_iff
  case badValue => exact fun e h => parse_error (parse_error_iff.mpr h)
  case again =>
    intro n h
    exact parse_text_iff.mpr (legible_of_written (parse_eq_ok_iff.mp h))
  case called =>
    intro w
    have hcall : Construct.static .node "parse" ⟨[.value (.text s)], []⟩ w =
        (Act.ofExcept (parse s)).andThen (fun n => Act.give (.value n.toValue)) w := rfl
    rw [hcall]
    unfold Act.andThen Act.ofExcept
    cases parse s <;> rfl
  case accepted =>
    intro host port
    constructor
    · rintro ⟨n, h, rfl, rfl⟩
      obtain ⟨before, after, htrim, hlast, htext, number⟩ := parse_eq_ok_iff.mp h
      have hsome : before ≠ [] := by
        have hpresent := n.host_present
        rw [htext] at hpresent
        exact truthy_text_iff.mp hpresent
      exact ⟨before, after, ⟨htrim, hlast⟩, htext, hsome, number, n.port_valid⟩
    · rintro ⟨before, after, cut, rfl, present, number, valid⟩
      refine ⟨⟨_, port, truthy_text_iff.mpr present, valid⟩, ?_, rfl, rfl⟩
      exact parse_eq_ok_iff.mpr ⟨before, after, cut.trimmed, cut.last, rfl, number⟩

/-- Every text is read as a node by the grammar or refused, and of all nodes just those come back
from their texts whose host is a text that no blank begins. -/
theorem nodes_parsed : (∀ s, Parsed s) ∧ ∀ n, parse n.text = .ok n ↔ n.Legible :=
  ⟨parsed, fun _ => parse_text_iff⟩

end RedisLink.Node
