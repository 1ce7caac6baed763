/-
RedisLink.Proofs.Nodes.Occurrences — sequences of nodes hold first occurrences.

`Node.addTo` compares a node with those that have been kept so far. What it
should do speaks of all nodes that came before, kept or not: a node is kept if
none of them equals it (`Node.FirstOccurrences`). The two agree because a node
that was not kept equals one that was, so equality of nodes has to be
transitive, and hosts may be any values.

That equality of values is transitive is §2, with one lemma for each kind of
value that says what equals it. Numbers of all kinds are compared by what they
stand for (`Value.sameNumber_iff`): a rational number, or an infinity.
-/
import Mathlib.Algebra.Field.Rat
import Mathlib.Algebra.Order.Field.Basic
import Mathlib.Data.List.Induction
import Mathlib.Data.Rat.Cast.Defs
import RedisLink.Node.Sequence

namespace RedisLink

open RedisLink.Number

namespace Value

/-! ## 1. Numbers -/

/-- What a number stands for: a rational number, or an infinity of a sign. -/
def standsFor : Int ⊕ Binary64 → ℚ ⊕ Bool
  | .inl n => .inl n
  | .inr (.infinite negative) => .inr negative
  | .inr (.finite negative m e) =>
    .inl (((if negative then -(m * twoTo e : Int) else m * twoTo e : Int) : ℚ) / twoTo (-e))

/-- Quotients are compared crosswise. -/
theorem cross_iff {a c : Int} {b d : Nat} (hb : b ≠ 0) (hd : d ≠ 0) :
    a * d = c * b ↔ (a / b : ℚ) = c / d := by
  rw [div_eq_div_iff (by exact_mod_cast hb) (by exact_mod_cast hd)]
  norm_cast

theorem twoTo_ne_zero (e : Int) : twoTo e ≠ 0 := (Nat.pow_pos (by decide)).ne'

/-- Numbers are equal if they stand for the same. -/
theorem sameNumber_iff (a b : Int ⊕ Binary64) :
    sameNumber a b = true ↔ standsFor a = standsFor b := by
  have hwhole (n : Int) : (n : ℚ) = n / (1 : Nat) := by simp
  rcases a with m | (⟨s, m, e⟩ | s) <;> rcases b with n | (⟨t, n, f⟩ | t) <;>
    simp only [sameNumber, standsFor, Binary64.eqInt, Binary64.equals, Binary64.ratio?,
      decide_eq_true_eq, Sum.inl.injEq, Sum.inr.injEq, reduceCtorEq, Bool.false_eq_true]
  · norm_cast
  · rw [hwhole, ← cross_iff one_ne_zero (twoTo_ne_zero _), eq_comm, Nat.cast_one, Int.mul_one]
  · rw [hwhole n, ← cross_iff (twoTo_ne_zero _) one_ne_zero, Nat.cast_one, Int.mul_one]
  · exact cross_iff (twoTo_ne_zero _) (twoTo_ne_zero _)

/-! ## 2. What equals a value -/

section

variable {v w : Value}

theorem null_equals_iff : Value.null.equals w = true ↔ .null = w := by
  cases w <;> simp [equals, number?]

theorem text_equals_iff {s : String} : (Value.text s).equals w = true ↔ .text s = w := by
  cases w
  case text t => simp
  all_goals simp [equals, number?]

theorem list_equals_iff {xs : List Value} :
    (Value.list xs).equals w = true ↔ ∃ ys, .list ys = w ∧ equalsItems xs ys = true := by
  cases w <;> simp [equals, number?]

theorem tuple_equals_iff {xs : List Value} :
    (Value.tuple xs).equals w = true ↔ ∃ ys, .tuple ys = w ∧ equalsItems xs ys = true := by
  cases w <;> simp [equals, number?]

theorem dict_equals_iff {fs : List (String × Value)} : (Value.dict fs).equals w = true ↔
    ∃ gs, .dict gs = w ∧ fs.length = gs.length ∧ equalsFields fs gs = true := by
  cases w <;> simp [equals, number?]

theorem duration_equals_iff {d : Duration} :
    (Value.duration d).equals w = true ↔ .duration d = w := by
  cases w <;> simp [equals, number?]

theorem node_equals_iff {host : Value} {port : Nat} : (Value.node host port).equals w = true ↔
    ∃ other, .node other port = w ∧ host.equals other = true := by
  cases w <;> simp [equals, number?, and_comm, @eq_comm _ port]

theorem cls_equals_iff {c : ClassRef} : (Value.cls c).equals w = true ↔ .cls c = w := by
  cases w <;> simp [equals, number?]

theorem backoff_equals_iff {b : Backoff} : (Value.backoff b).equals w = true ↔ .backoff b = w := by
  cases w <;> simp [equals, number?]

theorem retry_equals_iff {a : Bool} {r s : Value} : (Value.retry a r s).equals w = true ↔
    ∃ r' s', .retry a r' s' = w ∧ r.equals r' = true ∧ s.equals s' = true := by
  cases w <;> simp [equals, number?, and_assoc]

theorem held_equals_iff {kind : String} {n : Nat} :
    (Value.held kind n).equals w = true ↔ .held kind n = w := by
  cases w <;> simp [equals, number?]

theorem number_equals_iff {a : Int ⊕ Binary64} (h : v.number? = some a) :
    v.equals w = true ↔ ∃ b, w.number? = some b ∧ standsFor a = standsFor b := by
  simp only [← sameNumber_iff]
  cases v <;> cases h <;> cases w <;> simp [equals, number?]

end

theorem lookup_of_equalsFields {gs hs : List (String × Value)} {key : String} {y : Value}
    (h : equalsFields gs hs = true) (hy : gs.lookup key = some y) :
    ∃ z, hs.lookup key = some z ∧ y.equals z = true := by
  induction gs with
  | nil => cases hy
  | cons entry rest ih =>
    obtain ⟨name, x⟩ := entry
    simp only [equalsFields, Bool.and_eq_true] at h
    obtain ⟨hx, hrest⟩ := h
    rw [List.lookup_cons] at hy
    split at hy
    · rename_i hname
      obtain rfl : key = name := by simpa using hname
      cases hy
      split at hx
      · rename_i z hz
        exact ⟨z, hz, hx⟩
      · cases hx
    · exact ih hrest hy

mutual

/-- Equality of values is transitive. -/
theorem equals_trans {u v w : Value} (h : u.equals v = true) (h' : v.equals w = true) :
    u.equals w = true := by
  have hnumber : ∀ {a}, u.number? = some a → u.equals w = true := by
    intro a ha
    obtain ⟨b, hb, hab⟩ := (number_equals_iff ha).mp h
    obtain ⟨c, hc, hbc⟩ := (number_equals_iff hb).mp h'
    exact (number_equals_iff ha).mpr ⟨c, hc, hab.trans hbc⟩
  match u with
  | .null => rwa [null_equals_iff.mp h]
  | .bool b => exact hnumber rfl
  | .int n => exact hnumber rfl
  | .float x => exact hnumber rfl
  | .text s => rwa [text_equals_iff.mp h]
  | .list xs =>
    obtain ⟨ys, rfl, hxy⟩ := list_equals_iff.mp h
    obtain ⟨zs, rfl, hyz⟩ := list_equals_iff.mp h'
    exact list_equals_iff.mpr ⟨zs, rfl, equalsItems_trans hxy hyz⟩
  | .tuple xs =>
    obtain ⟨ys, rfl, hxy⟩ := tuple_equals_iff.mp h
    obtain ⟨zs, rfl, hyz⟩ := tuple_equals_iff.mp h'
    exact tuple_equals_iff.mpr ⟨zs, rfl, equalsItems_trans hxy hyz⟩
  | .dict fs =>
    obtain ⟨gs, rfl, hlength, hfg⟩ := dict_equals_iff.mp h
    obtain ⟨hs, rfl, hlength', hgh⟩ := dict_equals_iff.mp h'
    exact dict_equals_iff.mpr ⟨hs, rfl, hlength.trans hlength', equalsFields_trans hfg hgh⟩
  | .duration d => rwa [duration_equals_iff.mp h]
  | .node host port =>
    obtain ⟨other, rfl, hhost⟩ := node_equals_iff.mp h
    obtain ⟨third, rfl, hhost'⟩ := node_equals_iff.mp h'
    exact node_equals_iff.mpr ⟨third, rfl, equals_trans hhost hhost'⟩
  | .cls c => rwa [cls_equals_iff.mp h]
  | .backoff b => rwa [backoff_equals_iff.mp h]
  | .retry a r s =>
    obtain ⟨r', s', rfl, hr, hs⟩ := retry_equals_iff.mp h
    obtain ⟨r'', s'', rfl, hr', hs'⟩ := retry_equals_iff.mp h'
    exact retry_equals_iff.mpr ⟨r'', s'', rfl, equals_trans hr hr', equals_trans hs hs'⟩
  | .held kind n => rwa [held_equals_iff.mp h]

theorem equalsItems_trans : ∀ {xs ys zs : List Value}, equalsItems xs ys = true →
    equalsItems ys zs = true → equalsItems xs zs = true
  | [], [], zs, _, h' => h'
  | x :: xs, y :: ys, z :: zs, h, h' => by
    simp only [equalsItems, Bool.and_eq_true] at h h' ⊢
    exact ⟨equals_trans h.1 h'.1, equalsItems_trans h.2 h'.2⟩

theorem equalsFields_trans : ∀ {fs gs hs : List (String × Value)}, equalsFields fs gs = true →
    equalsFields gs hs = true → equalsFields fs hs = true
  | [], gs, hs, _, _ => rfl
  | (key, x) :: rest, gs, hs, h, h' => by
    simp only [equalsFields, Bool.and_eq_true] at h ⊢
    obtain ⟨hx, hrest⟩ := h
    refine ⟨?_, equalsFields_trans hrest h'⟩
    split at hx
    · rename_i y hy
      obtain ⟨z, hz, hyz⟩ := lookup_of_equalsFields h' hy
      rw [hz]
      exact equals_trans hx hyz
    · cases hx

end

end Value

/-! ## 3. First occurrences -/

namespace Node

theorem same_trans {l m n : Node} (h : l.same m = true) (h' : m.same n = true) :
    l.same n = true := by
  simp only [same, Bool.and_eq_true, beq_iff_eq] at h h' ⊢
  exact ⟨Value.equals_trans h.1 h'.1, h.2.trans h'.2⟩

/-- A sequence without the nodes that equal an earlier one. -/
inductive FirstOccurrences : List Node → List Node → Prop
  | none : FirstOccurrences [] []
  | first {nodes kept : List Node} {n : Node} (before : FirstOccurrences nodes kept)
      (new : ∀ m ∈ nodes, m.same n = false) : FirstOccurrences (nodes ++ [n]) (kept ++ [n])
  | again {nodes kept : List Node} {n : Node} (before : FirstOccurrences nodes kept)
      (old : ∃ m ∈ nodes, m.same n = true) : FirstOccurrences (nodes ++ [n]) kept

namespace FirstOccurrences

variable {nodes kept : List Node}

theorem subset (h : FirstOccurrences nodes kept) : kept ⊆ nodes := by
  induction h with
  | none => exact List.Subset.refl _
  | first before new ih =>
    refine List.append_subset.mpr ⟨fun m hm => List.mem_append_left _ (ih hm), ?_⟩
    exact List.subset_append_right _ _
  | again before old ih => exact fun m hm => List.mem_append_left _ (ih hm)

/-- No two nodes that are kept are equal. -/
theorem pairwise (h : FirstOccurrences nodes kept) : kept.Pairwise fun m n => m.same n = false := by
  induction h with
  | none => exact .nil
  | first before new ih =>
    refine List.pairwise_append.mpr ⟨ih, List.pairwise_singleton _ _, fun m hm n hn => ?_⟩
    rw [List.mem_singleton.mp hn]
    exact new m (before.subset hm)
  | again before old ih => exact ih

/-- A node that equals one of the sequence equals one that is kept. -/
theorem kept_of_mem (h : FirstOccurrences nodes kept) {m n : Node} (hm : m ∈ nodes)
    (hn : m.same n = true) : ∃ k ∈ kept, k.same n = true := by
  induction h generalizing m with
  | none => cases hm
  | first before new ih =>
    rcases List.mem_append.mp hm with hm | hm
    · obtain ⟨k, hk, hkn⟩ := ih hm hn
      exact ⟨k, List.mem_append_left _ hk, hkn⟩
    · exact ⟨m, List.mem_append_right _ hm, hn⟩
  | again before old ih =>
    rcases List.mem_append.mp hm with hm | hm
    · exact ih hm hn
    · obtain ⟨first, hfirst, hsame⟩ := old
      rw [List.mem_singleton.mp hm] at hn
      exact ih hfirst (same_trans hsame hn)

/-- Looking at what has been kept is enough to tell whether a node is new. -/
theorem addTo (h : FirstOccurrences nodes kept) (n : Node) :
    FirstOccurrences (nodes ++ [n]) (Node.addTo kept n) := by
  unfold Node.addTo
  split
  · rename_i hany
    obtain ⟨m, hm, hsame⟩ := List.any_eq_true.mp hany
    exact .again h ⟨m, h.subset hm, hsame⟩
  · rename_i hany
    refine .first h fun m hm => Bool.eq_false_iff.mpr fun hsame => hany ?_
    exact List.any_eq_true.mpr (h.kept_of_mem hm hsame)

end FirstOccurrences

theorem distinct_append_singleton (nodes : List Node) (n : Node) :
    distinct (nodes ++ [n]) = addTo (distinct nodes) n := by
  simp [distinct]

/-- Adding nodes one after the other leaves their first occurrences. -/
theorem firstOccurrences_distinct (nodes : List Node) :
    FirstOccurrences nodes (distinct nodes) := by
  induction nodes using List.reverseRecOn with
  | nil => exact .none
  | append_singleton nodes n ih =>
    rw [distinct_append_singleton]
    exact ih.addTo n

/-- Nothing is left out where no two nodes are equal. -/
theorem distinct_of_pairwise {nodes : List Node}
    (h : nodes.Pairwise fun m n => m.same n = false) : distinct nodes = nodes := by
  induction nodes using List.reverseRecOn with
  | nil => rfl
  | append_singleton nodes n ih =>
    obtain ⟨hnodes, -, hn⟩ := List.pairwise_append.mp h
    rw [distinct_append_singleton, ih hnodes, addTo, if_neg]
    rintro hany
    obtain ⟨m, hm, hsame⟩ := List.any_eq_true.mp hany
    rw [hn m hm n (List.mem_singleton_self n)] at hsame
    cases hsame

end Node

end RedisLink
