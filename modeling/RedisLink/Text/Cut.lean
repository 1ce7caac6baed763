/-
RedisLink.Text.Cut — cutting texts at a character.

A text is cut at the first or the last occurrence of a character, or at all of
them. The cut character belongs to neither side.
-/
namespace RedisLink.Text

/-- The texts before and after the first occurrence of a character. -/
def cutFirst? (mark : Char) : List Char → Option (List Char × List Char)
  | [] => none
  | c :: rest =>
    if c = mark then some ([], rest)
    else (cutFirst? mark rest).map fun r => (c :: r.1, r.2)

/-- The texts before and after the last occurrence of a character. -/
def cutLast? (mark : Char) : List Char → Option (List Char × List Char)
  | [] => none
  | c :: rest =>
    match cutLast? mark rest with
    | some r => some (c :: r.1, r.2)
    | none => if c = mark then some ([], rest) else none

/-- The texts between the occurrences of a character; there is always at least one. -/
def cutAll (mark : Char) : List Char → List (List Char)
  | [] => [[]]
  | c :: rest =>
    match cutAll mark rest with
    | [] => [[]]
    | part :: parts => if c = mark then [] :: part :: parts else (c :: part) :: parts

theorem cutFirst?_of_not_mem {mark : Char} {cs : List Char} (h : mark ∉ cs) :
    cutFirst? mark cs = none := by
  induction cs with
  | nil => rfl
  | cons c rest ih =>
    simp only [List.mem_cons, not_or] at h
    simp [cutFirst?, ih h.2, Ne.symm h.1]

theorem cutFirst?_append {mark : Char} {before : List Char} (h : mark ∉ before)
    (after : List Char) : cutFirst? mark (before ++ mark :: after) = some (before, after) := by
  induction before with
  | nil => simp [cutFirst?]
  | cons c rest ih =>
    simp only [List.mem_cons, not_or] at h
    simp [cutFirst?, ih h.2, Ne.symm h.1]

theorem cutLast?_eq_none_iff {mark : Char} {cs : List Char} :
    cutLast? mark cs = none ↔ mark ∉ cs := by
  induction cs with
  | nil => simp [cutLast?]
  | cons c rest ih =>
    simp only [cutLast?, List.mem_cons, not_or]
    split
    · rename_i r hr
      have hm : mark ∈ rest := Decidable.not_not.1 fun hn => by simp [ih.2 hn] at hr
      simp [hm]
    · rename_i hr
      by_cases hc : c = mark
      · simp [hc]
      · simp [hc, ih.1 hr, Ne.symm hc]

theorem cutLast?_append {mark : Char} {before after : List Char} (h : mark ∉ after) :
    cutLast? mark (before ++ mark :: after) = some (before, after) := by
  induction before with
  | nil => simp [cutLast?, cutLast?_eq_none_iff.2 h]
  | cons c rest ih => simp [cutLast?, ih]

theorem cutLast?_eq_some {mark : Char} {cs before after : List Char}
    (h : cutLast? mark cs = some (before, after)) :
    cs = before ++ mark :: after ∧ mark ∉ after := by
  induction cs generalizing before after with
  | nil => simp [cutLast?] at h
  | cons c rest ih =>
    simp only [cutLast?] at h
    split at h
    · rename_i r hr
      obtain ⟨h1, h2⟩ := @ih r.1 r.2 hr
      simp only [Option.some.injEq, Prod.mk.injEq] at h
      obtain ⟨rfl, rfl⟩ := h
      exact ⟨by rw [List.cons_append, ← h1], h2⟩
    · rename_i hr
      split at h
      · simp_all [cutLast?_eq_none_iff]
      · simp at h

theorem cutAll_ne_nil (mark : Char) (cs : List Char) : cutAll mark cs ≠ [] := by
  cases cs with
  | nil => simp [cutAll]
  | cons c rest =>
    simp only [cutAll]
    split
    · simp
    · split <;> simp

theorem cutAll_of_not_mem {mark : Char} {cs : List Char} (h : mark ∉ cs) :
    cutAll mark cs = [cs] := by
  induction cs with
  | nil => rfl
  | cons c rest ih =>
    simp only [List.mem_cons, not_or] at h
    simp [cutAll, ih h.2, Ne.symm h.1]

theorem cutAll_append {mark : Char} {cs : List Char} (h : mark ∉ cs) (rest : List Char) :
    cutAll mark (cs ++ mark :: rest) = cs :: cutAll mark rest := by
  induction cs with
  | nil =>
    simp only [List.nil_append, cutAll, if_true]
    split
    · rename_i hnone
      exact absurd hnone (cutAll_ne_nil mark rest)
    · rename_i hparts
      rw [hparts]
  | cons c cs ih =>
    simp only [List.mem_cons, not_or] at h
    simp [cutAll, ih h.2, Ne.symm h.1]

/-- Parts that have been joined at a character are cut apart again. -/
theorem cutAll_intercalate {mark : Char} : ∀ {parts : List (List Char)}, parts ≠ [] →
    (∀ part ∈ parts, mark ∉ part) → cutAll mark (List.intercalate [mark] parts) = parts
  | [], hne, _ => absurd rfl hne
  | [part], _, h => by
    rw [List.intercalate_singleton]
    exact cutAll_of_not_mem (h part (List.mem_singleton_self part))
  | part :: next :: parts, _, h => by
    obtain ⟨hpart, hparts⟩ := List.forall_mem_cons.1 h
    rw [List.intercalate_cons_cons, List.append_assoc, List.singleton_append,
      cutAll_append hpart, cutAll_intercalate (List.cons_ne_nil _ _) hparts]

/-- A text is what has been cut apart, with the character between the parts. -/
theorem eq_of_cutAll {mark : Char} {cs first : List Char} {parts : List (List Char)}
    (h : cutAll mark cs = first :: parts) : cs = first ++ parts.flatMap (mark :: ·) := by
  induction cs generalizing first parts with
  | nil =>
    simp only [cutAll, List.cons.injEq] at h
    obtain ⟨rfl, rfl⟩ := h
    rfl
  | cons c rest ih =>
    simp only [cutAll] at h
    split at h
    · rename_i hnone
      exact absurd hnone (cutAll_ne_nil mark rest)
    · rename_i part others hparts
      have hrest := ih hparts
      split at h
      · rename_i hc
        simp only [List.cons.injEq] at h
        obtain ⟨rfl, rfl⟩ := h
        rw [hc, List.flatMap_cons, List.nil_append, List.cons_append, ← hrest]
      · simp only [List.cons.injEq] at h
        obtain ⟨rfl, rfl⟩ := h
        rw [List.cons_append, ← hrest]

/-- No part holds the character. -/
theorem not_mem_of_mem_cutAll {mark : Char} {cs part : List Char} (h : part ∈ cutAll mark cs) :
    mark ∉ part := by
  induction cs generalizing part with
  | nil =>
    rw [List.mem_singleton.1 h]
    exact List.not_mem_nil
  | cons c rest ih =>
    simp only [cutAll] at h
    split at h
    · rename_i hnone
      exact absurd hnone (cutAll_ne_nil mark rest)
    · rename_i first parts hparts
      rw [hparts] at ih
      split at h
      · rcases List.mem_cons.1 h with rfl | h
        · exact List.not_mem_nil
        · exact ih h
      · rename_i hc
        rcases List.mem_cons.1 h with rfl | h
        · simp [Ne.symm hc, ih (List.mem_cons_self ..)]
        · exact ih (List.mem_cons_of_mem _ h)

end RedisLink.Text
