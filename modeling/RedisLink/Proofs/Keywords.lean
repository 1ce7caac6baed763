/-
RedisLink.Proofs.Keywords — tables of keywords, read by keyword.

A table that is written entry by entry has, for a keyword, the last value it is
given: `Keywords.last?`. Tables whose keywords are distinct have only one, so
there `last?` is `get?`. Updates keep keywords distinct (`nodup_update`), and in
a table that has been updated by one with distinct keywords a keyword has the
value of the second table, else that of the first (`get?_update_of_nodup`).

`Keywords.without` leaves one keyword out. It does so before an update or after
it, with the same result (`without_update`).
-/
import Mathlib.Data.List.Nodup
import RedisLink.Keywords

namespace RedisLink.Keywords

/-! ## Reading -/

/-- The value that a table has for a keyword in the end, if its entries are written one after the
other. -/
def last? (entries : Keywords) (key : String) : Option Value := entries.reverse.lookup key

theorem get?_nil (key : String) : get? [] key = none := rfl

theorem get?_cons (name : String) (value : Value) (rest : Keywords) (key : String) :
    get? ((name, value) :: rest) key = if key = name then some value else get? rest key := by
  unfold get?
  by_cases h : key = name
  · simp [h]
  · have hb : (key == name) = false := by simp [h]
    simp [List.lookup_cons, h, hb]

theorem get?_append (first rest : Keywords) (key : String) :
    get? (first ++ rest) key = (get? first key).or (get? rest key) :=
  List.lookup_append

/-- A keyword has a value just when it is there. -/
theorem get?_isSome_iff {entries : Keywords} {key : String} :
    (get? entries key).isSome = true ↔ key ∈ entries.map Prod.fst := by
  induction entries with
  | nil => simp [get?]
  | cons entry rest ih =>
    obtain ⟨name, value⟩ := entry
    by_cases h : key = name <;> simp [get?_cons, h, ih]

theorem last?_isSome_iff {entries : Keywords} {key : String} :
    (last? entries key).isSome = true ↔ key ∈ entries.map Prod.fst := by
  have h : (last? entries key).isSome = true ↔ key ∈ entries.reverse.map Prod.fst :=
    get?_isSome_iff
  rw [h, List.map_reverse, List.mem_reverse]

/-- Where keywords are distinct the last value of a keyword is its only one. -/
theorem last?_eq_get? {entries : Keywords} (distinct : (entries.map Prod.fst).Nodup)
    (key : String) : last? entries key = get? entries key := by
  induction entries with
  | nil => rfl
  | cons entry rest ih =>
    obtain ⟨name, value⟩ := entry
    obtain ⟨hnew, hrest⟩ := List.nodup_cons.mp distinct
    have hlast : last? ((name, value) :: rest) key =
        (last? rest key).or (get? [(name, value)] key) := by
      rw [last?, List.reverse_cons, List.lookup_append]
      rfl
    rw [hlast, ih hrest, get?_cons, get?_cons]
    by_cases h : key = name
    · subst h
      have hnone : get? rest key = none := by
        rw [← Option.not_isSome_iff_eq_none, get?_isSome_iff]
        exact hnew
      simp [hnone]
    · simp [h, get?]

/-! ## Updates -/

theorem map_fst_put (keywords : Keywords) (key : String) (value : Value) :
    (keywords.put key value).map Prod.fst =
      if key ∈ keywords.map Prod.fst then keywords.map Prod.fst
      else keywords.map Prod.fst ++ [key] := by
  induction keywords with
  | nil => simp [put]
  | cons entry rest ih =>
    obtain ⟨name, old⟩ := entry
    unfold put
    by_cases h : name = key
    · simp [h]
    · by_cases hrest : key ∈ rest.map Prod.fst <;>
        simp only [h, if_false, List.map_cons, ih, List.mem_cons, Ne.symm h, false_or, hrest,
          if_true, List.cons_append]

theorem nodup_put {keywords : Keywords} (distinct : (keywords.map Prod.fst).Nodup) (key : String)
    (value : Value) : ((keywords.put key value).map Prod.fst).Nodup := by
  rw [map_fst_put]
  split
  · exact distinct
  · rename_i hnew
    exact List.Nodup.append distinct (List.nodup_singleton _)
      (List.disjoint_singleton.mpr hnew)

theorem nodup_update {keywords : Keywords} (distinct : (keywords.map Prod.fst).Nodup)
    (others : Keywords) : ((keywords.update others).map Prod.fst).Nodup := by
  induction others generalizing keywords with
  | nil => exact distinct
  | cons entry rest ih => exact ih (nodup_put distinct entry.1 entry.2)

/-- After an update by a table with distinct keywords a keyword has the value of that table, else
the one it had. -/
theorem get?_update_of_nodup (keywords : Keywords) {others : Keywords}
    (distinct : (others.map Prod.fst).Nodup) (key : String) :
    get? (keywords.update others) key = (get? others key).or (get? keywords key) := by
  rw [get?_update, ← last?_eq_get? distinct]
  rfl

/-! ## Leaving a keyword out -/

/-- The table without a keyword. -/
def without (name : String) (entries : Keywords) : Keywords :=
  entries.filter fun entry => entry.1 ≠ name

/-- The other keywords keep their values. -/
theorem get?_without_of_ne (entries : Keywords) {name key : String} (h : key ≠ name) :
    get? (without name entries) key = get? entries key := by
  induction entries with
  | nil => rfl
  | cons entry rest ih =>
    obtain ⟨first, value⟩ := entry
    by_cases hf : first = name
    · subst hf
      have hskip : without first ((first, value) :: rest) = without first rest := by
        simp [without]
      rw [hskip, ih, get?_cons, if_neg h]
    · have hkeep : without name ((first, value) :: rest) = (first, value) :: without name rest := by
        simp [without, hf]
      rw [hkeep, get?_cons, get?_cons, ih]

@[simp] theorem without_append (name : String) (first rest : Keywords) :
    without name (first ++ rest) = without name first ++ without name rest := by
  simp [without]

theorem without_cons_of_ne {name key : String} (h : key ≠ name) (value : Value) (rest : Keywords) :
    without name ((key, value) :: rest) = (key, value) :: without name rest := by
  simp [without, h]

theorem without_unlessNull_self (name : String) (value : Value) :
    without name (unlessNull name value) = [] := by
  unfold unlessNull
  split <;> simp [without]

theorem without_put_self (keywords : Keywords) (name : String) (value : Value) :
    without name (keywords.put name value) = without name keywords := by
  induction keywords with
  | nil => simp [put, without]
  | cons entry rest ih =>
    obtain ⟨first, old⟩ := entry
    unfold put
    by_cases h : first = name
    · simp [without, h]
    · simpa [without, h] using ih

theorem without_put_of_ne (keywords : Keywords) {name key : String} (h : key ≠ name)
    (value : Value) :
    without name (keywords.put key value) = (without name keywords).put key value := by
  induction keywords with
  | nil => simp [put, without, h]
  | cons entry rest ih =>
    obtain ⟨first, old⟩ := entry
    by_cases hfirst : first = key
    · subst hfirst
      simp [put, without, h]
    · by_cases hname : first = name
      · have hk : name ≠ key := h.symm
        simpa [put, without, hfirst, hname, hk] using ih
      · have := ih
        simp only [without, put, hfirst, if_false, List.filter_cons, ne_eq, hname,
          not_false_eq_true, decide_true, if_true] at this ⊢
        rw [this]

/-- A keyword may be left out before an update or after it. -/
theorem without_update (name : String) (keywords others : Keywords) :
    without name (keywords.update others) =
      (without name keywords).update (without name others) := by
  induction others generalizing keywords with
  | nil => rfl
  | cons entry rest ih =>
    obtain ⟨key, value⟩ := entry
    have hstep :
        keywords.update ((key, value) :: rest) = (keywords.put key value).update rest := rfl
    rw [hstep, ih]
    by_cases h : key = name
    · subst h
      rw [without_put_self]
      simp [without]
    · rw [without_put_of_ne keywords h]
      simp [without, h, update]

end RedisLink.Keywords
