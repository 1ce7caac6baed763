/-
RedisLink.Keywords — values by keyword.

Keywords are what a connection is opened with: each keyword has one value. An
update writes the values of other keywords over them; a keyword that is there
keeps its place, a new one goes to the end.
-/
import RedisLink.Value

namespace RedisLink

/-- Values by keyword, in the order in which the keywords came in. -/
abbrev Keywords := List (String × Value)

namespace Keywords

/-- The value of a keyword. -/
def get? (keywords : Keywords) (key : String) : Option Value := keywords.lookup key

/-- Set a keyword to a value. -/
def put : Keywords → String → Value → Keywords
  | [], key, value => [(key, value)]
  | (other, old) :: rest, key, value =>
    if other = key then (key, value) :: rest else (other, old) :: put rest key value

/-- Set one keyword after the other. -/
def update (keywords : Keywords) (others : List (String × Value)) : Keywords :=
  others.foldl (fun acc entry => acc.put entry.1 entry.2) keywords

/-- A keyword with a value, if the value is not `null`. -/
def unlessNull (key : String) (value : Value) : Keywords :=
  if value.isNull then [] else [(key, value)]

theorem get?_put (keywords : Keywords) (key other : String) (value : Value) :
    (keywords.put key value).get? other =
      if other = key then some value else keywords.get? other := by
  unfold get?
  induction keywords with
  | nil =>
    by_cases h : other = key
    · simp [put, h]
    · have hb : (other == key) = false := by simp [h]
      simp [put, List.lookup_cons, h, hb]
  | cons entry rest ih =>
    obtain ⟨first, old⟩ := entry
    unfold put
    by_cases hf : first = key
    · by_cases h : other = key
      · simp [hf, h]
      · have hb : (other == key) = false := by simp [h]
        simp [List.lookup_cons, hf, h, hb]
    · by_cases ho : other = first
      · simp [hf, ho]
      · have hb : (other == first) = false := by simp [ho]
        simp only [hf, if_false, List.lookup_cons, hb]
        exact ih

/-- After an update a keyword has the last value that the update gives it, else the value it
had. -/
theorem get?_update (keywords : Keywords) (others : List (String × Value)) (key : String) :
    (keywords.update others).get? key = (others.reverse.lookup key).or (keywords.get? key) := by
  induction others generalizing keywords with
  | nil => simp [update]
  | cons entry rest ih =>
    obtain ⟨first, value⟩ := entry
    have : (keywords.update ((first, value) :: rest)) = (keywords.put first value).update rest :=
      rfl
    rw [this, ih, get?_put, List.reverse_cons, List.lookup_append]
    by_cases h : key = first
    · subst h
      cases rest.reverse.lookup key <;> simp
    · have hb : (key == first) = false := by simp [h]
      cases rest.reverse.lookup key <;> simp [List.lookup_cons, hb, h]

end Keywords

/-- A value together with the number of the object that holds it. Objects with the same number are
one and the same. -/
structure Shared (α : Type) where
  number : Nat
  value : α

end RedisLink
