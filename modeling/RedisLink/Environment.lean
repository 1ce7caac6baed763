/-
RedisLink.Environment — the environment variables.

An environment gives texts to names. Settings that have no value of their own
read it at the moment they are asked, so it is an argument of every such
reading.
-/
import RedisLink.Number.IntegerText
import RedisLink.Text.Yes

namespace RedisLink

open RedisLink.Number RedisLink.Text

/-- The environment variables, each with its text. -/
structure Environment where
  entries : List (String × String)

namespace Environment

/-- No variable is set. -/
def empty : Environment := ⟨[]⟩

/-- The text of a variable, if it is set. -/
def get? (env : Environment) (name : String) : Option String := env.entries.lookup name

/-- The environment without a variable. -/
def unset (env : Environment) (name : String) : Environment :=
  ⟨env.entries.filter fun entry => entry.1 ≠ name⟩

/-- The environment with a variable set to a text. -/
def set (env : Environment) (name text : String) : Environment :=
  ⟨(name, text) :: (env.unset name).entries⟩

/-- Whether a variable is set to a text that is not empty. -/
def holds (env : Environment) (name : String) : Bool :=
  match env.get? name with
  | some text => text ≠ ""
  | none => false

/-- A variable as a flag; `other` if it is not set. -/
def flag (env : Environment) (name : String) (other : Bool) : Bool :=
  match env.get? name with
  | some text => isYes text
  | none => other

/-- A variable as an integer, if it is set to one. -/
def integer? (env : Environment) (name : String) : Option Int :=
  (env.get? name).bind Number.integer?

@[simp] theorem get?_set_self (env : Environment) (name text : String) :
    (env.set name text).get? name = some text := by
  simp [set, get?]

theorem lookup_filter_ne (entries : List (String × String)) (name other : String)
    (h : other ≠ name) :
    (entries.filter fun entry => entry.1 ≠ name).lookup other = entries.lookup other := by
  induction entries with
  | nil => rfl
  | cons entry rest ih =>
    obtain ⟨key, text⟩ := entry
    by_cases hk : key = name
    · subst hk
      have hb : (other == key) = false := by simp [h]
      simp only [List.filter_cons, ne_eq, not_true_eq_false, decide_false, Bool.false_eq_true,
        if_false, List.lookup_cons, hb]
      exact ih
    · simp only [List.filter_cons, ne_eq, hk, not_false_eq_true, decide_true, if_true,
        List.lookup_cons]
      split
      · rfl
      · exact ih

theorem get?_unset_of_ne (env : Environment) {name other : String} (h : other ≠ name) :
    (env.unset name).get? other = env.get? other :=
  lookup_filter_ne env.entries name other h

@[simp] theorem get?_unset_self (env : Environment) (name : String) :
    (env.unset name).get? name = none := by
  simp only [unset, get?]
  induction env.entries with
  | nil => rfl
  | cons entry rest ih =>
    obtain ⟨key, text⟩ := entry
    by_cases hk : key = name
    · simpa [hk] using ih
    · have hb : (name == key) = false := by simp [Ne.symm hk]
      simp only [List.filter_cons, ne_eq, hk, not_false_eq_true, decide_true, if_true,
        List.lookup_cons, hb]
      exact ih

end Environment

end RedisLink
