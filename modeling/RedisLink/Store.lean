/-
RedisLink.Store — objects by number.

A store gives every object put into it the next free number, under which the
object is read and written from then on. Numbers that have not been given out
read as a fresh object, so reading is total.
-/
namespace RedisLink

/-- Objects by number. -/
structure Store (α : Type) where
  size : Nat
  get : Nat → α

namespace Store

variable {α : Type}

/-- A store without objects. -/
def empty [Inhabited α] : Store α := ⟨0, fun _ => default⟩

/-- The store with an object written over the one of a number. -/
def set (s : Store α) (n : Nat) (x : α) : Store α :=
  { s with get := fun m => if m = n then x else s.get m }

/-- The store with one more object; its number is the size before. -/
def add (s : Store α) (x : α) : Store α :=
  ⟨s.size + 1, fun m => if m = s.size then x else s.get m⟩

@[simp] theorem get_set_self (s : Store α) (n : Nat) (x : α) : (s.set n x).get n = x := by
  simp [set]

theorem get_set_of_ne (s : Store α) {m n : Nat} (x : α) (h : m ≠ n) :
    (s.set n x).get m = s.get m := by
  simp [set, h]

theorem set_set (s : Store α) (n : Nat) (x y : α) : (s.set n x).set n y = s.set n y := by
  unfold set
  congr 1
  funext m
  by_cases h : m = n <;> simp [h]

@[simp] theorem size_set (s : Store α) (n : Nat) (x : α) : (s.set n x).size = s.size := rfl

@[simp] theorem get_add_size (s : Store α) (x : α) : (s.add x).get s.size = x := by
  simp [add]

theorem get_add_of_ne (s : Store α) {m : Nat} (x : α) (h : m ≠ s.size) :
    (s.add x).get m = s.get m := by
  simp [add, h]

@[simp] theorem size_add (s : Store α) (x : α) : (s.add x).size = s.size + 1 := rfl

end Store

end RedisLink
