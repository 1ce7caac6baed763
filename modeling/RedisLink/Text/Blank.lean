/-
RedisLink.Text.Blank — blank characters and trimming.

Two sets of blanks are in use. `isBlank` is the set that trimming removes: all
Unicode white space and the four information separators U+001C to U+001F.
`isNumberBlank` is the set that may surround a number: the same without the
separators.
-/
import RedisLink.Text.CodePoints

namespace RedisLink.Text

/-- White space, without the information separators. -/
def numberBlanks : CodePoints :=
  [(0x09, 0x0D), (0x20, 0x20), (0x85, 0x85), (0xA0, 0xA0), (0x1680, 0x1680), (0x2000, 0x200A),
   (0x2028, 0x2029), (0x202F, 0x202F), (0x205F, 0x205F), (0x3000, 0x3000)]

/-- The information separators. -/
def separators : CodePoints := [(0x1C, 0x1F)]

/-- Whether a character may surround a number. -/
def isNumberBlank (c : Char) : Bool := numberBlanks.holds c.toNat

/-- Whether a character is removed from the ends of a text by trimming. -/
def isBlank (c : Char) : Bool := isNumberBlank c || separators.holds c.toNat

/-- Drop the characters of a class from the end of a text. -/
def dropEnd (p : Char → Bool) (cs : List Char) : List Char :=
  (cs.reverse.dropWhile p).reverse

/-- Drop the characters of a class from both ends of a text. -/
def trimBy (p : Char → Bool) (cs : List Char) : List Char :=
  dropEnd p (cs.dropWhile p)

/-- A text without the blanks at its ends. -/
def trim (cs : List Char) : List Char := trimBy isBlank cs

theorem dropWhile_of_head {p : Char → Bool} {cs : List Char} (h : ∀ c ∈ cs.head?, p c = false) :
    cs.dropWhile p = cs := by
  cases cs with
  | nil => rfl
  | cons c rest => simp [h c rfl]

/-- A text is kept whole where neither end is of the class. -/
theorem trimBy_of_ends {p : Char → Bool} {cs : List Char} (first : ∀ c ∈ cs.head?, p c = false)
    (last : ∀ c ∈ cs.getLast?, p c = false) : trimBy p cs = cs := by
  rw [trimBy, dropWhile_of_head first, dropEnd, dropWhile_of_head, List.reverse_reverse]
  rwa [List.head?_reverse]

theorem trimBy_starts (p : Char → Bool) (cs : List Char) : trimBy p cs <+: cs.dropWhile p := by
  rw [trimBy, dropEnd, ← List.reverse_reverse (cs.dropWhile p), List.reverse_prefix,
    List.reverse_reverse]
  exact List.dropWhile_suffix p

theorem mem_of_mem_trimBy {p : Char → Bool} {cs : List Char} {c : Char} (h : c ∈ trimBy p cs) :
    c ∈ cs :=
  (List.dropWhile_sublist p).subset ((trimBy_starts p cs).subset h)

/-- A trimmed text does not begin with a character of the class. -/
theorem head?_trimBy {p : Char → Bool} {cs : List Char} :
    ∀ c ∈ (trimBy p cs).head?, p c = false := by
  intro c hc
  obtain ⟨rest, hrest⟩ := trimBy_starts p cs
  have hhead : c ∈ (cs.dropWhile p).head? := by
    rw [← hrest, List.head?_append, hc]
    rfl
  have hstop := List.head?_dropWhile_not p cs
  rwa [hhead] at hstop

end RedisLink.Text
