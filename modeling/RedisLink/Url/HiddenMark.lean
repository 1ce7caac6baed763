/-
RedisLink.Url.HiddenMark — characters that hide a mark of a URL.

Some characters are compatible with a text that has a slash, a question mark, a
hash, an at sign or a colon in it: a wide colon with a colon, an account sign
with the letters a and c around a slash. In an authority they would become marks
once it is normalised, so the table lists them. All stand behind ASCII.
-/
namespace RedisLink.Url

/-- The code points whose compatibility decomposition has a mark of a URL in it. -/
def hiddenMarks : List Nat :=
  [0x2047, 0x2048, 0x2049, 0x2100, 0x2101, 0x2105, 0x2106, 0x2A74, 0xFE13, 0xFE16, 0xFE55, 0xFE56,
    0xFE5F, 0xFE6B, 0xFF03, 0xFF0F, 0xFF1A, 0xFF1F, 0xFF20]

/-- Whether a character hides a mark. -/
def hidesMark (c : Char) : Bool := hiddenMarks.contains c.toNat

theorem hidesMark_of_ascii {c : Char} (h : c.toNat < 128) : hidesMark c = false := by
  have hbehind : ∀ n ∈ hiddenMarks, 128 ≤ n := by decide
  rw [hidesMark, List.contains_eq_mem, decide_eq_false_iff_not]
  intro hmem
  have := hbehind _ hmem
  omega

end RedisLink.Url
