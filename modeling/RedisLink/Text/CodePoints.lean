/-
RedisLink.Text.CodePoints — sets of code points given by ranges.

The character classes of this library are tables of inclusive ranges in
ascending order. `CodePoints.holds` is their membership test.
-/
namespace RedisLink.Text

/-- A set of code points, as inclusive ranges in ascending order. -/
abbrev CodePoints := List (Nat × Nat)

/-- Whether a code point lies in one of the ranges. -/
def CodePoints.holds (ranges : CodePoints) (n : Nat) : Bool :=
  ranges.any fun r => decide (r.1 ≤ n) && decide (n ≤ r.2)

end RedisLink.Text
