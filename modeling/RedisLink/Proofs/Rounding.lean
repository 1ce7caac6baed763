/-
RedisLink.Proofs.Rounding — what rounding a quotient to binary64 comes to.

A quotient is scaled by a power of two, such that its whole part has 53 bits,
and then rounded to a whole number. So there are two things to know: which power
it is (`exponentOf_eq`: that of the leading bit of the quotient, less 52), and
when rounding stays at or below a number (`roundDiv_le_iff`). `truncate?_ofRatio`
puts them together for the whole part of the rounded quotient.

The exponent is found from the leading bits of numerator and denominator, which
is too great by at most one. That guess and its correction are compared with the
logarithm of the quotient as a rational number, as no leading bit of a natural
number tells a quotient below one from another.
-/
import Mathlib.Algebra.Order.Field.Power
import Mathlib.Algebra.Order.Floor.Semifield
import Mathlib.Data.Int.Log
import Mathlib.Data.Rat.Floor
import Mathlib.Tactic.NormNum
import Mathlib.Tactic.Positivity
import RedisLink.Number.Binary64

namespace RedisLink.Number

/-! ## 1. The nearest whole number -/

section

variable {num den : Nat}

theorem div_le_roundDiv (num den : Nat) : num / den ≤ roundDiv num den := by
  unfold roundDiv
  grind

theorem roundDiv_le_succ (num den : Nat) : roundDiv num den ≤ num / den + 1 := by
  unfold roundDiv
  grind

/-- Rounding stays at or below a number up to half a step above it; half a step itself goes down
to an even number. -/
theorem roundDiv_le_iff (pos : 0 < den) (c : Nat) :
    roundDiv num den ≤ c ↔
      2 * num < (2 * c + 1) * den ∨ 2 * num = (2 * c + 1) * den ∧ c % 2 = 0 := by
  have hnum : num = den * (num / den) + num % den := (Nat.div_add_mod num den).symm
  have hrest : num % den < den := Nat.mod_lt num pos
  unfold roundDiv
  generalize num / den = q at hnum ⊢
  generalize num % den = r at hnum hrest ⊢
  obtain hlt | rfl | hgt := Nat.lt_trichotomy q c
  · -- even the next number is not above `c`
    obtain ⟨k, rfl⟩ := Nat.exists_eq_add_of_lt hlt
    have hbelow : 2 * num < (2 * (q + k + 1) + 1) * den := by
      rw [hnum]
      nlinarith [Nat.zero_le (k * den)]
    simp only [hbelow, true_or, iff_true]
    split_ifs <;> omega
  · have hscaled : (2 * q + 1) * den = 2 * (den * q) + den := by ring
    rw [hscaled, hnum]
    dsimp only
    split_ifs <;> omega
  · obtain ⟨k, rfl⟩ := Nat.exists_eq_add_of_lt hgt
    have habove : (2 * c + 1) * den < 2 * num := by
      rw [hnum]
      nlinarith [Nat.zero_le (k * den)]
    have hnot : ¬ (2 * num < (2 * c + 1) * den ∨ 2 * num = (2 * c + 1) * den ∧ c % 2 = 0) := by
      omega
    simp only [hnot, iff_false]
    split_ifs <;> omega

/-- The rounded number is off by half a step at most. -/
theorem roundDiv_near (pos : 0 < den) :
    2 * roundDiv num den * den ≤ 2 * num + den ∧
      2 * num ≤ 2 * roundDiv num den * den + den := by
  constructor
  · cases hm : roundDiv num den with
    | zero => omega
    | succ c =>
      have hnot : ¬ roundDiv num den ≤ c := by omega
      rw [roundDiv_le_iff pos] at hnot
      have hstep : 2 * (c + 1) * den = (2 * c + 1) * den + den := by ring
      omega
  · have hle : 2 * num < (2 * roundDiv num den + 1) * den ∨
        2 * num = (2 * roundDiv num den + 1) * den ∧ roundDiv num den % 2 = 0 :=
      (roundDiv_le_iff pos _).mp le_rfl
    have hstep : (2 * roundDiv num den + 1) * den = 2 * roundDiv num den * den + den := by ring
    omega

end

/-! ## 2. Powers of two -/

theorem twoTo_pos (e : Int) : 0 < twoTo e := Nat.pow_pos (by decide)

theorem twoTo_of_nonpos {e : Int} (h : e ≤ 0) : twoTo e = 1 := by
  unfold twoTo
  rw [Int.toNat_of_nonpos h]

theorem twoTo_natCast (k : Nat) : twoTo k = 2 ^ k := rfl

theorem cast_twoTo (k : Nat) : ((twoTo k : Nat) : ℚ) = 2 ^ (k : Int) := by
  rw [twoTo_natCast, zpow_natCast]
  exact_mod_cast rfl

/-- A power of two as a quotient of two powers that are whole. -/
theorem twoTo_div_twoTo (e : Int) : (twoTo e : ℚ) / twoTo (-e) = 2 ^ e := by
  obtain ⟨k, rfl | rfl⟩ := Int.eq_nat_or_neg e
  · rw [twoTo_of_nonpos (e := -(k : Int)) (by omega), twoTo_natCast]
    simp
  · rw [twoTo_of_nonpos (e := -(k : Int)) (by omega), neg_neg, twoTo_natCast]
    simp

/-- Scaling divides by a power of two. -/
theorem scaled_lt_iff {num den c : Nat} (pos : 0 < den) (e : Int) :
    (scaled num den e).1 < c * (scaled num den e).2 ↔ (num : ℚ) / den < c * 2 ^ e := by
  have hden : (0 : ℚ) < den := by exact_mod_cast pos
  have hlow : (0 : ℚ) < twoTo (-e) := by exact_mod_cast twoTo_pos (-e)
  have hcast : (scaled num den e).1 < c * (scaled num den e).2 ↔
      (num : ℚ) * twoTo (-e) < c * (den * twoTo e) := by
    unfold scaled
    exact_mod_cast Iff.rfl
  rw [hcast, ← twoTo_div_twoTo, div_lt_iff₀ hden, ← mul_div_assoc, div_mul_eq_mul_div,
    lt_div_iff₀ hlow, mul_right_comm, mul_assoc]

theorem scaled_pos {num den : Nat} (pos : 0 < den) (e : Int) : 0 < (scaled num den e).2 :=
  Nat.mul_pos pos (twoTo_pos e)

namespace Binary64

/-! ## 3. The exponent -/

section

variable {num den : Nat}

/-- A natural number lies between two powers of two. -/
theorem log2_bounds (pos : 0 < num) :
    (2 : ℚ) ^ (num.log2 : Int) ≤ num ∧ (num : ℚ) < 2 ^ ((num.log2 : Int) + 1) := by
  have hlow : 2 ^ num.log2 ≤ num := Nat.log2_self_le (by omega)
  have hhigh : num < 2 ^ (num.log2 + 1) := Nat.lt_log2_self
  exact ⟨by exact_mod_cast hlow, by exact_mod_cast hhigh⟩

/-- The leading bits of numerator and denominator give the leading bit of a quotient, or one
more. -/
theorem log_div_cases (hnum : 0 < num) (hden : 0 < den) :
    (num.log2 : Int) - den.log2 - 1 ≤ Int.log 2 ((num : ℚ) / den) ∧
      Int.log 2 ((num : ℚ) / den) ≤ (num.log2 : Int) - den.log2 := by
  obtain ⟨nlow, nhigh⟩ := log2_bounds hnum
  obtain ⟨dlow, dhigh⟩ := log2_bounds hden
  have hdpos : (0 : ℚ) < den := by exact_mod_cast hden
  have hpos : (0 : ℚ) < (num : ℚ) / den := div_pos (by exact_mod_cast hnum) hdpos
  constructor
  · rw [← Int.zpow_le_iff_le_log (by decide) hpos, le_div_iff₀ hdpos]
    calc (2 : ℚ) ^ ((num.log2 : Int) - den.log2 - 1) * den
        ≤ 2 ^ ((num.log2 : Int) - den.log2 - 1) * 2 ^ ((den.log2 : Int) + 1) := by gcongr
      _ = 2 ^ (num.log2 : Int) := by
        rw [← zpow_add₀ (by norm_num)]
        congr 1
        omega
      _ ≤ num := nlow
  · rw [← Int.lt_add_one_iff, ← Int.lt_zpow_iff_log_lt (by decide) hpos, div_lt_iff₀ hdpos]
    calc (num : ℚ) < 2 ^ ((num.log2 : Int) + 1) := nhigh
      _ = 2 ^ ((num.log2 : Int) - den.log2 + 1) * 2 ^ (den.log2 : Int) := by
        rw [← zpow_add₀ (by norm_num)]
        congr 1
        omega
      _ ≤ 2 ^ ((num.log2 : Int) - den.log2 + 1) * den := by gcongr

/-- The exponent is that of the leading bit of the quotient, less 52, unless that is too small. -/
theorem exponentOf_eq (hnum : 0 < num) (hden : 0 < den) :
    exponentOf num den = max minExponent (Int.log 2 ((num : ℚ) / den) - 52) := by
  have hpos : (0 : ℚ) < (num : ℚ) / den :=
    div_pos (by exact_mod_cast hnum) (by exact_mod_cast hden)
  obtain ⟨hlow, hhigh⟩ := log_div_cases hnum hden
  let guess : Int := (num.log2 : Int) - den.log2 - 52
  -- the guess is too great just when the quotient is below its power of two
  have hguess : (scaled num den guess).1 / (scaled num den guess).2 < twoTo (precision - 1) ↔
      Int.log 2 ((num : ℚ) / den) < (num.log2 : Int) - den.log2 := by
    rw [Nat.div_lt_iff_lt_mul (scaled_pos hden guess), scaled_lt_iff hden,
      ← Int.lt_zpow_iff_log_lt (by decide) hpos]
    have hpower : ((twoTo (precision - 1) : Nat) : ℚ) * 2 ^ guess =
        2 ^ ((num.log2 : Int) - den.log2) := by
      have htwo : ((twoTo (precision - 1) : Nat) : ℚ) = 2 ^ (52 : Int) := cast_twoTo 52
      rw [htwo, ← zpow_add₀ (by norm_num)]
      congr 1
      omega
    rw [hpower]
    rfl
  have hmax : exponentOf num den = max minExponent
      (if (scaled num den guess).1 / (scaled num den guess).2 < twoTo (precision - 1) then guess - 1
        else guess) := rfl
  rw [hmax, if_congr hguess rfl rfl]
  split_ifs <;> congr 1 <;> omega

/-- The exponent of a quotient with a whole part. -/
theorem exponentOf_of_le (hden : 0 < den) (hle : den ≤ num) :
    exponentOf num den = (Nat.log2 (num / den) : Int) - 52 := by
  have hone : (1 : ℚ) ≤ (num : ℚ) / den := by
    rw [one_le_div (by exact_mod_cast hden)]
    exact_mod_cast hle
  rw [exponentOf_eq (by omega) hden, Int.log_of_one_le_right 2 hone, Nat.floor_div_eq_div,
    Nat.log2_eq_log_two]
  unfold minExponent
  omega

/-- The exponent of a quotient without one. -/
theorem exponentOf_of_lt (hnum : 0 < num) (hlt : num < den) : exponentOf num den ≤ -53 := by
  have hden : (0 : ℚ) < den := by exact_mod_cast (by omega : 0 < den)
  have hpos : (0 : ℚ) < (num : ℚ) / den := div_pos (by exact_mod_cast hnum) hden
  have hlog : Int.log 2 ((num : ℚ) / den) < 0 := by
    rw [← Int.lt_zpow_iff_log_lt (by decide) hpos, zpow_zero, div_lt_one hden]
    exact_mod_cast hlt
  rw [exponentOf_eq hnum (by omega)]
  unfold minExponent
  omega

/-- At its exponent the whole part of a quotient has no more than 53 bits. -/
theorem scaled_div_lt (hnum : 0 < num) (hden : 0 < den) :
    (scaled num den (exponentOf num den)).1 / (scaled num den (exponentOf num den)).2 <
      twoTo precision := by
  have hpos : (0 : ℚ) < (num : ℚ) / den :=
    div_pos (by exact_mod_cast hnum) (by exact_mod_cast hden)
  have hexponent : Int.log 2 ((num : ℚ) / den) < 53 + exponentOf num den := by
    rw [exponentOf_eq hnum hden]
    omega
  have htwo : ((twoTo precision : Nat) : ℚ) = 2 ^ (53 : Int) := cast_twoTo 53
  rw [Nat.div_lt_iff_lt_mul (scaled_pos hden _), scaled_lt_iff hden, htwo,
    ← zpow_add₀ (by norm_num)]
  exact (Int.lt_zpow_iff_log_lt (by decide) hpos).mpr hexponent

end

/-! ## 4. The whole part -/

theorem truncate?_zero : (zero false).truncate? = some 0 := by
  simp [zero, truncate?]

/-- A mantissa that was carried stands for the same number as before. -/
theorem truncate?_carry {m : Nat} {e : Int} (hm : m ≤ twoTo precision) (he : e < maxExponent) :
    (carry false m e).truncate? = some ((m * twoTo e / twoTo (-e) : Nat) : Int) := by
  unfold carry
  by_cases hlt : m < twoTo precision
  · simp only [if_pos hlt]
    rw [if_neg (by omega)]
    rfl
  · obtain rfl : m = twoTo precision := by omega
    simp only [if_neg hlt]
    rw [if_neg (by omega)]
    have hsame : twoTo (precision - 1) * twoTo (e + 1) / twoTo (-(e + 1)) =
        twoTo precision * twoTo e / twoTo (-e) := by
      obtain h | h := Int.lt_or_le e 0
      · -- the denominator has a factor of two more
        have hden : twoTo (-e) = 2 * twoTo (-(e + 1)) := by
          unfold twoTo
          rw [show (-e).toNat = (-(e + 1)).toNat + 1 by omega]
          exact Nat.pow_succ'
        have hnum : twoTo precision = 2 * twoTo (precision - 1) := by decide
        rw [twoTo_of_nonpos (e := e + 1) (by omega), twoTo_of_nonpos (e := e) (by omega), hden,
          hnum, Nat.mul_one, Nat.mul_one, Nat.mul_div_mul_left _ _ (by decide)]
      · have hpow : twoTo (e + 1) = 2 * twoTo e := by
          unfold twoTo
          rw [show (e + 1).toNat = e.toNat + 1 by omega]
          exact Nat.pow_succ'
        have hnum : twoTo precision = twoTo (precision - 1) * 2 := by decide
        rw [twoTo_of_nonpos (e := -(e + 1)) (by omega), twoTo_of_nonpos (e := -e) (by omega), hpow,
          hnum, Nat.mul_assoc]
    simp only [truncate?, hsame]
    rfl

/-- The whole part of a quotient that is rounded. -/
theorem truncate?_ofRatio {num den : Nat} (hnum : 0 < num) (hden : 0 < den)
    (finite : exponentOf num den < maxExponent) :
    (ofRatio false num den).truncate? =
      some ((roundDiv (num * twoTo (-exponentOf num den)) (den * twoTo (exponentOf num den)) *
        twoTo (exponentOf num den) / twoTo (-exponentOf num den) : Nat) : Int) := by
  unfold ofRatio
  rw [if_neg (by omega)]
  refine truncate?_carry ?_ finite
  have hlt := scaled_div_lt hnum hden
  exact (roundDiv_le_succ _ _).trans hlt

end Binary64

end RedisLink.Number
