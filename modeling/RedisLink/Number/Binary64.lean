/-
RedisLink.Number.Binary64 — numbers of the binary64 format, exactly.

A finite number is a sign, a mantissa below 2^53 and an exponent of at least
-1074; it stands for `mantissa · 2 ^ exponent`. All arithmetic is on naturals:
`ofRatio` rounds a quotient to the nearest such number, a tie to the even
mantissa, and the operations round their exact results with it.
-/
namespace RedisLink.Number

/-- A number of the binary64 format. -/
inductive Binary64
  /-- The number `mantissa · 2 ^ exponent`, with a sign. -/
  | finite (negative : Bool) (mantissa : Nat) (exponent : Int)
  /-- An infinity. -/
  | infinite (negative : Bool)
deriving DecidableEq, Repr

/-- Two to the power of an exponent; one if the exponent is negative. -/
def twoTo (exponent : Int) : Nat := Nat.pow 2 exponent.toNat

/-- Ten to the power of an exponent; one if the exponent is negative. -/
def tenTo (exponent : Int) : Nat := Nat.pow 10 exponent.toNat

/-- The whole number nearest to a quotient; a tie goes to the even one. -/
def roundDiv (num den : Nat) : Nat :=
  let q := num / den
  let r := num % den
  if 2 * r < den then q
  else if den < 2 * r then q + 1
  else if q % 2 = 0 then q else q + 1

/-- A quotient divided by `2 ^ e`, as numerator and denominator. -/
def scaled (num den : Nat) (e : Int) : Nat × Nat :=
  (num * twoTo (-e), den * twoTo e)

namespace Binary64

/-- The number of bits of a mantissa. -/
def precision : Nat := 53

/-- The least exponent. -/
def minExponent : Int := -1074

/-- The greatest exponent of a finite number. -/
def maxExponent : Int := 971

/-- The number zero. -/
def zero (negative : Bool) : Binary64 := .finite negative 0 minExponent

/-- A mantissa that rounding may have carried to `2 ^ 53`, brought back into its range. -/
def carry (negative : Bool) (mantissa : Nat) (e : Int) : Binary64 :=
  let (m, e) :=
    if mantissa < twoTo precision then (mantissa, e) else (twoTo (precision - 1), e + 1)
  if maxExponent < e then .infinite negative else .finite negative m e

/-- The exponent at which a positive quotient has a mantissa of 53 bits, or the least exponent. -/
def exponentOf (num den : Nat) : Int :=
  let e : Int := (num.log2 : Int) - den.log2 - 52
  let (n, d) := scaled num den e
  max minExponent (if n / d < twoTo (precision - 1) then e - 1 else e)

/-- The number nearest to a quotient; a tie goes to the even mantissa. -/
def ofRatio (negative : Bool) (num den : Nat) : Binary64 :=
  if num = 0 then zero negative
  else
    let e := exponentOf num den
    let (n, d) := scaled num den e
    carry negative (roundDiv n d) e

/-- The number nearest to a quotient of an integer by a natural number. -/
def ofIntRatio (num : Int) (den : Nat) : Binary64 :=
  ofRatio (decide (num < 0)) num.natAbs den

/-- The number nearest to `digits · 10 ^ exponent`. Beyond four hundred places every number but
zero is an infinity or zero. -/
def ofDecimal (negative : Bool) (digits : Nat) (exponent : Int) : Binary64 :=
  if digits = 0 then zero negative
  else
    let places : Int := (Nat.toDigits 10 digits).length + exponent
    if 400 < places then .infinite negative
    else if places < -400 then zero negative
    else ofRatio negative (digits * tenTo exponent) (tenTo (-exponent))

/-- A finite number as a quotient of an integer by a natural number. -/
def ratio? : Binary64 → Option (Int × Nat)
  | .finite negative m e =>
    let n : Int := m * twoTo e
    some (if negative then -n else n, twoTo (-e))
  | .infinite _ => none

/-- Whether a number is zero. -/
def isZero : Binary64 → Bool
  | .finite _ m _ => m = 0
  | .infinite _ => false

/-- Whether a number is below zero. -/
def isNegative : Binary64 → Bool
  | .finite negative m _ => negative && m ≠ 0
  | .infinite negative => negative

/-- Whether a number stands for an integer. -/
def eqInt (x : Binary64) (n : Int) : Bool :=
  match x.ratio? with
  | some (num, den) => num = n * den
  | none => false

/-- Whether two numbers stand for the same; the zeros do. -/
def equals : Binary64 → Binary64 → Bool
  | .infinite a, .infinite b => a = b
  | x, y =>
    match x.ratio?, y.ratio? with
    | some (a, b), some (c, d) => a * d = c * b
    | _, _ => false

/-- The whole part of a finite number, without its fraction. -/
def truncate? : Binary64 → Option Int
  | .finite negative m e =>
    let n : Int := (m * twoTo e / twoTo (-e) : Nat)
    some (if negative then -n else n)
  | .infinite _ => none

/-- The fraction of a finite number: what its whole part leaves. -/
def fraction : Binary64 → Binary64
  | .finite negative m e => ofRatio negative (m * twoTo e % twoTo (-e)) (twoTo (-e))
  | .infinite negative => zero negative

/-- A number times a natural number, rounded. -/
def mulNat : Binary64 → Nat → Binary64
  | .finite negative m e, k => ofRatio negative (m * k * twoTo e) (twoTo (-e))
  | .infinite negative, _ => .infinite negative

/-- The sum of two finite numbers, rounded; the other number if one is not finite. -/
def add (x y : Binary64) : Binary64 :=
  match x.ratio?, y.ratio? with
  | some (a, b), some (c, d) => ofIntRatio (a * d + c * b) (b * d)
  | none, _ => x
  | _, none => y

end Binary64

end RedisLink.Number
