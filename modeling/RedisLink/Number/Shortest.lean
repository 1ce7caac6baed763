/-
RedisLink.Number.Shortest — the shortest decimal text of a binary64 number.

The digits are the fewest that read back to the number, and of those the
nearest to it. The text is positional as long as the point stands at most
sixteen places behind and three places before the first digit, and has an
exponent of at least two digits otherwise; a positional text always shows a
fraction.
-/
import RedisLink.Number.Binary64

namespace RedisLink.Number

/-- The number `digits · 10 ^ exponent`. -/
structure DecimalDigits where
  digits : Nat
  exponent : Int
deriving DecidableEq, Repr

/-- The least `k` with `m · 2 ^ e < 10 ^ k`, for a positive mantissa. -/
def decimalPoint (m : Nat) (e : Int) : Int :=
  let guess : Int := ((m.log2 : Int) + e) * 30103 / 100000 - 1
  let below (k : Int) : Bool :=
    m * twoTo e * tenTo (-k) < tenTo k * twoTo (-e)
  ([guess, guess + 1, guess + 2, guess + 3].find? below).getD (guess + 4)

/-- Whether `c · 10 ^ s` rounds to `m · 2 ^ e`: it lies between the midpoints to the two
neighbours, and on a midpoint only if the mantissa is even. -/
def readsBack (m : Nat) (e : Int) (c : Nat) (s : Int) : Bool :=
  let lowGap := if m = twoTo 52 ∧ e ≠ Binary64.minExponent then 1 else 2
  let unit := twoTo e * tenTo (-s)
  let low := (4 * m - lowGap) * unit
  let high := (4 * m + 2) * unit
  let given := 4 * c * (tenTo s * twoTo (-e))
  if m % 2 = 0 then low ≤ given ∧ given ≤ high else low < given ∧ given < high

/-- The digits of a given count that read back and lie nearest to the number, if any do. -/
def digitsOfCount (m : Nat) (e point : Int) (count : Nat) : Option DecimalDigits :=
  let s := point - count
  let num := m * twoTo e * tenTo (-s)
  let den := twoTo (-e) * tenTo s
  let c := num / den
  match readsBack m e c s, readsBack m e (c + 1) s with
  | true, true => some ⟨roundDiv num den, s⟩
  | true, false => some ⟨c, s⟩
  | false, true => some ⟨c + 1, s⟩
  | false, false => none

/-- The fewest digits that read back; seventeen always do. -/
def shortestDigits (m : Nat) (e : Int) : DecimalDigits :=
  let point := decimalPoint m e
  match (List.range 17).findSome? fun i => digitsOfCount m e point (i + 1) with
  | some d => d
  | none => ⟨m * twoTo e / twoTo (-e), 0⟩

/-- Digits without the zeros at their end. -/
def dropZeros (ds : List Char) : List Char := (ds.reverse.dropWhile (· = '0')).reverse

/-- At least two digits of an exponent. -/
def exponentDigits (n : Nat) : List Char :=
  let ds := Nat.toDigits 10 n
  if ds.length < 2 then '0' :: ds else ds

/-- The text of decimal digits with the point at a place. -/
def layout (ds : List Char) (point : Int) : List Char :=
  if -4 < point ∧ point ≤ 16 then
    if point ≤ 0 then '0' :: '.' :: List.replicate (-point).toNat '0' ++ ds
    else
      let k := point.toNat
      if ds.length ≤ k then ds ++ List.replicate (k - ds.length) '0' ++ ['.', '0']
      else ds.take k ++ '.' :: ds.drop k
  else
    let e := point - 1
    let mantissa := match ds with
      | [] => []
      | [d] => [d]
      | d :: rest => d :: '.' :: rest
    mantissa ++ 'e' :: (if e < 0 then '-' else '+') :: exponentDigits e.natAbs

/-- The shortest text of a number. -/
def Binary64.text : Binary64 → String
  | .infinite negative => if negative then "-inf" else "inf"
  | .finite negative m e =>
    let body :=
      if m = 0 then ['0', '.', '0']
      else
        let d := shortestDigits m e
        let ds := Nat.toDigits 10 d.digits
        layout (dropZeros ds) (d.exponent + ds.length)
    String.ofList (if negative then '-' :: body else body)

end RedisLink.Number
