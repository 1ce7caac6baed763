/-
RedisLink.Number.RealText — which texts are real numbers.

A real number is written with an optional sign and either one of the words for
an infinity or for no number, or decimal digits with an optional point and an
optional exponent. Single underscores may stand between digits, and blanks may
surround the whole. Only the form matters here, so `isReal` gives no value.
-/
import RedisLink.Number.IntegerText

namespace RedisLink.Number

open RedisLink.Text

/-- A decimal digit of any script replaced by the ASCII digit of its value. -/
def plainDigit (c : Char) : Char :=
  match digitValue? c with
  | some d => Nat.digitChar d
  | none => c

/-- A text without its underscores, if each of them stands between two digits. -/
def dropUnderscores : Char → List Char → Option (List Char)
  | before, [] => if before = '_' then none else some []
  | before, c :: rest =>
    if c = '_' then
      if before.isDigit then dropUnderscores c rest else none
    else if before = '_' ∧ !c.isDigit then none
    else (dropUnderscores c rest).map (c :: ·)

/-- Whether a text is an exponent: `e`, an optional sign and digits. -/
def isExponent : List Char → Bool
  | [] => true
  | c :: rest =>
    let digits := (splitSign rest).2
    (c = 'e' || c = 'E') && !digits.isEmpty && digits.all Char.isDigit

/-- Whether a text is digits with an optional point and exponent, with at least one digit before
the exponent. -/
def isDecimal (cs : List Char) : Bool :=
  let whole := cs.takeWhile Char.isDigit
  match cs.dropWhile Char.isDigit with
  | '.' :: rest =>
    let places := rest.takeWhile Char.isDigit
    !(whole.isEmpty && places.isEmpty) && isExponent (rest.dropWhile Char.isDigit)
  | rest => !whole.isEmpty && isExponent rest

/-- The words for an infinity and for no number. -/
def realWords : List (List Char) :=
  ["inf".toList, "infinity".toList, "nan".toList]

/-- Whether a text is a real number. -/
def isReal (cs : List Char) : Bool :=
  let body := (trimBy isNumberBlank cs).map plainDigit
  match dropUnderscores ' ' body with
  | none => false
  | some digits =>
    let unsigned := (splitSign digits).2
    realWords.contains (unsigned.map Char.toLower) || isDecimal unsigned

end RedisLink.Number
