/-
RedisLink.Number.IntegerText — reading integers.

An integer is written with an optional sign and decimal digits of any script;
a single underscore may stand between two digits, and blanks may surround the
whole. The number of digits is limited, leading zeros included: `digitLimit`.
`readInteger` says which of the two faults a text has.
-/
import RedisLink.Text.Blank
import RedisLink.Text.DecimalDigit

namespace RedisLink.Number

open RedisLink.Text

/-- Why a text is no integer. -/
inductive IntegerFault
  /-- The text is not of the form of an integer. -/
  | malformed
  /-- The text has more digits than can be read. -/
  | tooLong (digits : Nat)
deriving DecidableEq, Repr

/-- The greatest number of digits an integer may be written with. -/
def digitLimit : Nat := 4300

/-- The digits that follow a digit, each perhaps after one underscore, and the text behind them;
nothing if an underscore is not followed by a digit. -/
def moreDigits : List Char → Option (List Nat × List Char)
  | [] => some ([], [])
  | '_' :: [] => none
  | '_' :: c :: rest =>
    match digitValue? c with
    | some d => (moreDigits rest).map fun r => (d :: r.1, r.2)
    | none => none
  | c :: rest =>
    match digitValue? c with
    | some d => (moreDigits rest).map fun r => (d :: r.1, r.2)
    | none => some ([], c :: rest)

/-- A digit and those that follow it, and the text behind them. -/
def digitRun : List Char → Option (List Nat × List Char)
  | [] => none
  | c :: rest =>
    match digitValue? c with
    | some d => (moreDigits rest).map fun r => (d :: r.1, r.2)
    | none => none

/-- The number that digits stand for, the most significant first. -/
def ofDigits (ds : List Nat) : Nat := ds.foldl (fun n d => 10 * n + d) 0

/-- Whether the number is negative, and the text behind the sign. -/
def splitSign : List Char → Bool × List Char
  | '-' :: rest => (true, rest)
  | '+' :: rest => (false, rest)
  | cs => (false, cs)

/-- The integer that a text stands for. -/
def readInteger (cs : List Char) : Except IntegerFault Int :=
  let (negative, body) := splitSign (cs.dropWhile isNumberBlank)
  match digitRun body with
  | none => .error .malformed
  | some (ds, rest) =>
    if digitLimit < ds.length then .error (.tooLong ds.length)
    else if rest.all isNumberBlank then
      .ok (if negative then -(ofDigits ds : Int) else ofDigits ds)
    else .error .malformed

/-- The integer that a text stands for, if it stands for one. -/
def integer? (s : String) : Option Int := (readInteger s.toList).toOption

end RedisLink.Number
