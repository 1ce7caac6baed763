/-
RedisLink.Duration.Parts — durations put together from parts.

A duration is given by numbers of microseconds, milliseconds, seconds, minutes,
hours, days and weeks. Integers and the whole parts of other numbers count
exactly. A fraction is multiplied by the length of its unit in the binary64
format; what is left below a microsecond is added up, and the sum is rounded
once, a tie to an even number of microseconds.
-/
import RedisLink.Failure

namespace RedisLink.Duration

open RedisLink.Number

/-- The units of time in the order in which they are added up, with their microseconds. -/
def units : List (String × Nat) :=
  [("microseconds", 1), ("milliseconds", 1000), ("seconds", 1000000), ("minutes", 60000000),
   ("hours", 3600000000), ("days", 86400000000), ("weeks", 604800000000)]

/-- A sum of parts: whole microseconds, and what is left below them. -/
structure Sum where
  whole : Int
  rest : Binary64

/-- Nothing summed up. -/
def Sum.zero : Sum := ⟨0, Binary64.zero false⟩

/-- Add a number of units of a given length. -/
def Sum.add (sum : Sum) (unit : String) (size : Nat) : Value → Except Failure Sum
  | .int n => .ok { sum with whole := sum.whole + n * size }
  | .bool b => .ok { sum with whole := sum.whole + (if b then size else 0) }
  | .float x =>
    match x.truncate? with
    | none => .error .infiniteInteger
    | some n =>
      let sum := { sum with whole := sum.whole + n * size }
      if x.fraction.isZero then .ok sum
      else
        let product := x.fraction.mulNat size
        .ok ⟨sum.whole + product.truncate?.getD 0, sum.rest.add product.fraction⟩
  | v => .error (.durationPart unit v.operandKind)

/-- The number of microseconds of a sum; a tie goes to the even number. -/
def Sum.micros (sum : Sum) : Int :=
  match sum.rest.ratio? with
  | none => sum.whole
  | some (num, den) =>
    let total := sum.whole * den + num
    let floor := total / den
    let twice := 2 * (total - floor * den)
    if twice < den then floor
    else if den < twice then floor + 1
    else if floor % 2 = 0 then floor else floor + 1

/-- The duration of a number of microseconds; a failure if it is out of range. -/
def ofMicros (micros : Int) : Except Failure Duration :=
  match ofMicros? micros with
  | some d => .ok d
  | none =>
    let days := micros / microsPerDay
    if -2147483648 ≤ days ∧ days ≤ 2147483647 then .error (.daysOutOfRange days)
    else .error .dayCountTooLarge

/-- The duration that is the sum of parts, each given by the name of its unit. -/
def ofParts (parts : List (String × Value)) : Except Failure Duration := do
  let sum ← units.foldlM (fun sum (unit : String × Nat) =>
    match parts.lookup unit.1 with
    | some v => sum.add unit.1 unit.2 v
    | none => .ok sum) Sum.zero
  ofMicros sum.micros

/-- The duration of a number of milliseconds. -/
def ofMillis (given : Value) : Except Failure Duration := ofParts [("milliseconds", given)]

end RedisLink.Duration
