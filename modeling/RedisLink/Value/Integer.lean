/-
RedisLink.Value.Integer — values as integers, flags and sequences.

Three conversions that settings apply to what they are given: to an integer,
which fails for values that stand for none; to an integer or a default, which
does not; and to the items that a value is made of.
-/
import RedisLink.Failure
import RedisLink.Number.IntegerText
import RedisLink.Text.Yes

namespace RedisLink.Value

open RedisLink.Number RedisLink.Text

/-- The integer that a value stands for: truth values are one and zero, other numbers lose their
fraction, and texts are read. -/
def toInteger : Value → Except Failure Int
  | .bool b => .ok (if b then 1 else 0)
  | .int n => .ok n
  | .float x =>
    match x.truncate? with
    | some n => .ok n
    | none => .error .infiniteInteger
  | .text s =>
    match readInteger s.toList with
    | .ok n => .ok n
    | .error .malformed => .error (.unreadableInteger s)
    | .error (.tooLong digits) => .error (.integerTooLong digits)
  | v => .error (.notConvertible v.operandKind)

/-- The integer that a value stands for, or nothing where its text or its kind stands for none. An
infinite number is a failure still. -/
def toInteger? (v : Value) : Except Failure (Option Int) :=
  match v.toInteger with
  | .ok n => .ok (some n)
  | .error .infiniteInteger => .error .infiniteInteger
  | .error _ => .ok none

/-- A value as a flag: texts by their words, truth values as they are, anything else as off. -/
def toFlag : Value → Bool
  | .bool b => b
  | .text s => isYes s
  | _ => false

/-- Whether a number is below zero; a failure for values that are no numbers. -/
def isBelowZero (v : Value) : Except Failure Bool :=
  match v.number? with
  | some (.inl n) => .ok (n < 0)
  | some (.inr x) => .ok x.isNegative
  | none => .error (.notComparable v.operandKind)

/-- The items of a value: of a sequence its items, of a text its characters, of a table its
keys. -/
def items : Value → Except Failure (List Value)
  | .list xs => .ok xs
  | .tuple xs => .ok xs
  | .text s => .ok (s.toList.map fun c => .text (String.ofList [c]))
  | .dict fields => .ok (fields.map fun field => .text field.1)
  | v => .error (.notIterable v.operandKind)

end RedisLink.Value
