/-
RedisLink.Text.Quoted — quoted forms of texts.

A quoted text stands between two equal marks. The mark is the apostrophe,
unless the text holds an apostrophe and no double quote. Inside, the mark and
the backslash are escaped, line feed, carriage return and tab have short
escapes, and every other character without a printed form is written by its
code point with two, four or eight hexadecimal digits.
-/
import RedisLink.Text.Printable

namespace RedisLink.Text

/-- The last `width` hexadecimal digits of a number, in lower case. -/
def hexDigits : Nat → Nat → List Char
  | 0, _ => []
  | width + 1, n => hexDigits width (n / 16) ++ [Nat.digitChar (n % 16)]

/-- The escape that writes a character by its code point. -/
def codePointEscape (n : Nat) : List Char :=
  if n < 0x100 then '\\' :: 'x' :: hexDigits 2 n
  else if n < 0x10000 then '\\' :: 'u' :: hexDigits 4 n
  else '\\' :: 'U' :: hexDigits 8 n

/-- One character as it stands between the marks. -/
def quotedChar (mark c : Char) : List Char :=
  if c = mark ∨ c = '\\' then ['\\', c]
  else if c = '\n' then ['\\', 'n']
  else if c = '\r' then ['\\', 'r']
  else if c = '\t' then ['\\', 't']
  else if isPrintable c then [c]
  else codePointEscape c.toNat

/-- The mark that quotes a text. -/
def quoteMark (cs : List Char) : Char :=
  if cs.contains '\'' && !cs.contains '"' then '"' else '\''

/-- The quoted form of a text. -/
def quoted (s : String) : String :=
  let cs := s.toList
  let mark := quoteMark cs
  String.ofList (mark :: cs.flatMap (quotedChar mark) ++ [mark])

end RedisLink.Text
