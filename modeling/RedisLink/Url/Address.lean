/-
RedisLink.Url.Address — numeric host addresses.

A short address is four decimal numbers from 0 to 255 between points, without
leading zeros. A long address is eight groups of one to four hexadecimal digits
between colons; two colons in a row stand for one or more groups of zeros, and
a short address may stand for the last two groups. A zone may follow a long
address behind a percent sign.
-/
import RedisLink.Text.Cut
import RedisLink.Url.Percent

namespace RedisLink.Url

open RedisLink.Text

/-- Whether a text is a number from 0 to 255 without leading zeros. -/
def isOctetText (cs : List Char) : Bool :=
  !cs.isEmpty && cs.all Char.isDigit && cs.length ≤ 3 &&
    (cs = ['0'] || cs.head? ≠ some '0') &&
    cs.foldl (fun n c => 10 * n + (c.toNat - '0'.toNat)) 0 ≤ 255

/-- Whether a text is a short address. -/
def isShortAddress (cs : List Char) : Bool :=
  let parts := cutAll '.' cs
  parts.length = 4 && parts.all isOctetText

/-- Whether a text is a group of a long address. -/
def isGroup (cs : List Char) : Bool :=
  !cs.isEmpty && cs.length ≤ 4 && cs.all fun c => (hexValue? c).isSome

/-- The parts of a long address, with a short address at the end as two groups; nothing if the
last part holds a point and is no short address. -/
def widened (parts : List (List Char)) : Option (List (List Char)) :=
  match parts.getLast? with
  | some last =>
    if last.contains '.' then
      if isShortAddress last then some (parts.dropLast ++ [['0'], ['0']]) else none
    else some parts
  | none => none

/-- The groups on one side of two colons; at an end of the address there may be none. -/
def sideGroups (parts : List (List Char)) : List (List Char) :=
  if parts = [[]] then [] else parts

/-- Whether the parts between colons make up a long address. -/
def areGroups (parts : List (List Char)) : Bool :=
  let inner := parts.tail.dropLast
  match inner.findIdx? List.isEmpty with
  | none => parts.length = 8 && parts.all isGroup
  | some i =>
    let before := sideGroups (parts.take (i + 1))
    let after := sideGroups (parts.drop (i + 2))
    before.length + after.length ≤ 7 && before.all isGroup && after.all isGroup

/-- Whether a text is a long address, perhaps with a zone. -/
def isLongAddress (cs : List Char) : Bool :=
  let (address, zoned) := match cutFirst? '%' cs with
    | some (address, zone) => (address, !zone.isEmpty && !zone.contains '%')
    | none => (cs, true)
  let parts := cutAll ':' address
  zoned && 3 ≤ parts.length &&
    match widened parts with
    | some groups => groups.length ≤ 9 && areGroups groups
    | none => false

/-- Whether a text is an address of a form that is still to come: a `v`, hexadecimal digits, a
point and more. -/
def isFutureAddress : List Char → Bool
  | 'v' :: rest =>
    match cutFirst? '.' rest with
    | some (digits, more) =>
      !digits.isEmpty && digits.all (fun c => (hexValue? c).isSome) && !more.isEmpty
    | none => false
  | _ => false

end RedisLink.Url
