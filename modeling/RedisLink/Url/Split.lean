/-
RedisLink.Url.Split — the parts of a URL.

Behind its scheme and two slashes a URL has an authority, which ends at the
first slash, question mark or hash; then a path, a query and a fragment. The
authority holds user information up to its last at sign, then a host, which may
stand in brackets, and a port; no character of it may hide a mark. Tabs and line
ends count for nothing.
-/
import RedisLink.Failure
import RedisLink.Number.IntegerText
import RedisLink.Url.Address
import RedisLink.Url.HiddenMark

namespace RedisLink.Url

open RedisLink.Text

/-- The parts of a URL behind its scheme; the fragment is dropped. -/
structure Parts where
  authority : List Char
  path : List Char
  query : List Char

/-- Whether a character ends the authority. -/
def endsAuthority (c : Char) : Bool := c = '/' || c = '?' || c = '#'

/-- Whether a character of a URL counts for nothing. -/
def isIgnored (c : Char) : Bool := c = '\t' || c = '\r' || c = '\n'

/-- A text up to the first occurrence of a character, and the text behind it. -/
def cutAt (mark : Char) (cs : List Char) : List Char × List Char :=
  (cutFirst? mark cs).getD (cs, [])

/-- The parts of what stands behind the scheme and the slashes. -/
def split (cs : List Char) : Parts :=
  let cs := cs.filter fun c => !isIgnored c
  let rest := (cutAt '#' (cs.dropWhile fun c => !endsAuthority c)).1
  let (path, query) := cutAt '?' rest
  ⟨cs.takeWhile fun c => !endsAuthority c, path, query⟩

/-- The user information of an authority, if there is any, and what stands behind it. -/
def splitUser (authority : List Char) : Option (List Char) × List Char :=
  match cutLast? '@' authority with
  | some (user, host) => (some user, host)
  | none => (none, authority)

/-- The password in an authority, if there is one. -/
def password? (authority : List Char) : Option (List Char) :=
  match splitUser authority with
  | (some user, _) => (cutFirst? ':' user).map (·.2)
  | (none, _) => none

/-- The host of an authority as it is written, without brackets, and the text of its port. -/
def splitHost (authority : List Char) : List Char × List Char :=
  let place := (splitUser authority).2
  match cutFirst? '[' place with
  | some (_, bracketed) =>
    let (host, rest) := cutAt ']' bracketed
    (host, (cutAt ':' rest).2)
  | none => cutAt ':' place

/-- Check the host of an authority with brackets in it: it must be a long address. -/
def checkBracketedHost (host : List Char) : Except Failure Unit :=
  if host.head? = some 'v' then
    if isFutureAddress host then .ok () else .error .futureAddress
  else if isShortAddress host then .error .bracketedShortAddress
  else if isLongAddress host then .ok ()
  else .error (.notAnAddress (String.ofList host))

/-- Check the brackets of an authority: they come in pairs, nothing but a port stands around them,
and what they hold is an address. -/
def checkBrackets (authority : List Char) : Except Failure Unit :=
  if authority.contains '[' != authority.contains ']' then .error .unpairedBracket
  else if authority.contains '[' then
    let place := (splitUser authority).2
    match cutFirst? '[' place with
    | some (before, bracketed) =>
      let (host, rest) := cutAt ']' bracketed
      if !before.isEmpty || (!rest.isEmpty && rest.head? ≠ some ':') then .error .unpairedBracket
      else checkBracketedHost host
    | none => checkBracketedHost (cutAt ':' place).1
  else .ok ()

/-- Check an authority: its brackets, and that no character in it hides a mark. -/
def checkAuthority (authority : List Char) : Except Failure Unit :=
  match checkBrackets authority with
  | .error e => .error e
  | .ok () =>
    if authority.any hidesMark then .error (.hiddenMark (String.ofList authority)) else .ok ()

/-- A port that may be left out. -/
def readPort (text : List Char) : Except Failure (Option Nat) :=
  if text.isEmpty then .ok none
  else if text.all Char.isDigit then
    if Number.digitLimit < text.length then .error (.integerTooLong text.length)
    else
      let n := text.foldl (fun n c => 10 * n + (c.toNat - '0'.toNat)) 0
      if n ≤ 65535 then .ok (some n) else .error .portRange
  else .error (.portText (String.ofList text))

end RedisLink.Url
