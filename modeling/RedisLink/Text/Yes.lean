/-
RedisLink.Text.Yes — words for switching something on.

A flag is on if its text is one of four words, in any case. Only ASCII letters
have a lower-case form made of the letters of these words, so the case of other
characters does not matter.
-/
namespace RedisLink.Text

/-- The words that switch a flag on. -/
def yesWords : List String := ["true", "1", "yes", "on"]

/-- Whether a text switches a flag on. -/
def isYes (s : String) : Bool :=
  yesWords.contains (String.ofList (s.toList.map Char.toLower))

end RedisLink.Text
