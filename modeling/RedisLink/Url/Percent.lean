/-
RedisLink.Url.Percent — percent-encoded texts.

A percent sign with two hexadecimal digits stands for an octet; any other
percent sign stands for itself. The octets of a stretch of ASCII characters are
read together as UTF-8, so characters beyond ASCII separate them.
-/
import RedisLink.Text.Utf8

namespace RedisLink.Url

open RedisLink.Text

/-- The value of a hexadecimal digit. -/
def hexValue? (c : Char) : Option Nat :=
  if '0' ≤ c ∧ c ≤ '9' then some (c.toNat - '0'.toNat)
  else if 'a' ≤ c ∧ c ≤ 'f' then some (c.toNat - 'a'.toNat + 10)
  else if 'A' ≤ c ∧ c ≤ 'F' then some (c.toNat - 'A'.toNat + 10)
  else none

/-- The octets that ASCII characters stand for. -/
def octets : List Char → List Nat
  | [] => []
  | '%' :: a :: b :: rest =>
    match hexValue? a, hexValue? b with
    | some x, some y => (16 * x + y) :: octets rest
    | _, _ => '%'.toNat :: octets (a :: b :: rest)
  | c :: rest => c.toNat :: octets rest

/-- Whether a character is an ASCII character. -/
def isAscii (c : Char) : Bool := c.toNat < 128

/-- Read a text behind a stretch of ASCII characters, given in reverse order. -/
def decodeAfter (stretch : List Char) : List Char → List Char
  | [] => decodeUtf8 (octets stretch.reverse)
  | c :: rest =>
    if isAscii c then decodeAfter (c :: stretch) rest
    else decodeUtf8 (octets stretch.reverse) ++ c :: decodeAfter [] rest

/-- The text that a percent-encoded text stands for. -/
def decode (cs : List Char) : List Char := decodeAfter [] cs

/-- The text that a percent-encoded text stands for, where a plus sign is a space. -/
def decodeForm (cs : List Char) : List Char :=
  decode (cs.map fun c => if c = '+' then ' ' else c)

theorem octets_eq_map (cs : List Char) (h : '%' ∉ cs) : octets cs = cs.map Char.toNat := by
  fun_induction octets cs with
  | case1 => rfl
  | case2 => simp at h
  | case3 => simp at h
  | case4 c rest _ ih =>
    simp only [List.mem_cons, not_or] at h
    simp [ih h.2]

/-- ASCII text without a percent sign stands for itself. -/
theorem decode_of_plain (cs : List Char) (ha : ∀ c ∈ cs, isAscii c = true) (hp : '%' ∉ cs) :
    decode cs = cs := by
  have key : ∀ (cs stretch : List Char), (∀ c ∈ cs, isAscii c = true) →
      decodeAfter stretch cs = decodeUtf8 (octets (stretch.reverse ++ cs)) := by
    intro cs
    induction cs with
    | nil => intro stretch _; simp [decodeAfter]
    | cons c rest ih =>
      intro stretch h
      have hc : isAscii c = true := h c (by simp)
      simp only [decodeAfter, hc, if_true]
      rw [ih (c :: stretch) (fun x hx => h x (by simp [hx]))]
      simp
  rw [decode, key cs [] ha]
  simp only [List.reverse_nil, List.nil_append]
  rw [octets_eq_map cs hp, decodeUtf8_ascii]
  · rw [List.map_map]
    exact (List.map_congr_left fun c _ => Char.ofNat_toNat c).trans (List.map_id cs)
  · intro b hb
    obtain ⟨c, hc, rfl⟩ := List.mem_map.1 hb
    have := ha c hc
    simp only [isAscii, decide_eq_true_eq] at this
    omega

end RedisLink.Url
