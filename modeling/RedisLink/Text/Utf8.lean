/-
RedisLink.Text.Utf8 — reading octets as UTF-8, with replacement.

Octets that are no UTF-8 become the replacement character U+FFFD, one for each
longest stretch that could still have begun a character. `Pending` is what is
known of a character whose first octets have been read.
-/
namespace RedisLink.Text

/-- A character begun: the number of octets still owed, the range of the next one, and the bits
read so far. -/
structure Pending where
  owed : Nat
  low : Nat
  high : Nat
  bits : Nat

/-- What a first octet begins. -/
inductive Lead
  /-- A character of one octet. -/
  | single (c : Char)
  /-- A character of several octets. -/
  | several (p : Pending)
  /-- No character begins with this octet. -/
  | none

/-- The class of a first octet. -/
def lead (b : Nat) : Lead :=
  if b < 0x80 then .single (Char.ofNat b)
  else if b < 0xC2 then .none
  else if b < 0xE0 then .several ⟨1, 0x80, 0xBF, b - 0xC0⟩
  else if b = 0xE0 then .several ⟨2, 0xA0, 0xBF, 0⟩
  else if b = 0xED then .several ⟨2, 0x80, 0x9F, 0xD⟩
  else if b < 0xF0 then .several ⟨2, 0x80, 0xBF, b - 0xE0⟩
  else if b = 0xF0 then .several ⟨3, 0x90, 0xBF, 0⟩
  else if b < 0xF4 then .several ⟨3, 0x80, 0xBF, b - 0xF0⟩
  else if b = 0xF4 then .several ⟨3, 0x80, 0x8F, 4⟩
  else .none

/-- The replacement character. -/
def replacement : Char := Char.ofNat 0xFFFD

/-- Read octets while a character may be pending. -/
def decodeFrom : Option Pending → List Nat → List Char
  | none, [] => []
  | some _, [] => [replacement]
  | pending, b :: rest =>
    let fresh : List Char := match lead b with
      | .single c => c :: decodeFrom none rest
      | .several p => decodeFrom (some p) rest
      | .none => replacement :: decodeFrom none rest
    match pending with
    | none => fresh
    | some p =>
      if p.low ≤ b ∧ b ≤ p.high then
        let bits := p.bits * 64 + b % 64
        if p.owed = 1 then Char.ofNat bits :: decodeFrom none rest
        else decodeFrom (some ⟨p.owed - 1, 0x80, 0xBF, bits⟩) rest
      else replacement :: fresh

/-- The text that a sequence of octets stands for. -/
def decodeUtf8 (octets : List Nat) : List Char := decodeFrom none octets

/-- Octets below 128 stand for themselves. -/
theorem decodeUtf8_ascii (octets : List Nat) (h : ∀ b ∈ octets, b < 0x80) :
    decodeUtf8 octets = octets.map Char.ofNat := by
  induction octets with
  | nil => rfl
  | cons b rest ih =>
    have hb : b < 0x80 := h b (by simp)
    have hr := ih (fun x hx => h x (by simp [hx]))
    simp only [decodeUtf8] at hr
    simp [decodeUtf8, decodeFrom, lead, hb, hr]

end RedisLink.Text
