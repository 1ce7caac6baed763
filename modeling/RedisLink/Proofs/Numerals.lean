/-
RedisLink.Proofs.Numerals — the texts that stand for integers.

`IntegerText` is the grammar: blanks, a sign that may be left out, digits of any
script with single underscores between them, blanks, and no more digits than can
be read. `readInteger_eq_ok_iff` says that reading accepts exactly these texts
and gives the integer that the digits write. Everything that leaves a number to
the environment, and every text of a node, goes by it.

The scanner has no way back: a run of digits is read as far as it goes. So the
completeness half needs that what follows a numeral in the grammar cannot go on
with it (`Stops`), and that is why blanks must not be digits
(`digitValue?_of_blank`). The decimal digits that a number is shown with are a
text of it (`integerText_toDigits`).
-/
import RedisLink.Number.IntegerText

namespace RedisLink.Number

open RedisLink.Text

/-! ## 1. The grammar -/

/-- Digits, each perhaps behind one underscore, and their values. -/
inductive Continued : List Char → List Nat → Prop
  | done : Continued [] []
  | digit {c : Char} {d : Nat} {cs : List Char} {ds : List Nat} (value : digitValue? c = some d)
      (more : Continued cs ds) : Continued (c :: cs) (d :: ds)
  | spaced {c : Char} {d : Nat} {cs : List Char} {ds : List Nat} (value : digitValue? c = some d)
      (more : Continued cs ds) : Continued ('_' :: c :: cs) (d :: ds)

/-- Digits with single underscores between them, and their values; there is at least one. -/
inductive Numeral : List Char → List Nat → Prop
  | intro {c : Char} {d : Nat} {cs : List Char} {ds : List Nat} (value : digitValue? c = some d)
      (more : Continued cs ds) : Numeral (c :: cs) (d :: ds)

/-- A sign that may be left out, and whether it makes a number negative. -/
inductive Signed : List Char → Bool → Prop
  | none : Signed [] false
  | plus : Signed ['+'] false
  | minus : Signed ['-'] true

/-- An integer as it is written, and the integer. -/
inductive IntegerText : List Char → Int → Prop
  | intro {before sign digits after : List Char} {negative : Bool} {ds : List Nat}
      (blankBefore : ∀ c ∈ before, isNumberBlank c = true) (signed : Signed sign negative)
      (numeral : Numeral digits ds) (short : ds.length ≤ digitLimit)
      (blankAfter : ∀ c ∈ after, isNumberBlank c = true) :
      IntegerText (before ++ (sign ++ (digits ++ after)))
        (if negative then -(ofDigits ds : Int) else ofDigits ds)

/-! ## 2. Runs of digits -/

/-- No digit follows, and no underscore that a digit could stand behind. -/
def Stops (cs : List Char) : Prop := ∀ c ∈ cs.head?, digitValue? c = none ∧ c ≠ '_'

/-- Blanks are no digits. -/
theorem digitValue?_of_blank {c : Char} (h : isNumberBlank c = true) : digitValue? c = none := by
  have apart : ∀ r ∈ numberBlanks, ∀ z ∈ digitZeros, r.2 < z ∨ z + 10 ≤ r.1 := by decide
  obtain ⟨r, hr, hc⟩ := List.any_eq_true.mp h
  simp only [Bool.and_eq_true, decide_eq_true_eq] at hc
  refine List.findSome?_eq_none_iff.mpr fun z hz => ?_
  have := apart r hr z hz
  rw [if_neg (by omega)]

theorem stops_of_blank {cs : List Char} (h : ∀ c ∈ cs, isNumberBlank c = true) : Stops cs := by
  intro c hc
  have hblank := h c (List.mem_of_mem_head? hc)
  refine ⟨digitValue?_of_blank hblank, ?_⟩
  rintro rfl
  cases hblank

/-- A run is what the grammar says that it is. -/
theorem continued_of_moreDigits (cs : List Char) : ∀ {ds : List Nat} {rest : List Char},
    moreDigits cs = some (ds, rest) → ∃ body, cs = body ++ rest ∧ Continued body ds := by
  fun_induction moreDigits cs with
  | case1 =>
    intro ds rest h
    cases h
    exact ⟨[], rfl, .done⟩
  | case2 => intro ds rest h; cases h
  | case3 c cs d hd ih =>
    intro ds rest h
    obtain ⟨⟨ds', rest'⟩, hmore, heq⟩ := Option.map_eq_some_iff.mp h
    cases heq
    obtain ⟨body, rfl, hbody⟩ := ih hmore
    exact ⟨'_' :: c :: body, rfl, .spaced hd hbody⟩
  | case4 => intro ds rest h; cases h
  | case5 c cs _ _ d hd ih =>
    intro ds rest h
    obtain ⟨⟨ds', rest'⟩, hmore, heq⟩ := Option.map_eq_some_iff.mp h
    cases heq
    obtain ⟨body, rfl, hbody⟩ := ih hmore
    exact ⟨c :: body, rfl, .digit hd hbody⟩
  | case6 c cs =>
    intro ds rest h
    cases h
    exact ⟨[], rfl, .done⟩

theorem numeral_of_digitRun {cs rest : List Char} {ds : List Nat}
    (h : digitRun cs = some (ds, rest)) : ∃ body, cs = body ++ rest ∧ Numeral body ds := by
  unfold digitRun at h
  split at h
  · cases h
  · split at h
    · rename_i hd
      obtain ⟨⟨ds', rest'⟩, hmore, heq⟩ := Option.map_eq_some_iff.mp h
      cases heq
      obtain ⟨body, rfl, hbody⟩ := continued_of_moreDigits _ hmore
      exact ⟨_ :: body, rfl, .intro hd hbody⟩
    · cases h

theorem moreDigits_of_stops {cs : List Char} (h : Stops cs) : moreDigits cs = some ([], cs) := by
  unfold moreDigits
  split
  · rfl
  · exact absurd rfl (h '_' rfl).2
  · exact absurd rfl (h '_' rfl).2
  · rename_i c rest _ _
    rw [(h c rfl).1]

/-- A digit is no underscore. -/
theorem ne_underscore_of_digit {c : Char} {d : Nat} (h : digitValue? c = some d) : c ≠ '_' := by
  rintro rfl
  cases h

/-- All digits that the grammar allows are read, and nothing behind them. -/
theorem moreDigits_of_continued {body : List Char} {ds : List Nat} (h : Continued body ds)
    {rest : List Char} (stops : Stops rest) : moreDigits (body ++ rest) = some (ds, rest) := by
  induction h with
  | done => exact moreDigits_of_stops stops
  | @digit c d cs ds value more ih =>
    have hc := ne_underscore_of_digit value
    rw [List.cons_append, moreDigits.eq_def]
    split
    · rename_i heq; cases heq
    · rename_i heq; exact absurd (List.cons.inj heq).1 hc
    · rename_i heq; exact absurd (List.cons.inj heq).1 hc
    · rename_i heq
      obtain ⟨rfl, rfl⟩ := List.cons.inj heq
      rw [value, ih]
      rfl
  | @spaced c d cs ds value more ih =>
    rw [List.cons_append, List.cons_append, moreDigits, value, ih]
    rfl

theorem digitRun_of_numeral {body : List Char} {ds : List Nat} (h : Numeral body ds)
    {rest : List Char} (stops : Stops rest) : digitRun (body ++ rest) = some (ds, rest) := by
  obtain ⟨value, more⟩ := h
  rw [List.cons_append, digitRun, value, moreDigits_of_continued more stops]
  rfl

/-! ## 3. Signs and blanks -/

/-- What stands behind blanks and a sign begins with a digit. -/
theorem Numeral.begins {body : List Char} {ds : List Nat} (h : Numeral body ds) :
    ∃ c rest d, body = c :: rest ∧ digitValue? c = some d := by
  obtain ⟨value, more⟩ := h
  exact ⟨_, _, _, rfl, value⟩

theorem splitSign_of_digit {c : Char} {d : Nat} (h : digitValue? c = some d) (rest : List Char) :
    splitSign (c :: rest) = (false, c :: rest) := by
  unfold splitSign
  split
  · rename_i heq
    rw [(List.cons.inj heq).1] at h
    cases h
  · rename_i heq
    rw [(List.cons.inj heq).1] at h
    cases h
  · rfl

theorem splitSign_of_signed {sign body : List Char} {negative : Bool} {ds : List Nat}
    (signed : Signed sign negative) (numeral : Numeral body ds) (rest : List Char) :
    splitSign (sign ++ (body ++ rest)) = (negative, body ++ rest) := by
  cases signed with
  | none =>
    obtain ⟨c, cs, d, rfl, hd⟩ := numeral.begins
    exact splitSign_of_digit hd _
  | plus => rfl
  | minus => rfl

theorem signed_of_splitSign {cs body : List Char} {negative : Bool}
    (h : splitSign cs = (negative, body)) : ∃ sign, cs = sign ++ body ∧ Signed sign negative := by
  unfold splitSign at h
  split at h <;> cases h
  · exact ⟨['-'], rfl, .minus⟩
  · exact ⟨['+'], rfl, .plus⟩
  · exact ⟨[], rfl, .none⟩

/-- Blanks are dropped as far as a sign or a digit. -/
theorem dropWhile_blank {before sign body : List Char} {negative : Bool} {ds : List Nat}
    (blank : ∀ c ∈ before, isNumberBlank c = true) (signed : Signed sign negative)
    (numeral : Numeral body ds) (rest : List Char) :
    (before ++ (sign ++ (body ++ rest))).dropWhile isNumberBlank = sign ++ (body ++ rest) := by
  rw [List.dropWhile_append_of_pos blank]
  cases signed with
  | none =>
    obtain ⟨c, cs, d, rfl, hd⟩ := numeral.begins
    have hc : isNumberBlank c ≠ true := by
      intro hblank
      rw [digitValue?_of_blank hblank] at hd
      cases hd
    simp [hc]
  | plus => rfl
  | minus => rfl

/-! ## 4. Reading accepts the grammar -/

/-- Reading accepts exactly the texts of integers. -/
theorem readInteger_eq_ok_iff {cs : List Char} {n : Int} :
    readInteger cs = .ok n ↔ IntegerText cs n := by
  constructor
  · intro h
    unfold readInteger at h
    rcases hsign : splitSign (cs.dropWhile isNumberBlank) with ⟨negative, body⟩
    rw [hsign] at h
    obtain ⟨sign, hcut, signed⟩ := signed_of_splitSign hsign
    simp only at h
    split at h
    · cases h
    · rename_i ds rest hrun
      obtain ⟨digits, rfl, numeral⟩ := numeral_of_digitRun hrun
      split at h
      · cases h
      · rename_i hshort
        split at h
        · rename_i hblank
          cases h
          rw [← List.takeWhile_append_dropWhile (p := isNumberBlank) (l := cs), hcut]
          refine .intro (List.all_eq_true.mp List.all_takeWhile) signed numeral (by omega) ?_
          exact List.all_eq_true.mp hblank
        · cases h
  · rintro ⟨blankBefore, signed, numeral, short, blankAfter⟩
    unfold readInteger
    rw [dropWhile_blank blankBefore signed numeral, splitSign_of_signed signed numeral]
    simp only [digitRun_of_numeral numeral (stops_of_blank blankAfter)]
    rw [if_neg (by omega), if_pos (List.all_eq_true.mpr blankAfter)]

/-- A text stands for the integer that it writes, and otherwise for none. -/
theorem integer?_eq_some_iff {s : String} {n : Int} :
    integer? s = some n ↔ IntegerText s.toList n := by
  rw [← readInteger_eq_ok_iff, integer?]
  cases readInteger s.toList <;> simp [Except.toOption]

/-! ## 5. Decimal digits -/

theorem toNat_of_isDigit {c : Char} (h : c.isDigit = true) : 0x30 ≤ c.toNat ∧ c.toNat < 0x3A := by
  simp only [Char.isDigit, Bool.and_eq_true, decide_eq_true_eq, ge_iff_le, UInt32.le_iff_toNat_le]
    at h
  exact ⟨h.1, Nat.lt_succ_of_le h.2⟩

theorem isBlank_of_isDigit {c : Char} (h : c.isDigit = true) : isBlank c = false := by
  have hc := toNat_of_isDigit h
  have apart : ∀ r ∈ numberBlanks ++ separators, r.2 < 0x30 ∨ 0x3A ≤ r.1 := by decide
  simp only [isBlank, isNumberBlank, CodePoints.holds, ← List.any_append, List.any_eq_false,
    Bool.and_eq_true, decide_eq_true_eq, not_and]
  intro r hr
  have := apart r hr
  omega

/-- The digits from 0 to 9 stand for themselves. -/
theorem digitValue?_of_isDigit {c : Char} (h : c.isDigit = true) :
    digitValue? c = some (c.toNat - '0'.toNat) := by
  rw [digitValue?, digitZeros, List.findSome?_cons, if_pos (toNat_of_isDigit h)]
  rfl

theorem continued_of_isDigit : ∀ {cs : List Char}, (∀ c ∈ cs, c.isDigit = true) →
    Continued cs (cs.map fun c => c.toNat - '0'.toNat)
  | [], _ => .done
  | c :: cs, h => by
    obtain ⟨hc, hcs⟩ := List.forall_mem_cons.mp h
    exact .digit (digitValue?_of_isDigit hc) (continued_of_isDigit hcs)

/-- A number that is not too long is written by its decimal digits. -/
theorem integerText_toDigits {n : Nat} (h : (Nat.toDigits 10 n).length ≤ digitLimit) :
    IntegerText (Nat.toDigits 10 n) n := by
  have hdigits : ∀ c ∈ Nat.toDigits 10 n, c.isDigit = true := fun c =>
    Nat.isDigit_of_mem_toDigits (by decide) (by decide)
  have hvalue : ofDigits ((Nat.toDigits 10 n).map fun c => c.toNat - '0'.toNat) = n := by
    rw [ofDigits, List.foldl_map]
    exact Nat.ofDigitChars_ten_toDigits
  cases hcs : Nat.toDigits 10 n with
  | nil => exact absurd hcs Nat.toDigits_ne_nil
  | cons c cs =>
    rw [hcs] at h hdigits hvalue
    obtain ⟨hc, hmore⟩ := List.forall_mem_cons.mp hdigits
    have hnumeral := Numeral.intro (digitValue?_of_isDigit hc) (continued_of_isDigit hmore)
    have hnone : ∀ c ∈ ([] : List Char), isNumberBlank c = true := fun c hc => by cases hc
    have htext := IntegerText.intro hnone .none hnumeral (by simpa using h) hnone
    rw [List.nil_append, List.nil_append, List.append_nil, if_neg Bool.false_ne_true] at htext
    rw [List.map_cons] at hvalue
    rwa [hvalue] at htext

end RedisLink.Number
