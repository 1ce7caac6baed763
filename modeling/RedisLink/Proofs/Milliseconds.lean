/-
RedisLink.Proofs.Milliseconds — timeouts in whole milliseconds.

A deployment gives its timeouts in milliseconds: the quotient of microseconds by
a thousand, rounded to binary64 and then cut. Cutting should give the whole
milliseconds that have passed. It does not when rounding has carried the quotient
to the next one, and beyond 53 bits when rounding moves the whole
milliseconds themselves. `Duration.MillisExact` says exactly when neither
happens: there is a condition for each of the two, below and from 2^53
milliseconds, and one for the tie between two of them.

The fraction that is left to the next millisecond is what counts below 2^53: the
last place of the quotient is 2^(k - 52) when its leading bit is 2^k, and the
quotient is carried if less than half of that is left. As a microsecond is a
thousandth, nothing is carried below 2^44 milliseconds, more than five hundred
years. `millis_read` says what this means for every deployment, also for
milliseconds that are written and then read.
-/
import RedisLink.Proofs.Rounding
import RedisLink.Proofs.TimeoutChecks

namespace RedisLink

open RedisLink.Number

/-! ## 1. Rounding and then cutting -/

theorem log2_lt_of_lt {n k : Nat} (h : n < 2 ^ (k + 1)) : n.log2 < k + 1 := by
  by_cases hzero : n = 0
  · rw [hzero]
    exact Nat.succ_pos k
  · exact (Nat.log2_lt hzero).mpr h

/-- Rounding at `k` bits behind the point stays between the whole part and the next number. -/
theorem roundDiv_fraction_bounds (n k : Nat) :
    n / 1000 * 2 ^ k ≤ roundDiv (n * 2 ^ k) 1000 ∧
      roundDiv (n * 2 ^ k) 1000 ≤ n / 1000 * 2 ^ k + 2 ^ k := by
  have hlow : n / 1000 * 2 ^ k ≤ n * 2 ^ k / 1000 := by
    rw [Nat.le_div_iff_mul_le (by decide), Nat.mul_right_comm]
    exact Nat.mul_le_mul_right _ (Nat.div_mul_le_self n 1000)
  have hhigh : n * 2 ^ k / 1000 < n / 1000 * 2 ^ k + 2 ^ k := by
    rw [Nat.div_lt_iff_lt_mul (by decide)]
    calc n * 2 ^ k < (n / 1000 * 1000 + 1000) * 2 ^ k :=
          Nat.mul_lt_mul_of_pos_right (Nat.lt_div_mul_add (by decide)) (Nat.two_pow_pos k)
      _ = (n / 1000 * 2 ^ k + 2 ^ k) * 1000 := by ring
  exact ⟨hlow.trans (div_le_roundDiv _ _), (roundDiv_le_succ _ _).trans hhigh⟩

/-- Below 53 bits: cutting what is rounded at `k` bits behind the point gives the whole part, if
what is left to the next whole number is more than half of the last bit. -/
theorem roundDiv_fraction_iff (n k : Nat) :
    roundDiv (n * 2 ^ k) 1000 / 2 ^ k = n / 1000 ↔
      500 < (1000 - n % 1000) * 2 ^ k ∨ k = 0 ∧ n % 1000 = 500 ∧ n / 1000 % 2 = 0 := by
  have hpos : 0 < 2 ^ k := Nat.two_pow_pos k
  have hn : n = 1000 * (n / 1000) + n % 1000 := (Nat.div_add_mod n 1000).symm
  have hrest : n % 1000 < 1000 := Nat.mod_lt n (by decide)
  have hlow := (roundDiv_fraction_bounds n k).1
  have hparity : k = 0 ∧ 2 ^ k = 1 ∨ k ≠ 0 ∧ 2 ^ k % 2 = 0 := by
    cases k with
    | zero => exact .inl ⟨rfl, rfl⟩
    | succ k => exact .inr ⟨by omega, by rw [Nat.pow_succ]; omega⟩
  generalize n / 1000 = q at hn hlow ⊢
  generalize n % 1000 = r at hn hrest ⊢
  generalize 2 ^ k = s at hpos hlow hparity ⊢
  -- rounding never falls below the whole part, so only the next number counts
  have hcut : roundDiv (n * s) 1000 / s = q ↔ roundDiv (n * s) 1000 ≤ q * s + s - 1 := by
    rw [Nat.div_eq_iff hpos]
    omega
  rw [hcut, roundDiv_le_iff (by decide)]
  have hscaled : n * s = 1000 * (q * s) + r * s := by rw [hn]; ring
  have hleft : (1000 - r) * s = 1000 * s - r * s := Nat.sub_mul _ _ _
  have hfull : r * s ≤ 1000 * s := Nat.mul_le_mul_right s (by omega)
  -- a tie goes to the even number, which is the next one unless the last bit is before the point
  obtain ⟨rfl, rfl⟩ | ⟨hk, heven⟩ := hparity
  · omega
  · have hproduct : q * s % 2 = 0 := by rw [Nat.mul_mod, heven, Nat.mul_zero]
    generalize q * s = x at hscaled hproduct ⊢
    generalize r * s = y at hscaled hleft hfull
    omega

/-- From 53 bits on: rounding keeps the whole part if no bits are cut off from it. -/
theorem roundDiv_great_iff (n : Nat) {k : Nat} (hk : k ≠ 0) :
    roundDiv n (1000 * 2 ^ k) * 2 ^ k = n / 1000 ↔ 2 ^ k ∣ n / 1000 := by
  have hpos : 0 < 2 ^ k := Nat.two_pow_pos k
  have htwo : 2 ≤ 2 ^ k := Nat.le_self_pow hk 2
  constructor
  · intro h
    rw [← h]
    exact Nat.dvd_mul_left _ _
  · rintro ⟨c, hc⟩
    have hn : n = 1000 * (n / 1000) + n % 1000 := (Nat.div_add_mod n 1000).symm
    have hrest : n % 1000 < 1000 := Nat.mod_lt n (by decide)
    have hlow : c ≤ roundDiv n (1000 * 2 ^ k) := by
      refine le_trans ?_ (div_le_roundDiv _ _)
      rw [← Nat.div_div_eq_div_mul, hc, Nat.mul_div_cancel_left c hpos]
    have hhigh : roundDiv n (1000 * 2 ^ k) ≤ c := by
      rw [roundDiv_le_iff (by omega)]
      left
      rw [hn, hc]
      have hstep : (2 * c + 1) * (1000 * 2 ^ k) = 2000 * (2 ^ k * c) + 1000 * 2 ^ k := by ring
      omega
    rw [Nat.le_antisymm hhigh hlow, hc, Nat.mul_comm]

namespace Duration

/-! ## 2. The milliseconds of a duration -/

/-- The milliseconds of a number of microseconds come out exactly. -/
inductive MillisExact (n : Nat) : Prop
  /-- More than half of the last place is left to the next millisecond. -/
  | apart (small : n / 1000 < 2 ^ 53)
      (apart : 500 < (1000 - n % 1000) * 2 ^ (52 - (n / 1000).log2)) : MillisExact n
  /-- The last place is a millisecond and half of it is left: it is cut if what remains is even. -/
  | tie (last : (n / 1000).log2 = 52) (half : n % 1000 = 500) (even : n / 1000 % 2 = 0) :
      MillisExact n
  /-- The last place is more than a millisecond, but nothing is behind it. -/
  | whole (great : 2 ^ 53 ≤ n / 1000) (whole : 2 ^ ((n / 1000).log2 - 52) ∣ n / 1000) :
      MillisExact n

/-- Below 2^44 milliseconds they always do. -/
theorem millisExact_of_lt {n : Nat} (h : n < 2 ^ 44 * 1000) : MillisExact n := by
  have hsmall : n / 1000 < 2 ^ 44 := by omega
  have hlog : (n / 1000).log2 < 44 := log2_lt_of_lt hsmall
  have hrest : n % 1000 < 1000 := Nat.mod_lt n (by decide)
  refine .apart (by omega) ?_
  calc 500 < 1 * 2 ^ 9 := by decide
    _ ≤ (1000 - n % 1000) * 2 ^ (52 - (n / 1000).log2) :=
      Nat.mul_le_mul (by omega) (Nat.pow_le_pow_right (by decide) (by omega))

/-- Whole milliseconds do if there are only zeros behind their first 53 bits. -/
theorem millisExact_whole_iff (m : Nat) :
    MillisExact (m * 1000) ↔ 2 ^ (m.log2 - 52) ∣ m := by
  have hquotient : m * 1000 / 1000 = m := Nat.mul_div_cancel m (by decide)
  have hrest : m * 1000 % 1000 = 0 := Nat.mul_mod_left m 1000
  constructor
  · intro h
    cases h with
    | apart small _ =>
      rw [hquotient] at small
      have hlog : m.log2 < 53 := log2_lt_of_lt small
      rw [show m.log2 - 52 = 0 by omega]
      exact one_dvd m
    | tie _ half _ =>
      rw [hrest] at half
      cases half
    | whole _ whole =>
      rw [hquotient] at whole
      exact whole
  · intro h
    by_cases small : m < 2 ^ 53
    · refine .apart (by rw [hquotient]; exact small) ?_
      rw [hquotient, hrest]
      have := Nat.two_pow_pos (52 - m.log2)
      omega
    · exact .whole (by rw [hquotient]; omega) (by rw [hquotient]; exact h)

theorem millis_eq {d : Duration} {n : Nat} (micros : d.micros = n) :
    d.millis = ((Binary64.ofRatio false n 1000).truncate?).getD 0 := by
  have hsign : decide ((n : Int) < 0) = false := by simp
  unfold millis Binary64.ofIntRatio
  rw [micros, hsign, Int.natAbs_natCast]

theorem millis_zero {d : Duration} (micros : d.micros = 0) : d.millis = 0 := by
  rw [millis_eq (n := 0) micros]
  exact congrArg (·.getD 0) Binary64.truncate?_zero

/-- Milliseconds have no more than 57 bits, as durations are in range. -/
theorem log2_millis_lt {d : Duration} {n : Nat} (micros : d.micros = n) :
    (n / 1000).log2 < 57 := by
  have hgreatest : greatestMicros < 2 ^ 57 * 1000 := by decide
  have := d.inRange
  exact log2_lt_of_lt (by omega)

/-- Below 53 bits the milliseconds are rounded at some bits behind the point. -/
theorem millis_small {d : Duration} {n : Nat} (micros : d.micros = n) (pos : 0 < n)
    (small : n / 1000 < 2 ^ 53) :
    ∃ k, d.millis = (roundDiv (n * 2 ^ k) 1000 / 2 ^ k : Nat) ∧
      (k = 52 - (n / 1000).log2 ∨ n < 1000 ∧ 53 ≤ k) := by
  obtain ⟨k, hexponent, hk⟩ : ∃ k : Nat, Binary64.exponentOf n 1000 = -k ∧
      (k = 52 - (n / 1000).log2 ∨ n < 1000 ∧ 53 ≤ k) := by
    obtain hlt | hle := Nat.lt_or_ge n 1000
    · have := Binary64.exponentOf_of_lt pos hlt
      exact ⟨(-Binary64.exponentOf n 1000).toNat, by omega, .inr ⟨hlt, by omega⟩⟩
    · have hlog : (n / 1000).log2 < 53 := log2_lt_of_lt small
      refine ⟨52 - (n / 1000).log2, ?_, .inl rfl⟩
      rw [Binary64.exponentOf_of_le (by decide) hle]
      omega
  refine ⟨k, ?_, hk⟩
  have hfinite : Binary64.exponentOf n 1000 < Binary64.maxExponent := by
    unfold Binary64.maxExponent
    omega
  rw [millis_eq micros, Binary64.truncate?_ofRatio pos (by decide) hfinite, hexponent, neg_neg,
    twoTo_of_nonpos (e := -(k : Int)) (by omega), twoTo_natCast, Nat.mul_one, Nat.mul_one]
  rfl

/-- From 53 bits on they are rounded at some bits before the point. -/
theorem millis_great {d : Duration} {n : Nat} (micros : d.micros = n)
    (great : 2 ^ 53 ≤ n / 1000) :
    ∃ k, k = (n / 1000).log2 - 52 ∧ k ≠ 0 ∧ k ≤ 4 ∧
      d.millis = (roundDiv n (1000 * 2 ^ k) * 2 ^ k : Nat) := by
  have hlog : 53 ≤ (n / 1000).log2 := (Nat.le_log2 (by omega)).mpr great
  have hrange := log2_millis_lt micros
  have hexponent : Binary64.exponentOf n 1000 = ((n / 1000).log2 - 52 : Nat) := by
    rw [Binary64.exponentOf_of_le (by decide) (by omega)]
    omega
  obtain ⟨k, hk, hlast⟩ : ∃ k, k = (n / 1000).log2 - 52 ∧ k ≤ 4 := ⟨_, rfl, by omega⟩
  rw [← hk] at hexponent
  refine ⟨k, hk, by omega, hlast, ?_⟩
  have hfinite : Binary64.exponentOf n 1000 < Binary64.maxExponent := by
    rw [hexponent]
    unfold Binary64.maxExponent
    omega
  rw [millis_eq micros, Binary64.truncate?_ofRatio (by omega) (by decide) hfinite, hexponent,
    twoTo_of_nonpos (e := -(k : Int)) (by omega), twoTo_natCast, Nat.mul_one, Nat.div_one]
  rfl

/-- When milliseconds come out exactly. -/
theorem millis_eq_iff {d : Duration} {n : Nat} (micros : d.micros = n) :
    d.millis = (n / 1000 : Nat) ↔ MillisExact n := by
  obtain rfl | pos := Nat.eq_zero_or_pos n
  · rw [millis_zero micros]
    exact ⟨fun _ => millisExact_of_lt (by decide), fun _ => rfl⟩
  obtain small | great := Nat.lt_or_ge (n / 1000) (2 ^ 53)
  · obtain ⟨k, hmillis, hk⟩ := millis_small micros pos small
    rw [hmillis, Int.natCast_inj, roundDiv_fraction_iff]
    obtain rfl | ⟨hlt, hk⟩ := hk
    · constructor
      · rintro (happart | ⟨hlast, hhalf, heven⟩)
        · exact .apart small happart
        · refine .tie ?_ hhalf heven
          have hlog : (n / 1000).log2 < 53 := log2_lt_of_lt small
          omega
      · intro h
        cases h with
        | apart _ happart => exact .inl happart
        | tie hlast hhalf heven => exact .inr ⟨by omega, hhalf, heven⟩
        | whole great _ => omega
    · refine ⟨fun _ => millisExact_of_lt (by omega), fun _ => .inl ?_⟩
      have hrest : n % 1000 < 1000 := Nat.mod_lt n (by decide)
      calc 500 < 1 * 2 ^ 53 := by decide
        _ ≤ (1000 - n % 1000) * 2 ^ k :=
          Nat.mul_le_mul (by omega) (Nat.pow_le_pow_right (by decide) hk)
  · obtain ⟨k, rfl, hk, -, hmillis⟩ := millis_great micros great
    rw [hmillis, Int.natCast_inj, roundDiv_great_iff n hk]
    refine ⟨.whole great, fun h => ?_⟩
    cases h with
    | apart small _ => omega
    | tie last _ _ => omega
    | whole _ whole => exact whole

/-- They are never off by more than eight. -/
theorem millis_near {d : Duration} {n : Nat} (micros : d.micros = n) :
    ∃ k : Nat, d.millis = k ∧ k ≤ n / 1000 + 8 ∧ n / 1000 ≤ k + 8 := by
  obtain rfl | pos := Nat.eq_zero_or_pos n
  · exact ⟨0, millis_zero micros, by omega, by omega⟩
  obtain small | great := Nat.lt_or_ge (n / 1000) (2 ^ 53)
  · obtain ⟨k, hmillis, -⟩ := millis_small micros pos small
    obtain ⟨hlow, hhigh⟩ := roundDiv_fraction_bounds n k
    have hpos : 0 < 2 ^ k := Nat.two_pow_pos k
    have hceil : roundDiv (n * 2 ^ k) 1000 / 2 ^ k ≤ n / 1000 + 1 := by
      rw [← Nat.add_one_mul] at hhigh
      exact Nat.div_le_of_le_mul (hhigh.trans_eq (Nat.mul_comm _ _))
    have hfloor := (Nat.le_div_iff_mul_le hpos).mpr hlow
    exact ⟨_, hmillis, by omega, by omega⟩
  · obtain ⟨k, -, -, hk, hmillis⟩ := millis_great micros great
    have hpos : 0 < 2 ^ k := Nat.two_pow_pos k
    have hplace : 2 ^ k ≤ 2 ^ 4 := Nat.pow_le_pow_right (by decide) hk
    have hden : 0 < 1000 * 2 ^ k := by omega
    obtain ⟨hlow, hhigh⟩ := @roundDiv_near n (1000 * 2 ^ k) hden
    have hscaled : 2 * roundDiv n (1000 * 2 ^ k) * (1000 * 2 ^ k) =
        2000 * (roundDiv n (1000 * 2 ^ k) * 2 ^ k) := by ring
    exact ⟨_, hmillis, by omega, by omega⟩

end Duration

/-! ## 3. Timeouts of deployments -/

/-- The milliseconds that the deployment of a number gives for its timeouts. -/
structure MillisRead (n : Nat) (w : World) : Prop where
  /-- They are the whole milliseconds of the timeout just when these come out exactly. -/
  exact : ∀ name t, (w.deployments.get n).settings.timeout name w = .ok t →
    (Attribute.read w (.deployment n) name.label =
        .ok (.value (.int (t.duration.micros / 1000))) ↔
      Duration.MillisExact t.duration.micros.toNat)
  /-- So they are for all timeouts of less than 2^44 milliseconds. -/
  usual : ∀ name t, (w.deployments.get n).settings.timeout name w = .ok t →
    t.duration.micros < 2 ^ 44 * 1000 →
      Attribute.read w (.deployment n) name.label =
        .ok (.value (.int (t.duration.micros / 1000)))
  /-- Otherwise they are off by eight at most. -/
  near : ∀ name t, (w.deployments.get n).settings.timeout name w = .ok t →
    ∃ k, Attribute.read w (.deployment n) name.label = .ok (.value (.int k)) ∧
      k ≤ t.duration.micros / 1000 + 8 ∧ t.duration.micros / 1000 ≤ k + 8
  /-- Milliseconds that are written are not negative, and are read again just when there are only
  zeros behind their first 53 bits. -/
  written : ∀ (name : TimeoutName) m v,
    Attribute.write (.deployment n) name.label (.value (.int m)) w = (.ok (), v) →
      0 ≤ m ∧ (Attribute.read v (.deployment n) name.label = .ok (.value (.int m)) ↔
        2 ^ (m.toNat.log2 - 52) ∣ m.toNat)

section

variable {n : Nat} {w : World} {name : TimeoutName} {t : Timeout}

theorem read_deployment_timeout
    (readable : (w.deployments.get n).settings.timeout name w = .ok t) :
    Attribute.read w (.deployment n) name.label = .ok (.value (.int t.duration.millis)) := by
  have hread : Attribute.read w (.deployment n) name.label =
      ((w.deployments.get n).timeoutMillis name w).map fun k => .value (.int k) := by
    cases name <;> rfl
  rw [hread]
  unfold Deployment.timeoutMillis
  rw [readable]
  rfl

theorem read_millis_iff
    (readable : (w.deployments.get n).settings.timeout name w = .ok t) :
    Attribute.read w (.deployment n) name.label =
        .ok (.value (.int (t.duration.micros / 1000))) ↔
      Duration.MillisExact t.duration.micros.toNat := by
  have hmicros : t.duration.micros = t.duration.micros.toNat := (Int.toNat_of_nonneg t.nonneg).symm
  rw [read_deployment_timeout readable, ← Duration.millis_eq_iff hmicros, Int.natCast_div,
    ← hmicros]
  simp

/-- The timeout that is in force once milliseconds have been written. -/
theorem timeout_of_written {m : Int} {v : World}
    (h : Attribute.write (.deployment n) name.label (.value (.int m)) w = (.ok (), v)) :
    ∃ t, (v.deployments.get n).settings.timeout name v = .ok t ∧
      t.duration.micros = m * 1000 := by
  obtain ⟨t, k, hsettings, hmillis, hwrite⟩ | ⟨e, -, hwrite⟩ :=
    Attribute.write_deployment_timeout n name (.value (.int m)) w
  · rw [hwrite] at h
    cases h
    refine ⟨t, ?_, ?_⟩
    · show (w.deployments.get n).settings.timeout name _ = .ok t
      rw [hsettings, SettingsRef.timeout_withTimeout, if_pos rfl]
    · exact Duration.ofMicros_eq_ok_iff.mp ((Duration.ofMillis_int m).symm.trans hmillis)
  · rw [hwrite] at h
    cases h

end

/-- The milliseconds of timeouts are exact below 2^44, and from there on for those durations that
rounding to 53 bits does not move. -/
theorem millis_read (n : Nat) (w : World) : MillisRead n w := by
  constructor
  case exact => exact fun name t readable => read_millis_iff readable
  case usual =>
    intro name t readable husual
    refine (read_millis_iff readable).mpr (Duration.millisExact_of_lt ?_)
    have := t.nonneg
    omega
  case near =>
    intro name t readable
    have hmicros : t.duration.micros = t.duration.micros.toNat :=
      (Int.toNat_of_nonneg t.nonneg).symm
    obtain ⟨k, hmillis, hhigh, hlow⟩ := Duration.millis_near hmicros
    refine ⟨k, ?_, by omega, by omega⟩
    rw [read_deployment_timeout readable, hmillis]
  case written =>
    intro name m v hwrite
    obtain ⟨t, readable, hmicros⟩ := timeout_of_written hwrite
    have hnonneg : 0 ≤ m := by
      have := t.nonneg
      omega
    refine ⟨hnonneg, ?_⟩
    have hwhole : t.duration.micros / 1000 = m := by omega
    have hnat : t.duration.micros.toNat = m.toNat * 1000 := by omega
    rw [← Duration.millisExact_whole_iff, ← hnat, ← read_millis_iff readable, hwhole]

/-- The least number of milliseconds that needs 54 bits, as a timeout. -/
def Timeout.odd : Timeout := ⟨⟨9007199254740993000, by decide⟩, by decide⟩

/-- A deployment with that timeout. -/
def World.oddTimeout : World :=
  (World.leftTo .empty).setLive 0 (((World.leftTo .empty).live.get 0).withTimeout .odd .command)

/-- Milliseconds that need a bit more than a mantissa has can be written, and others are read. -/
theorem odd_millis_not_read_again :
    Attribute.write (.deployment 0) "timeout" (.value (.int 9007199254740993))
        (World.leftTo .empty) = (.ok (), World.oddTimeout) ∧
      Attribute.read World.oddTimeout (.deployment 0) "timeout" =
        .ok (.value (.int 9007199254740992)) := by
  have hmillis : Duration.ofMillis (.int 9007199254740993) = .ok Timeout.odd.duration := by
    rw [Duration.ofMillis_int, Duration.ofMicros_eq_ok_iff]
    decide
  have hentry (given : Item) (w : World) : Attribute.write (.deployment 0) "timeout" given w =
      Deployment.write 0 (.timeout .command (given.toValue w)) w := rfl
  have hreadable : (World.oddTimeout.deployments.get 0).settings.timeout .command .oddTimeout =
      .ok Timeout.odd :=
    SettingsRef.timeout_withTimeout 0 .command .command .odd (World.leftTo .empty)
  have hrounded : Timeout.odd.duration.millis = 9007199254740992 := by decide +kernel
  constructor
  · rw [hentry]
    simp only [Item.toValue, Deployment.write, hmillis]
    rfl
  · rw [← hrounded]
    exact read_deployment_timeout hreadable

end RedisLink
