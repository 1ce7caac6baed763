/-
RedisLink.Duration — spans of time in whole microseconds.

A duration lies within 999999999 days of zero on the negative side and one day
less a microsecond beyond that on the positive side; the bounds are part of the
type. It has two texts: `text` for messages and `shown` for records. Converting
to seconds or milliseconds divides exactly and rounds once.
-/
import RedisLink.Number.Binary64

namespace RedisLink

open RedisLink.Number

/-- The microseconds of a day. -/
def microsPerDay : Int := 86400000000

/-- The greatest number of days of a duration. -/
def greatestDays : Int := 999999999

/-- The least number of microseconds of a duration. -/
def leastMicros : Int := -greatestDays * microsPerDay

/-- The greatest number of microseconds of a duration. -/
def greatestMicros : Int := (greatestDays + 1) * microsPerDay - 1

/-- A span of time in whole microseconds. -/
structure Duration where
  micros : Int
  inRange : leastMicros ≤ micros ∧ micros ≤ greatestMicros
deriving DecidableEq

namespace Duration

/-- The duration of a number of microseconds, if it is in range. -/
def ofMicros? (micros : Int) : Option Duration :=
  if h : leastMicros ≤ micros ∧ micros ≤ greatestMicros then some ⟨micros, h⟩ else none

theorem micros_of_ofMicros? {n : Int} {d : Duration} (h : ofMicros? n = some d) : d.micros = n := by
  unfold ofMicros? at h
  split at h
  · simp only [Option.some.injEq] at h
    exact h ▸ rfl
  · simp at h

/-- The whole days of a duration, rounded down. -/
def days (d : Duration) : Int := d.micros / microsPerDay

/-- The microseconds of a duration behind its whole days. -/
def dayMicros (d : Duration) : Nat := (d.micros % microsPerDay).toNat

/-- Whether a duration is negative. -/
def isNegative (d : Duration) : Bool := d.micros < 0

/-- A number with at least a given number of digits. -/
def padded (width n : Nat) : String :=
  let ds := Nat.toDigits 10 n
  String.ofList (List.replicate (width - ds.length) '0' ++ ds)

/-- The text of a duration: days if there are any, hours, minutes, seconds, and a fraction if there
is one. -/
def text (d : Duration) : String :=
  let seconds := d.dayMicros / 1000000
  let fraction := d.dayMicros % 1000000
  let clock := toString (seconds / 3600) ++ ":" ++ padded 2 (seconds / 60 % 60) ++ ":" ++
    padded 2 (seconds % 60)
  let head :=
    if d.days = 0 then ""
    else toString d.days ++ (if d.days.natAbs = 1 then " day, " else " days, ")
  head ++ clock ++ (if fraction = 0 then "" else "." ++ padded 6 fraction)

/-- A duration as it is shown inside a record: its parts that are not zero, by name. -/
def shown (d : Duration) : String :=
  let seconds := d.dayMicros / 1000000
  let fraction := d.dayMicros % 1000000
  let parts := (if d.days = 0 then [] else ["days=" ++ toString d.days]) ++
    (if seconds = 0 then [] else ["seconds=" ++ toString seconds]) ++
    (if fraction = 0 then [] else ["microseconds=" ++ toString fraction])
  "datetime.timedelta(" ++ (if parts.isEmpty then "0" else String.intercalate ", " parts) ++ ")"

/-- A duration in seconds, rounded to the nearest binary64 number. -/
def seconds (d : Duration) : Binary64 := Binary64.ofIntRatio d.micros 1000000

/-- A duration in milliseconds: the quotient rounded to the nearest binary64 number, then cut to
its whole part. -/
def millis (d : Duration) : Int := ((Binary64.ofIntRatio d.micros 1000).truncate?).getD 0

end Duration

/-- A duration that is not negative, as timeouts are. -/
structure Timeout where
  duration : Duration
  nonneg : 0 ≤ duration.micros
deriving DecidableEq

/-- The timeout of a duration, if it is not negative. -/
def Timeout.ofDuration? (d : Duration) : Option Timeout :=
  if h : 0 ≤ d.micros then some ⟨d, h⟩ else none

/-- The timeout of a command unless another is set: one minute. -/
def Timeout.command : Timeout := ⟨⟨60000000, by decide⟩, by decide⟩

/-- The timeout of a shutdown unless another is set: a tenth of a second. -/
def Timeout.shutdown : Timeout := ⟨⟨100000, by decide⟩, by decide⟩

end RedisLink
