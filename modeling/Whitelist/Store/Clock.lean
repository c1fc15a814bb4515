/-!
# Time

A store looks at a clock whenever it has to know whether a lease has run out, and when it notes that
a record was changed. Between two looks some time passes.

## What is here

* `Clock`, `Clock.look`, `Clock.elapse` — the time, in nanoseconds, and its passing.
* `civilDate`, `timestamp` — a time as a date and a time of day.
-/

set_option autoImplicit false
namespace Whitelist

/-- The time now, and the pauses that will follow the next looks. Without more pauses planned, one
nanosecond passes between two looks. -/
structure Clock where
  now : Nat := 0
  pauses : List Nat := []
  deriving DecidableEq, Repr

namespace Clock

/-- The time that a look at the clock shows, and the clock after it. -/
def look (clock : Clock) : Nat × Clock :=
  (clock.now, { now := clock.now + clock.pauses.headD 1, pauses := clock.pauses.tail })

/-- The clock after so many nanoseconds. -/
def elapse (clock : Clock) (pause : Nat) : Clock := { clock with now := clock.now + pause }

end Clock

/-! ## Dates -/

/-- Year, month and day of the day so many days after the first of March of the year 0. Years are
counted from March, so that a leap day is the last day of a year. -/
def civilDate (day : Nat) : Nat × Nat × Nat :=
  let era := day / 146097
  let ofEra := day % 146097
  let year := (ofEra - ofEra / 1460 + ofEra / 36524 - ofEra / 146096) / 365
  let ofYear := ofEra - (365 * year + year / 4 - year / 100)
  let month := (5 * ofYear + 2) / 153
  let dayOfMonth := ofYear - (153 * month + 2) / 5 + 1
  let turn := if month < 10 then 0 else 1
  (era * 400 + year + turn, if month < 10 then month + 3 else month - 9, dayOfMonth)

/-- The number of days from the first of March of the year 0 to the start of 1970. -/
def daysBeforeEpoch : Nat := 719468

/-- The number with zeros in front until it has so many digits. -/
def padded (width n : Nat) : String :=
  let digits := Nat.toDigits 10 n
  .ofList (List.replicate (width - digits.length) '0' ++ digits)

/-- Date and time of day of a time in nanoseconds since the start of 1970. -/
def timestamp (nanoseconds : Nat) : String :=
  let seconds := nanoseconds / 1000000000
  let (year, month, day) := civilDate (seconds / 86400 + daysBeforeEpoch)
  let ofDay := seconds % 86400
  padded 4 year ++ "-" ++ padded 2 month ++ "-" ++ padded 2 day ++ " "
    ++ padded 2 (ofDay / 3600) ++ ":" ++ padded 2 (ofDay / 60 % 60) ++ ":" ++ padded 2 (ofDay % 60)

end Whitelist
