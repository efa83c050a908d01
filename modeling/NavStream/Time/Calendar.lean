/-!
# Calendar dates and their text

An instant is counted in seconds of the Unix scale. Its date follows from the number of days since
the first of March of the year zero, from which on leap days come last in their years.

* `Date.ofUnixDay` — the Gregorian date of a day;
* `Instant` — a second with its fraction;
* `Instant.rfc3339`, `Instant.rfc3339Zulu` — the text of an instant, with either mark for UTC.
-/

namespace NavStream.Time

/-- A date of the Gregorian calendar, extended to all years. -/
structure Date where
  /-- The year; zero is the year before the year one. -/
  year : Int
  /-- The month, from 1 to 12. -/
  month : Nat
  /-- The day of the month, from 1. -/
  day : Nat
deriving DecidableEq, Repr

namespace Date

/-- The date of a day counted from the first of January 1970. -/
def ofUnixDay (unixDay : Int) : Date :=
  -- days since the first of March of the year zero, in eras of 400 years
  let days := unixDay + 719468
  let era := Int.fdiv days 146097
  let dayOfEra := (days - era * 146097).toNat
  let yearOfEra :=
    (dayOfEra - dayOfEra / 1460 + dayOfEra / 36524 - dayOfEra / 146096) / 365
  let dayOfYear := dayOfEra - (365 * yearOfEra + yearOfEra / 4 - yearOfEra / 100)
  -- months are counted from March
  let marchMonth := (5 * dayOfYear + 2) / 153
  let day := dayOfYear - (153 * marchMonth + 2) / 5 + 1
  let month := if marchMonth < 10 then marchMonth + 3 else marchMonth - 9
  ⟨yearOfEra + era * 400 + (if month ≤ 2 then 1 else 0), month, day⟩

end Date

/-- A number in decimal, with zeros in front up to `width` digits. -/
def padded (width n : Nat) : String :=
  let digits := Nat.toDigits 10 n
  String.ofList (List.replicate (width - digits.length) '0' ++ digits)

/-- A year: four digits, and a sign outside the years 0 to 9999. -/
def yearText (year : Int) : String :=
  if 0 ≤ year && year ≤ 9999 then padded 4 year.toNat
  else (if year < 0 then "-" else "+") ++ padded 4 year.natAbs

/-- A fraction of a second in the fewest of 0, 3, 6 or 9 digits that are exact. -/
def fractionText (nanos : Nat) : String :=
  if nanos = 0 then ""
  else if nanos % 1000000 = 0 then "." ++ padded 3 (nanos / 1000000)
  else if nanos % 1000 = 0 then "." ++ padded 6 (nanos / 1000)
  else "." ++ padded 9 nanos

/-- An instant of coordinated universal time. -/
structure Instant where
  /-- Whole seconds since the start of 1970, leap seconds not counted. -/
  unix : Int
  /-- Nanoseconds since that second. -/
  nanos : Nat
deriving DecidableEq, Repr

namespace Instant

/-- Seconds of a day. -/
def secondsPerDay : Int := 86400

/-- The date of an instant. -/
def date (t : Instant) : Date := Date.ofUnixDay (Int.fdiv t.unix secondsPerDay)

/-- Whether the calendar reaches the instant. -/
def isInCalendar (t : Instant) : Bool := -262143 ≤ t.date.year && t.date.year ≤ 262142

/-- Whether one instant comes before another or is the same. -/
def le (s t : Instant) : Bool := s.unix < t.unix || (s.unix = t.unix && s.nanos ≤ t.nanos)

/-- The earlier of two instants. -/
def min (s t : Instant) : Instant := if s.le t then s else t

/-- The later of two instants. -/
def max (s t : Instant) : Instant := if s.le t then t else s

/-- Date and time of day, without a mark for the zone. -/
def civilText (t : Instant) : String :=
  let second := (Int.fmod t.unix secondsPerDay).toNat
  let date := t.date
  yearText date.year ++ "-" ++ padded 2 date.month ++ "-" ++ padded 2 date.day ++ "T" ++
    padded 2 (second / 3600) ++ ":" ++ padded 2 (second / 60 % 60) ++ ":" ++
    padded 2 (second % 60) ++ fractionText t.nanos

/-- The text of an instant with the numeric mark for UTC. -/
def rfc3339 (t : Instant) : String := t.civilText ++ "+00:00"

/-- The text of an instant with the letter for UTC. -/
def rfc3339Zulu (t : Instant) : String := t.civilText ++ "Z"

end Instant

end NavStream.Time
