import NavStream.Time.Calendar

/-!
# GPS time

Receivers count seconds from the start of GPS time without leap seconds.

* `gpsSeconds`, `gpsSecondsOfWeek` — the count of a week and a time of week;
* `leapSeconds` — how far GPS time is ahead of UTC;
* `gpsToUtc` — the UTC instant of a count.
-/

namespace NavStream.Time

/-- Seconds of a week. -/
def secondsPerWeek : Float := 604800.0

/-- Seconds since the start of GPS time, of a week and milliseconds of it. -/
def gpsSeconds (week : UInt16) (millis : UInt32) : Float :=
  week.toFloat * secondsPerWeek + millis.toFloat * 1e-3

/-- Seconds since the start of GPS time, of a week and seconds of it. -/
def gpsSecondsOfWeek (week : UInt32) (seconds : Float) : Float :=
  week.toFloat * secondsPerWeek + seconds

/-- The start of GPS time, the sixth of January 1980, in seconds of the Unix scale. -/
def gpsEpoch : Int := 315964800

/-- The Unix seconds at which GPS time gained on UTC, with the lead from then on. -/
def leapTable : List (Int × Nat) := [
  (362793600, 1), (394329600, 2), (425865600, 3), (489024000, 4), (567993600, 5),
  (631152000, 6), (662688000, 7), (709948800, 8), (741484800, 9), (773020800, 10),
  (820454400, 11), (867715200, 12), (915148800, 13), (1136073600, 14), (1230768000, 15),
  (1341100800, 16), (1435708800, 17), (1483228800, 18)]

/-- How many seconds GPS time is ahead of UTC at a whole GPS second. -/
def leapSeconds (gps : Int) : Nat :=
  match leapTable.reverse.find? fun (utc, leaps) => utc + leaps ≤ gpsEpoch + gps with
  | some (_, leaps) => leaps
  | none => 0

/-- The Unix second of a whole GPS second. -/
def unixOfGps (gps : Int) : Int := gpsEpoch + gps - leapSeconds gps

/-- The UTC instant of a count of GPS seconds, if the count is finite and the calendar reaches it.
The fraction is rounded to nanoseconds and never up to the next second. -/
def gpsToUtc (gps : Float) : Option Instant :=
  if gps.isNaN || gps.isInf then none
  else
    let whole := gps.floor
    let nanos := ((gps - whole) * 1e9).round
    let instant : Instant :=
      { unix := unixOfGps whole.toInt64.toInt
        nanos := if nanos ≤ 999999999.0 then nanos.toUInt32.toNat else 999999999 }
    if instant.isInCalendar then some instant else none

end NavStream.Time
