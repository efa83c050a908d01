/-!
# The binary logs that are understood

A binary frame names its log by a number. `LogId` lists the logs that lead to messages, with their
numbers and the lengths that their payloads must have.

* `LogId.ofCode?` — the log of a number;
* `LogId.accepts` — whether a payload of some length can be one of that log.
-/

namespace NavStream.Oem

/-- The logs that are understood. Several logs share one layout. -/
inductive LogId where
  | bestPos | psrPos | bestGnssPos | bestVel | psrVel | bestGnssVel | corrImuData | corrImuDataS
  | imuRateCorrImuS | insCov | insCovS | insPva | insPvaS | insPvaX | rawImu | rawImuS | rawImuX
  | rawImuSX | gpsEphemeris | bdsEphemeris | gloEphemeris | range | heading
deriving DecidableEq, Repr

/-- How long the payloads of a log are. -/
inductive PayloadLength where
  /-- Always the same number of bytes. -/
  | fixed (length : Nat)
  /-- A count of four bytes and any number of records. -/
  | records (recordLength : Nat)
deriving DecidableEq, Repr

namespace PayloadLength

/-- Whether a payload may have a length. -/
def admits : PayloadLength → Nat → Bool
  | fixed expected, length => length == expected
  | records recordLength, length => 4 ≤ length && (length - 4) % recordLength == 0

end PayloadLength

namespace LogId

/-- Every log. -/
def all : List LogId := [
  bestPos, psrPos, bestGnssPos, bestVel, psrVel, bestGnssVel, corrImuData, corrImuDataS,
  imuRateCorrImuS, insCov, insCovS, insPva, insPvaS, insPvaX, rawImu, rawImuS, rawImuX, rawImuSX,
  gpsEphemeris, bdsEphemeris, gloEphemeris, range, heading]

/-- The number of a log. -/
def code : LogId → UInt16
  | bestPos => 42
  | psrPos => 47
  | bestGnssPos => 1429
  | bestVel => 99
  | psrVel => 100
  | bestGnssVel => 1430
  | corrImuData => 812
  | corrImuDataS => 813
  | imuRateCorrImuS => 1362
  | insCov => 264
  | insCovS => 320
  | insPva => 507
  | insPvaS => 508
  | insPvaX => 1465
  | rawImu => 268
  | rawImuS => 325
  | rawImuX => 1461
  | rawImuSX => 1462
  | gpsEphemeris => 7
  | bdsEphemeris => 1696
  | gloEphemeris => 723
  | range => 43
  | heading => 971

/-- The log of a number. -/
def ofCode? (code : UInt16) : Option LogId := all.find? (·.code == code)

/-- The name of a log. -/
def name : LogId → String
  | bestPos => "BestPos"
  | psrPos => "PsrPos"
  | bestGnssPos => "BestGnssPos"
  | bestVel => "BestVel"
  | psrVel => "PsrVel"
  | bestGnssVel => "BestGnssVel"
  | corrImuData => "CorrImuData"
  | corrImuDataS => "CorrImuDataS"
  | imuRateCorrImuS => "ImuRateCorrImuS"
  | insCov => "InsCov"
  | insCovS => "InsCovS"
  | insPva => "InsPva"
  | insPvaS => "InsPvaS"
  | insPvaX => "InsPvaX"
  | rawImu => "RawImu"
  | rawImuS => "RawImuS"
  | rawImuX => "RawImuX"
  | rawImuSX => "RawImuSX"
  | gpsEphemeris => "GpsEphemeris"
  | bdsEphemeris => "BdsEphemeris"
  | gloEphemeris => "GloEphemeris"
  | range => "Range"
  | heading => "Heading"

/-- The length of a log's payloads. -/
def payloadLength : LogId → PayloadLength
  | bestPos | psrPos | bestGnssPos => .fixed 72
  | bestVel | psrVel | bestGnssVel => .fixed 44
  | corrImuData | corrImuDataS | imuRateCorrImuS => .fixed 60
  | insCov | insCovS => .fixed 228
  | insPva | insPvaS => .fixed 88
  | insPvaX => .fixed 126
  | rawImu | rawImuS | rawImuX | rawImuSX => .fixed 40
  | gpsEphemeris => .fixed 224
  | bdsEphemeris => .fixed 196
  | gloEphemeris => .fixed 144
  | heading => .fixed 44
  | range => .records 44

/-- Whether a payload of some length can be one of this log. -/
def accepts (id : LogId) (length : Nat) : Bool := id.payloadLength.admits length

/-- A log is found by its own number. -/
theorem ofCode?_code (id : LogId) : ofCode? id.code = some id := by
  cases id <;> decide

end LogId

end NavStream.Oem
