import NavStream.Bytes.Fields
import NavStream.Message.Basic
import NavStream.Text.Utf8

/-!
# Position, velocity and heading logs

The layouts of the logs that report where a receiver is, how it moves and where it points. Each
reader reads its fields in order and leaves what follows them alone.
-/

namespace NavStream.Oem

open NavStream.Bytes NavStream.Bytes.FieldReader

/-- A text of `n` bytes, padded with zeros. -/
def paddedText (n : Nat) : FieldReader String := do
  return Text.decodeLossy ((← take n).takeWhile (· != 0))

/-- A position log. -/
structure BestPos where
  solutionStatus : SolutionStatus
  positionType : SolutionType
  latitude : Float
  longitude : Float
  /-- Height above mean sea level. -/
  heightMsl : Float
  /-- Mean sea level above the ellipsoid. -/
  undulation : Float32
  datumId : UInt32
  latitudeStdDev : Float32
  longitudeStdDev : Float32
  heightStdDev : Float32
  baseStationId : String
  differentialAge : Float32
  solutionAge : Float32
  numSatsTracked : UInt8
  numSatsInSolution : UInt8
  numSatsL1 : UInt8
  numSatsMulti : UInt8
  extendedSolutionStatus : UInt8
  galileoBeidouUsedMask : UInt8
  gpsGlonassUsedMask : UInt8
deriving DecidableEq

namespace BestPos

/-- The layout of a position log. -/
def reader : FieldReader BestPos := do
  let solutionStatus := SolutionStatus.ofCode (← word32)
  let positionType := SolutionType.ofCode (← word32)
  let latitude ← float64
  let longitude ← float64
  let heightMsl ← float64
  let undulation ← float32
  let datumId ← word32
  let latitudeStdDev ← float32
  let longitudeStdDev ← float32
  let heightStdDev ← float32
  let baseStationId ← paddedText 4
  let differentialAge ← float32
  let solutionAge ← float32
  let numSatsTracked ← word8
  let numSatsInSolution ← word8
  let numSatsL1 ← word8
  let numSatsMulti ← word8
  skip 1
  let extendedSolutionStatus ← word8
  let galileoBeidouUsedMask ← word8
  let gpsGlonassUsedMask ← word8
  return { solutionStatus, positionType, latitude, longitude, heightMsl, undulation, datumId,
           latitudeStdDev, longitudeStdDev, heightStdDev, baseStationId, differentialAge,
           solutionAge, numSatsTracked, numSatsInSolution, numSatsL1, numSatsMulti,
           extendedSolutionStatus, galileoBeidouUsedMask, gpsGlonassUsedMask }

/-- The log as a message of its own. -/
def bestPosition (log : BestPos) (time : Float) : BestPosition where
  measurementTime := time
  position := ⟨log.latitude, log.longitude, log.heightMsl⟩
  undulation := log.undulation
  datumId := log.datumId
  positionStdDev :=
    ⟨log.latitudeStdDev.toFloat, log.longitudeStdDev.toFloat, log.heightStdDev.toFloat⟩
  baseStationId := log.baseStationId
  differentialAge := log.differentialAge
  solutionAge := log.solutionAge
  numSatsTracked := log.numSatsTracked.toUInt32
  numSatsInSolution := log.numSatsInSolution.toUInt32
  numSatsL1 := log.numSatsL1.toUInt32
  numSatsMulti := log.numSatsMulti.toUInt32
  extendedSolutionStatus := log.extendedSolutionStatus.toUInt32
  galileoBeidouUsedMask := log.galileoBeidouUsedMask.toUInt32
  gpsGlonassUsedMask := log.gpsGlonassUsedMask.toUInt32
  solutionStatus := log.solutionStatus
  solutionType := log.positionType

end BestPos

/-- A velocity log. -/
structure BestVel where
  solutionStatus : SolutionStatus
  velocityType : SolutionType
  latency : Float32
  age : Float32
  horizontalSpeed : Float
  /-- Degrees from true north. -/
  trackOverGround : Float
  verticalSpeed : Float
deriving DecidableEq

/-- The layout of a velocity log. -/
def BestVel.reader : FieldReader BestVel := do
  let solutionStatus := SolutionStatus.ofCode (← word32)
  let velocityType := SolutionType.ofCode (← word32)
  let latency ← float32
  let age ← float32
  let horizontalSpeed ← float64
  let trackOverGround ← float64
  let verticalSpeed ← float64
  return { solutionStatus, velocityType, latency, age, horizontalSpeed, trackOverGround,
           verticalSpeed }

/-- The layout of a heading log, as the message it becomes. -/
def headingReader (time : Float) : FieldReader Heading := do
  let solutionStatus := SolutionStatus.ofCode (← word32)
  let positionType := SolutionType.ofCode (← word32)
  let baselineLength ← float32
  let heading ← float32
  let pitch ← float32
  skip 4
  let headingStdDev ← float32
  let pitchStdDev ← float32
  let stationId ← paddedText 4
  let numSatsTracked ← word8
  let numSatsInSolution ← word8
  let numSatsAboveMask ← word8
  let numSatsMulti ← word8
  let solutionSource ← word8
  let extendedSolutionStatus ← word8
  let galileoBeidouSigMask ← word8
  let gpsGlonassSigMask ← word8
  return { measurementTime := time
           solutionStatus := some solutionStatus
           positionType := some positionType
           baselineLength, heading, pitch, headingStdDev, pitchStdDev, stationId
           numSatsTracked := numSatsTracked.toUInt32
           numSatsInSolution := numSatsInSolution.toUInt32
           numSatsAboveMask := numSatsAboveMask.toUInt32
           numSatsMulti := numSatsMulti.toUInt32
           solutionSource := solutionSource.toUInt32
           extendedSolutionStatus := extendedSolutionStatus.toUInt32
           galileoBeidouSigMask := galileoBeidouSigMask.toUInt32
           gpsGlonassSigMask := gpsGlonassSigMask.toUInt32 }

end NavStream.Oem
