import NavStream.Bytes.Fields
import NavStream.Message.Basic

/-!
# Inertial logs

The layouts of the logs of an inertial unit and of the navigation solution it contributes to. Each
reader reads its fields in order and leaves what follows them alone.
-/

namespace NavStream.Oem

open NavStream.Bytes NavStream.Bytes.FieldReader

/-- Three numbers along the axes of a frame. -/
def vector3 : FieldReader Vector3 := do
  let x ← float64
  let y ← float64
  let z ← float64
  return ⟨x, y, z⟩

/-- Changes over one sample, corrected for bias and gravity, in the right-front-up frame of the
unit. -/
structure CorrImuData where
  gpsWeek : UInt32
  gpsSeconds : Float
  /-- Radians. -/
  angleChange : Vector3
  /-- Meters per second. -/
  velocityChange : Vector3
deriving DecidableEq

/-- The layout of corrected changes. -/
def CorrImuData.reader : FieldReader CorrImuData := do
  let gpsWeek ← word32
  let gpsSeconds ← float64
  let angleChange ← vector3
  let velocityChange ← vector3
  return { gpsWeek, gpsSeconds, angleChange, velocityChange }

/-- Covariances of an inertial solution, row after row. -/
structure InsCov where
  gpsWeek : UInt32
  gpsSeconds : Float
  /-- Square meters, earth-fixed. -/
  positionCovariance : Matrix3
  /-- Square degrees, about the axes of the local level. -/
  attitudeCovariance : Matrix3
  /-- Squares of meters per second, earth-fixed. -/
  velocityCovariance : Matrix3
deriving DecidableEq

/-- The layout of covariances. -/
def InsCov.reader : FieldReader InsCov := do
  let gpsWeek ← word32
  let gpsSeconds ← float64
  let positionCovariance ← floats 9
  let attitudeCovariance ← floats 9
  let velocityCovariance ← floats 9
  return { gpsWeek, gpsSeconds, positionCovariance, attitudeCovariance, velocityCovariance }

/-- Position, velocity and attitude of an inertial solution. -/
structure InsPva where
  gpsWeek : UInt32
  gpsSeconds : Float
  latitude : Float
  longitude : Float
  /-- Height above the ellipsoid. -/
  height : Float
  northVelocity : Float
  eastVelocity : Float
  upVelocity : Float
  /-- Degrees, as the other angles. -/
  roll : Float
  pitch : Float
  azimuth : Float
  status : InsStatusCode
deriving DecidableEq

/-- The layout of an inertial solution. -/
def InsPva.reader : FieldReader InsPva := do
  let gpsWeek ← word32
  let gpsSeconds ← float64
  let latitude ← float64
  let longitude ← float64
  let height ← float64
  let northVelocity ← float64
  let eastVelocity ← float64
  let upVelocity ← float64
  let roll ← float64
  let pitch ← float64
  let azimuth ← float64
  let status := InsStatusCode.ofCode (← word32)
  return { gpsWeek, gpsSeconds, latitude, longitude, height, northVelocity, eastVelocity,
           upVelocity, roll, pitch, azimuth, status }

/-- An extended inertial solution, of which only the status leads to a message. -/
structure InsPvaX where
  insStatus : UInt32
  positionType : SolutionType
  latitude : Float
  longitude : Float
  height : Float
  undulation : Float32
  extendedSolutionStatus : UInt32
  timeSinceUpdate : UInt16
deriving DecidableEq

/-- The layout of an extended inertial solution. -/
def InsPvaX.reader : FieldReader InsPvaX := do
  let insStatus ← word32
  let positionType := SolutionType.ofCode (← word32)
  let latitude ← float64
  let longitude ← float64
  let height ← float64
  let undulation ← float32
  -- velocity, attitude and the standard deviations of all three
  skip (6 * 8 + 9 * 4)
  let extendedSolutionStatus ← word32
  let timeSinceUpdate ← word16
  return { insStatus, positionType, latitude, longitude, height, undulation,
           extendedSolutionStatus, timeSinceUpdate }

/-- A raw sample in the counts of the unit, which reports its second axis negated. -/
structure RawImu where
  /-- The model of the unit, which only the extended logs tell. -/
  imuType : Option UInt8
  imuError : UInt8
  gpsWeek : UInt32
  gpsSeconds : Float
  imuStatus : UInt32
  zVelocityChange : Int32
  yVelocityChangeNeg : Int32
  xVelocityChange : Int32
  zAngleChange : Int32
  yAngleChangeNeg : Int32
  xAngleChange : Int32
deriving DecidableEq

namespace RawImu

/-- The fields that both layouts of a raw sample end in. -/
def counts (imuType : Option UInt8) (imuError : UInt8) (gpsWeek : UInt32) (gpsSeconds : Float) :
    FieldReader RawImu := do
  let imuStatus ← word32
  let zVelocityChange ← int32
  let yVelocityChangeNeg ← int32
  let xVelocityChange ← int32
  let zAngleChange ← int32
  let yAngleChangeNeg ← int32
  let xAngleChange ← int32
  return { imuType, imuError, gpsWeek, gpsSeconds, imuStatus, zVelocityChange, yVelocityChangeNeg,
           xVelocityChange, zAngleChange, yAngleChangeNeg, xAngleChange }

/-- The layout of a raw sample. -/
def reader : FieldReader RawImu := do
  let gpsWeek ← word32
  let gpsSeconds ← float64
  counts none 0 gpsWeek gpsSeconds

/-- The layout of a raw sample that tells the model of the unit. -/
def extendedReader : FieldReader RawImu := do
  let imuError ← word8
  let imuType ← word8
  let gpsWeek ← word16
  let gpsSeconds ← float64
  counts (some imuType) imuError gpsWeek.toUInt32 gpsSeconds

end RawImu

end NavStream.Oem
