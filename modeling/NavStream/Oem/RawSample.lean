import NavStream.Diagnostic
import NavStream.Oem.Imu
import NavStream.Oem.Log.Inertial
import NavStream.Time.Gps

/-!
# Raw inertial samples

Counts of an inertial unit become a sample in the frame of the vehicle, and the spacing of samples
is watched.
-/

namespace NavStream.Oem

/-- Scales the counts of a unit to a sample. -/
def scaleRawImu (log : RawImu) (parameter : ImuParameter) (mapping : ImuFrameMapping) : Imu :=
  let accel := parameter.accelScale * parameter.samplingRate
  let gyro := parameter.gyroScale * parameter.samplingRate
  let toVehicle (x yNeg z : Int32) : Vector3 :=
    let y := -yNeg.toFloat
    match mapping with
    | .rightFrontUp => frontLeftUp x.toFloat y z.toFloat
    | .frontLeftUp => frontLeftUp y x.toFloat (-z.toFloat)
  { measurementTime := Time.gpsSecondsOfWeek log.gpsWeek log.gpsSeconds
    angularVelocity :=
      (toVehicle log.xAngleChange log.yAngleChangeNeg log.zAngleChange).scale gyro
    linearAcceleration :=
      (toVehicle log.xVelocityChange log.yVelocityChangeNeg log.zVelocityChange).scale accel }

/-- The time of the previous raw sample. -/
structure ImuClock where
  previous : Option Float := none
deriving DecidableEq

namespace ImuClock

instance : Inhabited ImuClock := ⟨{}⟩

/-- How far two samples may be from one period apart. -/
def tolerance : Float := 1e-4

/-- Takes a sample in. A report is made where it does not follow the previous one by one period. -/
def tick (clock : ImuClock) (time period : Float) : ImuClock × List Diagnostic :=
  let diagnostics :=
    match clock.previous with
    | none => []
    | some previous =>
      let gap := time - previous
      if tolerance < (gap - period).abs then [.irregularSampling gap period] else []
  ({ previous := some time }, diagnostics)

end ImuClock

end NavStream.Oem
