import NavStream.Axes
import NavStream.Oem.Log.Inertial
import NavStream.Time.Gps

/-!
# Inertial navigation samples

Solutions, covariances and corrected rates arrive as separate logs. Every solution gives a sample,
to which the latest covariances are added, and the latest rates if they are of the same time.
-/

namespace NavStream.Oem

/-- A log of the inertial group. -/
inductive InsUpdate where
  | rates (log : CorrImuData)
  | covariance (log : InsCov)
  | solution (log : InsPva)
deriving DecidableEq

/-- Rates of turn and acceleration at a time. -/
structure Rates where
  time : Float
  angularVelocity : Vector3
  linearAcceleration : Vector3
deriving DecidableEq

/-- Covariances in the order of messages. -/
structure Covariances where
  position : Matrix3
  eulerAngles : Matrix3
  linearVelocity : Matrix3
deriving DecidableEq

/-- The latest rates and covariances. -/
structure InsAccumulator where
  /-- Samples per second, by which changes over one sample become rates. -/
  rate : Float
  rates : Option Rates := none
  covariances : Option Covariances := none
deriving DecidableEq

/-- The entry of a matrix that stands where `index` stands once the first two rows, and the first
two columns, have changed places. -/
def exchangedIndex : Fin 9 → Fin 9
  | 0 => 4
  | 1 => 3
  | 2 => 5
  | 3 => 1
  | 4 => 0
  | 5 => 2
  | 6 => 7
  | 7 => 6
  | 8 => 8

/-- Exchanging twice changes nothing. -/
theorem exchangedIndex_exchangedIndex (index : Fin 9) :
    exchangedIndex (exchangedIndex index) = index := by
  revert index
  decide

/-- The covariance of roll, pitch and yaw in square radians, from that of pitch, roll and azimuth in
square degrees. -/
def eulerCovariance (attitude : Matrix3) : Matrix3 :=
  Vector.ofFn fun index => attitude[exchangedIndex index] * degree * degree

/-- A change over one sample as a rate in the frame of the vehicle. -/
def changeRate (change : Vector3) (rate : Float) : Vector3 :=
  (frontLeftUp change.x change.y change.z).scale rate

namespace InsAccumulator

/-- An accumulator without any log. -/
def new (rate : Float) : InsAccumulator := { rate }

/-- The latest rates, if they are of a given time. -/
def ratesAt (acc : InsAccumulator) (time : Float) : Option Rates :=
  acc.rates.filter (·.time == time)

/-- The sample that a solution gives. -/
def sample (acc : InsAccumulator) (pva : InsPva) : Ins :=
  let time := Time.gpsSecondsOfWeek pva.gpsWeek pva.gpsSeconds
  let rates := acc.ratesAt time
  { measurementTime := time
    position := ⟨pva.latitude, pva.longitude, pva.height⟩
    eulerAngles := ⟨pva.roll * degree, -pva.pitch * degree, yawOfAzimuth pva.azimuth⟩
    linearVelocity := ⟨pva.eastVelocity, pva.northVelocity, pva.upVelocity⟩
    angularVelocity := rates.map (·.angularVelocity)
    linearAcceleration := rates.map (·.linearAcceleration)
    positionCovariance := acc.covariances.map (·.position)
    eulerAnglesCovariance := acc.covariances.map (·.eulerAngles)
    linearVelocityCovariance := acc.covariances.map (·.linearVelocity)
    insType := InsType.ofStatus pva.status }

/-- Takes a log in. Only solutions give a sample. -/
def apply (acc : InsAccumulator) : InsUpdate → InsAccumulator × Option Ins
  | .rates log =>
    let rates : Rates :=
      { time := Time.gpsSecondsOfWeek log.gpsWeek log.gpsSeconds
        angularVelocity := changeRate log.angleChange acc.rate
        linearAcceleration := changeRate log.velocityChange acc.rate }
    ({ acc with rates := some rates }, none)
  | .covariance log =>
    let covariances : Covariances :=
      { position := log.positionCovariance
        eulerAngles := eulerCovariance log.attitudeCovariance
        linearVelocity := log.velocityCovariance }
    ({ acc with covariances := some covariances }, none)
  | .solution log => (acc, some (acc.sample log))

end InsAccumulator

end NavStream.Oem
