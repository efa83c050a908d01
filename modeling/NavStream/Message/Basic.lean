import NavStream.Message.Codes

/-!
# Navigation messages

Every decoder produces the same messages, whatever the wire format: combined fixes, positions,
inertial samples and solutions, headings, broadcast orbits, satellite observations and sentences
forwarded as they came.

* `Message` — a message of any kind;
* `Message.kind`, `Message.measurementTime?` — its kind and its GPS time.
-/

namespace NavStream

/-- A vector along three axes. -/
structure Vector3 where
  x : Float
  y : Float
  z : Float
deriving DecidableEq, Repr

namespace Vector3

/-- The vector of length zero. -/
def zero : Vector3 := ⟨0.0, 0.0, 0.0⟩

/-- Every component times `k`. -/
def scale (v : Vector3) (k : Float) : Vector3 := ⟨v.x * k, v.y * k, v.z * k⟩

end Vector3

/-- A matrix of three rows and three columns, row after row. -/
abbrev Matrix3 := Vector Float 9

/-- A geodetic position: degrees, and meters above the reference that the message names. -/
structure Position where
  latitude : Float
  longitude : Float
  height : Float
deriving DecidableEq, Repr

/-- Satellite systems. -/
inductive GnssSystem where
  | gps | glonass | sbas | galileo | beiDou | qzss | navIc
  /-- A number that stands for no known system. -/
  | unrecognized (code : UInt8)
deriving DecidableEq, Repr

namespace GnssSystem

/-- Every known system, in the order of their numbers. -/
def known : List GnssSystem := [gps, glonass, sbas, galileo, beiDou, qzss, navIc]

/-- The name of a system. -/
def name : GnssSystem → String
  | gps => "Gps"
  | glonass => "Glonass"
  | sbas => "Sbas"
  | galileo => "Galileo"
  | beiDou => "BeiDou"
  | qzss => "Qzss"
  | navIc => "NavIc"
  | unrecognized _ => "Unrecognized"

end GnssSystem

/-- Carrier frequency bands. -/
inductive Band where
  | gpsL1 | gpsL2 | gpsL5 | gloG1 | gloG2 | galE1 | galE5a | galE5b | galE6 | bdsB1 | bdsB2 | bdsB3
  | qzssL1 | qzssL2 | qzssL5 | unknown
deriving DecidableEq, Repr

namespace Band

/-- Every band. -/
def all : List Band := [
  gpsL1, gpsL2, gpsL5, gloG1, gloG2, galE1, galE5a, galE5b, galE6, bdsB1, bdsB2, bdsB3, qzssL1,
  qzssL2, qzssL5, unknown]

/-- The name of a band. -/
def name : Band → String
  | gpsL1 => "GpsL1"
  | gpsL2 => "GpsL2"
  | gpsL5 => "GpsL5"
  | gloG1 => "GloG1"
  | gloG2 => "GloG2"
  | galE1 => "GalE1"
  | galE5a => "GalE5a"
  | galE5b => "GalE5b"
  | galE6 => "GalE6"
  | bdsB1 => "BdsB1"
  | bdsB2 => "BdsB2"
  | bdsB3 => "BdsB3"
  | qzssL1 => "QzssL1"
  | qzssL2 => "QzssL2"
  | qzssL5 => "QzssL5"
  | unknown => "Unknown"

end Band

/-- A position and a velocity that carry the same time tag. -/
structure Fix where
  measurementTime : Float
  position : Position
  /-- Standard deviations of longitude, latitude and height, in meters. -/
  positionStdDev : Vector3
  /-- East, north and up, in meters per second. -/
  linearVelocity : Vector3
  solutionStatus : SolutionStatus
  solutionType : SolutionType
  fixType : FixType
  numSats : UInt32
  differentialAge : Float32
  solutionAge : Float32
deriving DecidableEq

/-- The best position that a receiver has. -/
structure BestPosition where
  measurementTime : Float
  /-- The height is above mean sea level. -/
  position : Position
  undulation : Float32
  datumId : UInt32
  positionStdDev : Vector3
  baseStationId : String
  differentialAge : Float32
  solutionAge : Float32
  numSatsTracked : UInt32
  numSatsInSolution : UInt32
  numSatsL1 : UInt32
  numSatsMulti : UInt32
  extendedSolutionStatus : UInt32
  galileoBeidouUsedMask : UInt32
  gpsGlonassUsedMask : UInt32
  solutionStatus : SolutionStatus
  solutionType : SolutionType
deriving DecidableEq

/-- An inertial measurement in the front-left-up frame of the vehicle. -/
structure Imu where
  measurementTime : Float
  /-- Radians per second. -/
  angularVelocity : Vector3
  /-- Meters per second squared. -/
  linearAcceleration : Vector3
deriving DecidableEq

/-- An inertial navigation solution. -/
structure Ins where
  measurementTime : Float
  /-- The height is above the ellipsoid. -/
  position : Position
  /-- Roll, pitch and yaw in radians. -/
  eulerAngles : Vector3
  /-- East, north and up, in meters per second. -/
  linearVelocity : Vector3
  angularVelocity : Option Vector3
  linearAcceleration : Option Vector3
  positionCovariance : Option Matrix3
  eulerAnglesCovariance : Option Matrix3
  linearVelocityCovariance : Option Matrix3
  insType : InsType
deriving DecidableEq

/-- The state of an inertial solution. -/
structure InsStatus where
  measurementTime : Float
  /-- The number that the device reports. -/
  insStatus : UInt32
  positionType : SolutionType
deriving DecidableEq

/-- A heading from two antennas, in degrees. -/
structure Heading where
  measurementTime : Float
  solutionStatus : Option SolutionStatus
  positionType : Option SolutionType
  baselineLength : Float32
  heading : Float32
  pitch : Float32
  headingStdDev : Float32
  pitchStdDev : Float32
  stationId : String
  numSatsTracked : UInt32
  numSatsInSolution : UInt32
  numSatsAboveMask : UInt32
  numSatsMulti : UInt32
  solutionSource : UInt32
  extendedSolutionStatus : UInt32
  galileoBeidouSigMask : UInt32
  gpsGlonassSigMask : UInt32
deriving DecidableEq

/-- A broadcast orbit in Keplerian elements. -/
structure KeplerOrbit where
  satPrn : UInt32
  weekNum : UInt32
  toe : Float
  toc : Float
  af0 : Float
  af1 : Float
  af2 : Float
  iode : UInt32
  iodc : UInt32
  deltan : Float
  m0 : Float
  e : Float
  roota : Float
  cuc : Float
  cus : Float
  crc : Float
  crs : Float
  cic : Float
  cis : Float
  i0 : Float
  idot : Float
  omega0 : Float
  omega : Float
  omegadot : Float
  health : UInt32
  accuracy : Float
  tgd : Float
deriving DecidableEq

/-- A GLONASS broadcast orbit in earth-fixed coordinates. -/
structure GlonassOrbit where
  slotPrn : Int32
  frequencyNum : Int32
  weekNum : UInt32
  /-- Seconds of the week. -/
  toe : Float
  issue : UInt32
  position : Vector3
  velocity : Vector3
  acceleration : Vector3
  clockOffset : Float
  clockDrift : Float
  health : UInt32
  inforAge : UInt32
deriving DecidableEq

/-- A broadcast orbit of either kind. -/
inductive Orbit where
  | keplerian (orbit : KeplerOrbit)
  | glonass (orbit : GlonassOrbit)
deriving DecidableEq

/-- The broadcast orbit of a satellite. -/
structure Ephemeris where
  measurementTime : Float
  system : GnssSystem
  orbit : Orbit
deriving DecidableEq

/-- What was measured on one band of a satellite. -/
structure BandObservation where
  band : Band
  pseudoRange : Float
  pseudoRangeStdDev : Float32
  /-- Cycles. -/
  carrierPhase : Float
  carrierPhaseStdDev : Float32
  /-- Hertz. -/
  doppler : Float32
  /-- Decibel hertz. -/
  snr : Float32
  /-- Seconds of continuous tracking. -/
  lockTime : Float32
deriving DecidableEq

/-- The bands measured of one satellite. -/
structure SatelliteObservation where
  system : GnssSystem
  satPrn : UInt32
  bands : List BandObservation
deriving DecidableEq

/-- The satellites observed at one epoch. -/
structure Observation where
  measurementTime : Float
  satellites : List SatelliteObservation
deriving DecidableEq

/-- Sentences that are forwarded as they came. -/
inductive RawKind where
  | gpgga
deriving DecidableEq, Repr

namespace RawKind

/-- Every kind of forwarded sentence. -/
def all : List RawKind := [gpgga]

/-- The name of a forwarded sentence. -/
def name : RawKind → String
  | gpgga => "Gpgga"

end RawKind

/-- A sentence forwarded as it came, its terminator included. -/
structure Raw where
  kind : RawKind
  data : List UInt8
deriving DecidableEq

/-- A message of any kind. -/
inductive Message where
  | fix (m : Fix)
  | bestPosition (m : BestPosition)
  | imu (m : Imu)
  | ins (m : Ins)
  | insStatus (m : InsStatus)
  | heading (m : Heading)
  | ephemeris (m : Ephemeris)
  | observation (m : Observation)
  | raw (m : Raw)
deriving DecidableEq

/-- The kinds of messages. -/
inductive MessageKind where
  | fix | bestPosition | imu | ins | insStatus | heading | ephemeris | observation | raw
deriving DecidableEq, Repr

namespace MessageKind

/-- Every kind. -/
def all : List MessageKind := [
  fix, bestPosition, imu, ins, insStatus, heading, ephemeris, observation, raw]

/-- The name of a kind. -/
def name : MessageKind → String
  | fix => "Fix"
  | bestPosition => "BestPosition"
  | imu => "Imu"
  | ins => "Ins"
  | insStatus => "InsStatus"
  | heading => "Heading"
  | ephemeris => "Ephemeris"
  | observation => "Observation"
  | raw => "Raw"

end MessageKind

namespace Message

/-- The kind of a message. -/
def kind : Message → MessageKind
  | fix _ => .fix
  | bestPosition _ => .bestPosition
  | imu _ => .imu
  | ins _ => .ins
  | insStatus _ => .insStatus
  | heading _ => .heading
  | ephemeris _ => .ephemeris
  | observation _ => .observation
  | raw _ => .raw

/-- The GPS seconds of the measurement; forwarded sentences have none. -/
def measurementTime? : Message → Option Float
  | fix m => some m.measurementTime
  | bestPosition m => some m.measurementTime
  | imu m => some m.measurementTime
  | ins m => some m.measurementTime
  | insStatus m => some m.measurementTime
  | heading m => some m.measurementTime
  | ephemeris m => some m.measurementTime
  | observation m => some m.measurementTime
  | raw _ => none

end Message

end NavStream
