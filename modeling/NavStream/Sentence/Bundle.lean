import NavStream.Axes
import NavStream.Sentence.Record
import NavStream.Time.Gps

/-!
# The messages of a navigation record

One integrated navigation sentence tells position, motion, attitude and heading at once. `bundle`
gives the five messages that every record leads to, all with the same time.

* `bundle` — the messages of a record;
* `map_kind_bundle`, `measurementTime?_of_mem_bundle` — their kinds and their time.
-/

namespace NavStream.Sentence.Record

/-- The GPS seconds of the record. -/
def measurementTime (record : Record) : Float :=
  Time.gpsSecondsOfWeek record.gpsWeek record.secondsInWeek

/-- The high half of the status byte. -/
def satelliteStatus (record : Record) : UInt8 := record.status >>> 4

/-- The low half of the status byte. -/
def systemStatus (record : Record) : UInt8 := record.status &&& 0x0F

/-- The solution status: initialising, or one of three ways of navigating. -/
def solutionStatus (record : Record) : SolutionStatus :=
  match record.systemStatus.toNat with
  | 0 => .coldStart
  | 1 | 2 | 3 => .solComputed
  | _ => .unrecognized record.systemStatus.toUInt32

/-- The solution type. -/
def solutionType (record : Record) : SolutionType :=
  match record.satelliteStatus.toNat with
  | 0 => .none
  | 1 | 6 => .single
  | 2 | 7 => .psrDiff
  | 3 => .propagated
  | 4 => .insRtkFixed
  | 5 => .insRtkFloat
  | 8 => .narrowInt
  | 9 => .narrowFloat
  | _ => .unrecognized record.satelliteStatus.toUInt32

/-- The convergence state that the solution type amounts to. -/
def insType (record : Record) : InsType :=
  match record.solutionType with
  | .insRtkFixed | .narrowInt | .insRtkFloat | .narrowFloat => .good
  | .single => .converging
  | _ => .invalid

/-- The position. -/
def position (record : Record) : Position := ⟨record.latitude, record.longitude, record.altitude⟩

/-- The rates of turn in the frame of the vehicle. -/
def angularVelocity (record : Record) : Vector3 :=
  (frontLeftUp record.gyroX record.gyroY record.gyroZ).scale degree

/-- The acceleration in the frame of the vehicle. -/
def linearAcceleration (record : Record) : Vector3 :=
  (frontLeftUp record.accX record.accY record.accZ).scale gravity

/-- The position message. -/
def bestPosition (record : Record) : BestPosition where
  measurementTime := record.measurementTime
  position := record.position
  undulation := 0.0
  datumId := 0
  positionStdDev := ⟨record.latitudeStd, record.longitudeStd, record.altitudeStd⟩
  baseStationId := ""
  differentialAge := record.differentialAge.toFloat32
  solutionAge := 0.0
  numSatsTracked := record.nsv1 + record.nsv2
  numSatsInSolution := 0
  numSatsL1 := 0
  numSatsMulti := 0
  extendedSolutionStatus := 0
  galileoBeidouUsedMask := 0
  gpsGlonassUsedMask := 0
  solutionStatus := record.solutionStatus
  solutionType := record.solutionType

/-- The inertial measurement. -/
def imu (record : Record) : Imu where
  measurementTime := record.measurementTime
  angularVelocity := record.angularVelocity
  linearAcceleration := record.linearAcceleration

/-- The inertial solution. -/
def ins (record : Record) : Ins where
  measurementTime := record.measurementTime
  position := record.position
  eulerAngles := ⟨record.roll * degree, -record.pitch * degree, yawOfAzimuth record.heading⟩
  linearVelocity := ⟨record.velocityEast, record.velocityNorth, record.velocityUp⟩
  angularVelocity := some record.angularVelocity
  linearAcceleration := some record.linearAcceleration
  positionCovariance := none
  eulerAnglesCovariance := none
  linearVelocityCovariance := none
  insType := record.insType

/-- The state of the inertial solution. -/
def insStatus (record : Record) : InsStatus where
  measurementTime := record.measurementTime
  insStatus := record.systemStatus.toUInt32
  positionType := record.solutionType

/-- The heading. -/
def headingMessage (record : Record) : Heading where
  measurementTime := record.measurementTime
  solutionStatus := some record.solutionStatus
  positionType := some record.solutionType
  baselineLength := 0.0
  heading := record.heading.toFloat32
  pitch := record.pitch.toFloat32
  headingStdDev := record.headingStd.toFloat32
  pitchStdDev := record.pitchStd.toFloat32
  stationId := ""
  numSatsTracked := 0
  numSatsInSolution := 0
  numSatsAboveMask := 0
  numSatsMulti := 0
  solutionSource := 0
  extendedSolutionStatus := 0
  galileoBeidouSigMask := 0
  gpsGlonassSigMask := 0

/-- The messages that a record leads to. -/
def bundle (record : Record) : List Message := [
  .bestPosition record.bestPosition,
  .imu record.imu,
  .ins record.ins,
  .insStatus record.insStatus,
  .heading record.headingMessage]

/-- A record leads to five messages, whose kinds are always the same. -/
theorem map_kind_bundle (record : Record) :
    record.bundle.map Message.kind = [.bestPosition, .imu, .ins, .insStatus, .heading] :=
  rfl

/-- All messages of a record are of its time. -/
theorem measurementTime?_of_mem_bundle {record : Record} {message : Message}
    (h : message ∈ record.bundle) : message.measurementTime? = some record.measurementTime := by
  simp only [bundle, List.mem_cons, List.not_mem_nil, or_false] at h
  rcases h with rfl | rfl | rfl | rfl | rfl <;> rfl

end NavStream.Sentence.Record
