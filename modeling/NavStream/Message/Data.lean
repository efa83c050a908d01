import NavStream.Datum.Codec
import NavStream.Message.Basic

/-!
# Messages as data

The codecs of all messages and of what they hold. The names of the fields are those that texts of
messages show.

* `Codecs.message` — messages of every kind;
* `Message.toDatum`, `Message.ofDatum?` — its two directions.
-/

namespace NavStream

namespace Codecs

/-! ## Enumerations -/

/-- Solution statuses. -/
def solutionStatus : Codec SolutionStatus :=
  .ofCodes SolutionStatus.known SolutionStatus.name .word32 .unrecognized
    (fun
      | .unrecognized code => some code
      | _ => none)
    (by intro value h; cases value with | unrecognized => cases h | _ => decide)
    (by intro value code h; cases value <;> simp_all)
    (by decide)

/-- Types of solutions. -/
def solutionType : Codec SolutionType :=
  .ofCodes SolutionType.known SolutionType.name .word32 .unrecognized
    (fun
      | .unrecognized code => some code
      | _ => none)
    (by intro value h; cases value with | unrecognized => cases h | _ => decide)
    (by intro value code h; cases value <;> simp_all)
    (by decide)

/-- Satellite systems. -/
def gnssSystem : Codec GnssSystem :=
  .ofCodes GnssSystem.known GnssSystem.name .word8 .unrecognized
    (fun
      | .unrecognized code => some code
      | _ => none)
    (by intro value h; cases value with | unrecognized => cases h | _ => decide)
    (by intro value code h; cases value <;> simp_all)
    (by decide)

/-- Qualities of fixes. -/
def fixType : Codec FixType :=
  .ofNames FixType.all FixType.name (by intro value; cases value <;> decide)

/-- States of inertial solutions. -/
def insType : Codec InsType :=
  .ofNames InsType.all InsType.name (by intro value; cases value <;> decide)

/-- Frequency bands. -/
def band : Codec Band := .ofNames Band.all Band.name (by intro value; cases value <;> decide)

/-- Forwarded sentences. -/
def rawKind : Codec RawKind :=
  .ofNames RawKind.all RawKind.name (by intro value; cases value; decide)

/-! ## Records -/

/-- A matrix of three rows. -/
def matrix3 : Codec Matrix3 := .vector 9 .float64

/-- A vector. -/
def vector3 : Codec Vector3 :=
  ((Fields.start Vector3.mk)
    |>.field "x" .float64 (·.x)
    |>.field "y" .float64 (·.y)
    |>.field "z" .float64 (·.z)).record "Vector3" fun _ => rfl

/-- A position. -/
def position : Codec Position :=
  ((Fields.start Position.mk)
    |>.field "latitude" .float64 (·.latitude)
    |>.field "longitude" .float64 (·.longitude)
    |>.field "height" .float64 (·.height)).record "Position" fun _ => rfl

/-- A combined fix. -/
def fix : Codec Fix :=
  ((Fields.start Fix.mk)
    |>.field "measurement_time" .float64 (·.measurementTime)
    |>.field "position" position (·.position)
    |>.field "position_std_dev" vector3 (·.positionStdDev)
    |>.field "linear_velocity" vector3 (·.linearVelocity)
    |>.field "solution_status" solutionStatus (·.solutionStatus)
    |>.field "solution_type" solutionType (·.solutionType)
    |>.field "fix_type" fixType (·.fixType)
    |>.field "num_sats" .word32 (·.numSats)
    |>.field "differential_age" .float32 (·.differentialAge)
    |>.field "solution_age" .float32 (·.solutionAge)).record "Fix" fun _ => rfl

/-- A best position. -/
def bestPosition : Codec BestPosition :=
  ((Fields.start BestPosition.mk)
    |>.field "measurement_time" .float64 (·.measurementTime)
    |>.field "position" position (·.position)
    |>.field "undulation" .float32 (·.undulation)
    |>.field "datum_id" .word32 (·.datumId)
    |>.field "position_std_dev" vector3 (·.positionStdDev)
    |>.field "base_station_id" .text (·.baseStationId)
    |>.field "differential_age" .float32 (·.differentialAge)
    |>.field "solution_age" .float32 (·.solutionAge)
    |>.field "num_sats_tracked" .word32 (·.numSatsTracked)
    |>.field "num_sats_in_solution" .word32 (·.numSatsInSolution)
    |>.field "num_sats_l1" .word32 (·.numSatsL1)
    |>.field "num_sats_multi" .word32 (·.numSatsMulti)
    |>.field "extended_solution_status" .word32 (·.extendedSolutionStatus)
    |>.field "galileo_beidou_used_mask" .word32 (·.galileoBeidouUsedMask)
    |>.field "gps_glonass_used_mask" .word32 (·.gpsGlonassUsedMask)
    |>.field "solution_status" solutionStatus (·.solutionStatus)
    |>.field "solution_type" solutionType (·.solutionType)).record "BestPosition" fun _ => rfl

/-- An inertial measurement. -/
def imu : Codec Imu :=
  ((Fields.start Imu.mk)
    |>.field "measurement_time" .float64 (·.measurementTime)
    |>.field "angular_velocity" vector3 (·.angularVelocity)
    |>.field "linear_acceleration" vector3 (·.linearAcceleration)).record "Imu" fun _ => rfl

/-- An inertial solution. -/
def ins : Codec Ins :=
  ((Fields.start Ins.mk)
    |>.field "measurement_time" .float64 (·.measurementTime)
    |>.field "position" position (·.position)
    |>.field "euler_angles" vector3 (·.eulerAngles)
    |>.field "linear_velocity" vector3 (·.linearVelocity)
    |>.nullable "angular_velocity" vector3 (·.angularVelocity)
    |>.nullable "linear_acceleration" vector3 (·.linearAcceleration)
    |>.nullable "position_covariance" matrix3 (·.positionCovariance)
    |>.nullable "euler_angles_covariance" matrix3 (·.eulerAnglesCovariance)
    |>.nullable "linear_velocity_covariance" matrix3 (·.linearVelocityCovariance)
    |>.field "ins_type" insType (·.insType)).record "Ins" fun _ => rfl

/-- The state of an inertial solution. -/
def insStatus : Codec InsStatus :=
  ((Fields.start InsStatus.mk)
    |>.field "measurement_time" .float64 (·.measurementTime)
    |>.field "ins_status" .word32 (·.insStatus)
    |>.field "position_type" solutionType (·.positionType)).record "InsStatus" fun _ => rfl

/-- A heading. -/
def heading : Codec Heading :=
  ((Fields.start Heading.mk)
    |>.field "measurement_time" .float64 (·.measurementTime)
    |>.nullable "solution_status" solutionStatus (·.solutionStatus)
    |>.nullable "position_type" solutionType (·.positionType)
    |>.field "baseline_length" .float32 (·.baselineLength)
    |>.field "heading" .float32 (·.heading)
    |>.field "pitch" .float32 (·.pitch)
    |>.field "heading_std_dev" .float32 (·.headingStdDev)
    |>.field "pitch_std_dev" .float32 (·.pitchStdDev)
    |>.field "station_id" .text (·.stationId)
    |>.field "num_sats_tracked" .word32 (·.numSatsTracked)
    |>.field "num_sats_in_solution" .word32 (·.numSatsInSolution)
    |>.field "num_sats_above_mask" .word32 (·.numSatsAboveMask)
    |>.field "num_sats_multi" .word32 (·.numSatsMulti)
    |>.field "solution_source" .word32 (·.solutionSource)
    |>.field "extended_solution_status" .word32 (·.extendedSolutionStatus)
    |>.field "galileo_beidou_sig_mask" .word32 (·.galileoBeidouSigMask)
    |>.field "gps_glonass_sig_mask" .word32 (·.gpsGlonassSigMask)).record "Heading" fun _ => rfl

/-- An orbit in Keplerian elements. -/
def keplerOrbit : Codec KeplerOrbit :=
  ((Fields.start KeplerOrbit.mk)
    |>.field "sat_prn" .word32 (·.satPrn)
    |>.field "week_num" .word32 (·.weekNum)
    |>.field "toe" .float64 (·.toe)
    |>.field "toc" .float64 (·.toc)
    |>.field "af0" .float64 (·.af0)
    |>.field "af1" .float64 (·.af1)
    |>.field "af2" .float64 (·.af2)
    |>.field "iode" .word32 (·.iode)
    |>.field "iodc" .word32 (·.iodc)
    |>.field "deltan" .float64 (·.deltan)
    |>.field "m0" .float64 (·.m0)
    |>.field "e" .float64 (·.e)
    |>.field "roota" .float64 (·.roota)
    |>.field "cuc" .float64 (·.cuc)
    |>.field "cus" .float64 (·.cus)
    |>.field "crc" .float64 (·.crc)
    |>.field "crs" .float64 (·.crs)
    |>.field "cic" .float64 (·.cic)
    |>.field "cis" .float64 (·.cis)
    |>.field "i0" .float64 (·.i0)
    |>.field "idot" .float64 (·.idot)
    |>.field "omega0" .float64 (·.omega0)
    |>.field "omega" .float64 (·.omega)
    |>.field "omegadot" .float64 (·.omegadot)
    |>.field "health" .word32 (·.health)
    |>.field "accuracy" .float64 (·.accuracy)
    |>.field "tgd" .float64 (·.tgd)).record "KeplerOrbit" fun _ => rfl

/-- An orbit in earth-fixed coordinates. -/
def glonassOrbit : Codec GlonassOrbit :=
  ((Fields.start GlonassOrbit.mk)
    |>.field "slot_prn" .int32 (·.slotPrn)
    |>.field "frequency_num" .int32 (·.frequencyNum)
    |>.field "week_num" .word32 (·.weekNum)
    |>.field "toe" .float64 (·.toe)
    |>.field "issue" .word32 (·.issue)
    |>.field "position" vector3 (·.position)
    |>.field "velocity" vector3 (·.velocity)
    |>.field "acceleration" vector3 (·.acceleration)
    |>.field "clock_offset" .float64 (·.clockOffset)
    |>.field "clock_drift" .float64 (·.clockDrift)
    |>.field "health" .word32 (·.health)
    |>.field "infor_age" .word32 (·.inforAge)).record "GlonassOrbit" fun _ => rfl

/-- An orbit of either kind. -/
def orbit : Codec Orbit where
  shape := .enumeration
    [("Keplerian", some keplerOrbit.shape), ("Glonass", some glonassOrbit.shape)]
  toDatum
    | .keplerian orbit => .variant "Keplerian" (some (keplerOrbit.toDatum orbit))
    | .glonass orbit => .variant "Glonass" (some (glonassOrbit.toDatum orbit))
  ofDatum?
    | .variant name (some payload) =>
      if name = "Keplerian" then (keplerOrbit.ofDatum? payload).map .keplerian
      else (glonassOrbit.ofDatum? payload).map .glonass
    | _ => none
  ofDatum?_toDatum value := by
    cases value <;> simp [keplerOrbit.ofDatum?_toDatum, glonassOrbit.ofDatum?_toDatum]
  fits value := by
    cases value <;> simp [Datum.fits, keplerOrbit.fits, glonassOrbit.fits, List.lookup_cons]

/-- A broadcast orbit. -/
def ephemeris : Codec Ephemeris :=
  ((Fields.start Ephemeris.mk)
    |>.field "measurement_time" .float64 (·.measurementTime)
    |>.field "system" gnssSystem (·.system)
    |>.field "orbit" orbit (·.orbit)).record "Ephemeris" fun _ => rfl

/-- What was measured on one band. -/
def bandObservation : Codec BandObservation :=
  ((Fields.start BandObservation.mk)
    |>.field "band" band (·.band)
    |>.field "pseudo_range" .float64 (·.pseudoRange)
    |>.field "pseudo_range_std_dev" .float32 (·.pseudoRangeStdDev)
    |>.field "carrier_phase" .float64 (·.carrierPhase)
    |>.field "carrier_phase_std_dev" .float32 (·.carrierPhaseStdDev)
    |>.field "doppler" .float32 (·.doppler)
    |>.field "snr" .float32 (·.snr)
    |>.field "lock_time" .float32 (·.lockTime)).record "BandObservation" fun _ => rfl

/-- The bands of one satellite. -/
def satelliteObservation : Codec SatelliteObservation :=
  ((Fields.start SatelliteObservation.mk)
    |>.field "system" gnssSystem (·.system)
    |>.field "sat_prn" .word32 (·.satPrn)
    |>.field "bands" (.list bandObservation) (·.bands)).record "SatelliteObservation" fun _ => rfl

/-- The satellites of one epoch. -/
def observation : Codec Observation :=
  ((Fields.start Observation.mk)
    |>.field "measurement_time" .float64 (·.measurementTime)
    |>.field "satellites" (.list satelliteObservation) (·.satellites)).record "Observation"
    fun _ => rfl

/-- A forwarded sentence. -/
def raw : Codec Raw :=
  ((Fields.start Raw.mk)
    |>.field "kind" rawKind (·.kind)
    |>.field "data" (.list .word8) (·.data)).record "Raw" fun _ => rfl

/-- A message of any kind. -/
def message : Codec Message where
  shape := .tagged "Message" [
    (MessageKind.fix.name, fix.shape),
    (MessageKind.bestPosition.name, bestPosition.shape),
    (MessageKind.imu.name, imu.shape),
    (MessageKind.ins.name, ins.shape),
    (MessageKind.insStatus.name, insStatus.shape),
    (MessageKind.heading.name, heading.shape),
    (MessageKind.ephemeris.name, ephemeris.shape),
    (MessageKind.observation.name, observation.shape),
    (MessageKind.raw.name, raw.shape)]
  toDatum m := .tagged m.kind.name
    (match m with
    | .fix m => fix.toDatum m
    | .bestPosition m => bestPosition.toDatum m
    | .imu m => imu.toDatum m
    | .ins m => ins.toDatum m
    | .insStatus m => insStatus.toDatum m
    | .heading m => heading.toDatum m
    | .ephemeris m => ephemeris.toDatum m
    | .observation m => observation.toDatum m
    | .raw m => raw.toDatum m)
  ofDatum?
    | .tagged name payload =>
      match MessageKind.all.find? (·.name == name) with
      | some .fix => (fix.ofDatum? payload).map .fix
      | some .bestPosition => (bestPosition.ofDatum? payload).map .bestPosition
      | some .imu => (imu.ofDatum? payload).map .imu
      | some .ins => (ins.ofDatum? payload).map .ins
      | some .insStatus => (insStatus.ofDatum? payload).map .insStatus
      | some .heading => (heading.ofDatum? payload).map .heading
      | some .ephemeris => (ephemeris.ofDatum? payload).map .ephemeris
      | some .observation => (observation.ofDatum? payload).map .observation
      | some .raw => (raw.ofDatum? payload).map .raw
      | none => none
    | _ => none
  ofDatum?_toDatum m := by
    cases m <;>
      simp [Message.kind, MessageKind.all, MessageKind.name, List.find?, Codec.ofDatum?_toDatum]
  fits m := by
    cases m <;>
      simp [Datum.fits, Message.kind, MessageKind.name, List.lookup_cons, Codec.fits]

end Codecs

namespace Message

/-- A message as data. -/
def toDatum (m : Message) : Datum := Codecs.message.toDatum m

/-- The message of a datum, if it is one. -/
def ofDatum? (datum : Datum) : Option Message := Codecs.message.ofDatum? datum

end Message

end NavStream
