import NavStream.Bytes.Fields
import NavStream.Message.Basic

/-!
# Satellite observations

A range log is a count and as many records, one for each tracked signal. Records of one satellite
that follow each other are put together.

* `TrackingStatus` — the word that tells system and signal;
* `rangeReader` — the layout of the log;
* `groupSatellites` — putting records together.
-/

namespace NavStream.Oem

open NavStream.Bytes NavStream.Bytes.FieldReader

/-- The tracking word of a signal. -/
structure TrackingStatus where
  /-- The word as it is sent. -/
  word : UInt32
deriving DecidableEq, Repr

namespace TrackingStatus

/-- The satellite system: three bits from bit 16 on. -/
def system (status : TrackingStatus) : GnssSystem :=
  let code := (status.word >>> 16) &&& 7
  GnssSystem.known.getD code.toNat (.unrecognized code.toUInt8)

/-- The number of the signal within its system: five bits from bit 21 on. -/
def signalType (status : TrackingStatus) : UInt32 := (status.word >>> 21) &&& 31

/-- The band of the signal. -/
def band (status : TrackingStatus) : Band :=
  match status.system, status.signalType.toNat with
  | .gps, 0 | .gps, 16 => .gpsL1
  | .gps, 5 | .gps, 9 | .gps, 17 => .gpsL2
  | .gps, 14 => .gpsL5
  | .glonass, 0 => .gloG1
  | .glonass, 1 | .glonass, 5 => .gloG2
  | .galileo, 2 => .galE1
  | .galileo, 12 => .galE5a
  | .galileo, 17 => .galE5b
  | .galileo, 22 => .galE6
  | .beiDou, 0 | .beiDou, 4 | .beiDou, 7 => .bdsB1
  | .beiDou, 1 | .beiDou, 5 | .beiDou, 9 => .bdsB2
  | .beiDou, 2 | .beiDou, 6 => .bdsB3
  | .qzss, 0 | .qzss, 16 => .qzssL1
  | .qzss, 17 => .qzssL2
  | .qzss, 14 => .qzssL5
  | _, _ => .unknown

end TrackingStatus

/-- One signal of one satellite. -/
structure SignalObservation where
  system : GnssSystem
  satPrn : UInt32
  observation : BandObservation
deriving DecidableEq

namespace SignalObservation

/-- How much larger GLONASS satellites are numbered than their slots. -/
def glonassOffset : Nat := 37

/-- The number of a satellite in its system: GLONASS satellites are numbered from 38 on. -/
def satelliteNumber (system : GnssSystem) (prn : UInt16) : UInt32 :=
  match system with
  | .glonass => UInt32.ofNat (prn.toNat - glonassOffset)
  | _ => prn.toUInt32

/-- The layout of a record. Its phase is reported negated. -/
def reader : FieldReader SignalObservation := do
  let prn ← word16
  -- the GLONASS frequency
  skip 2
  let pseudoRange ← float64
  let pseudoRangeStdDev ← float32
  let phase ← float64
  let carrierPhaseStdDev ← float32
  let doppler ← float32
  let snr ← float32
  let lockTime ← float32
  let status : TrackingStatus := ⟨← word32⟩
  return { system := status.system
           satPrn := satelliteNumber status.system prn
           observation := { band := status.band, pseudoRange, pseudoRangeStdDev,
                            carrierPhase := -phase, carrierPhaseStdDev, doppler, snr, lockTime } }

end SignalObservation

/-- Puts records of one satellite that follow each other together. -/
def groupSatellites : List SignalObservation → List SatelliteObservation
  | [] => []
  | signal :: rest =>
    let alone : SatelliteObservation := ⟨signal.system, signal.satPrn, [signal.observation]⟩
    match groupSatellites rest with
    | [] => [alone]
    | next :: others =>
      if signal.system = next.system ∧ signal.satPrn = next.satPrn then
        { next with bands := signal.observation :: next.bands } :: others
      else alone :: next :: others

/-- A number of records. -/
def signals : (count : Nat) → FieldReader (List SignalObservation)
  | 0 => return []
  | count + 1 => do
    let first ← SignalObservation.reader
    let others ← signals count
    return first :: others

/-- The layout of a range log. -/
def rangeReader (time : Float) : FieldReader Observation := do
  let count ← word32
  return ⟨time, groupSatellites (← signals count.toNat)⟩

end NavStream.Oem
