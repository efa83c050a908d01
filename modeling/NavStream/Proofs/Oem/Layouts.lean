import NavStream.Oem.Decoder
import NavStream.Proofs.Bytes.FixedWidth

/-!
# How long the layouts are

Every log but the observation of satellites has a layout of fixed width, which its fields take one
after the other. A velocity and a GLONASS orbit leave the last four bytes of their payloads alone;
the layouts of all other logs fill theirs.

* `fixedWidth_bestPos`, …, `fixedWidth_glonassOrbit` — the width of each layout.
-/

namespace NavStream.Oem

open NavStream.Bytes NavStream.Bytes.FieldReader

/-- A padded text takes as many bytes as it is padded to. -/
theorem fixedWidth_paddedText (n : Nat) : FixedWidth (paddedText n) n :=
  (fixedWidth_take n).map fun bytes => Text.decodeLossy (bytes.takeWhile (· != 0))

/-- Three numbers take 24 bytes. -/
theorem fixedWidth_vector3 : FixedWidth vector3 24 :=
  fixedWidth_float64.bind fun _ => fixedWidth_float64.bind fun _ => fixedWidth_float64.map _

/-! ## Positions, velocities and headings -/

/-- A position fills its payload. -/
theorem fixedWidth_bestPos : FixedWidth BestPos.reader 72 :=
  fixedWidth_word32.bind fun _ => fixedWidth_word32.bind fun _ => fixedWidth_float64.bind fun _ =>
  fixedWidth_float64.bind fun _ => fixedWidth_float64.bind fun _ => fixedWidth_float32.bind fun _ =>
  fixedWidth_word32.bind fun _ => fixedWidth_float32.bind fun _ => fixedWidth_float32.bind fun _ =>
  fixedWidth_float32.bind fun _ => (fixedWidth_paddedText 4).bind fun _ =>
  fixedWidth_float32.bind fun _ => fixedWidth_float32.bind fun _ => fixedWidth_word8.bind fun _ =>
  fixedWidth_word8.bind fun _ => fixedWidth_word8.bind fun _ => fixedWidth_word8.bind fun _ =>
  (fixedWidth_skip 1).bind fun _ => fixedWidth_word8.bind fun _ => fixedWidth_word8.bind fun _ =>
  fixedWidth_word8.map _

/-- A velocity leaves four bytes of its payload alone. -/
theorem fixedWidth_bestVel : FixedWidth BestVel.reader 40 :=
  fixedWidth_word32.bind fun _ => fixedWidth_word32.bind fun _ => fixedWidth_float32.bind fun _ =>
  fixedWidth_float32.bind fun _ => fixedWidth_float64.bind fun _ => fixedWidth_float64.bind fun _ =>
  fixedWidth_float64.map _

/-- A heading fills its payload. -/
theorem fixedWidth_heading (time : Float) : FixedWidth (headingReader time) 44 :=
  fixedWidth_word32.bind fun _ => fixedWidth_word32.bind fun _ => fixedWidth_float32.bind fun _ =>
  fixedWidth_float32.bind fun _ => fixedWidth_float32.bind fun _ =>
  (fixedWidth_skip 4).bind fun _ => fixedWidth_float32.bind fun _ =>
  fixedWidth_float32.bind fun _ => (fixedWidth_paddedText 4).bind fun _ =>
  fixedWidth_word8.bind fun _ => fixedWidth_word8.bind fun _ => fixedWidth_word8.bind fun _ =>
  fixedWidth_word8.bind fun _ => fixedWidth_word8.bind fun _ => fixedWidth_word8.bind fun _ =>
  fixedWidth_word8.bind fun _ => fixedWidth_word8.map _

/-! ## Inertial logs -/

/-- Corrected changes fill their payload. -/
theorem fixedWidth_corrImuData : FixedWidth CorrImuData.reader 60 :=
  fixedWidth_word32.bind fun _ => fixedWidth_float64.bind fun _ => fixedWidth_vector3.bind fun _ =>
  fixedWidth_vector3.map _

/-- Covariances fill their payload. -/
theorem fixedWidth_insCov : FixedWidth InsCov.reader 228 :=
  fixedWidth_word32.bind fun _ => fixedWidth_float64.bind fun _ =>
  (fixedWidth_floats 9).bind fun _ => (fixedWidth_floats 9).bind fun _ =>
  (fixedWidth_floats 9).map _

/-- An inertial solution fills its payload. -/
theorem fixedWidth_insPva : FixedWidth InsPva.reader 88 :=
  fixedWidth_word32.bind fun _ => fixedWidth_float64.bind fun _ => fixedWidth_float64.bind fun _ =>
  fixedWidth_float64.bind fun _ => fixedWidth_float64.bind fun _ => fixedWidth_float64.bind fun _ =>
  fixedWidth_float64.bind fun _ => fixedWidth_float64.bind fun _ => fixedWidth_float64.bind fun _ =>
  fixedWidth_float64.bind fun _ => fixedWidth_float64.bind fun _ => fixedWidth_word32.map _

/-- An extended inertial solution fills its payload. -/
theorem fixedWidth_insPvaX : FixedWidth InsPvaX.reader 126 :=
  fixedWidth_word32.bind fun _ => fixedWidth_word32.bind fun _ => fixedWidth_float64.bind fun _ =>
  fixedWidth_float64.bind fun _ => fixedWidth_float64.bind fun _ => fixedWidth_float32.bind fun _ =>
  (fixedWidth_skip _).bind fun _ => fixedWidth_word32.bind fun _ => fixedWidth_word16.map _

/-- The counts of a raw sample take 28 bytes. -/
theorem fixedWidth_counts (imuType : Option UInt8) (imuError : UInt8) (gpsWeek : UInt32)
    (gpsSeconds : Float) : FixedWidth (RawImu.counts imuType imuError gpsWeek gpsSeconds) 28 :=
  fixedWidth_word32.bind fun _ => fixedWidth_int32.bind fun _ => fixedWidth_int32.bind fun _ =>
  fixedWidth_int32.bind fun _ => fixedWidth_int32.bind fun _ => fixedWidth_int32.bind fun _ =>
  fixedWidth_int32.map _

/-- A raw sample fills its payload. -/
theorem fixedWidth_rawImu : FixedWidth RawImu.reader 40 :=
  fixedWidth_word32.bind fun _ => fixedWidth_float64.bind fun _ => fixedWidth_counts _ _ _ _

/-- A raw sample that tells its model fills a payload of the same length. -/
theorem fixedWidth_extendedRawImu : FixedWidth RawImu.extendedReader 40 :=
  fixedWidth_word8.bind fun _ => fixedWidth_word8.bind fun _ => fixedWidth_word16.bind fun _ =>
  fixedWidth_float64.bind fun _ => fixedWidth_counts _ _ _ _

/-! ## Orbits -/

/-- A GPS orbit fills its payload. -/
theorem fixedWidth_gpsOrbit : FixedWidth gpsOrbit 224 :=
  fixedWidth_word32.bind fun _ => (fixedWidth_skip 8).bind fun _ => fixedWidth_word32.bind fun _ =>
  fixedWidth_word32.bind fun _ => (fixedWidth_skip 4).bind fun _ => fixedWidth_word32.bind fun _ =>
  (fixedWidth_skip 4).bind fun _ => fixedWidth_float64.bind fun _ =>
  fixedWidth_float64.bind fun _ => fixedWidth_float64.bind fun _ => fixedWidth_float64.bind fun _ =>
  fixedWidth_float64.bind fun _ => fixedWidth_float64.bind fun _ => fixedWidth_float64.bind fun _ =>
  fixedWidth_float64.bind fun _ => fixedWidth_float64.bind fun _ => fixedWidth_float64.bind fun _ =>
  fixedWidth_float64.bind fun _ => fixedWidth_float64.bind fun _ => fixedWidth_float64.bind fun _ =>
  fixedWidth_float64.bind fun _ => fixedWidth_float64.bind fun _ => fixedWidth_float64.bind fun _ =>
  fixedWidth_word32.bind fun _ => fixedWidth_float64.bind fun _ => fixedWidth_float64.bind fun _ =>
  fixedWidth_float64.bind fun _ => fixedWidth_float64.bind fun _ => fixedWidth_float64.bind fun _ =>
  (fixedWidth_skip 12).bind fun _ => fixedWidth_float64.map _

/-- A BeiDou orbit fills its payload. -/
theorem fixedWidth_beiDouOrbit : FixedWidth beiDouOrbit 196 :=
  fixedWidth_word32.bind fun _ => fixedWidth_word32.bind fun _ => fixedWidth_float64.bind fun _ =>
  fixedWidth_word32.bind fun _ => fixedWidth_float64.bind fun _ => (fixedWidth_skip 8).bind fun _ =>
  fixedWidth_word32.bind fun _ => fixedWidth_word32.bind fun _ => fixedWidth_float64.bind fun _ =>
  fixedWidth_float64.bind fun _ => fixedWidth_float64.bind fun _ => fixedWidth_word32.bind fun _ =>
  fixedWidth_word32.bind fun _ => fixedWidth_float64.bind fun _ => fixedWidth_float64.bind fun _ =>
  fixedWidth_float64.bind fun _ => fixedWidth_float64.bind fun _ => fixedWidth_float64.bind fun _ =>
  fixedWidth_float64.bind fun _ => fixedWidth_float64.bind fun _ => fixedWidth_float64.bind fun _ =>
  fixedWidth_float64.bind fun _ => fixedWidth_float64.bind fun _ => fixedWidth_float64.bind fun _ =>
  fixedWidth_float64.bind fun _ => fixedWidth_float64.bind fun _ => fixedWidth_float64.bind fun _ =>
  fixedWidth_float64.map _

/-- A GLONASS orbit leaves four bytes of its payload alone. -/
theorem fixedWidth_glonassOrbit : FixedWidth glonassOrbit 140 :=
  fixedWidth_word16.bind fun _ => fixedWidth_word16.bind fun _ => (fixedWidth_skip 2).bind fun _ =>
  fixedWidth_word16.bind fun _ => fixedWidth_word32.bind fun _ => (fixedWidth_skip 8).bind fun _ =>
  fixedWidth_word32.bind fun _ => fixedWidth_word32.bind fun _ => fixedWidth_vector3.bind fun _ =>
  fixedWidth_vector3.bind fun _ => fixedWidth_vector3.bind fun _ => fixedWidth_float64.bind fun _ =>
  (fixedWidth_skip 8).bind fun _ => fixedWidth_float64.bind fun _ =>
  (fixedWidth_skip 12).bind fun _ => fixedWidth_word32.map _

end NavStream.Oem
