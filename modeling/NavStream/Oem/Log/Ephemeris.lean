import NavStream.Oem.Log.Inertial

/-!
# Ephemeris logs

The layouts of broadcast orbits, read into the orbits that messages carry. Each reader reads its
fields in order and leaves what follows them alone.
-/

namespace NavStream.Oem

open NavStream.Bytes NavStream.Bytes.FieldReader

/-- The layout of a GPS orbit. The log carries the semi-major axis and the variance of the range
accuracy, of which the message has the square roots. -/
def gpsOrbit : FieldReader KeplerOrbit := do
  let satPrn ← word32
  -- time of week
  skip 8
  let health ← word32
  let iode ← word32
  -- the second issue of data
  skip 4
  let weekNum ← word32
  -- the week of the Z count
  skip 4
  let toe ← float64
  let semiMajorAxis ← float64
  let deltan ← float64
  let m0 ← float64
  let e ← float64
  let omega ← float64
  let cuc ← float64
  let cus ← float64
  let crc ← float64
  let crs ← float64
  let cic ← float64
  let cis ← float64
  let i0 ← float64
  let idot ← float64
  let omega0 ← float64
  let omegadot ← float64
  let iodc ← word32
  let toc ← float64
  let tgd ← float64
  let af0 ← float64
  let af1 ← float64
  let af2 ← float64
  -- anti-spoofing and corrected mean motion
  skip 12
  let variance ← float64
  return { satPrn, weekNum, toe, toc, af0, af1, af2, iode, iodc, deltan, m0, e,
           roota := semiMajorAxis.sqrt, cuc, cus, crc, crs, cic, cis, i0, idot, omega0, omega,
           omegadot, health, accuracy := variance.sqrt, tgd }

/-- The layout of a BeiDou orbit. -/
def beiDouOrbit : FieldReader KeplerOrbit := do
  let satPrn ← word32
  let weekNum ← word32
  let accuracy ← float64
  let health ← word32
  let tgd ← float64
  -- the second group delay
  skip 8
  let aodc ← word32
  let toc ← word32
  let af0 ← float64
  let af1 ← float64
  let af2 ← float64
  let aode ← word32
  let toe ← word32
  let roota ← float64
  let e ← float64
  let omega ← float64
  let deltan ← float64
  let m0 ← float64
  let omega0 ← float64
  let omegadot ← float64
  let i0 ← float64
  let idot ← float64
  let cuc ← float64
  let cus ← float64
  let crc ← float64
  let crs ← float64
  let cic ← float64
  let cis ← float64
  return { satPrn, weekNum, toe := toe.toFloat, toc := toc.toFloat, af0, af1, af2, iode := aode,
           iodc := aodc, deltan, m0, e, roota, cuc, cus, crc, crs, cic, cis, i0, idot, omega0,
           omega, omegadot, health, accuracy, tgd }

/-- The layout of a GLONASS orbit. Slots are reported from 38 on and frequencies from 0 on, and
health counts as bad above three. -/
def glonassOrbit : FieldReader GlonassOrbit := do
  let slot ← word16
  let frequency ← word16
  -- satellite type
  skip 2
  let weekNum ← word16
  let millis ← word32
  -- time offset and day number
  skip 8
  let issue ← word32
  let health ← word32
  let position ← vector3
  let velocity ← vector3
  let acceleration ← vector3
  let tau ← float64
  -- delay between the bands
  skip 8
  let clockDrift ← float64
  -- time of frame, flags and accuracy
  skip 12
  let inforAge ← word32
  return { slotPrn := Int32.ofNat slot.toNat - 37
           frequencyNum := Int32.ofNat frequency.toNat - 7
           weekNum := weekNum.toUInt32
           toe := millis.toFloat / 1000.0
           issue, position, velocity, acceleration
           clockOffset := -tau
           clockDrift
           health := if 3 < health then 1 else 0
           inforAge }

end NavStream.Oem
