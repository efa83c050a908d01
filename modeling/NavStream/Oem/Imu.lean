import NavStream.Axes

/-!
# Inertial measurement units

Raw samples are counts, whose meaning depends on the model of the unit and on how it is mounted.

* `ImuType`, `ImuType.parameter` — the models and their scales;
* `ImuFrameMapping` — the mountings.
-/

namespace NavStream.Oem

/-- Models of inertial units. -/
inductive ImuType where
  | imarFsas | isa100C | adis16488 | stim300 | isa100 | isa100At400Hz | isa100CAt400Hz | g320N
  | cptXw5651
deriving DecidableEq, Repr

/-- How counts of a unit are scaled, and how often it reports. -/
structure ImuParameter where
  /-- Radians of a count of angle. -/
  gyroScale : Float
  /-- Meters per second of a count of velocity. -/
  accelScale : Float
  /-- Samples per second. -/
  samplingRate : Float

namespace ImuParameter

/-- Seconds between two samples. -/
def samplePeriod (parameter : ImuParameter) : Float := 1.0 / parameter.samplingRate

end ImuParameter

namespace ImuType

/-- Every model. -/
def all : List ImuType := [
  imarFsas, isa100C, adis16488, stim300, isa100, isa100At400Hz, isa100CAt400Hz, g320N, cptXw5651]

/-- The model that is assumed where none is configured. -/
instance : Inhabited ImuType := ⟨adis16488⟩

/-- The number by which receivers tell a model. -/
def code : ImuType → UInt8
  | imarFsas => 13
  | isa100C => 26
  | adis16488 => 31
  | stim300 => 32
  | isa100 => 34
  | isa100At400Hz => 38
  | isa100CAt400Hz => 39
  | g320N => 40
  | cptXw5651 => 41

/-- The model of a number. -/
def ofCode? (code : UInt8) : Option ImuType := all.find? (·.code == code)

/-- The name of a model. -/
def name : ImuType → String
  | imarFsas => "ImarFsas"
  | isa100C => "Isa100C"
  | adis16488 => "Adis16488"
  | stim300 => "Stim300"
  | isa100 => "Isa100"
  | isa100At400Hz => "Isa100At400Hz"
  | isa100CAt400Hz => "Isa100CAt400Hz"
  | g320N => "G320N"
  | cptXw5651 => "CptXw5651"

/-- How a model is written in a configuration. -/
def keyword : ImuType → String
  | imarFsas => "imar-fsas"
  | isa100C => "isa100-c"
  | adis16488 => "adis16488"
  | stim300 => "stim300"
  | isa100 => "isa100"
  | isa100At400Hz => "isa100-at400-hz"
  | isa100CAt400Hz => "isa100-c-at400-hz"
  | g320N => "g320-n"
  | cptXw5651 => "cpt-xw5651"

/-- The scales and the rate of a model. -/
def parameter : ImuType → ImuParameter
  | imarFsas => ⟨0.1 / 256.0 / 3600.0 * degree, 0.05 / 32768.0, 200.0⟩
  | isa100C | isa100 => ⟨1.0e-9, 2.0e-8, 200.0⟩
  | isa100At400Hz | isa100CAt400Hz => ⟨1.0e-9, 2.0e-8, 400.0⟩
  | adis16488 => ⟨720.0 / 2147483648.0 * degree, 200.0 / 2147483648.0, 200.0⟩
  | stim300 => ⟨1.0 / 2097152.0 * degree, 1.0 / 4194304.0, 125.0⟩
  | g320N =>
    ⟨0.008 / 65536.0 / 125.0 * degree, 0.200 / 65536.0 * gravity * 1e-3 / 125.0, 125.0⟩
  | cptXw5651 => ⟨0.1 / (3600.0 * 256.0), 0.05 / 32768.0, 100.0⟩

/-- A model is found by its own number. -/
theorem ofCode?_code (model : ImuType) : ofCode? model.code = some model := by
  cases model <;> decide

end ImuType

/-- How a unit is mounted in the vehicle. -/
inductive ImuFrameMapping where
  /-- Its axes point right, front and up. -/
  | rightFrontUp
  /-- Its axes are turned by a quarter about the upward one. -/
  | frontLeftUp
deriving DecidableEq, Repr

namespace ImuFrameMapping

/-- Every mounting. -/
def all : List ImuFrameMapping := [rightFrontUp, frontLeftUp]

/-- The mounting that is assumed where none is configured. -/
instance : Inhabited ImuFrameMapping := ⟨rightFrontUp⟩

/-- The number by which receivers tell a mounting. -/
def code : ImuFrameMapping → UInt8
  | rightFrontUp => 5
  | frontLeftUp => 6

/-- The mounting of a number. -/
def ofCode? (code : UInt8) : Option ImuFrameMapping := all.find? (·.code == code)

/-- The name of a mounting. -/
def name : ImuFrameMapping → String
  | rightFrontUp => "RightFrontUp"
  | frontLeftUp => "FrontLeftUp"

end ImuFrameMapping

end NavStream.Oem
