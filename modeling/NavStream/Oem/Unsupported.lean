/-!
# Numbers that stand for nothing known

Receivers and configurations name models and mountings of inertial units by numbers, most of which
stand for none.
-/

namespace NavStream.Oem

/-- A number of an inertial unit that stands for nothing known. -/
inductive Unsupported where
  /-- No model has the number. -/
  | imuType (code : UInt8)
  /-- No mounting has the number. -/
  | frameMapping (code : UInt8)
deriving DecidableEq, Repr

namespace Unsupported

/-- What a number was expected to stand for. -/
def subject : Unsupported → String
  | imuType _ => "imu type"
  | frameMapping _ => "imu frame mapping"

/-- The number. -/
def code : Unsupported → UInt8
  | imuType code => code
  | frameMapping code => code

/-- The text of the error. -/
def message (unsupported : Unsupported) : String :=
  "unsupported " ++ unsupported.subject ++ " " ++ toString unsupported.code.toNat

end Unsupported

end NavStream.Oem
