import NavStream.Message.Basic

/-!
# Units and axes

Messages use one convention for units and axes, whatever a receiver reports: meters and radians,
yaw counted from east against the clock, and the front-left-up frame of the vehicle.
-/

namespace NavStream

/-- Half a turn, in radians. -/
def pi : Float := 3.14159265358979323846264338327950288

/-- Radians of a degree. -/
def degree : Float := pi / 180.0

/-- Standard gravity, in meters per second squared. -/
def gravity : Float := 9.80665

/-- Right, front and up components in the front-left-up frame. -/
def frontLeftUp (right front up : Float) : Vector3 := ⟨front, -right, up⟩

/-- The yaw in radians of a compass azimuth in degrees. -/
def yawOfAzimuth (azimuth : Float) : Float := (90.0 - azimuth) * degree

end NavStream
