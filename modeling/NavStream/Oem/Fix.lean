import NavStream.Axes
import NavStream.Oem.Log.Solution

/-!
# Combined fixes

Position and velocity arrive as separate logs. A fix is complete as soon as the latest of both carry
the same time tag, whichever came first, and is not given again while that tag lasts.
-/

namespace NavStream.Oem

/-- A position or velocity log with its time tag. -/
inductive FixUpdate where
  | position (time : Float) (log : BestPos)
  | velocity (time : Float) (log : BestVel)
deriving DecidableEq

/-- The latest halves of a fix. -/
structure FixAccumulator where
  /-- The latest position with its time tag. -/
  position : Option (Float × BestPos) := none
  /-- The latest velocity with its time tag. -/
  velocity : Option (Float × BestVel) := none
  /-- The time tag of the fix that was given last. -/
  emitted : Option Float := none
deriving DecidableEq

namespace FixAccumulator

instance : Inhabited FixAccumulator := ⟨{}⟩

/-- The fix of a position and a velocity with a common time tag. -/
def combine (time : Float) (pos : BestPos) (vel : BestVel) : Fix :=
  let yaw := yawOfAzimuth vel.trackOverGround
  { measurementTime := time
    position := ⟨pos.latitude, pos.longitude, pos.heightMsl + pos.undulation.toFloat⟩
    positionStdDev :=
      ⟨pos.longitudeStdDev.toFloat, pos.latitudeStdDev.toFloat, pos.heightStdDev.toFloat⟩
    linearVelocity :=
      ⟨vel.horizontalSpeed * yaw.cos, vel.horizontalSpeed * yaw.sin, vel.verticalSpeed⟩
    solutionStatus := pos.solutionStatus
    solutionType := pos.positionType
    fixType :=
      if pos.solutionStatus = .solComputed then FixType.ofSolution pos.positionType else .invalid
    numSats := pos.numSatsInSolution.toUInt32
    differentialAge := pos.differentialAge
    solutionAge := pos.solutionAge }

/-- Whether a fix of some time tag was the last one given. -/
def wasEmitted (acc : FixAccumulator) (time : Float) : Bool :=
  match acc.emitted with
  | some last => last == time
  | none => false

/-- The fix that the latest halves make, if they fit and it was not given already. -/
def complete (acc : FixAccumulator) : Option Fix :=
  match acc.position, acc.velocity with
  | some (time, pos), some (velTime, vel) =>
    if time == velTime && !acc.wasEmitted time then some (combine time pos vel) else none
  | _, _ => none

/-- Takes a log in. -/
def store (acc : FixAccumulator) : FixUpdate → FixAccumulator
  | .position time log => { acc with position := some (time, log) }
  | .velocity time log => { acc with velocity := some (time, log) }

/-- Takes a log in and gives the fix that it completes. -/
def apply (acc : FixAccumulator) (update : FixUpdate) : FixAccumulator × Option Fix :=
  let stored := acc.store update
  match stored.complete with
  | some fix => ({ stored with emitted := some fix.measurementTime }, some fix)
  | none => (stored, none)

end FixAccumulator

end NavStream.Oem
