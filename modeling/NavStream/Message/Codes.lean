/-!
# Receiver status codes

Receivers report the state of a solution as a number. Each kind of state is a type whose last
constructor keeps a number that stands for no known state.

* `SolutionStatus`, `SolutionType`, `InsStatusCode` — the kinds, each with `code`, `ofCode` and
  `name`;
* `FixType`, `InsType` — what a type of solution and an inertial state amount to.
-/

namespace NavStream

/-- Receiver solution status. -/
inductive SolutionStatus where
  | solComputed | insufficientObs | noConvergence | singularity | covTrace | testDist | coldStart
  | vhLimit | variance | residuals | deltaPos | negativeVar | integrityWarning | insInactive
  | insAligning | insBad | imuUnplugged | pending | invalidFix | unauthorized | invalidRate
  /-- A number that stands for no known status. -/
  | unrecognized (code : UInt32)
deriving DecidableEq, Repr

namespace SolutionStatus

/-- Every known status. -/
def known : List SolutionStatus := [
  solComputed, insufficientObs, noConvergence, singularity, covTrace, testDist, coldStart,
  vhLimit, variance, residuals, deltaPos, negativeVar, integrityWarning, insInactive,
  insAligning, insBad, imuUnplugged, pending, invalidFix, unauthorized, invalidRate]

/-- The number of a status. -/
def code : SolutionStatus → UInt32
  | solComputed => 0
  | insufficientObs => 1
  | noConvergence => 2
  | singularity => 3
  | covTrace => 4
  | testDist => 5
  | coldStart => 6
  | vhLimit => 7
  | variance => 8
  | residuals => 9
  | deltaPos => 10
  | negativeVar => 11
  | integrityWarning => 13
  | insInactive => 14
  | insAligning => 15
  | insBad => 16
  | imuUnplugged => 17
  | pending => 18
  | invalidFix => 19
  | unauthorized => 20
  | invalidRate => 22
  | unrecognized code => code

/-- The status of a number. -/
def ofCode (code : UInt32) : SolutionStatus :=
  (known.find? (·.code == code)).getD (unrecognized code)

/-- The name of a status. -/
def name : SolutionStatus → String
  | solComputed => "SolComputed"
  | insufficientObs => "InsufficientObs"
  | noConvergence => "NoConvergence"
  | singularity => "Singularity"
  | covTrace => "CovTrace"
  | testDist => "TestDist"
  | coldStart => "ColdStart"
  | vhLimit => "VHLimit"
  | variance => "Variance"
  | residuals => "Residuals"
  | deltaPos => "DeltaPos"
  | negativeVar => "NegativeVar"
  | integrityWarning => "IntegrityWarning"
  | insInactive => "InsInactive"
  | insAligning => "InsAligning"
  | insBad => "InsBad"
  | imuUnplugged => "ImuUnplugged"
  | pending => "Pending"
  | invalidFix => "InvalidFix"
  | unauthorized => "Unauthorized"
  | invalidRate => "InvalidRate"
  | unrecognized _ => "Unrecognized"

end SolutionStatus

/-- Receiver position or velocity solution type. -/
inductive SolutionType where
  | none | fixedPos | fixedHeight | floatConv | wideLane | narrowLane | dopplerVelocity | single
  | psrDiff | waas | propagated | omnistar | l1Float | ionoFreeFloat | narrowFloat | l1Int | wideInt
  | narrowInt | rtkDirectIns | insSbas | insPsrSp | insPsrDiff | insRtkFloat | insRtkFixed
  | insOmnistar | insOmnistarHp | insOmnistarXp | omnistarHp | omnistarXp | pppConverging | ppp
  | insPppConverging | insPpp
  /-- A number that stands for no known type. -/
  | unrecognized (code : UInt32)
deriving DecidableEq, Repr

namespace SolutionType

/-- Every known type. -/
def known : List SolutionType := [
  none, fixedPos, fixedHeight, floatConv, wideLane, narrowLane, dopplerVelocity, single, psrDiff,
  waas, propagated, omnistar, l1Float, ionoFreeFloat, narrowFloat, l1Int, wideInt, narrowInt,
  rtkDirectIns, insSbas, insPsrSp, insPsrDiff, insRtkFloat, insRtkFixed, insOmnistar,
  insOmnistarHp, insOmnistarXp, omnistarHp, omnistarXp, pppConverging, ppp, insPppConverging,
  insPpp]

/-- The number of a type. -/
def code : SolutionType → UInt32
  | none => 0
  | fixedPos => 1
  | fixedHeight => 2
  | floatConv => 4
  | wideLane => 5
  | narrowLane => 6
  | dopplerVelocity => 8
  | single => 16
  | psrDiff => 17
  | waas => 18
  | propagated => 19
  | omnistar => 20
  | l1Float => 32
  | ionoFreeFloat => 33
  | narrowFloat => 34
  | l1Int => 48
  | wideInt => 49
  | narrowInt => 50
  | rtkDirectIns => 51
  | insSbas => 52
  | insPsrSp => 53
  | insPsrDiff => 54
  | insRtkFloat => 55
  | insRtkFixed => 56
  | insOmnistar => 57
  | insOmnistarHp => 58
  | insOmnistarXp => 59
  | omnistarHp => 64
  | omnistarXp => 65
  | pppConverging => 68
  | ppp => 69
  | insPppConverging => 73
  | insPpp => 74
  | unrecognized code => code

/-- The type of a number. -/
def ofCode (code : UInt32) : SolutionType :=
  (known.find? (·.code == code)).getD (unrecognized code)

/-- The name of a type. -/
def name : SolutionType → String
  | none => "None"
  | fixedPos => "FixedPos"
  | fixedHeight => "FixedHeight"
  | floatConv => "FloatConv"
  | wideLane => "WideLane"
  | narrowLane => "NarrowLane"
  | dopplerVelocity => "DopplerVelocity"
  | single => "Single"
  | psrDiff => "PsrDiff"
  | waas => "Waas"
  | propagated => "Propagated"
  | omnistar => "Omnistar"
  | l1Float => "L1Float"
  | ionoFreeFloat => "IonoFreeFloat"
  | narrowFloat => "NarrowFloat"
  | l1Int => "L1Int"
  | wideInt => "WideInt"
  | narrowInt => "NarrowInt"
  | rtkDirectIns => "RtkDirectIns"
  | insSbas => "InsSbas"
  | insPsrSp => "InsPsrSp"
  | insPsrDiff => "InsPsrDiff"
  | insRtkFloat => "InsRtkFloat"
  | insRtkFixed => "InsRtkFixed"
  | insOmnistar => "InsOmnistar"
  | insOmnistarHp => "InsOmnistarHp"
  | insOmnistarXp => "InsOmnistarXp"
  | omnistarHp => "OmnistarHp"
  | omnistarXp => "OmnistarXp"
  | pppConverging => "PppConverging"
  | ppp => "Ppp"
  | insPppConverging => "InsPppConverging"
  | insPpp => "InsPpp"
  | unrecognized _ => "Unrecognized"

end SolutionType

/-- Inertial solution status. -/
inductive InsStatusCode where
  | inactive | aligning | highVariance | solutionGood | solutionFree | alignmentComplete
  | determiningOrientation | waitingInitialPos | waitingAzimuth | initializingBiases | motionDetect
  /-- A number that stands for no known status. -/
  | unrecognized (code : UInt32)
deriving DecidableEq, Repr

namespace InsStatusCode

/-- Every known status. -/
def known : List InsStatusCode := [
  inactive, aligning, highVariance, solutionGood, solutionFree, alignmentComplete,
  determiningOrientation, waitingInitialPos, waitingAzimuth, initializingBiases, motionDetect]

/-- The number of a status. -/
def code : InsStatusCode → UInt32
  | inactive => 0
  | aligning => 1
  | highVariance => 2
  | solutionGood => 3
  | solutionFree => 6
  | alignmentComplete => 7
  | determiningOrientation => 8
  | waitingInitialPos => 9
  | waitingAzimuth => 10
  | initializingBiases => 11
  | motionDetect => 12
  | unrecognized code => code

/-- The status of a number. -/
def ofCode (code : UInt32) : InsStatusCode :=
  (known.find? (·.code == code)).getD (unrecognized code)

/-- The name of a status. -/
def name : InsStatusCode → String
  | inactive => "Inactive"
  | aligning => "Aligning"
  | highVariance => "HighVariance"
  | solutionGood => "SolutionGood"
  | solutionFree => "SolutionFree"
  | alignmentComplete => "AlignmentComplete"
  | determiningOrientation => "DeterminingOrientation"
  | waitingInitialPos => "WaitingInitialPos"
  | waitingAzimuth => "WaitingAzimuth"
  | initializingBiases => "InitializingBiases"
  | motionDetect => "MotionDetect"
  | unrecognized _ => "Unrecognized"

end InsStatusCode

/-- Quality of a combined position and velocity fix. -/
inductive FixType where
  | invalid | single | psrDiff | ppp | rtkFloat | rtkInteger
deriving DecidableEq, Repr

namespace FixType

/-- Every quality. -/
def all : List FixType := [invalid, single, psrDiff, ppp, rtkFloat, rtkInteger]

/-- The name of a quality. -/
def name : FixType → String
  | invalid => "Invalid"
  | single => "Single"
  | psrDiff => "PsrDiff"
  | ppp => "Ppp"
  | rtkFloat => "RtkFloat"
  | rtkInteger => "RtkInteger"

/-- The quality that a type of solution amounts to. -/
def ofSolution : SolutionType → FixType
  | .single | .insPsrSp => single
  | .psrDiff | .waas | .insSbas => psrDiff
  | .floatConv | .l1Float | .ionoFreeFloat | .narrowFloat | .rtkDirectIns | .insRtkFloat => rtkFloat
  | .wideLane | .narrowLane | .l1Int | .wideInt | .narrowInt | .insRtkFixed => rtkInteger
  | .omnistar | .insOmnistar | .insOmnistarHp | .insOmnistarXp | .omnistarHp | .omnistarXp
  | .pppConverging | .ppp | .insPppConverging | .insPpp => ppp
  | _ => invalid

end FixType

/-- Convergence state of an inertial navigation solution. -/
inductive InsType where
  | invalid | converging | good
deriving DecidableEq, Repr

namespace InsType

/-- Every state. -/
def all : List InsType := [invalid, converging, good]

/-- The name of a state. -/
def name : InsType → String
  | invalid => "Invalid"
  | converging => "Converging"
  | good => "Good"

/-- The state that a reported status amounts to. -/
def ofStatus : InsStatusCode → InsType
  | .alignmentComplete | .solutionGood => good
  | .aligning | .highVariance | .solutionFree => converging
  | _ => invalid

end InsType

end NavStream
