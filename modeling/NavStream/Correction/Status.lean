/-!
# Correction events

An external decoder of differential corrections answers every byte with a status: zero while it
needs more, a positive number when a message is complete and a negative one when something is wrong.
-/

namespace NavStream.Correction

/-- What was completed by a byte. -/
inductive Event where
  | observation
  | ephemeris
  | stationAuxiliary
  | productSpecific
  /-- The position of the reference station. -/
  | station
  /-- Corrections in state space representation. -/
  | ssr
  /-- The decoder reports an error and finds its way back on its own. -/
  | error (code : Int)
  /-- A message of no further interest. -/
  | other (code : Int)
deriving DecidableEq, Repr

namespace Event

/-- The event of a status; zero means that more bytes are needed. -/
def ofStatus (status : Int) : Option Event :=
  if status = 0 then none
  else if status = 1 then some observation
  else if status = 2 then some ephemeris
  else if status = 3 then some stationAuxiliary
  else if status = 4 then some productSpecific
  else if status = 5 then some station
  else if status = 10 then some ssr
  else if status < 0 then some (error status)
  else some (other status)

/-- The text of an event. -/
def text : Event → String
  | observation => "Observation"
  | ephemeris => "Ephemeris"
  | stationAuxiliary => "StationAuxiliary"
  | productSpecific => "ProductSpecific"
  | station => "Station"
  | ssr => "Ssr"
  | error code => "Error(" ++ toString code ++ ")"
  | other code => "Other(" ++ toString code ++ ")"

end Event

end NavStream.Correction
