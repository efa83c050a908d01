/-!
# Errors that end the program

An error that ends the program is told with what was being done and with the causes below it.
-/

namespace NavStream.Cli

/-- An error that ends the program. -/
structure Report where
  /-- What was being done, or what is wrong. -/
  headline : String
  /-- The causes, the nearest first. -/
  causes : List String := []
deriving DecidableEq, Repr

namespace Report

/-- A text whose first line begins with one indent and whose other lines begin with another. -/
def indented (first others text : String) : String :=
  first ++ ("\n" ++ others).intercalate (text.splitOn "\n")

/-- The causes with their numbers in front of them. -/
def numbered (number : Nat) : List String → List String
  | [] => []
  | cause :: rest =>
    indented ("    " ++ toString number ++ ": ") "       " cause :: numbered (number + 1) rest

/-- A single cause stands alone, several are numbered from zero. -/
def causeLines : List String → List String
  | [cause] => [indented "    " "    " cause]
  | causes => numbered 0 causes

/-- The text of a report. -/
def text (report : Report) : String :=
  let causes :=
    if report.causes.isEmpty then ""
    else "\n\nCaused by:\n" ++ "\n".intercalate (causeLines report.causes)
  "Error: " ++ report.headline ++ causes ++ "\n"

end Report

end NavStream.Cli
