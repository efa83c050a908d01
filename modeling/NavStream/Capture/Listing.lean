import NavStream.Message.Text
import NavStream.Time.Gps

/-!
# Listings of messages

The messages of a capture are listed one a line, for people or as JSON.
-/

namespace NavStream.Capture

/-- The forms of output. -/
inductive OutputFormat where
  /-- For people. -/
  | text
  /-- For programs. -/
  | json
deriving DecidableEq, Repr

/-- The UTC instant at which a message was measured, if it has one. -/
def utc? (message : Message) : Option Time.Instant :=
  message.measurementTime?.bind Time.gpsToUtc

/-- Text with blanks behind it up to `width`. -/
def padRight (width : Nat) (text : String) : String :=
  text ++ String.ofList (List.replicate (width - text.length) ' ')

/-- The columns that are kept for a time. -/
def timeWidth : Nat := 35

/-- A message for people: its kind, its time, and all of it. -/
def textLine (message : Message) : String :=
  let time := ((utc? message).map Time.Instant.rfc3339).getD "-"
  message.kind.name ++ " " ++ padRight timeWidth time ++ " " ++ message.display

/-- The line of a message. -/
def line (format : OutputFormat) (message : Message) : String :=
  match format with
  | .text => textLine message ++ "\n"
  | .json => message.toJson ++ "\n"

/-- The lines of messages. -/
def listing (format : OutputFormat) (messages : List Message) : String :=
  String.join (messages.map (line format))

end NavStream.Capture
