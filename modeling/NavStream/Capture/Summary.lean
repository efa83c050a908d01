import NavStream.Capture.Listing

/-!
# Summaries of captures

A capture is summarised by the number of its messages and the time that they span, for all messages
together and for each kind that occurs.

* `Summary.of` — the summary of messages;
* `Overview.enter` — the summaries of the kinds, with one more message;
* `Overview.of` — the summaries of a capture;
* `Overview.text`, `Overview.json` — the two forms of output.
-/

namespace NavStream.Capture

open NavStream.Time

/-- How many messages there are, and when the first and the last of them was measured. -/
structure Summary where
  count : Nat := 0
  first : Option Instant := none
  last : Option Instant := none
deriving DecidableEq, Repr

namespace Summary

/-- Takes one more message in, of which the time may not be known. -/
def add (summary : Summary) (time : Option Instant) : Summary :=
  match time with
  | none => { summary with count := summary.count + 1 }
  | some time =>
    { count := summary.count + 1
      first := some ((summary.first.map (·.min time)).getD time)
      last := some ((summary.last.map (·.max time)).getD time) }

/-- The summary of messages. -/
def of (messages : List Message) : Summary :=
  messages.foldl (fun summary message => summary.add (utc? message)) {}

/-- A time as a datum. -/
def timeDatum : Option Instant → Datum
  | none => .missing
  | some time => .present (.text time.rfc3339Zulu)

/-- A summary as a datum. -/
def toDatum (summary : Summary) : Datum :=
  .record "Summary" [
    ("count", .integer summary.count),
    ("first_time", timeDatum summary.first),
    ("last_time", timeDatum summary.last)]

end Summary

/-- What is told about a capture. -/
structure Overview where
  /-- The name of the file. -/
  filename : String
  /-- The number of bytes that were discarded. -/
  consumed : Nat
  /-- The number of bytes that were left over. -/
  remaining : Nat
  /-- All messages. -/
  summary : Summary
  /-- The messages of each kind that occurs, by name. -/
  kinds : List (MessageKind × Summary)

namespace Overview

/-- Takes one more message in, of a kind and a time that may not be known. A kind that has not
occurred before gets its place by its name. -/
def enter (kind : MessageKind) (time : Option Instant) :
    List (MessageKind × Summary) → List (MessageKind × Summary)
  | [] => [(kind, Summary.add {} time)]
  | (other, summary) :: rest =>
    if kind = other then (other, summary.add time) :: rest
    else if kind.name < other.name then (kind, Summary.add {} time) :: (other, summary) :: rest
    else (other, summary) :: enter kind time rest

/-- The messages of each kind that occurs. -/
def kindsOf (messages : List Message) : List (MessageKind × Summary) :=
  messages.foldl (fun kinds message => enter message.kind (utc? message) kinds) []

/-- The overview of a capture. -/
def of (filename : String) (consumed remaining : Nat) (messages : List Message) : Overview where
  filename := filename
  consumed := consumed
  remaining := remaining
  summary := .of messages
  kinds := kindsOf messages

/-- The summaries of the kinds as a datum. -/
def kindsDatum (overview : Overview) : Datum :=
  .record "Kinds" (overview.kinds.map fun (kind, summary) => (kind.name, summary.toDatum))

/-- An overview as a datum. -/
def toDatum (overview : Overview) : Datum :=
  .record "Overview" [
    ("filename", .text overview.filename),
    ("consumed_bytes", .integer overview.consumed),
    ("remaining_bytes", .integer overview.remaining),
    ("summary", overview.summary.toDatum),
    ("kinds", overview.kindsDatum)]

/-- An overview for programs. -/
def json (overview : Overview) : String := Json.pretty overview.toDatum

/-! ## The overview for people -/

/-- How a character stands where markup might be read. -/
def escapeMarkup (c : Char) : String :=
  if c = '&' then "&amp;"
  else if c = '<' then "&lt;"
  else if c = '>' then "&gt;"
  else if c = '"' then "&quot;"
  else if c = '\x27' then "&#x27;"
  else if c = '=' then "&#x3D;"
  else if c = '\x60' then "&#x60;"
  else c.toString

/-- Text in which no markup can be read. -/
def withoutMarkup (text : String) : String := String.join (text.toList.map escapeMarkup)

/-- Text with blanks in front of it up to `width`. -/
def padLeft (width : Nat) (text : String) : String :=
  String.ofList (List.replicate (width - text.length) ' ') ++ text

/-- A time, or nothing. -/
def timeText : Option Instant → String
  | none => ""
  | some time => time.rfc3339Zulu

/-- A line of one repeated character over the whole width. -/
def rule (c : Char) : String := String.ofList (List.replicate 90 c)

/-- The width of the column of a time. -/
def timeColumn : Nat := 33

/-- The width of the column of a number of messages. -/
def countColumn : Nat := 10

/-- The line of one kind. -/
def kindLine (kind : MessageKind) (summary : Summary) : String :=
  "  ".intercalate [kind.name, padLeft timeColumn (timeText summary.first),
    padLeft timeColumn (timeText summary.last), padLeft countColumn (toString summary.count)]

/-- The heads of the columns. -/
def columnHeads : String :=
  padRight 16 "Kind" ++ padRight 35 "First" ++ padRight 36 "Last" ++ "Count"

/-- An overview for people. -/
def text (overview : Overview) : String :=
  let lines := [
    withoutMarkup overview.filename,
    rule '=',
    "First:     " ++ timeText overview.summary.first,
    "Last:      " ++ timeText overview.summary.last,
    "Messages:  " ++ toString overview.summary.count,
    "Consumed:  " ++ toString overview.consumed ++ " bytes",
    "Remaining: " ++ toString overview.remaining ++ " bytes",
    rule '-',
    columnHeads,
    rule '-'] ++ overview.kinds.map fun (kind, summary) => kindLine kind summary
  String.join (lines.map (· ++ "\n"))

end Overview

end NavStream.Capture
