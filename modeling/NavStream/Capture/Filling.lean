import NavStream.Capture.Summary
import NavStream.Json.Typed

/-!
# How an overview is filled in

The overview for people is a form with places for values. Each place that is filled in is reported,
with the name that stands for the value there. Values that are set in columns are reported with what
they are, and so are the kinds of messages, of which each has a line of its own.

* `Filling` — a place that is filled in;
* `Filling.message` — what is reported of it;
* `Overview.fillings` — the places of an overview, in order.
-/

namespace NavStream.Capture

/-- A place that is filled in. -/
inductive Filling where
  /-- A value, which a path of names leads to. -/
  | value (path : List String)
  /-- The name of the entry that a line is for. -/
  | entryName
  /-- A line for each of the entries that `name` leads to. -/
  | lines (name : String) (entries : Datum)
  /-- The value of a name within an entry, with blanks in front of it up to a width. -/
  | column (width : Nat) (entry : List String) (name : String) (value : Datum)

namespace Filling

/-- Texts between quotes, as a list. -/
def quotedList (texts : List String) : String :=
  "[" ++ ", ".intercalate (texts.map Text.quote) ++ "]"

/-- A path of names, in parts and as a whole. -/
def pathText (path : List String) : String :=
  let parts := path.map fun name => "Named(" ++ Text.quote name ++ ")"
  "([" ++ ", ".intercalate parts ++ "], " ++ Text.quote (".".intercalate path) ++ ")"

/-- An argument of an operation: the name that it is given by, if it has one, and what it is. -/
def argument (name : Option String) (value : String) : String :=
  let name := (name.map fun name => "Some(" ++ Text.quote name ++ ")").getD "None"
  "PathAndJson \x7b relative_path: " ++ name ++ ", value: " ++ value ++ " \x7d"

/-- A number as an argument. -/
def constant (n : Nat) : String :=
  argument none ("Constant(" ++ Json.typed (.integer n) ++ ")")

/-- The value of a name as an argument, with the place that it comes from. -/
def named (name : String) (value : Datum) (place : List String) : String :=
  argument (some name) ("Context(" ++ Json.typed value ++ ", " ++ quotedList place ++ ")")

/-- An operation on arguments. -/
def operation (name : String) (arguments : List String) : String :=
  "Rendering helper: " ++ Text.quote name ++ ", params: [" ++ ", ".intercalate arguments ++
    "], hash: \x7b\x7d"

/-- What is reported of a place. -/
def message : Filling → String
  | value path => "Rendering value: Path(Relative(" ++ pathText path ++ "))"
  | entryName => "Rendering value: Path(Local((0, \"key\", \"@key\")))"
  | lines name entries => operation "each" [named name entries [name]]
  | column width entry name datum =>
    operation "lpad" [constant width, named name datum (entry ++ [name])]

end Filling

namespace Overview

/-- The places in the line of one kind. -/
def kindFillings (kind : MessageKind) (summary : Summary) : List Filling :=
  let entry := ["kinds", kind.name]
  [.entryName,
    .column timeColumn entry "first_time" (Summary.timeDatum summary.first),
    .column timeColumn entry "last_time" (Summary.timeDatum summary.last),
    .column countColumn entry "count" (.integer summary.count)]

/-- The places of an overview, from its top to its bottom. -/
def fillings (overview : Overview) : List Filling :=
  [.value ["filename"], .value ["summary", "first_time"], .value ["summary", "last_time"],
    .value ["summary", "count"], .value ["consumed_bytes"], .value ["remaining_bytes"],
    .lines "kinds" overview.kindsDatum] ++
    overview.kinds.flatMap fun (kind, summary) => kindFillings kind summary

end Overview

end NavStream.Capture
