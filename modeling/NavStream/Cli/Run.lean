import NavStream.Capture.Filling
import NavStream.Capture.Run
import NavStream.Cli.Arguments
import NavStream.Cli.Folder
import NavStream.Cli.LogFilter
import NavStream.Cli.Report

/-!
# The program

What the program prints is a function of its arguments, of the files they name and of the setting of
its log.

* `Outcome` — what the program leaves behind;
* `run` — the program.
-/

namespace NavStream.Cli

open NavStream.Capture

/-- What the program leaves behind. -/
structure Outcome where
  /-- Zero where all went well. -/
  exitCode : UInt8
  /-- What it printed. -/
  stdout : String
  /-- What it logged. -/
  stderr : String
deriving DecidableEq, Repr

/-- The name of the program and its version. -/
def version : String := "gnss-cmd 0.1.0"

/-- The target of reports on the program itself. -/
def programTarget : String := "gnss"

/-- The target of reports on the listing of a capture. -/
def listingTarget : String := "gnss::decode"

/-- The target of reports on the places of an overview that are filled in. -/
def fillingTarget : String := "handlebars::render"

/-- The names that a filter knows the parts of a report by, its text being one of them. -/
def partNames (fields : List (String × FieldValue)) : List String :=
  "message" :: fields.map fun (name, _) => name

/-- A report as a line, if it is logged. -/
def logged (filter : LogFilter) (target : String) (level : Level) (message : String)
    (fields : List (String × FieldValue)) : String :=
  if filter.admits target level (partNames fields) then logLine level message fields else ""

/-- The reports on decoding that are logged. -/
def decodingLines (filter : LogFilter) (diagnostics : List Diagnostic) : String :=
  String.join <| diagnostics.map fun d => logged filter d.target d.level d.message d.fields

/-- The names that a filter knows the parts of a report on a filled place by. All but the first of
them tell where the report is made, and are not shown. -/
def fillingParts : List String :=
  ["message", "log.target", "log.module_path", "log.file", "log.line"]

/-- The reports on filled places that are logged. -/
def fillingLines (filter : LogFilter) (fillings : List Filling) : String :=
  if filter.admits fillingTarget .debug fillingParts then
    String.join (fillings.map fun filling => logLine .debug filling.message [])
  else ""

/-- The text of a configuration that is wrong. -/
def invalidConfig (cause : String) : String := "Invalid config: " ++ cause

/-- The configuration of a command. -/
def loadConfig (files : String → Resource) (command : Command) : Except Report Config :=
  match command.config with
  | none => .ok { format := command.format }
  | some path =>
    let headline := "loading config " ++ Text.quote path
    match files path with
    | .unavailable reason => .error ⟨headline, [reason]⟩
    | .unreadable reason => .error ⟨headline, [invalidConfig reason, reason]⟩
    | .file bytes =>
      match Config.ofJson bytes with
      | .ok config => .ok config
      | .error error => .error ⟨headline, [invalidConfig error.message, error.message]⟩

/-- The bytes of the input; `headline` tells what failed where it cannot be opened. -/
def loadInput (files : String → Resource) (command : Command) (headline : String) :
    Except Report (List UInt8) :=
  match files command.input with
  | .unavailable reason => .error ⟨headline, [reason]⟩
  | .unreadable reason => .error ⟨"reading input", [reason]⟩
  | .file bytes => .ok bytes

/-- What a command printed and logged, where nothing went wrong. -/
structure Printed where
  stdout : String
  stderr : String

/-- Lists the messages of a capture. -/
def decodeCapture (files : String → Resource) (filter : LogFilter) (command : Command)
    (config : Config) : Except Report Printed := do
  if command.chunk = 0 then throw { headline := "--chunk must be greater than 0" }
  let bytes ← loadInput files command ("opening input " ++ Text.quote command.input)
  let run := Capture.decode config command.chunk bytes
  let closing := logged filter listingTarget .info ("decoded " ++ Text.quote command.input) [
    ("messages", .number run.messages.size),
    ("consumed", .number run.consumed),
    ("remaining", .number run.session.buffer.readable)]
  return { stdout := listing command.output run.messages.toList
           stderr := decodingLines filter run.diagnostics.toList ++ closing }

/-- The number of bytes that are decoded at a time where a capture is only summarised. -/
def summaryChunk : Nat := 65536

/-- Summarises a capture. -/
def summariseCapture (files : String → Resource) (filter : LogFilter) (command : Command)
    (config : Config) : Except Report Printed := do
  let bytes ← loadInput files command "opening input"
  let run := Capture.decode config summaryChunk bytes
  let overview :=
    Overview.of command.input run.consumed run.session.buffer.readable run.messages.toList
  let decoding := decodingLines filter run.diagnostics.toList
  return match command.output with
    | .text => ⟨overview.text, decoding ++ fillingLines filter overview.fillings⟩
    | .json => ⟨overview.json, decoding⟩

/-- Does what a command asks for with its configuration. What is printed before an error shows is
told as well. -/
def perform (files : String → Resource) (filter : LogFilter) (command : Command) (config : Config) :
    String × Except Report Printed :=
  match command.name with
  | .decode =>
    (logged filter programTarget .debug config.toDatum.display [],
      decodeCapture files filter command config)
  | .info => ("", summariseCapture files filter command config)

/-- Runs a command. -/
def runCommand (files : String → Resource) (filter : LogFilter) (command : Command) : Outcome :=
  let greeting := logged filter programTarget .debug version []
  match loadConfig files command with
  | .error report => ⟨1, "", greeting ++ report.text⟩
  | .ok config =>
    let (opening, result) := perform files filter command config
    match result with
    | .error report => ⟨1, "", greeting ++ opening ++ report.text⟩
    | .ok printed => ⟨0, printed.stdout, greeting ++ opening ++ printed.stderr⟩

/-- A description of the commands. -/
def usage : String :=
  "Usage: gnss decode [-c config] [-f novatel|huace] [--chunk n] [-o text|json] input\n" ++
  "       gnss info [-c config] [-f novatel|huace] [-o text|json] input\n"

/-- The program: what it prints for its arguments, the files that they name and the setting of its
log. Arguments that are not understood end it with code two. -/
def run (arguments : List String) (files : String → Resource) (log : Option String) : Outcome :=
  match Invocation.parse arguments with
  | none => ⟨2, "", usage⟩
  | some .help => ⟨0, usage, ""⟩
  | some .version => ⟨0, version ++ "\n", ""⟩
  | some (.run command) => runCommand files (.ofSetting log) command

/-- The files that arguments name. -/
def filesOf (arguments : List String) : List String :=
  match Invocation.parse arguments with
  | some (.run command) => command.config.toList ++ [command.input]
  | _ => []

end NavStream.Cli
