import NavStream.Capture.Listing
import NavStream.Config
import NavStream.Decimal.Reading

/-!
# Command line arguments

There are two commands. Both take options and the name of one input; options may stand before and
behind it, and each at most once. The value of an option follows it, after an equals sign or as the
next argument, which then must not look like an option itself.

* `Command` — what is asked for;
* `Invocation.parse` — the arguments of a command line.
-/

namespace NavStream.Cli

open NavStream.Capture

/-- What both commands are told. -/
structure Options where
  /-- The file of the configuration. -/
  config : Option String := none
  /-- The wire format, where there is no configuration. -/
  format : Option WireFormat := none
  /-- The number of bytes that are decoded at a time. -/
  chunk : Option Nat := none
  /-- The form of the output. -/
  output : Option OutputFormat := none
  /-- The file of the capture. -/
  input : Option String := none

/-- The commands. -/
inductive CommandName where
  /-- List the messages of a capture. -/
  | decode
  /-- Summarise a capture. -/
  | info
deriving DecidableEq, Repr

namespace CommandName

/-- The command of a word. -/
def ofWord? : String → Option CommandName
  | "decode" => some decode
  | "info" => some info
  | _ => none

end CommandName

/-- A command with everything it is told. -/
structure Command where
  /-- The command. -/
  name : CommandName
  /-- The file of the configuration, if there is one. -/
  config : Option String
  /-- The wire format, where there is no configuration. -/
  format : WireFormat
  /-- The number of bytes that are decoded at a time. -/
  chunk : Nat
  /-- The form of the output. -/
  output : OutputFormat
  /-- The file of the capture. -/
  input : String

/-- What a command line asks for. -/
inductive Invocation where
  | run (command : Command)
  /-- A description of the commands. -/
  | help
  /-- The name and the version of the program. -/
  | version

/-- The options. -/
inductive OptionName where
  | config | format | chunk | output
deriving DecidableEq, Repr

namespace OptionName

/-- The option of a word. Only one command has chunks. -/
def ofWord? (command : CommandName) : String → Option OptionName
  | "config" => some config
  | "format" => some format
  | "chunk" => if command = .decode then some chunk else none
  | "output" => some output
  | _ => none

/-- The option of a letter. -/
def ofLetter? : Char → Option OptionName
  | 'c' => some config
  | 'f' => some format
  | 'o' => some output
  | _ => none

end OptionName

/-- The wire format of a word. -/
def format? : String → Option WireFormat
  | "novatel" => some .binary
  | "huace" => some .sentences
  | _ => none

/-- The form of output of a word. -/
def output? : String → Option OutputFormat
  | "text" => some .text
  | "json" => some .json
  | _ => none

/-- The size of a word. -/
def size? (word : String) : Option Nat :=
  (Decimal.natural? 10 (Decimal.dropPlus word.toList)).filter (· < 0x10000000000000000)

/-- The name of a file, which is not empty. -/
def fileName? (word : String) : Option String := if word.isEmpty then none else some word

/-- Sets what was not set before. -/
def once {α : Type} (before value : Option α) : Option α :=
  match before with
  | some _ => none
  | none => value

namespace Options

/-- Sets an option, if its value is one for it and it was not set before. -/
def assign (options : Options) (name : OptionName) (value : String) : Option Options :=
  match name with
  | .config => (once options.config (fileName? value)).map ({ options with config := some · })
  | .format => (once options.format (format? value)).map ({ options with format := some · })
  | .chunk => (once options.chunk (size? value)).map ({ options with chunk := some · })
  | .output => (once options.output (output? value)).map ({ options with output := some · })

/-- Sets the input. -/
def assignInput (options : Options) (value : String) : Option Options :=
  (once options.input (fileName? value)).map ({ options with input := some · })

/-- The command that options make, once there is an input. -/
def toCommand (options : Options) (name : CommandName) : Option Command :=
  options.input.map fun input =>
    { name, input
      config := options.config
      format := options.format.getD .binary
      chunk := options.chunk.getD 4096
      output := options.output.getD .text }

end Options

/-- How an argument is to be understood. -/
inductive Argument where
  /-- It asks for a description. -/
  | help
  /-- It sets an option, to a value where it brings one. -/
  | option (name : OptionName) (value : Option String)
  /-- It ends the options. -/
  | endOfOptions
  /-- It is the input. -/
  | input (word : String)
  /-- It is not understood. -/
  | unknown

namespace Argument

/-- A word with two dashes in front of it, cut at its first equals sign. -/
def ofLong (command : CommandName) (word : List Char) : Argument :=
  let spelled := String.ofList (word.takeWhile (· != '='))
  let value :=
    match word.dropWhile (· != '=') with
    | [] => none
    | _ :: value => some (String.ofList value)
  match OptionName.ofWord? command spelled with
  | some name => .option name value
  | none => if spelled = "help" && value.isNone then .help else .unknown

/-- A letter with one dash in front of it, and what follows the letter. -/
def ofShort (letter : Char) (rest : List Char) : Argument :=
  match OptionName.ofLetter? letter with
  | some name =>
    match rest with
    | [] => .option name none
    | '=' :: value => .option name (some (String.ofList value))
    | value => .option name (some (String.ofList value))
  | none => if letter = 'h' then .help else .unknown

/-- The meaning of an argument in front of which the options were not ended. -/
def of (command : CommandName) (word : String) : Argument :=
  match word.toList with
  | ['-', '-'] => .endOfOptions
  | '-' :: '-' :: rest => ofLong command rest
  | '-' :: letter :: rest => ofShort letter rest
  | _ => .input word

end Argument

/-- Whether an argument can be the value of an option before it: it must not begin with a dash,
unless it is nothing else. -/
def isValue (word : String) : Bool :=
  match word.toList with
  | '-' :: _ :: _ => false
  | _ => true

/-- The arguments of a command, of which some are set already. Once the options are `ended`, every
argument is an input. -/
def parseArguments (command : CommandName) :
    List String → (ended : Bool) → Options → Option Invocation
  | [], _, options => (options.toCommand command).map .run
  | word :: rest, true, options =>
    (options.assignInput word).bind fun options => parseArguments command rest true options
  | word :: rest, false, options =>
    match Argument.of command word with
    | .help => some .help
    | .unknown => none
    | .endOfOptions => parseArguments command rest true options
    | .input word =>
      (options.assignInput word).bind fun options => parseArguments command rest false options
    | .option name (some value) =>
      (options.assign name value).bind fun options => parseArguments command rest false options
    | .option name none =>
      match rest with
      | [] => none
      | value :: rest =>
        if isValue value then
          (options.assign name value).bind fun options => parseArguments command rest false options
        else none

/-- What the arguments of a command line ask for, if they are understood. -/
def Invocation.parse : List String → Option Invocation
  | [] => none
  | word :: rest =>
    match CommandName.ofWord? word with
    | some command => parseArguments command rest false {}
    | none =>
      if word = "help" then
        match rest with
        | [] => some .help
        | [topic] =>
          if (CommandName.ofWord? topic).isSome || topic = "help" then some .help else none
        | _ => none
      else if word = "--help" || word.startsWith "-h" then some .help
      else if word = "--version" || word.startsWith "-V" then some .version
      else none

end NavStream.Cli
