import NavStream.Decimal.Reading
import NavStream.Diagnostic
import NavStream.Pattern.Reader
import NavStream.Pattern.Support
import NavStream.Text.Alphanumeric
import NavStream.Text.Slice

/-!
# Which reports are logged

A filter is a list of directives, divided by commas. A directive sets how serious reports must be:
those of a target, a target being meant by every word that its name begins with, or all of them. A
condition in brackets behind the target, or instead of it, restricts a directive to reports that
are made within a span of work or that have a field. The field may be given a value, which must be a
number or a search pattern. A directive without a level lets every report through.

Of several directives that are meant for a report the most specific one decides.

* `Directive` — the reports that are meant, and their level;
* `LogFilter.directive?`, `LogFilter.parse?` — the directive of a text, the filter of a text;
* `LogFilter.admits` — whether a report is logged.
-/

namespace NavStream.Cli

open NavStream.Text

/-- A field that reports must have. -/
structure FieldCondition where
  /-- Its name. -/
  name : String
  /-- Its value, if it matters. -/
  value : Option String
deriving DecidableEq, Repr

/-- How serious reports must be. -/
structure Directive where
  /-- What the name of their target begins with, if the target matters. -/
  target : Option String := none
  /-- The span of work within which they are made, if it matters. -/
  span : Option String := none
  /-- A field that they have, if one matters. -/
  field : Option FieldCondition := none
  /-- The level from which on they are logged, if any are. -/
  level : Option Level
deriving DecidableEq, Repr

namespace Directive

/-- Whether a directive is meant for a report of a target with the fields of given names. No report
is made within a span of work, and the value of a field only matters to spans. -/
def concerns (directive : Directive) (target : String) (fields : List String) : Bool :=
  directive.span.isNone && directive.target.all (target.startsWith ·) &&
    directive.field.all fun field => field.value.isNone && fields.contains field.name

/-- Whether a directive is less specific than another one: its target is shorter, or equally long
while it asks for no field, or for one whose name comes first. -/
def lessSpecific (a b : Directive) : Bool :=
  let size (d : Directive) : Nat := (d.target.map String.utf8ByteSize).getD 0
  if size a = size b then
    match a.field, b.field with
    | none, some _ => true
    | some first, some second => first.name < second.name
    | _, none => false
  else size a < size b

end Directive

/-- Directives, in order. -/
abbrev LogFilter := List Directive

namespace LogFilter

/-! ## Reading filters -/

/-- The levels by their numbers. -/
def numberedLevels : List (Option Level) :=
  [none, some .error, some .warn, some .info, some .debug, some .trace]

/-- The levels by their names. -/
def namedLevels : List (String × Option Level) := [
  ("off", none), ("error", some .error), ("warn", some .warn), ("info", some .info),
  ("debug", some .debug), ("trace", some .trace)]

/-- The level of a word: its number, or its name in either case. -/
def level? (word : List Char) : Option (Option Level) :=
  match Decimal.natural? 10 (Decimal.dropPlus word) with
  | some number => numberedLevels[number]?
  | none => namedLevels.lookup (String.ofList (word.map Char.toLower))

/-- Whether a directive may begin with a character. -/
def isDirectiveStart (c : Char) : Bool :=
  isAlphanumeric c || c = '-' || c = ':' || c = '_' || c = '['

/-- Whether a character ends the target of a directive. -/
def endsTarget (c : Char) : Bool := c = '=' || c = '['

/-- Whether a text can be the value of a field: a number, or a pattern that can be searched for. -/
def isValue (text : List Char) : Bool :=
  (Decimal.float? text).isSome || (Pattern.read? text).any Pattern.isSupported

/-- The field that a condition asks for: a name, and behind an equals sign a value. Another equals
sign ends the value. -/
def fieldCondition? (text : List Char) : Option FieldCondition :=
  let name := String.ofList (text.takeWhile (· != '='))
  match text.dropWhile (· != '=') with
  | [] => if text.isEmpty then none else some { name, value := none }
  | _ :: rest =>
    let value := rest.takeWhile (· != '=')
    if isValue value then some { name, value := some (String.ofList value) } else none

/-- What lies in a text as far behind its beginning as `rest` lies behind that of `body`. -/
def behind? (text body rest : List Char) : Option (List Char) :=
  dropBytes? (byteSize body - byteSize rest) text

/-- What lies in a text as far behind its beginning as the part of `body` does that begins with
`start` and ends in front of `rest`. -/
def part? (text body start rest : List Char) : Option (List Char) :=
  (behind? text body start).bind (takeBytes? (byteSize start - byteSize rest))

/-- A name, if it is not empty. -/
def named (name : List Char) : Option String :=
  if name.isEmpty then none else some (String.ofList name)

/-- The level behind a target or a condition: every report is logged where there is none. -/
def threshold? (text body : List Char) : List Char → Option (Option Level)
  | [] => some (some .trace)
  | '=' :: rest => (behind? text body rest).bind fun word =>
    if word.isEmpty then some (some .trace) else level? word
  | _ => none

/-- The directive of a text that asks for a span of work, for a field, or for both; `inside` is what
follows the opening bracket. A field stands in braces, behind the name of a span or without one. -/
def conditional? (text body inside : List Char) (target : Option String) : Option Directive := do
  let ending := inside.dropWhile fun c => c != ']' && c != '\x7b'
  let span ← part? text body inside ending
  match ending with
  | ']' :: rest =>
    let level ← threshold? text body rest
    return { target, span := some (String.ofList span), level }
  | _ :: field =>
    let ending := field.dropWhile (· != '\x7d')
    let field ← fieldCondition? (← part? text body field ending)
    match ending with
    | _ :: ']' :: rest =>
      let level ← threshold? text body rest
      return { target, span := named span, field, level }
    | _ => none
  | [] => none

/-- The directive of a text. Its parts are told apart in its body, which is the text without the
blanks at its ends, and they are then taken from the same places of the text itself. Blanks in front
thus move all parts towards them, and those behind belong to the level or to a target without
one. -/
def directive? (text : List Char) : Option Directive :=
  let body := trim text
  let ending := body.dropWhile (!endsTarget ·)
  if !body.head?.any isDirectiveStart then none
  else if ending.isEmpty then
    match level? text with
    | some level => some { level }
    | none => some { target := named text, level := some .trace }
  else do
    let target := named (← part? text body body ending)
    match ending with
    | '[' :: inside => conditional? text body inside target
    | rest =>
      let level ← threshold? text body rest
      return { target, level }

/-- The words between commas. -/
def words : List Char → List (List Char)
  | [] => [[]]
  | ',' :: rest => [] :: words rest
  | c :: rest =>
    match words rest with
    | [] => [[c]]
    | word :: others => (c :: word) :: others

/-- The filter of a text. Where it has no directive at all, errors are logged. -/
def parse? (text : String) : Option LogFilter :=
  match (words text.toList).filter (!·.isEmpty) with
  | [] => some [{ level := some .error }]
  | directives => directives.mapM directive?

/-- The filter where none is asked for, or none that is understood. -/
def standard : LogFilter := [{ level := some .info }]

/-- The filter of a setting that may be missing. -/
def ofSetting (setting : Option String) : LogFilter := (setting.bind parse?).getD standard

/-! ## Applying filters -/

/-- Of two directives the more specific one, the later one where neither is. -/
def closer (best : Option Directive) (next : Directive) : Option Directive :=
  match best with
  | none => some next
  | some directive => if next.lessSpecific directive then some directive else some next

/-- Whether a report is logged: the most specific directive that is meant for it decides. -/
def admits (filter : LogFilter) (target : String) (level : Level) (fields : List String) : Bool :=
  match (filter.filter (·.concerns target fields)).foldl closer none with
  | some { level := some threshold, .. } => threshold.rank ≤ level.rank
  | _ => false

end LogFilter

end NavStream.Cli
