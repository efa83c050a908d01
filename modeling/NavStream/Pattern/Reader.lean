import NavStream.Decimal.Reading
import NavStream.Pattern.Basic
import NavStream.Text.Alphanumeric

/-!
# Reading search patterns

Patterns stand in conditions that end at the first closing brace. Forms in braces, which are counts
of repetitions and code points, can therefore not be completed, and an opening brace outside of a
class is an error; so are references to groups, and conditions on what surrounds a match.

* `escape?` — what a backslash begins;
* `readSet` — a class behind its opening bracket;
* `groupHead?` — how a group begins;
* `read?` — a pattern.
-/

namespace NavStream.Pattern

open NavStream.Text

/-! ## Blanks and comments -/

/-- Text without the blanks and comments in front. A comment begins with a number sign and reaches
to the end of the line. -/
def dropBlanks : (inComment : Bool) → List Char → List Char
  | _, [] => []
  | true, c :: rest => dropBlanks (c != '\n') rest
  | false, c :: rest =>
    if isBlank c then dropBlanks false rest
    else if c = '#' then dropBlanks true rest
    else c :: rest

/-- Text without the blanks and comments in front, if they mean nothing. -/
def skip (spaced : Bool) (text : List Char) : List Char :=
  if spaced then dropBlanks false text else text

/-- The character that a hyphen in a class is followed by. If blanks mean nothing they are passed
over, and so is the sign of one comment. -/
def follower? (spaced : Bool) (text : List Char) : Option Char :=
  if spaced then
    match text.dropWhile isBlank with
    | '#' :: rest => (rest.dropWhile isBlank).head?
    | rest => rest.head?
  else text.head?

/-! ## Escapes -/

/-- The number that hexadecimal digits spell which are given their count, and what follows. -/
def readHex (spaced : Bool) : (count code : Nat) → List Char → Option (Nat × List Char)
  | 0, code, text => some (code, text)
  | count + 1, code, text =>
    match skip spaced text with
    | [] => none
    | c :: rest =>
      match Decimal.digitValue? 16 c with
      | none => none
      | some digit => readHex spaced count (16 * code + digit) rest

/-- The character of a number of hexadecimal digits. -/
def hexLiteral? (spaced : Bool) (count : Nat) (text : List Char) :
    Option (Pattern × List Char) := do
  let (code, rest) ← readHex spaced count 0 text
  if code.isValidChar then return (.literal ⟨Char.ofNat code, count = 2⟩, rest) else none

/-- What a letter or another character behind a backslash stands for. Every sign of ASCII stands for
itself, angle brackets apart. -/
def escaped? (c : Char) : Option Pattern :=
  match c with
  | 'd' | 's' | 'w' => some (.shorthand false)
  | 'D' | 'S' | 'W' => some (.shorthand true)
  | 'a' => some (.literal ⟨'\x07', false⟩)
  | 'f' => some (.literal ⟨'\x0c', false⟩)
  | 't' => some (.literal ⟨'\t', false⟩)
  | 'n' => some (.literal ⟨'\n', false⟩)
  | 'r' => some (.literal ⟨'\r', false⟩)
  | 'v' => some (.literal ⟨'\x0b', false⟩)
  | 'A' | 'z' => some .anchor
  | 'b' | 'B' | '<' | '>' => some .wordBoundary
  | c => if c.toNat < 0x80 && !c.isAlphanum then some (.literal ⟨c, false⟩) else none

/-- What a backslash begins, and what follows. Characters are also given by two, four or eight
hexadecimal digits. -/
def escape? (spaced : Bool) : List Char → Option (Pattern × List Char)
  | [] => none
  | 'x' :: rest => hexLiteral? spaced 2 rest
  | 'u' :: rest => hexLiteral? spaced 4 rest
  | 'U' :: rest => hexLiteral? spaced 8 rest
  | c :: rest => (escaped? c).map fun pattern => (pattern, rest)

/-! ## Classes -/

/-- The classes that have a name. -/
def classNames : List String := [
  "alnum", "alpha", "ascii", "blank", "cntrl", "digit", "graph", "lower", "print", "punct", "space",
  "upper", "word", "xdigit"]

/-- A class with a name behind its opening bracket, which stands between colons and behind a
circumflex if the class is negated, and what follows its closing bracket. -/
def namedClass? : List Char → Option (ClassSet × List Char)
  | ':' :: text =>
    let (negated, text) :=
      match text with
      | '^' :: rest => (true, rest)
      | rest => (false, rest)
    match text.dropWhile (· != ':') with
    | ':' :: ']' :: rest =>
      if classNames.contains (String.ofList (text.takeWhile (· != ':'))) then
        some (.named negated, rest)
      else none
    | _ => none
  | _ => none

/-- Whether a class is negated, by a circumflex behind its opening bracket, and what follows. -/
def negation (spaced : Bool) (text : List Char) : Bool × List Char :=
  match skip spaced text with
  | '^' :: rest => (true, rest)
  | rest => (false, rest)

/-- A character of a class, which may be escaped, and what follows. -/
def member? (spaced : Bool) : List Char → Option (Pattern × List Char)
  | [] => none
  | '\\' :: rest => escape? spaced rest
  | c :: rest => some (.literal ⟨c, false⟩, rest)

/-- A character by itself as an item of a class. -/
def asItem? : Pattern → Option ClassSet
  | .literal l => some (.char l)
  | .shorthand negated => some (.shorthand negated)
  | _ => none

/-- Two characters as a range, the second of which is not in front of the first. -/
def asRange? : Pattern → Pattern → Option ClassSet
  | .literal first, .literal last =>
    if first.char ≤ last.char then some (.range first last) else none
  | _, _ => none

/-- An item of a class, and what follows: two characters and a hyphen between them, or a character.
A hyphen in front of a closing bracket or of another hyphen makes no range. -/
def item? (spaced : Bool) (text : List Char) : Option (ClassSet × List Char) := do
  let (first, rest) ← member? spaced text
  let single : Option (ClassSet × List Char) := (asItem? first).map fun item => (item, rest)
  match skip spaced rest with
  | '-' :: behind =>
    let follower := follower? spaced behind
    if follower = some ']' || follower = some '-' then single
    else
      let (last, rest) ← member? spaced (skip spaced behind)
      let range ← asRange? first last
      return (range, rest)
  | _ => single

/-- What an operator makes of what stands in front of it, if there is an operator, and behind it. -/
def combine (left : Option ClassSet) (right : ClassSet) : ClassSet :=
  match left with
  | none => right
  | some left => .combination left right

/-- The items of a class up to its closing bracket, and what follows. Those of `items` were read
already, the last one first, and `left` is what stands in front of the last operator. At its start,
hyphens and a closing bracket that comes first stand for themselves. -/
def readSet (spaced : Bool) : (fuel : Nat) → (start : Bool) → (left : Option ClassSet) →
    (items : List ClassSet) → List Char → Option (ClassSet × List Char)
  | 0, _, _, _, _ => none
  | fuel + 1, start, left, items, text =>
    let set := combine left (.ofItems items.reverse)
    match skip spaced text with
    | [] => none
    | ']' :: rest =>
      if start && items.isEmpty then readSet spaced fuel false left [.char ⟨']', false⟩] rest
      else some (set, rest)
    | '[' :: rest =>
      match namedClass? rest with
      | some (named, rest) => readSet spaced fuel false left (named :: items) rest
      | none => do
        let (negated, inner) := negation spaced rest
        let (nested, rest) ← readSet spaced fuel true none [] inner
        readSet spaced fuel false left (.nested negated nested :: items) rest
    | '-' :: rest =>
      if start then readSet spaced fuel true left (.char ⟨'-', false⟩ :: items) rest
      else
        match rest with
        | '-' :: rest => readSet spaced fuel false (some set) [] rest
        | rest => do
          let (item, rest) ← item? spaced ('-' :: rest)
          readSet spaced fuel false left (item :: items) rest
    | '&' :: '&' :: rest | '~' :: '~' :: rest => readSet spaced fuel false (some set) [] rest
    | text => do
      let (item, rest) ← item? spaced text
      readSet spaced fuel false left (item :: items) rest

/-! ## Groups -/

/-- The flags by their letters. -/
def flagLetters : List (Char × Flag) := [
  ('i', .caseless), ('m', .multiLine), ('s', .dotAll), ('U', .swapGreed), ('u', .unicode),
  ('R', .crlf), ('x', .spaced)]

/-- The flag of a letter. -/
def flag? (letter : Char) : Option Flag := flagLetters.lookup letter

/-- The flags that letters set, and clear behind a hyphen. No flag is named twice, and a hyphen
clears one at least. -/
def flags? (letters : List Char) : Option Flags := do
  let on ← (letters.takeWhile (· != '-')).mapM flag?
  match letters.dropWhile (· != '-') with
  | [] => if on.eraseDups = on then return { on } else none
  | _ :: letters =>
    let off ← letters.mapM flag?
    if (on ++ off).eraseDups = on ++ off && !off.isEmpty then return { on, off } else none

/-- Whether a text can be the name of a group. -/
def isGroupName : List Char → Bool
  | [] => false
  | first :: rest =>
    (first = '_' || isAlphabetic first) &&
      rest.all fun c => c = '_' || c = '.' || c = '[' || c = ']' || isAlphanumeric c

/-- What an opening parenthesis begins. -/
inductive GroupHead where
  /-- A group, with flags for what is in it, which may have a name. -/
  | group (change : Flags) (name : Option (List Char))
  /-- Flags for what follows. -/
  | change (change : Flags)

/-- The beginning of a group whose name reaches to a closing angle bracket, and what follows. -/
def namedHead? (text : List Char) : Option (GroupHead × List Char) :=
  let name := text.takeWhile (· != '>')
  match text.dropWhile (· != '>') with
  | _ :: rest => if isGroupName name then some (.group {} (some name), rest) else none
  | [] => none

/-- What an opening parenthesis begins, and what follows: a name stands in angle brackets, and flags
in front of a colon or, if they are meant for what follows, of a closing parenthesis. -/
def groupHead? : List Char → Option (GroupHead × List Char)
  | '?' :: 'P' :: '<' :: rest | '?' :: '<' :: rest => namedHead? rest
  | '?' :: rest => do
    let ends (c : Char) : Bool := c = ':' || c = ')'
    let letters := rest.takeWhile (!ends ·)
    let change ← flags? letters
    match rest.dropWhile (!ends ·) with
    | ':' :: rest => return (.group change none, rest)
    | ')' :: rest => if letters.isEmpty then none else return (.change change, rest)
    | _ => none
  | text => some (.group {} none, text)

/-! ## Patterns -/

/-- What was read in front of a place. -/
structure Context where
  /-- Whether blanks and comments mean nothing. -/
  spaced : Bool := false
  /-- The names of the groups. -/
  names : List (List Char) := []

namespace Context

/-- The context behind flags. -/
def under (context : Context) (flags : Flags) : Context :=
  { context with spaced := (flags.setting .spaced).getD context.spaced }

/-- The context in a group that has a name, which no other group has. -/
def naming? (context : Context) : Option (List Char) → Option Context
  | none => some context
  | some name =>
    if context.names.contains name then none
    else some { context with names := name :: context.names }

end Context

/-- A repeated pattern: flags cannot be repeated. -/
def repeated? : Pattern → Option Pattern
  | .flags _ => none
  | pattern => some (.repetition pattern)

/-- What follows the mark of a repetition, which another question mark makes short. -/
def dropLazy : List Char → List Char
  | '?' :: rest => rest
  | rest => rest

/-- A pattern up to the end of the text or to a closing parenthesis that closes none of its groups,
what is known behind it, and what follows. Those of `items` and, in front of the last bar, of
`branches` were read already, the last one first. -/
def readBranches : (fuel : Nat) → Context → (branches items : List Pattern) → List Char →
    Option (Pattern × Context × List Char)
  | 0, _, _, _, _ => none
  | fuel + 1, context, branches, items, text =>
    let branch := Pattern.ofItems items.reverse
    let proceed (item : Pattern) (rest : List Char) : Option (Pattern × Context × List Char) :=
      readBranches fuel context branches (item :: items) rest
    match skip context.spaced text with
    | [] => some (.ofAlternatives (branch :: branches).reverse, context, [])
    | ')' :: rest => some (.ofAlternatives (branch :: branches).reverse, context, ')' :: rest)
    | '|' :: rest => readBranches fuel context (branch :: branches) [] rest
    | '(' :: rest => do
      let (head, rest) ← groupHead? (skip context.spaced rest)
      match head with
      | .change change =>
        readBranches fuel (context.under change) branches (.flags change :: items) rest
      | .group change name =>
        let inside ← (context.under change).naming? name
        match ← readBranches fuel inside [] [] rest with
        | (inner, behind, ')' :: rest) =>
          readBranches fuel { behind with spaced := context.spaced } branches
            (.group change inner :: items) rest
        | _ => none
    | '[' :: rest => do
      let (negated, inner) := negation context.spaced rest
      let (set, rest) ← readSet context.spaced fuel true none [] inner
      proceed (.bracketed negated set) rest
    | '?' :: rest | '*' :: rest | '+' :: rest =>
      match items with
      | [] => none
      | item :: items => do
        let item ← repeated? item
        readBranches fuel context branches (item :: items) (dropLazy rest)
    | '\x7b' :: _ => none
    | '\\' :: rest => do
      let (item, rest) ← escape? context.spaced rest
      proceed item rest
    | '.' :: rest => proceed .anyChar rest
    | '^' :: rest | '$' :: rest => proceed .anchor rest
    | c :: rest => proceed (.literal ⟨c, false⟩) rest

/-- The pattern that a text spells. -/
def read? (text : List Char) : Option Pattern :=
  match readBranches (text.length + 1) {} [] [] text with
  | some (pattern, _, []) => some pattern
  | _ => none

end NavStream.Pattern
