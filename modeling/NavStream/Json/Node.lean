import NavStream.Json.Number
import NavStream.Json.Quoted
import NavStream.Json.Word

/-!
# The values of a text

`parse` cuts a text into values without understanding them: it finds out where each value begins and
ends, as far as the text holds together. A text that does not hold together gives a tree that breaks
off at the last value, so that whoever reads the tree in order meets what is wrong at its place.

* `Node`, `parse` — the tree of a text;
* `Node.skip` — whether a value holds together;
* `Node.check` — whether a value can be understood as a whole.
-/

namespace NavStream.Json

/-- What stands behind the items of an array or the members of an object. -/
inductive Stop where
  /-- The closing bracket, and behind it the rest. -/
  | closed (rest : List UInt8)
  /-- Neither the closing bracket nor a comma. -/
  | unseparated (place : List UInt8)
  /-- The closing bracket, directly behind a comma. -/
  | dangling (place : List UInt8)
  /-- Something that is not the name of a member, which may be the first one. -/
  | unnamed (first : Bool) (place : List UInt8)
  /-- Nothing is known, because the last value does not hold together. -/
  | broken

/-- What follows the closing bracket. -/
def closing : Stop → List UInt8
  | .closed rest => rest
  | _ => []

/-- A value of a text. Nodes keep the text from where they begin. -/
inductive Node where
  /-- There is no value. -/
  | absent (defect : Defect) (place : List UInt8)
  /-- A word. -/
  | word (word : Word) (start : List UInt8)
  /-- A number. -/
  | number (start : List UInt8)
  /-- A string, whose body begins behind the quote. -/
  | string (body : List UInt8)
  /-- An array. -/
  | array (start : List UInt8) (items : List Node) (stop : Stop)
  /-- An object, whose names begin behind their quotes. -/
  | object (start : List UInt8) (members : List (List UInt8 × Node)) (stop : Stop)

namespace Node

/-- Where a value begins. -/
def start : Node → List UInt8
  | absent _ place => place
  | word _ start => start
  | number start => start
  | string body => 34 :: body
  | array start _ _ => start
  | object start _ _ => start

/-- What follows a value that holds together. -/
def rest? : Node → Option (List UInt8)
  | word w start => (readLetters w.bytes start).toOption
  | number start => (skipNumber start).toOption
  | string body => (skipString body).toOption
  | array _ _ (.closed rest) => some rest
  | object _ _ (.closed rest) => some rest
  | _ => none

end Node

/-! ## Cutting a text into values -/

mutual

/-- The value that a text begins with. At most `fuel` values are opened on the way. -/
def parseValue : (fuel : Nat) → List UInt8 → Node
  | 0, text => .absent .endOfValue text
  | fuel + 1, text =>
    match skipBlanks text with
    | [] => .absent .endOfValue []
    | b :: rest =>
      if b = 34 then .string rest
      else if b = 45 || isDigit b then .number (b :: rest)
      else if b = 91 then
        match skipBlanks rest with
        | [] => .array (b :: rest) [] (.unseparated [])
        | 93 :: behind => .array (b :: rest) [] (.closed behind)
        | inside =>
          let (items, stop) := parseItems fuel inside
          .array (b :: rest) items stop
      else if b = 123 then
        match skipBlanks rest with
        | 125 :: behind => .object (b :: rest) [] (.closed behind)
        | inside =>
          let (members, stop) := parseMembers fuel true inside
          .object (b :: rest) members stop
      else
        match Word.startingWith? b with
        | some word => .word word (b :: rest)
        | none => .absent .expectedValue (b :: rest)

/-- The items of an array, of which one must stand here. -/
def parseItems : (fuel : Nat) → List UInt8 → List Node × Stop
  | 0, _ => ([], .broken)
  | fuel + 1, text =>
    let item := parseValue fuel text
    match item.rest? with
    | none => ([item], .broken)
    | some behind =>
      match skipBlanks behind with
      | 93 :: rest => ([item], .closed rest)
      | 44 :: rest =>
        match skipBlanks rest with
        | 93 :: tail => ([item], .dangling (93 :: tail))
        | next =>
          let (items, stop) := parseItems fuel next
          (item :: items, stop)
      | other => ([item], .unseparated other)

/-- The members of an object, of which one must stand here; `first` tells whether it is the first
one. -/
def parseMembers : (fuel : Nat) → (first : Bool) → List UInt8 → List (List UInt8 × Node) × Stop
  | 0, _, _ => ([], .broken)
  | fuel + 1, first, text =>
    match text with
    | 34 :: name =>
      let value : Node :=
        match skipString name with
        | .error _ => .absent .endOfString []
        | .ok behind =>
          match skipBlanks behind with
          | 58 :: rest => parseValue fuel rest
          | [] => .absent .endOfObject []
          | other => .absent .expectedColon other
      match value.rest? with
      | none => ([(name, value)], .broken)
      | some behind =>
        match skipBlanks behind with
        | 125 :: rest => ([(name, value)], .closed rest)
        | 44 :: rest =>
          match skipBlanks rest with
          | 125 :: tail => ([(name, value)], .dangling (125 :: tail))
          | next =>
            let (members, stop) := parseMembers fuel false next
            ((name, value) :: members, stop)
        | other => ([(name, value)], .unseparated other)
    | place => ([], .unnamed first place)

end

/-- The value that a text begins with. -/
def parse (text : List UInt8) : Node := parseValue (2 * text.length + 2) text

/-! ## Whether a value holds together -/

namespace Stop

/-- Whether an array ends as it must. -/
def endsArray : Stop → Except Failure Unit
  | closed _ | broken => .ok ()
  | unseparated [] => .error (.lookingAt [] .endOfArray)
  | unseparated place => .error (.lookingAt place .expectedArrayComma)
  | dangling place => .error (.lookingAt place .trailingComma)
  | unnamed _ place => .error (.lookingAt place .expectedValue)

/-- Whether an object ends as it must. -/
def endsObject : Stop → Except Failure Unit
  | closed _ | broken => .ok ()
  | unseparated [] => .error (.lookingAt [] .endOfObject)
  | unseparated place => .error (.lookingAt place .expectedObjectComma)
  | dangling place => .error (.lookingAt place .trailingComma)
  | unnamed true [] => .error (.lookingAt [] .endOfObject)
  | unnamed false [] => .error (.lookingAt [] .endOfValue)
  | unnamed _ place => .error (.lookingAt place .keyNotString)

/-- Whether an array ends as it must, where its items are of no interest. -/
def endsSkippedArray : Stop → Except Failure Unit
  | dangling place => .error (.lookingAt place .expectedValue)
  | stop => stop.endsArray

/-- Whether an object ends as it must, where its members are of no interest. -/
def endsSkippedObject : Stop → Except Failure Unit
  | dangling place => .error (.lookingAt place .keyNotString)
  | unnamed _ [] => .error (.lookingAt [] .endOfObject)
  | stop => stop.endsObject

end Stop

namespace Node

mutual

/-- Whether a value of no interest holds together. -/
def skip : Node → Except Failure Unit
  | absent defect place => .error (.lookingAt place defect)
  | word w start => (readLetters w.bytes start).map fun _ => ()
  | number start => (skipNumber start).map fun _ => ()
  | string body => (skipString body).map fun _ => ()
  | array _ items stop => do
    skipItems items
    stop.endsSkippedArray
  | object _ members stop => do
    skipMembers members
    stop.endsSkippedObject

/-- Whether items of no interest hold together. -/
def skipItems : List Node → Except Failure Unit
  | [] => .ok ()
  | item :: rest => do
    item.skip
    skipItems rest

/-- Whether members of no interest hold together. -/
def skipMembers : List (List UInt8 × Node) → Except Failure Unit
  | [] => .ok ()
  | (name, value) :: rest => do
    let _ ← skipString name
    value.skip
    skipMembers rest

end

/-- How deep values may be nested in each other. -/
def maxDepth : Nat := 127

mutual

/-- Whether a value can be understood as a whole, with at most `depth` more levels. -/
def check : (depth : Nat) → Node → Except Failure Unit
  | _, absent defect place => .error (.lookingAt place defect)
  | _, word w start => (readLetters w.bytes start).map fun _ => ()
  | _, number start => (readNumber start).map fun _ => ()
  | _, string body => (readString body).map fun _ => ()
  | depth, array start items stop =>
    if depth = 0 then .error (.lookingAt start .tooDeep)
    else do
      checkItems (depth - 1) items
      stop.endsArray
  | depth, object start members stop =>
    if depth = 0 then .error (.lookingAt start .tooDeep)
    else do
      checkMembers (depth - 1) members
      stop.endsObject

/-- Whether items can be understood. -/
def checkItems : (depth : Nat) → List Node → Except Failure Unit
  | _, [] => .ok ()
  | depth, item :: rest => do
    item.check depth
    checkItems depth rest

/-- Whether members can be understood. -/
def checkMembers : (depth : Nat) → List (List UInt8 × Node) → Except Failure Unit
  | _, [] => .ok ()
  | depth, (name, value) :: rest => do
    let _ ← readString name
    value.check depth
    checkMembers depth rest

end

end Node

end NavStream.Json
