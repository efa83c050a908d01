import NavStream.Datum.Codec
import NavStream.Json.Node

/-!
# Reading data from JSON

A text is read into a datum of a given shape. Objects and arrays are both read as records, the
latter in the order of the fields; members that a record does not have are passed over.

Values are read directly where their shape is known when they are met. Where a record of several
kinds comes before the name that tells its kind, it is held until the name is known and read then; a
held value is understood as a whole first, and enumerations and surplus items are then treated a
little differently.

* `read` — a value as a datum;
* `readText` — a whole text as a datum;
* `decode` — a whole text as a value of a type that has a codec.
-/

namespace NavStream.Json

/-- How a value is met. -/
inductive Mode where
  /-- Its shape is known. -/
  | direct
  /-- It was held until its shape was known. -/
  | held
deriving DecidableEq, Repr

/-- How a shape is called where something else is found. -/
def expectation : Shape → String
  | .float64 => "f64"
  | .float32 => "f32"
  | .integer range => range.name
  | .coded .. => IntegerRange.word8.name
  | .text => "a string"
  | .list _ => "a sequence"
  | .array length _ => "an array of length " ++ toString length
  | .record name _ => "struct " ++ name
  | .enumeration _ => "string or map"
  | .tagged name _ => "adjacently tagged enum " ++ name

/-- A number of things. -/
def counted (n : Nat) : String := toString n ++ (if n = 1 then " element" else " elements")

namespace Node

/-- What a value is called where something else is expected, and where that shows. -/
def found : Node → Except Failure (Found × Place)
  | absent defect place => .error (.lookingAt place defect)
  | word w start => do
    let rest ← readLetters w.bytes start
    return (w.found, .settled rest.length)
  | number start => do
    let (n, rest) ← readNumber start
    return (n.found, .settled (Failure.looked rest))
  | string body => do
    let (s, rest) ← readString body
    return (.string s, .settled rest.length)
  | array start _ _ => .ok (.sequence, .settled (Failure.looked start))
  | object start _ _ => .ok (.map, .settled (Failure.looked start))

/-- The failure of a value where something else is expected. -/
def mismatch (node : Node) (expected : String) : Failure :=
  match node.found with
  | .error failure => failure
  | .ok (found, place) => ⟨.complaint (.invalidType found expected), place⟩

/-- The failure of a value that is not of a shape. -/
def misfit (mode : Mode) (node : Node) (shape : Shape) : Failure :=
  match mode, shape, node with
  | .direct, .enumeration _, .absent defect place => .lookingAt place defect
  | .direct, .enumeration _, node => .lookingAt node.start .expectedValue
  | _, shape, node => node.mismatch (expectation shape)

/-- Nothing, which stands for the value of an alternative that has none. -/
def readUnit (mode : Mode) (node : Node) : Except Failure Unit :=
  match mode, node with
  | _, word .null start => (readLetters Word.null.bytes start).map fun _ => ()
  | .held, object _ [] _ => .ok ()
  | _, node => .error (node.mismatch "unit")

end Node

/-- A number of a shape. -/
def readNumberAs (start : List UInt8) (shape : Shape) : Except Failure Datum := do
  match shape with
  | .float64 =>
    let (n, _) ← readNumber start
    return .float64 n.toFloat
  | .float32 =>
    let (n, _) ← readNumber start
    return .float32 n.toFloat32
  | .integer range =>
    let (n, rest) ← readNumber start
    let n ← n.within range rest
    return .integer n
  | .coded subject codes =>
    let (n, rest) ← readNumber start
    let n ← n.within .word8 rest
    if codes.contains n.toNat then return .integer n
    else throw ⟨.complaint (.unsupported subject n.toNat), .pending rest⟩
  | shape => throw ((Node.number start).mismatch (expectation shape))

/-- The alternative that a name tells, where it has no value. -/
def readVariantName (body : List UInt8) (variants : List (String × Option Shape)) :
    Except Failure Datum := do
  let (name, rest) ← readString body
  match variants.lookup name with
  | none => throw ⟨.complaint (.unknownVariant name (variants.map (·.1))), .settled rest.length⟩
  | some none => return .variant name none
  | some (some _) =>
    throw ⟨.complaint (.invalidType .bareVariant "newtype variant"), .pending rest⟩

/-- The failure of an object without members where an alternative is expected. -/
def emptyVariant : Stop → Failure
  | .closed rest => .lookingAt (125 :: rest) .expectedValue
  | .unnamed _ (b :: place) => .lookingAt (b :: place) .keyNotString
  | _ => .lookingAt [] .endOfObject

/-- Whether an alternative ends as it must: with the closing bracket directly behind its value. -/
def endsVariant (value : Node) : Except Failure Unit :=
  match value.rest?.map skipBlanks with
  | some (125 :: _) => .ok ()
  | some [] => .error (.lookingAt [] .endOfObject)
  | some place => .error (.lookingAt place .expectedValue)
  | none => .error (.lookingAt [] .endOfValue)

/-- The value of a field that may be missing; `value` is what stands there, read as if it were
not. -/
def fieldValue (presence : Presence) (node : Node) (value : Except Failure Datum) :
    Except Failure Datum :=
  match presence, node with
  | .nullable, .word .null start => (readLetters Word.null.bytes start).map fun _ => .missing
  | .nullable, _ => value.map .present
  | _, _ => value

/-- The fields of a record in order, of which `seen` were met in an object that is closed in front
of `rest`. -/
def completeFields (rest : List UInt8) (seen : List (String × Datum)) :
    List (String × Presence × Shape) → Except Failure (List (String × Datum))
  | [] => .ok []
  | (name, presence, _) :: fields => do
    let value ←
      match seen.lookup name, presence with
      | some value, _ => pure value
      | none, .required => throw ⟨.complaint (.missingField name), .pending (125 :: rest)⟩
      | none, .nullable => pure .missing
      | none, .optional fallback => pure fallback
    return (name, value) :: (← completeFields rest seen fields)

/-- Whether an array of which every item was read ends as it must. -/
def endsElements : Stop → Except Failure Unit
  | .unseparated (b :: place) => .error (.lookingAt (b :: place) .trailingCharacters)
  | stop => stop.endsArray

/-- The failure of an array that ends where its item number `index` is expected. -/
def missingItem (expected : String) (stop : Stop) (index : Nat) : Failure :=
  match stop, stop.endsArray with
  | .closed rest, _ => ⟨.complaint (.invalidLength index expected), .pending (93 :: rest)⟩
  | _, .error failure => failure
  | _, .ok () => .lookingAt [] .endOfValue

/-- What stands for the items that an array does not have, `index` of which it has. -/
def missingElements (expected : String) (stop : Stop) :
    (index : Nat) → List (Presence × Shape) → Except Failure (List Datum)
  | _, [] => (endsElements stop).map fun _ => []
  | index, (presence, _) :: slots =>
    match stop, presence with
    | .closed _, .optional fallback =>
      (missingElements expected stop (index + 1) slots).map (fallback :: ·)
    | _, _ => .error (missingItem expected stop index)

/-- The failure of an array with more items than there are places for; `index` are read, and the
first of the `surplus` is `node`. -/
def surplusElements (mode : Mode) (index surplus : Nat) (node : Node) : Failure :=
  match mode with
  | .direct => .lookingAt node.start .trailingCharacters
  | .held =>
    ⟨.complaint (.invalidLength (index + surplus) (counted index ++ " in sequence")), .pending []⟩

/-- How many bytes remain once the closing bracket of an object was looked for. -/
def closeObject (rest : List UInt8) : Nat := Failure.looked (skipBlanks rest)

/-- How many bytes remain once the closing bracket of an array was looked for. -/
def closeArray (rest : List UInt8) : Nat :=
  match skipBlanks rest with
  | 44 :: behind => Failure.looked (skipBlanks behind)
  | other => Failure.looked other

/-- What is known of a record of several kinds. -/
inductive Tagging where
  /-- Nothing. -/
  | start
  /-- Its kind. -/
  | named (name : String) (shape : Shape)
  /-- Its value, which can be read once its kind is known. -/
  | holding (value : Shape → Except Failure Datum)
  /-- Everything. -/
  | complete (datum : Datum)

/-- The kind that was read as an alternative without value. -/
def kindOf (variants : List (String × Shape)) : Datum → Except Failure (String × Shape)
  | .variant name _ =>
    match variants.lookup name with
    | some shape => .ok (name, shape)
    | none => .error (.lookingAt [] .expectedValue)
  | _ => .error (.lookingAt [] .expectedValue)

/-- The names of the kinds of a record, as alternatives without value. -/
def kindNames (variants : List (String × Shape)) : List (String × Option Shape) :=
  variants.map fun (name, _) => (name, none)

/-- The alternatives that name the kinds of a record. -/
def kinds (variants : List (String × Shape)) : Shape := .enumeration (kindNames variants)

/-- The kind that the first item of an array names, for which an object will not do. -/
def readKind (variants : List (String × Shape)) : Node → Except Failure (String × Shape)
  | .string body => do kindOf variants (← readVariantName body (kindNames variants))
  | node => .error (node.mismatch "variant identifier")

/-- The record, once all its members were met in an object that is closed in front of `rest`. -/
def completeTagging (rest : List UInt8) : Tagging → Except Failure Datum
  | .start | .holding _ => .error ⟨.complaint (.missingField "type"), .pending (125 :: rest)⟩
  | .named .. => .error ⟨.complaint (.missingField "data"), .pending (125 :: rest)⟩
  | .complete datum => .ok datum

mutual

/-- A value as a datum of a shape. -/
def read (mode : Mode) : Node → Shape → Except Failure Datum
  | .absent defect place, _ => .error (.lookingAt place defect)
  | .word w start, shape => .error ((Node.word w start).misfit mode shape)
  | .number start, .enumeration variants =>
    .error ((Node.number start).misfit mode (.enumeration variants))
  | .number start, shape => readNumberAs start shape
  | .string body, shape =>
    match shape with
    | .text => (readString body).map fun (s, _) => .text s
    | .enumeration variants => readVariantName body variants
    | shape => .error ((Node.string body).misfit mode shape)
  | .array start items stop, shape =>
    let result : Except Failure Datum :=
      match shape with
      | .list item => do
        let data ← readItems mode items item
        stop.endsArray
        return .list data
      | .array length item => do
        let slots := List.replicate length (Presence.required, item)
        return .list (← readElements mode (expectation shape) stop items 0 slots)
      | .record name fields => do
        let slots := fields.map fun (_, slot) => slot
        let expected := expectation shape ++ " with " ++ counted fields.length
        let data ← readElements mode expected stop items 0 slots
        return .record name ((fields.map fun (name, _) => name).zip data)
      | .tagged name variants =>
        match items with
        | [] => .error (missingItem (expectation (.tagged name variants)) stop 0)
        | [kind] => do
          let _ ← readKind variants kind
          throw (missingItem (expectation (.tagged name variants)) stop 1)
        | kind :: value :: surplus => do
          let (kind, shape) ← readKind variants kind
          let datum ← read mode value shape
          match surplus with
          | [] => endsElements stop
          | node :: more => throw (surplusElements mode 2 (more.length + 1) node)
          return .tagged kind datum
      | shape => .error ((Node.array start items stop).misfit mode shape)
    result.mapError (·.settle closeArray)
  | .object start members stop, shape =>
    let result : Except Failure Datum :=
      match shape with
      | .record name fields => do
        let seen ← readMembers mode fields members []
        stop.endsObject
        return .record name (← completeFields (closing stop) seen fields)
      | .enumeration variants =>
        match mode, members with
        | .direct, [] => .error (emptyVariant stop)
        | .direct, (body, value) :: _ => do
          let (name, rest) ← readString body
          match variants.lookup name with
          | none =>
            throw ⟨.complaint (.unknownVariant name (variants.map (·.1))), .settled rest.length⟩
          | some none => do
            value.readUnit mode
            endsVariant value
            return .variant name none
          | some (some payload) => do
            let datum ← read mode value payload
            endsVariant value
            return .variant name (some datum)
        | .held, [(body, value)] => do
          let (name, rest) ← readString body
          match variants.lookup name with
          | none =>
            throw ⟨.complaint (.unknownVariant name (variants.map (·.1))), .settled rest.length⟩
          | some none => do
            value.readUnit mode
            return .variant name none
          | some (some payload) => return .variant name (some (← read mode value payload))
        | .held, _ =>
          .error ⟨.complaint (.invalidValue .map "map with a single key"), .pending []⟩
      | .tagged _ variants => do
        let tagging ← readTagged mode variants members .start
        stop.endsObject
        completeTagging (closing stop) tagging
      | shape => .error ((Node.object start members stop).misfit mode shape)
    result.mapError (·.settle closeObject)

/-- Items of one shape. -/
def readItems (mode : Mode) : List Node → Shape → Except Failure (List Datum)
  | [], _ => .ok []
  | item :: rest, shape => do
    let datum ← read mode item shape
    return datum :: (← readItems mode rest shape)

/-- Items of given shapes, of which `index` were read already. -/
def readElements (mode : Mode) (expected : String) (stop : Stop) :
    List Node → (index : Nat) → List (Presence × Shape) → Except Failure (List Datum)
  | [], index, slots => missingElements expected stop index slots
  | node :: rest, index, [] => .error (surplusElements mode index (rest.length + 1) node)
  | node :: rest, index, (presence, shape) :: slots => do
    let datum ← fieldValue presence node (read mode node shape)
    return datum :: (← readElements mode expected stop rest (index + 1) slots)

/-- The members of a record, of which `seen` were read already. -/
def readMembers (mode : Mode) (fields : List (String × Presence × Shape)) :
    List (List UInt8 × Node) → (seen : List (String × Datum)) →
      Except Failure (List (String × Datum))
  | [], seen => .ok seen
  | (body, value) :: rest, seen => do
    let (name, behind) ← readString body
    match fields.lookup name with
    | none => do
      value.skip
      readMembers mode fields rest seen
    | some (presence, shape) =>
      if (seen.lookup name).isSome then
        throw ⟨.complaint (.duplicateField name), .pending behind⟩
      else do
        let datum ← fieldValue presence value (read mode value shape)
        readMembers mode fields rest (seen ++ [(name, datum)])

/-- The members of a record of several kinds. -/
def readTagged (mode : Mode) (variants : List (String × Shape)) :
    List (List UInt8 × Node) → Tagging → Except Failure Tagging
  | [], tagging => .ok tagging
  | (body, value) :: rest, tagging => do
    let (name, behind) ← readString body
    if name = "type" then
      match tagging with
      | .start => do
        let (kind, shape) ← kindOf variants (← read mode value (kinds variants))
        readTagged mode variants rest (.named kind shape)
      | .holding held => do
        let (kind, shape) ← kindOf variants (← read mode value (kinds variants))
        let datum ← held shape
        readTagged mode variants rest (.complete (.tagged kind datum))
      | _ => throw ⟨.complaint (.duplicateField "type"), .pending behind⟩
    else if name = "data" then
      match tagging with
      | .start => do
        value.check (Node.maxDepth - 1)
        readTagged mode variants rest (.holding fun shape => read .held value shape)
      | .named kind shape => do
        let datum ← read mode value shape
        readTagged mode variants rest (.complete (.tagged kind datum))
      | _ => throw ⟨.complaint (.duplicateField "data"), .pending behind⟩
    else do
      value.skip
      readTagged mode variants rest tagging

end

/-- A whole text as a datum of a shape. -/
def readText (shape : Shape) (text : List UInt8) : Except Error Datum :=
  let node := parse text
  let result : Except Failure Datum := do
    let datum ← read .direct node shape
    match (node.rest?).map skipBlanks with
    | some [] => return datum
    | some rest => throw (.lookingAt rest .trailingCharacters)
    | none => throw (.lookingAt [] .endOfValue)
  result.mapError (Error.ofFailure text)

/-- A whole text as a value of a type. -/
def decode {α : Type} (codec : Codec α) (text : List UInt8) : Except Error α := do
  let datum ← readText codec.shape text
  match codec.ofDatum? datum with
  | some value => return value
  | none => throw ⟨.complaint (.invalidType .map (expectation codec.shape)), .after text⟩

end NavStream.Json
