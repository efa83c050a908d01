import NavStream.Json.Node
import NavStream.Proofs.Json.Layout

/-!
# Trees that are written are cut out again

What a writer without spaces writes is a tree of words, numbers, strings, arrays and objects.
Cutting its text into values gives the nodes of the tree back, whatever follows it.

* `Value` — the trees that are written;
* `Value.before`, `Value.node` — their text in front of a rest, and their nodes;
* `Value.rest?_node` — a node of a tree holds together;
* `parse_before` — cutting inverts writing.
-/

namespace NavStream.Json

/-! ## Blanks -/

/-- No white space is passed over in front of anything else. -/
theorem skipBlanks_cons {b : UInt8} (rest : List UInt8) (h : isBlank b = false) :
    skipBlanks (b :: rest) = b :: rest :=
  List.dropWhile_cons_of_neg (by simp [h])

/-! ## Trees -/

/-- The text of a number. -/
structure NumberText where
  /-- The text. -/
  bytes : List UInt8
  /-- It is a literal. -/
  literal : ∃ l : Literal, l.bytes = bytes

/-- A tree without spaces. -/
inductive Value where
  /-- Nothing. -/
  | null
  /-- A number. -/
  | number (text : NumberText)
  /-- A string. -/
  | string (s : String)
  /-- An array. -/
  | array (items : List Value)
  /-- An object. -/
  | object (members : List (String × Value))

/-- The text of a string in front of `rest`. -/
def quotedBefore (s : String) (rest : List UInt8) : List UInt8 := 34 :: (quoted s ++ rest)

namespace Value

mutual

/-- The text of a tree in front of `rest`. -/
def before : Value → (rest : List UInt8) → List UInt8
  | null, rest => 110 :: 117 :: 108 :: 108 :: rest
  | number text, rest => text.bytes ++ rest
  | string s, rest => quotedBefore s rest
  | array [], rest => 91 :: 93 :: rest
  | array (item :: items), rest => 91 :: item.before (itemsBehind items rest)
  | object [], rest => 123 :: 125 :: rest
  | object ((name, value) :: members), rest =>
    123 :: quotedBefore name (58 :: value.before (membersBehind members rest))

/-- What stands behind an item of an array where `items` follow it. -/
def itemsBehind : (items : List Value) → (rest : List UInt8) → List UInt8
  | [], rest => 93 :: rest
  | item :: items, rest => 44 :: item.before (itemsBehind items rest)

/-- What stands behind a member of an object where `members` follow it. -/
def membersBehind : (members : List (String × Value)) → (rest : List UInt8) → List UInt8
  | [], rest => 125 :: rest
  | (name, value) :: members, rest =>
    44 :: quotedBefore name (58 :: value.before (membersBehind members rest))

end

mutual

/-- The nodes of a tree in front of `rest`. -/
def node : Value → (rest : List UInt8) → Node
  | null, rest => .word .null (null.before rest)
  | number text, rest => .number (text.bytes ++ rest)
  | string s, rest => .string (quoted s ++ rest)
  | array items, rest => .array ((array items).before rest) (itemNodes items rest) (.closed rest)
  | object members, rest =>
    .object ((object members).before rest) (memberNodes members rest) (.closed rest)

/-- The nodes of the items of an array. -/
def itemNodes : (items : List Value) → (rest : List UInt8) → List Node
  | [], _ => []
  | item :: items, rest => item.node (itemsBehind items rest) :: itemNodes items rest

/-- The nodes of the members of an object, and their names from behind the quotes on. -/
def memberNodes : (members : List (String × Value)) → (rest : List UInt8) →
    List (List UInt8 × Node)
  | [], _ => []
  | (name, value) :: members, rest =>
    (quoted name ++ 58 :: value.before (membersBehind members rest),
      value.node (membersBehind members rest)) :: memberNodes members rest

end

mutual

/-- How many values are opened to cut a tree out. -/
def size : Value → Nat
  | array items => 1 + itemsSize items
  | object members => 1 + membersSize members
  | _ => 1

/-- How many values are opened to cut the items of an array out. -/
def itemsSize : List Value → Nat
  | [] => 0
  | item :: items => 1 + item.size + itemsSize items

/-- How many values are opened to cut the members of an object out. -/
def membersSize : List (String × Value) → Nat
  | [] => 0
  | (_, value) :: members => 1 + value.size + membersSize members

end

/-! ## Ends -/

theorem delimited_itemsBehind (items : List Value) (rest : List UInt8) :
    Delimited (itemsBehind items rest) := by
  cases items with
  | nil => exact .cons rest (by decide)
  | cons item items => exact .cons _ (by decide)

theorem delimited_membersBehind (members : List (String × Value)) (rest : List UInt8) :
    Delimited (membersBehind members rest) := by
  cases members with
  | nil => exact .cons rest (by decide)
  | cons member members => exact .cons _ (by decide)

/-- A node of a tree holds together and ends where the rest begins. -/
theorem rest?_node (v : Value) {rest : List UInt8} (h : Delimited rest) :
    (v.node rest).rest? = some rest := by
  cases v with
  | null => simp [node, Node.rest?, before, Word.bytes, readLetters, Except.toOption]
  | number text =>
    obtain ⟨_, l, rfl⟩ := text
    simp [node, Node.rest?, l.skipNumber_bytes h, Except.toOption]
  | string s => simp [node, Node.rest?, Except.toOption]
  | array items => rfl
  | object members => rfl

/-! ## Beginnings -/

/-- A number begins with a digit or with a minus sign. -/
theorem exists_number_cons (text : NumberText) :
    ∃ b tail, text.bytes = b :: tail ∧ (b = 45 ∨ isDigit b = true) := by
  obtain ⟨_, l, rfl⟩ := text
  obtain ⟨b, digits, hb⟩ := List.exists_cons_of_ne_nil l.whole.ne_nil
  have hdigit := l.whole.digit b (hb ▸ List.mem_cons_self ..)
  cases hneg : l.negative with
  | true => exact ⟨45, l.unsigned, by simp [Literal.bytes, hneg], Or.inl rfl⟩
  | false =>
    refine ⟨b, digits ++ (Literal.pointed l.fraction ++ Literal.marked l.power), ?_, Or.inr hdigit⟩
    simp [Literal.bytes, hneg, Literal.unsigned, hb]

/-- A byte that begins a number is neither white space nor anything else that has a meaning. -/
theorem number_start {b : UInt8} (h : b = 45 ∨ isDigit b = true) :
    isBlank b = false ∧ b ≠ 34 ∧ b ≠ 93 ∧ (b == 45 || isDigit b) = true := by
  rcases h with rfl | h
  · decide
  · refine ⟨?_, ?_, ?_, by simp [h]⟩
    · cases hblank : isBlank b with
      | false => rfl
      | true =>
        simp only [isBlank, Bool.or_eq_true, beq_iff_eq] at hblank
        rcases hblank with ((rfl | rfl) | rfl) | rfl <;> cases h
    · rintro rfl
      cases h
    · rintro rfl
      cases h

/-- A tree begins with neither white space nor a closing bracket. -/
theorem exists_before_cons (v : Value) (rest : List UInt8) :
    ∃ b tail, v.before rest = b :: tail ∧ isBlank b = false ∧ b ≠ 93 := by
  cases v with
  | null => exact ⟨_, _, rfl, by decide, by decide⟩
  | number text =>
    obtain ⟨b, tail, hb, hstart⟩ := exists_number_cons text
    obtain ⟨hblank, _, hclosing, _⟩ := number_start hstart
    exact ⟨b, tail ++ rest, by rw [before, hb, List.cons_append], hblank, hclosing⟩
  | string s => exact ⟨_, _, rfl, by decide, by decide⟩
  | array items => cases items <;> exact ⟨_, _, rfl, by decide, by decide⟩
  | object members =>
    rcases members with _ | ⟨⟨name, value⟩, members⟩ <;> exact ⟨_, _, rfl, by decide, by decide⟩

/-! ## Cutting -/

section Steps

variable {fuel : Nat} {b : UInt8} {tail : List UInt8}

/-- A number is left as it stands. -/
theorem parseValue_number (h : b = 45 ∨ isDigit b = true) :
    parseValue (fuel + 1) (b :: tail) = .number (b :: tail) := by
  obtain ⟨hblank, hquote, _, hstart⟩ := number_start h
  rw [parseValue, skipBlanks_cons tail hblank]
  exact (if_neg hquote).trans (if_pos hstart)

/-- An array that is not empty is cut into its items. -/
theorem parseValue_array (hblank : isBlank b = false) (hne : b ≠ 93) {items : List Node}
    {stop : Stop} (h : parseItems fuel (b :: tail) = (items, stop)) :
    parseValue (fuel + 1) (91 :: b :: tail) = .array (91 :: b :: tail) items stop := by
  have hopen : isBlank 91 = false := by decide
  have hdigit : isDigit 91 = false := by decide
  simp [parseValue, skipBlanks_cons _ hopen, skipBlanks_cons _ hblank, hdigit, hne, h]

/-- An object that is not empty is cut into its members. -/
theorem parseValue_object {members : List (List UInt8 × Node)} {stop : Stop}
    (h : parseMembers fuel true (34 :: tail) = (members, stop)) :
    parseValue (fuel + 1) (123 :: 34 :: tail) = .object (123 :: 34 :: tail) members stop := by
  have hopen : isBlank 123 = false := by decide
  have hquote : isBlank 34 = false := by decide
  have hdigit : isDigit 123 = false := by decide
  simp [parseValue, skipBlanks_cons _ hopen, skipBlanks_cons _ hquote, hdigit, h]

/-- The last item of an array. -/
theorem parseItems_last {text rest : List UInt8} {item : Node} (hitem : parseValue fuel text = item)
    (hrest : item.rest? = some (93 :: rest)) :
    parseItems (fuel + 1) text = ([item], .closed rest) := by
  have hclose : isBlank 93 = false := by decide
  simp [parseItems, hitem, hrest, skipBlanks_cons _ hclose]

/-- An item of an array with another one behind it. -/
theorem parseItems_next {text : List UInt8} {item : Node} (hitem : parseValue fuel text = item)
    (hrest : item.rest? = some (44 :: b :: tail)) (hblank : isBlank b = false) (hne : b ≠ 93) :
    parseItems (fuel + 1) text =
      (item :: (parseItems fuel (b :: tail)).1, (parseItems fuel (b :: tail)).2) := by
  have hcomma : isBlank 44 = false := by decide
  simp [parseItems, hitem, hrest, skipBlanks_cons _ hcomma, skipBlanks_cons _ hblank, hne]

/-- The last member of an object. -/
theorem parseMembers_last {name : String} {text rest : List UInt8} {value : Node} (first : Bool)
    (hvalue : parseValue fuel text = value) (hrest : value.rest? = some (125 :: rest)) :
    parseMembers (fuel + 1) first (quotedBefore name (58 :: text)) =
      ([(quoted name ++ 58 :: text, value)], .closed rest) := by
  have hclose : isBlank 125 = false := by decide
  have hcolon : isBlank 58 = false := by decide
  simp [quotedBefore, parseMembers, skipBlanks_cons _ hcolon, hvalue, hrest,
    skipBlanks_cons _ hclose]

/-- A member of an object with another one behind it. -/
theorem parseMembers_next {name : String} {text : List UInt8} {value : Node} (first : Bool)
    (hvalue : parseValue fuel text = value) (hrest : value.rest? = some (44 :: 34 :: tail)) :
    parseMembers (fuel + 1) first (quotedBefore name (58 :: text)) =
      ((quoted name ++ 58 :: text, value) :: (parseMembers fuel false (34 :: tail)).1,
        (parseMembers fuel false (34 :: tail)).2) := by
  have hcomma : isBlank 44 = false := by decide
  have hquote : isBlank 34 = false := by decide
  have hcolon : isBlank 58 = false := by decide
  simp [quotedBefore, parseMembers, skipBlanks_cons _ hcolon, hvalue, hrest,
    skipBlanks_cons _ hcomma, skipBlanks_cons _ hquote]

end Steps

mutual

/-- The text of a tree is cut into its nodes. -/
theorem parseValue_before : ∀ (v : Value) (fuel : Nat) (rest : List UInt8), v.size ≤ fuel →
    Delimited rest → parseValue fuel (v.before rest) = v.node rest
  | null, fuel + 1, rest, _, _ => rfl
  | number text, fuel + 1, rest, _, _ => by
    obtain ⟨b, tail, hb, hstart⟩ := exists_number_cons text
    rw [node, before, hb, List.cons_append, parseValue_number hstart]
  | string s, fuel + 1, rest, _, _ => rfl
  | array [], fuel + 1, rest, _, _ => rfl
  | array (item :: items), fuel + 1, rest, hf, _ => by
    have hitems := parseItems_before item items fuel rest (by rw [size] at hf; omega)
    obtain ⟨b, tail, hb, hblank, hne⟩ := exists_before_cons item (itemsBehind items rest)
    rw [node, before, hb, parseValue_array hblank hne (hb ▸ hitems)]
  | object [], fuel + 1, rest, _, _ => rfl
  | object ((name, value) :: members), fuel + 1, rest, hf, _ => by
    have hmembers := parseMembers_before name value members true fuel rest
      (by rw [size] at hf; omega)
    rw [node, before, quotedBefore, parseValue_object hmembers]
  | v, 0, rest, hf, _ => by cases v <;> simp [size] at hf

/-- The items of an array are cut up to its end. -/
theorem parseItems_before : ∀ (item : Value) (items : List Value) (fuel : Nat) (rest : List UInt8),
    itemsSize (item :: items) ≤ fuel →
    parseItems fuel (item.before (itemsBehind items rest)) =
      (itemNodes (item :: items) rest, .closed rest)
  | _, _, 0, _, hf => by simp [itemsSize] at hf
  | item, [], fuel + 1, rest, hf => by
    rw [itemsSize] at hf
    have hdelimited := delimited_itemsBehind [] rest
    have hitem := parseValue_before item fuel (itemsBehind [] rest) (by omega) hdelimited
    exact parseItems_last hitem (item.rest?_node hdelimited)
  | item, next :: items, fuel + 1, rest, hf => by
    rw [itemsSize] at hf
    have hdelimited := delimited_itemsBehind (next :: items) rest
    have hitem := parseValue_before item fuel _ (by omega) hdelimited
    have hitems := parseItems_before next items fuel rest (by omega)
    obtain ⟨b, tail, hb, hblank, hne⟩ := exists_before_cons next (itemsBehind items rest)
    have hbehind : itemsBehind (next :: items) rest = 44 :: b :: tail := by rw [itemsBehind, hb]
    have hrest := item.rest?_node hdelimited
    rw [hbehind] at hitem hrest
    rw [hbehind, parseItems_next hitem hrest hblank hne, ← hb, hitems]
    rfl

/-- The members of an object are cut up to its end. -/
theorem parseMembers_before : ∀ (name : String) (value : Value) (members : List (String × Value))
    (first : Bool) (fuel : Nat) (rest : List UInt8), membersSize ((name, value) :: members) ≤ fuel →
    parseMembers fuel first
        (quotedBefore name (58 :: value.before (membersBehind members rest))) =
      (memberNodes ((name, value) :: members) rest, .closed rest)
  | _, _, _, _, 0, _, hf => by simp [membersSize] at hf
  | name, value, [], first, fuel + 1, rest, hf => by
    rw [membersSize] at hf
    have hdelimited := delimited_membersBehind [] rest
    have hvalue := parseValue_before value fuel (membersBehind [] rest) (by omega) hdelimited
    exact parseMembers_last first hvalue (value.rest?_node hdelimited)
  | name, value, (other, next) :: members, first, fuel + 1, rest, hf => by
    rw [membersSize] at hf
    have hdelimited := delimited_membersBehind ((other, next) :: members) rest
    have hvalue := parseValue_before value fuel _ (by omega) hdelimited
    have hmembers := parseMembers_before other next members false fuel rest (by omega)
    rw [parseMembers_next first hvalue (value.rest?_node hdelimited)]
    rw [quotedBefore] at hmembers
    rw [hmembers]
    rfl

end

mutual

/-- A tree does not have more values than twice its bytes. -/
theorem size_le : ∀ (v : Value) (rest : List UInt8),
    v.size + 2 * rest.length ≤ 2 * (v.before rest).length
  | null, rest => by simp only [size, before, List.length_cons]; omega
  | number text, rest => by
    obtain ⟨b, tail, hb, _⟩ := exists_number_cons text
    simp only [size, before, hb, List.cons_append, List.length_cons, List.length_append]
    omega
  | string s, rest => by
    simp only [size, before, quotedBefore, List.length_cons, List.length_append]
    omega
  | array [], rest => by simp only [size, itemsSize, before, List.length_cons]; omega
  | array (item :: items), rest => by
    have hitem := size_le item (itemsBehind items rest)
    have hitems := itemsSize_le items rest
    simp only [size, itemsSize, before, List.length_cons]
    omega
  | object [], rest => by simp only [size, membersSize, before, List.length_cons]; omega
  | object ((name, value) :: members), rest => by
    have hvalue := size_le value (membersBehind members rest)
    have hmembers := membersSize_le members rest
    simp only [size, membersSize, before, quotedBefore, List.length_cons, List.length_append]
    omega

/-- Neither do the items of an array. -/
theorem itemsSize_le : ∀ (items : List Value) (rest : List UInt8),
    itemsSize items + 2 * rest.length ≤ 2 * (itemsBehind items rest).length
  | [], rest => by simp only [itemsSize, itemsBehind, List.length_cons]; omega
  | item :: items, rest => by
    have hitem := size_le item (itemsBehind items rest)
    have hitems := itemsSize_le items rest
    simp only [itemsSize, itemsBehind, List.length_cons]
    omega

/-- Neither do the members of an object. -/
theorem membersSize_le : ∀ (members : List (String × Value)) (rest : List UInt8),
    membersSize members + 2 * rest.length ≤ 2 * (membersBehind members rest).length
  | [], rest => by simp only [membersSize, membersBehind, List.length_cons]; omega
  | (name, value) :: members, rest => by
    have hvalue := size_le value (membersBehind members rest)
    have hmembers := membersSize_le members rest
    simp only [membersSize, membersBehind, quotedBefore, List.length_cons, List.length_append]
    omega

end

/-- Cutting the whole text of a tree gives its nodes. -/
theorem parse_before (v : Value) : parse (v.before []) = v.node [] := by
  have hsize := v.size_le []
  exact v.parseValue_before _ [] (by rw [List.length_nil] at hsize; omega) .nil

end Value

end NavStream.Json
