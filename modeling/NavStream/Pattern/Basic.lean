/-!
# Search patterns

A pattern describes texts: characters that stand for themselves, classes of characters, groups,
repetitions and alternatives. Patterns are examined here and not searched for, so a pattern holds
what decides whether a search for it can be prepared.

* `Flag`, `Flags` — how what follows them is meant;
* `ClassSet` — what stands between the brackets of a class;
* `Pattern` — a pattern;
* `Pattern.depth` — how deep a pattern is nested.
-/

namespace NavStream

namespace Pattern

/-- A way in which a pattern is meant. -/
inductive Flag where
  /-- Letters of both cases are the same. -/
  | caseless
  /-- Lines have ends of their own. -/
  | multiLine
  /-- The point also stands for the end of a line. -/
  | dotAll
  /-- Repetitions are as short as possible. -/
  | swapGreed
  /-- Characters are code points and not bytes. -/
  | unicode
  /-- A line ends with two characters. -/
  | crlf
  /-- Blanks and comments between the parts of a pattern mean nothing. -/
  | spaced
deriving DecidableEq, Repr

/-- Flags that are set and flags that are cleared. -/
structure Flags where
  /-- The flags that are set. -/
  on : List Flag := []
  /-- The flags that are cleared. -/
  off : List Flag := []
deriving DecidableEq, Repr

/-- What becomes of a flag, if anything does. -/
def Flags.setting (flags : Flags) (flag : Flag) : Option Bool :=
  if flags.on.contains flag then some true
  else if flags.off.contains flag then some false
  else none

/-- A character that stands for itself. -/
structure Literal where
  /-- The character. -/
  char : Char
  /-- Whether it is written as a byte, with two hexadecimal digits. -/
  asByte : Bool := false
deriving DecidableEq, Repr

/-- What stands between the brackets of a class. -/
inductive ClassSet where
  /-- Nothing, at one side of an operator. -/
  | empty
  /-- A character. -/
  | char (literal : Literal)
  /-- The characters from a first to a last one. -/
  | range (first last : Literal)
  /-- A class with a name, such as the letters. -/
  | named (negated : Bool)
  /-- A class with a letter: digits, blanks, or the characters of words. -/
  | shorthand (negated : Bool)
  /-- A class in brackets of its own. -/
  | nested (negated : Bool) (set : ClassSet)
  /-- Several of them, side by side. -/
  | union (items : List ClassSet)
  /-- What an operator makes of two of them. -/
  | combination (left right : ClassSet)

end Pattern

/-- A search pattern. -/
inductive Pattern where
  /-- Nothing. -/
  | empty
  /-- A character that stands for itself. -/
  | literal (literal : Pattern.Literal)
  /-- The point, which stands for any character. -/
  | anyChar
  /-- The beginning or the end of a line or of the text. -/
  | anchor
  /-- The beginning or the end of a word, or neither of them. -/
  | wordBoundary
  /-- A class with a letter: digits, blanks, or the characters of words. -/
  | shorthand (negated : Bool)
  /-- A class in brackets. -/
  | bracketed (negated : Bool) (set : Pattern.ClassSet)
  /-- Flags for what follows. -/
  | flags (flags : Pattern.Flags)
  /-- A group, with flags for what is in it. -/
  | group (flags : Pattern.Flags) (inner : Pattern)
  /-- A pattern that may be repeated or missing. -/
  | repetition (inner : Pattern)
  /-- One pattern behind the other. -/
  | sequence (items : List Pattern)
  /-- One pattern or the other. -/
  | alternatives (items : List Pattern)

namespace Pattern

/-- Items of a class side by side. A single item is no union. -/
def ClassSet.ofItems : List ClassSet → ClassSet
  | [] => empty
  | [item] => item
  | items => union items

/-- Patterns one behind the other. A single pattern is no sequence. -/
def ofItems : List Pattern → Pattern
  | [] => empty
  | [item] => item
  | items => sequence items

/-- Patterns of which one is meant. A single pattern has no alternative. -/
def ofAlternatives : List Pattern → Pattern
  | [] => empty
  | [item] => item
  | items => alternatives items

/-! ## Nesting -/

mutual

/-- How deep the items of a class are nested. -/
def ClassSet.depth : ClassSet → Nat
  | .empty | .char _ | .range .. | .named _ | .shorthand _ => 0
  | .nested _ set => set.depth + 1
  | .union items => ClassSet.greatestDepth items + 1
  | .combination left right => max left.depth right.depth + 1

/-- The greatest depth of several items. -/
def ClassSet.greatestDepth : List ClassSet → Nat
  | [] => 0
  | item :: rest => max item.depth (ClassSet.greatestDepth rest)

end

mutual

/-- How deep a pattern is nested. -/
def depth : Pattern → Nat
  | empty | literal _ | anyChar | anchor | wordBoundary | shorthand _ | flags _ => 0
  | bracketed _ set => set.depth + 1
  | group _ inner | repetition inner => inner.depth + 1
  | sequence items | alternatives items => greatestDepth items + 1

/-- The greatest depth of several patterns. -/
def greatestDepth : List Pattern → Nat
  | [] => 0
  | item :: rest => max item.depth (greatestDepth rest)

end

end Pattern

end NavStream
