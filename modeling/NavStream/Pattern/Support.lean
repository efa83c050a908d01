import NavStream.Pattern.Basic

/-!
# Patterns that can be searched for

Searches are prepared without any table of characters. What would need one is not supported: the
cases of letters, words, digits and blanks beyond ASCII. Where characters are bytes, a pattern must
not stand for less than a whole character.

* `Modes` — the flags that matter;
* `Pattern.modesBehind?` — the flags behind a pattern, if all of it is supported;
* `Pattern.isSupported` — whether a search for a pattern can be prepared.
-/

namespace NavStream.Pattern

/-- The flags that decide what is supported. -/
structure Modes where
  /-- Whether letters of both cases are the same. -/
  caseless : Bool := false
  /-- Whether characters are code points. -/
  unicode : Bool := true
deriving DecidableEq, Repr

namespace Modes

/-- The flags behind a change of flags. -/
def under (modes : Modes) (flags : Flags) : Modes where
  caseless := (flags.setting .caseless).getD modes.caseless
  unicode := (flags.setting .unicode).getD modes.unicode

/-- Whether a character may stand in a pattern. -/
def allowsLiteral (modes : Modes) (literal : Literal) : Bool :=
  if modes.unicode then !modes.caseless else !literal.asByte || literal.char.toNat < 0x80

/-- Whether a character may stand in a class. -/
def allowsMember (modes : Modes) (literal : Literal) : Bool :=
  if modes.unicode then !modes.caseless else literal.char.toNat < 0x80

/-- Whether a class with a name may stand in a class. -/
def allowsNamed (modes : Modes) (negated : Bool) : Bool :=
  if modes.unicode then !modes.caseless else !negated

/-- Whether a class with a letter may stand somewhere. -/
def allowsShorthand (modes : Modes) (negated : Bool) : Bool := !modes.unicode && !negated

/-- Whether a class may be negated or not: among bytes its complement is no set of characters. -/
def allowsBrackets (modes : Modes) (negated : Bool) : Bool := modes.unicode || !negated

end Modes

mutual

/-- Whether the items of a class are supported. -/
def ClassSet.isSupported (modes : Modes) : ClassSet → Bool
  | .empty => true
  | .char member => modes.allowsMember member
  | .range first last => modes.allowsMember first && modes.allowsMember last
  | .named negated => modes.allowsNamed negated
  | .shorthand negated => modes.allowsShorthand negated
  | .nested negated set => modes.allowsBrackets negated && set.isSupported modes
  | .union items => ClassSet.allSupported modes items
  | .combination left right => left.isSupported modes && right.isSupported modes

/-- Whether several items of a class are supported. -/
def ClassSet.allSupported (modes : Modes) : List ClassSet → Bool
  | [] => true
  | item :: rest => item.isSupported modes && ClassSet.allSupported modes rest

end

mutual

/-- The flags behind a pattern, if it is supported with given flags in front of it. Flags hold up to
the end of the group that they are in, in all its alternatives that follow. -/
def modesBehind? (modes : Modes) : Pattern → Option Modes
  | empty | anchor => some modes
  | literal l => if modes.allowsLiteral l then some modes else none
  | anyChar => if modes.unicode then some modes else none
  | wordBoundary => if modes.unicode then none else some modes
  | shorthand negated => if modes.allowsShorthand negated then some modes else none
  | bracketed negated set =>
    if modes.allowsBrackets negated && set.isSupported modes then some modes else none
  | flags change => some (modes.under change)
  | group change inner => (modesBehind? (modes.under change) inner).map fun _ => modes
  | repetition inner => modesBehind? modes inner
  | sequence items | alternatives items => modesBehindAll? modes items

/-- The flags behind several patterns, if they are supported. -/
def modesBehindAll? (modes : Modes) : List Pattern → Option Modes
  | [] => some modes
  | item :: rest => do
    let modes ← modesBehind? modes item
    modesBehindAll? modes rest

end

/-- How deep patterns may be nested. -/
def maxDepth : Nat := 250

/-- Whether a search for a pattern can be prepared. -/
def isSupported (pattern : Pattern) : Bool :=
  pattern.depth ≤ maxDepth && (pattern.modesBehind? {}).isSome

end NavStream.Pattern
