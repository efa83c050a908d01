/-!
# Tables of code points

A property of characters is given as a table: closed ranges of code points in ascending order. All
tables are those of version 17 of the Unicode standard.

* `inTable` — whether a character lies in one of the ranges of a table.
-/

namespace NavStream.Text

/-- Whether a code point lies in one of the ranges from index `low` up to, not including, `high`. -/
def inRanges (ranges : Array (Nat × Nat)) (code : Nat) (low high : Nat) : Bool :=
  if low < high then
    let middle := (low + high) / 2
    match ranges[middle]? with
    | none => false
    | some (first, last) =>
      if code < first then inRanges ranges code low middle
      else if last < code then inRanges ranges code (middle + 1) high
      else true
  else false
termination_by high - low
decreasing_by all_goals omega

/-- Whether a character lies in one of the ranges of a table. -/
def inTable (table : Array (Nat × Nat)) (c : Char) : Bool := inRanges table c.toNat 0 table.size

end NavStream.Text
