/-!
# Parts of a text by their bytes

Places in a text are counted in the bytes of its UTF-8 form, and no part of a text begins or ends
within a character.

* `byteSize` — the size of a text in bytes;
* `dropBytes?`, `takeBytes?` — what lies behind a place, and in front of it;
* `dropBytes?_append`, `takeBytes?_append` — the place behind a text is the one at its size.
-/

namespace NavStream.Text

/-- The size of a text in bytes. -/
def byteSize : List Char → Nat
  | [] => 0
  | c :: rest => c.utf8Size + byteSize rest

/-- What lies behind a place. -/
def dropBytes? : (place : Nat) → List Char → Option (List Char)
  | 0, text => some text
  | _ + 1, [] => none
  | place + 1, c :: rest =>
    if c.utf8Size ≤ place + 1 then dropBytes? (place + 1 - c.utf8Size) rest else none

/-- What lies in front of a place. -/
def takeBytes? : (place : Nat) → List Char → Option (List Char)
  | 0, _ => some []
  | _ + 1, [] => none
  | place + 1, c :: rest =>
    if c.utf8Size ≤ place + 1 then (takeBytes? (place + 1 - c.utf8Size) rest).map (c :: ·)
    else none

/-- What lies behind a text that another one follows. -/
theorem dropBytes?_append (text rest : List Char) :
    dropBytes? (byteSize text) (text ++ rest) = some rest := by
  induction text with
  | nil => cases rest <;> rfl
  | cons c tail ih =>
    have hc := c.utf8Size_pos
    obtain ⟨n, hn⟩ : ∃ n, c.utf8Size + byteSize tail = n + 1 :=
      ⟨c.utf8Size + byteSize tail - 1, by omega⟩
    rw [byteSize, hn, List.cons_append, dropBytes?, if_pos (by omega), ← hn,
      Nat.add_sub_cancel_left, ih]

/-- What lies in front of the place behind a text. -/
theorem takeBytes?_append (text rest : List Char) :
    takeBytes? (byteSize text) (text ++ rest) = some text := by
  induction text with
  | nil => cases rest <;> rfl
  | cons c tail ih =>
    have hc := c.utf8Size_pos
    obtain ⟨n, hn⟩ : ∃ n, c.utf8Size + byteSize tail = n + 1 :=
      ⟨c.utf8Size + byteSize tail - 1, by omega⟩
    rw [byteSize, hn, List.cons_append, takeBytes?, if_pos (by omega), ← hn,
      Nat.add_sub_cancel_left, ih, Option.map_some]

end NavStream.Text
