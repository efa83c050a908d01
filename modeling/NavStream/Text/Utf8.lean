/-!
# Reading text from bytes

Receivers send station names as bytes that need not be valid UTF-8. `pieces` cuts bytes into
characters and broken sequences, where a broken sequence is the longest start of a character that
cannot be completed; `decodeLossy` writes one replacement character for each of the latter.
-/

namespace NavStream.Text

/-- A character, or a sequence that cannot be completed to one. Either begins with a lead byte,
which `extra` more bytes follow. -/
inductive Piece where
  /-- A character. -/
  | char (c : Char) (extra : Nat)
  /-- The longest start of a character that what follows does not complete. -/
  | broken (extra : Nat)
deriving DecidableEq, Repr

namespace Piece

/-- How many bytes of the piece follow its lead byte. -/
def extra : Piece → Nat
  | char _ n => n
  | broken n => n

/-- Whether a piece is a character. -/
def isChar : Piece → Bool
  | char .. => true
  | broken _ => false

/-- The character of a piece, the replacement character for a broken one. -/
def toChar : Piece → Char
  | char c _ => c
  | broken _ => '\uFFFD'

end Piece

/-- Whether a byte can only continue a character. -/
def isContinuation (b : UInt8) : Bool := 0x80 ≤ b && b ≤ 0xBF

/-- The bytes that may follow a lead byte of three or four: overlong forms, surrogates and code
points beyond the last one are excluded. -/
def secondRange (lead : UInt8) : UInt8 × UInt8 :=
  if lead = 0xE0 then (0xA0, 0xBF)
  else if lead = 0xED then (0x80, 0x9F)
  else if lead = 0xF0 then (0x90, 0xBF)
  else if lead = 0xF4 then (0x80, 0x8F)
  else (0x80, 0xBF)

/-- The piece that starts with `lead`, where `rest` follows. -/
def pieceAt (lead : UInt8) (rest : List UInt8) : Piece :=
  -- past the end stands a byte that continues nothing
  let b (i : Nat) : UInt8 := rest.getD i 0
  let six (i : Nat) : Nat := (b i).toNat % 64
  let secondFits : Bool := (secondRange lead).1 ≤ b 0 && b 0 ≤ (secondRange lead).2
  if lead < 0x80 then .char (Char.ofNat lead.toNat) 0
  else if lead < 0xC2 then .broken 0
  else if lead < 0xE0 then
    if isContinuation (b 0) then .char (Char.ofNat (lead.toNat % 32 * 64 + six 0)) 1 else .broken 0
  else if lead < 0xF0 then
    if !secondFits then .broken 0
    else if !isContinuation (b 1) then .broken 1
    else .char (Char.ofNat ((lead.toNat % 16 * 64 + six 0) * 64 + six 1)) 2
  else if lead < 0xF5 then
    if !secondFits then .broken 0
    else if !isContinuation (b 1) then .broken 1
    else if !isContinuation (b 2) then .broken 2
    else .char (Char.ofNat (((lead.toNat % 8 * 64 + six 0) * 64 + six 1) * 64 + six 2)) 3
  else .broken 0

/-- Bytes as a sequence of characters and broken sequences. -/
def pieces : List UInt8 → List Piece
  | [] => []
  | lead :: rest => pieceAt lead rest :: pieces (rest.drop (pieceAt lead rest).extra)
termination_by bytes => bytes.length
decreasing_by simp only [List.length_drop, List.length_cons]; omega

/-- How many bytes at the front spell valid text. -/
def validLength (bytes : List UInt8) : Nat :=
  ((pieces bytes).takeWhile Piece.isChar).foldl (fun n piece => n + 1 + piece.extra) 0

/-- The text that bytes spell, with a replacement character for each broken sequence. -/
def decodeLossy (bytes : List UInt8) : String :=
  String.ofList ((pieces bytes).map Piece.toChar)

/-- The text that bytes spell, if they are valid. -/
def decode? (bytes : List UInt8) : Option String :=
  String.fromUTF8? ⟨bytes.toArray⟩

end NavStream.Text
