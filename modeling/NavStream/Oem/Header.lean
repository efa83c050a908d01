import NavStream.Bytes.Fields
import NavStream.Checksum.Crc
import NavStream.Time.Gps

/-!
# Headers of binary frames

A binary frame begins with three sync bytes, the last of which selects one of two header layouts.
Both tell the log, the length of the payload and the receiver's time.

* `Header.decode?`, `Header.encode` — reading and writing a header;
* `encodeFrame` — a whole frame around a payload;
* `startsWithSync` — whether bytes begin with a sync pattern.
-/

namespace NavStream.Oem

open NavStream.Bytes NavStream.Checksum

/-- The two header layouts. -/
inductive HeaderKind where
  /-- All fields. -/
  | long
  /-- Log, payload length and time only. -/
  | short
deriving DecidableEq, Repr

namespace HeaderKind

/-- The third sync byte of a layout. -/
def selector : HeaderKind → UInt8
  | long => 0x12
  | short => 0x13

/-- The layout that the third sync byte selects. -/
def ofSelector? (selector : UInt8) : Option HeaderKind :=
  if selector = 0x12 then some long
  else if selector = 0x13 then some short
  else none

/-- The number of bytes of a header. -/
def length : HeaderKind → Nat
  | long => 28
  | short => 12

/-- The name of a layout. -/
def name : HeaderKind → String
  | long => "Long"
  | short => "Short"

end HeaderKind

/-- The number of sync bytes, the selector included. -/
def syncLength : Nat := 3

/-- Whether bytes begin with a sync pattern. -/
def startsWithSync : List UInt8 → Bool
  | 0xAA :: 0x44 :: selector :: _ => (HeaderKind.ofSelector? selector).isSome
  | _ => false

/-- The header of a binary frame. A short header has no more than the first five fields; the others
are zero there. -/
structure Header where
  kind : HeaderKind
  messageId : UInt16
  /-- The number of bytes of the payload. -/
  messageLength : UInt16
  gpsWeek : UInt16
  gpsMillisecs : UInt32
  messageType : UInt8
  portAddress : UInt8
  sequence : UInt16
  idleTime : UInt8
  timeStatus : UInt8
  receiverStatus : UInt32
  swVersion : UInt16
deriving DecidableEq, Repr

namespace Header

/-- A short header. -/
def short (messageId messageLength gpsWeek : UInt16) (gpsMillisecs : UInt32) : Header where
  kind := .short
  messageId := messageId
  messageLength := messageLength
  gpsWeek := gpsWeek
  gpsMillisecs := gpsMillisecs
  messageType := 0
  portAddress := 0
  sequence := 0
  idleTime := 0
  timeStatus := 0
  receiverStatus := 0
  swVersion := 0

/-- The fields of a long header behind the sync bytes. -/
def longFields : FieldReader Header := do
  FieldReader.skip 1
  let messageId ← FieldReader.word16
  let messageType ← FieldReader.word8
  let portAddress ← FieldReader.word8
  let messageLength ← FieldReader.word16
  let sequence ← FieldReader.word16
  let idleTime ← FieldReader.word8
  let timeStatus ← FieldReader.word8
  let gpsWeek ← FieldReader.word16
  let gpsMillisecs ← FieldReader.word32
  let receiverStatus ← FieldReader.word32
  FieldReader.skip 2
  let swVersion ← FieldReader.word16
  return { kind := .long, messageId, messageLength, gpsWeek, gpsMillisecs, messageType,
           portAddress, sequence, idleTime, timeStatus, receiverStatus, swVersion }

/-- The fields of a short header behind the sync bytes. -/
def shortFields : FieldReader Header := do
  let messageLength ← FieldReader.word8
  let messageId ← FieldReader.word16
  let gpsWeek ← FieldReader.word16
  let gpsMillisecs ← FieldReader.word32
  return short messageId messageLength.toUInt16 gpsWeek gpsMillisecs

/-- The header that bytes begin with, if they begin with a whole one. -/
def decode? : List UInt8 → Option Header
  | 0xAA :: 0x44 :: selector :: rest =>
    match HeaderKind.ofSelector? selector with
    | some .long => FieldReader.decode? longFields rest
    | some .short => FieldReader.decode? shortFields rest
    | none => none
  | _ => none

/-- The bytes of a header. A short header keeps the low byte of the payload length only. -/
def encode (header : Header) : List UInt8 :=
  [0xAA, 0x44, header.kind.selector] ++
    match header.kind with
    | .long =>
      [28] ++ leBytes 2 header.messageId.toNat ++ [header.messageType, header.portAddress] ++
        leBytes 2 header.messageLength.toNat ++ leBytes 2 header.sequence.toNat ++
        [header.idleTime, header.timeStatus] ++ leBytes 2 header.gpsWeek.toNat ++
        leBytes 4 header.gpsMillisecs.toNat ++ leBytes 4 header.receiverStatus.toNat ++ [0, 0] ++
        leBytes 2 header.swVersion.toNat
    | .short =>
      [header.messageLength.toUInt8] ++ leBytes 2 header.messageId.toNat ++
        leBytes 2 header.gpsWeek.toNat ++ leBytes 4 header.gpsMillisecs.toNat

/-- The number of bytes of the header. -/
def length (header : Header) : Nat := header.kind.length

/-- The number of bytes of the frame: header, payload and check value. -/
def frameLength (header : Header) : Nat :=
  header.length + header.messageLength.toNat + trailerLength

/-- The GPS seconds of the receiver's time tag. -/
def measurementTime (header : Header) : Float :=
  Time.gpsSeconds header.gpsWeek header.gpsMillisecs

/-- A header is as long as its layout says. -/
theorem length_encode (header : Header) : header.encode.length = header.length := by
  obtain ⟨kind⟩ := header
  cases kind <;> simp [encode, length, HeaderKind.length]

end Header

/-- A frame around a payload. The header announces the length of the payload, as far as two bytes
can tell it. -/
def encodeFrame (header : Header) (payload : List UInt8) : List UInt8 :=
  let announced : Header :=
    { header with messageLength := UInt16.ofNat (min payload.length 65535) }
  let body := announced.encode ++ payload
  body ++ trailerOf (crc32 body)

end NavStream.Oem
