import NavStream.Decimal.Reading
import NavStream.Message.Codes
import NavStream.Sentence.Kind
import NavStream.Text.Quoted

/-!
# Integrated navigation records

An integrated navigation sentence is a list of comma-separated items: the header and the columns of
one table. The short sentence stops early, and columns that are not there keep their defaults.

* `Record` — what a sentence tells;
* `columns` — the table: each column names, reads and stores one field;
* `Record.parse` — the record of a sentence, or the first thing wrong with it.
-/

namespace NavStream.Sentence

open NavStream.Decimal NavStream.Text

/-- What an integrated navigation sentence tells. -/
structure Record where
  gpsWeek : UInt32 := 0
  secondsInWeek : Float := 0.0
  /-- Degrees, clockwise from north. -/
  heading : Float := 0.0
  pitch : Float := 0.0
  roll : Float := 0.0
  /-- Degrees per second, right-front-up. -/
  gyroX : Float := 0.0
  gyroY : Float := 0.0
  gyroZ : Float := 0.0
  /-- Multiples of gravity, right-front-up. -/
  accX : Float := 0.0
  accY : Float := 0.0
  accZ : Float := 0.0
  latitude : Float := 0.0
  longitude : Float := 0.0
  altitude : Float := 0.0
  velocityEast : Float := 0.0
  velocityNorth : Float := 0.0
  velocityUp : Float := 0.0
  speed : Float := 0.0
  nsv1 : UInt32 := 0
  nsv2 : UInt32 := 0
  status : UInt8 := 0
  differentialAge : UInt32 := 0
  warning : String := ""
  latitudeStd : Float := 0.0
  longitudeStd : Float := 0.0
  altitudeStd : Float := 0.0
  velocityEastStd : Float := 0.0
  velocityNorthStd : Float := 0.0
  velocityUpStd : Float := 0.0
  rollStd : Float := 0.0
  pitchStd : Float := 0.0
  headingStd : Float := 0.0
  separator : String := ""
  speedHeading : Float := 0.0
  speedHeadingStd : Float := 0.0
  antennaX : Float := 0.0
  antennaY : Float := 0.0
  antennaZ : Float := 0.0
  rotationX : Float := 0.0
  rotationY : Float := 0.0
  rotationZ : Float := 0.0
  directionAngle : Float := 0.0
  nsu1 : UInt32 := 0
  nsu2 : UInt32 := 0
  deviceSn : String := ""
deriving DecidableEq

/-- What is wrong with a sentence. -/
inductive RecordError where
  /-- There are more items than the table has columns, the header counted on both sides. -/
  | tooManyFields (actual maximum : Nat)
  /-- An item does not read as its column says. -/
  | invalidField (column value : String)
deriving DecidableEq, Repr

namespace RecordError

/-- The text of an error. -/
def message : RecordError → String
  | tooManyFields actual maximum =>
    "too many fields: got " ++ toString actual ++ ", table has " ++ toString maximum
  | invalidField column value => "invalid field " ++ column ++ ": " ++ quote value

end RecordError

/-- A column of the table: its name, and how an item is read and stored. -/
structure Column where
  /-- The name of the column. -/
  name : String
  /-- Stores an item in a record, if it reads as the column says. -/
  store? : Record → List Char → Option Record

namespace Column

/-- A column of whole numbers. -/
def word32 (name : String) (set : Record → UInt32 → Record) : Column :=
  ⟨name, fun record item => (word32? (trim item)).map (set record)⟩

/-- A column of hexadecimal bytes. -/
def hexWord8 (name : String) (set : Record → UInt8 → Record) : Column :=
  ⟨name, fun record item => (hexWord8? (trim item)).map (set record)⟩

/-- A column of numbers. -/
def float (name : String) (set : Record → Float → Record) : Column :=
  ⟨name, fun record item => (float? (trim item)).map (set record)⟩

/-- A column of numbers that may be left empty while there is no solution. -/
def coordinate (name : String) (set : Record → Float → Record) : Column :=
  ⟨name, fun record item =>
    (if item.isEmpty then some (0.0 / 0.0) else float? (trim item)).map (set record)⟩

/-- A column of any text. -/
def text (name : String) (set : Record → String → Record) : Column :=
  ⟨name, fun record item => some (set record (String.ofList item))⟩

end Column

/-- The columns behind the header, in order. -/
def columns : List Column := [
  .word32 "gps_week" fun r v => { r with gpsWeek := v },
  .float "seconds_in_week" fun r v => { r with secondsInWeek := v },
  .float "heading" fun r v => { r with heading := v },
  .float "pitch" fun r v => { r with pitch := v },
  .float "roll" fun r v => { r with roll := v },
  .float "gyro_x" fun r v => { r with gyroX := v },
  .float "gyro_y" fun r v => { r with gyroY := v },
  .float "gyro_z" fun r v => { r with gyroZ := v },
  .float "acc_x" fun r v => { r with accX := v },
  .float "acc_y" fun r v => { r with accY := v },
  .float "acc_z" fun r v => { r with accZ := v },
  .coordinate "latitude" fun r v => { r with latitude := v },
  .coordinate "longitude" fun r v => { r with longitude := v },
  .coordinate "altitude" fun r v => { r with altitude := v },
  .float "velocity_east" fun r v => { r with velocityEast := v },
  .float "velocity_north" fun r v => { r with velocityNorth := v },
  .float "velocity_up" fun r v => { r with velocityUp := v },
  .float "speed" fun r v => { r with speed := v },
  .word32 "nsv1" fun r v => { r with nsv1 := v },
  .word32 "nsv2" fun r v => { r with nsv2 := v },
  .hexWord8 "status" fun r v => { r with status := v },
  .word32 "differential_age" fun r v => { r with differentialAge := v },
  .text "warning" fun r v => { r with warning := v },
  .float "latitude_std" fun r v => { r with latitudeStd := v },
  .float "longitude_std" fun r v => { r with longitudeStd := v },
  .float "altitude_std" fun r v => { r with altitudeStd := v },
  .float "velocity_east_std" fun r v => { r with velocityEastStd := v },
  .float "velocity_north_std" fun r v => { r with velocityNorthStd := v },
  .float "velocity_up_std" fun r v => { r with velocityUpStd := v },
  .float "roll_std" fun r v => { r with rollStd := v },
  .float "pitch_std" fun r v => { r with pitchStd := v },
  .float "heading_std" fun r v => { r with headingStd := v },
  .text "separator" fun r v => { r with separator := v },
  .float "speed_heading" fun r v => { r with speedHeading := v },
  .float "speed_heading_std" fun r v => { r with speedHeadingStd := v },
  .float "antenna_x" fun r v => { r with antennaX := v },
  .float "antenna_y" fun r v => { r with antennaY := v },
  .float "antenna_z" fun r v => { r with antennaZ := v },
  .float "rotation_x" fun r v => { r with rotationX := v },
  .float "rotation_y" fun r v => { r with rotationY := v },
  .float "rotation_z" fun r v => { r with rotationZ := v },
  .float "direction_angle" fun r v => { r with directionAngle := v },
  .word32 "nsu1" fun r v => { r with nsu1 := v },
  .word32 "nsu2" fun r v => { r with nsu2 := v },
  .text "device_sn" fun r v => { r with deviceSn := v }]

/-- The items between commas. There is always at least one. -/
def splitItems : List Char → List (List Char)
  | [] => [[]]
  | ',' :: rest => [] :: splitItems rest
  | c :: rest =>
    match splitItems rest with
    | [] => [[c]]
    | item :: others => (c :: item) :: others

/-- Stores items in the columns of a table, one after the other, as far as both reach. -/
def storeItems : List Column → List (List Char) → Record → Except RecordError Record
  | column :: columns, item :: items, record =>
    match column.store? record item with
    | some stored => storeItems columns items stored
    | none => .error (.invalidField column.name (String.ofList item))
  | _, _, record => .ok record

/-- Whether an item is the header of an integrated navigation sentence. -/
def isHeader (item : List Char) : Bool :=
  item == Kind.gpchc.header.toList || item == Kind.gpchcx.header.toList

/-- The record of a sentence, from its header up to, not including, the asterisk. -/
def Record.parse (sentence : String) : Except RecordError Record :=
  let items := splitItems sentence.toList
  let maximum := columns.length + 1
  if maximum < items.length then .error (.tooManyFields items.length maximum)
  else
    match items with
    | [] => .ok {}
    | header :: rest =>
      if isHeader header then storeItems columns rest {}
      else .error (.invalidField "header" (String.ofList header))

/-- Items together with the commas between them are the text they were split from. -/
theorem intercalate_splitItems (text : List Char) :
    [','].intercalate (splitItems text) = text := by
  induction text with
  | nil => rfl
  | cons c rest ih =>
    unfold splitItems
    split
    · contradiction
    · next heq =>
      cases heq
      cases hs : splitItems rest with
      | nil =>
        rw [hs] at ih
        have : rest = [] := by simpa [List.intercalate] using ih.symm
        subst this
        simp [splitItems] at hs
      | cons item others =>
        rw [hs] at ih
        simpa [List.intercalate, List.intersperse] using ih
    · next heq =>
      cases heq
      cases hs : splitItems rest with
      | nil =>
        rw [hs] at ih
        have : rest = [] := by simpa [List.intercalate] using ih.symm
        subst this
        simp [List.intercalate]
      | cons item others =>
        rw [hs] at ih
        cases others with
        | nil => simpa [List.intercalate] using ih
        | cons next others => simpa [List.intercalate, List.intersperse] using ih

end NavStream.Sentence
