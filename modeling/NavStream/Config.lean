import NavStream.Frame.Session
import NavStream.Json.Reader
import NavStream.Oem.Decoder
import NavStream.Sentence.Decoder

/-!
# Configuration of a session

A session is set up for one wire format. The settings of the inertial unit matter to the binary
format only.

* `WireFormat` — the formats, each with its decoder;
* `Config` — the settings;
* `Config.ofJson` — the settings of a text;
* `Config.session`, `Config.session?` — a new session, and whether there can be one.
-/

namespace NavStream

open NavStream.Bytes NavStream.Frame

/-- The wire formats. -/
inductive WireFormat where
  /-- Binary logs. -/
  | binary
  /-- Sentences of text. -/
  | sentences
deriving DecidableEq, Repr

namespace WireFormat

/-- Every format. -/
def all : List WireFormat := [binary, sentences]

/-- The name of a format. -/
def name : WireFormat → String
  | binary => "NovatelBinary"
  | sentences => "HuaceAscii"

/-- How a format is written in a configuration. -/
def keyword : WireFormat → String
  | binary => "novatel-binary"
  | sentences => "huace-ascii"

/-- The states of the decoder of a format. -/
def State : WireFormat → Type
  | binary => Oem.State
  | sentences => Sentence.State

end WireFormat

/-- The settings of a session. -/
structure Config where
  format : WireFormat
  /-- The model of the inertial unit where logs do not tell it. -/
  imuType : Oem.ImuType := default
  /-- How the inertial unit is mounted. -/
  imuFrameMapping : Oem.ImuFrameMapping := default
  /-- The room of the buffer at the start. -/
  bufferCapacity : UInt64 := defaultCapacity.toUInt64
deriving DecidableEq, Repr

namespace Config

/-- What the binary format is told about the inertial unit. -/
def settings (config : Config) : Oem.Settings := ⟨config.imuType, config.imuFrameMapping⟩

/-- The decoder of a format. -/
def decoderOf (settings : Oem.Settings) : (format : WireFormat) → FrameDecoder format.State
  | .binary => Oem.decoder settings
  | .sentences => Sentence.decoder

/-- The decoder that a configuration selects. -/
def decoder (config : Config) : FrameDecoder config.format.State :=
  decoderOf config.settings config.format

/-- A new session, wherever its buffer can be allocated; `session?` tells whether it can. -/
def session (config : Config) : Session config.format.State :=
  .new config.decoder (.withCapacity config.bufferCapacity.toNat)

/-- A new session, if its buffer can be allocated. -/
def session? (config : Config) : Option (Session config.format.State) :=
  (ByteBuffer.allocate? config.bufferCapacity).map (.new config.decoder)

/-- There is a new session for every configuration whose buffer fits into a block. -/
theorem session?_eq (config : Config) :
    config.session? =
      if reserve + config.bufferCapacity.toNat ≤ largestBlock then some config.session
      else none := by
  rw [session?, ByteBuffer.allocate?_eq, apply_ite (Option.map _)]
  rfl

/-! ## Texts of configurations -/

/-- Formats by their keywords. -/
def formatCodec : Codec WireFormat :=
  .ofNames WireFormat.all WireFormat.keyword (by intro value; cases value <;> decide)

/-- Models of inertial units by their keywords. -/
def imuTypeCodec : Codec Oem.ImuType :=
  .ofNames Oem.ImuType.all Oem.ImuType.keyword (by intro value; cases value <;> decide)

/-- Mountings by their numbers. -/
def frameMappingCodec : Codec Oem.ImuFrameMapping where
  shape := .coded (Oem.Unsupported.frameMapping 0).subject
    (Oem.ImuFrameMapping.all.map fun mapping => mapping.code.toNat)
  toDatum mapping := .integer mapping.code.toNat
  ofDatum?
    | .integer n => Oem.ImuFrameMapping.ofCode? (UInt8.ofNat n.toNat)
    | _ => none
  ofDatum?_toDatum mapping := by cases mapping <;> rfl
  fits mapping := by cases mapping <;> simp [Datum.fits, Oem.ImuFrameMapping.all]

/-- Configurations. Everything but the format may be left out. -/
def codec : Codec Config :=
  ((Fields.start Config.mk)
    |>.field "format" formatCodec (·.format)
    |>.optional "imu_type" imuTypeCodec default (·.imuType)
    |>.optional "imu_frame_mapping" frameMappingCodec default (·.imuFrameMapping)
    |>.optional "buffer_capacity" .size defaultCapacity.toUInt64 (·.bufferCapacity)).record
    "Config" fun _ => rfl

/-- The configuration that a text describes. -/
def ofJson (text : List UInt8) : Except Json.Error Config := Json.decode codec text

/-- A configuration as a record with the names of its settings. -/
def toDatum (config : Config) : Datum :=
  .record "Config" [
    ("format", .variant config.format.name none),
    ("imu_type", .variant config.imuType.name none),
    ("imu_frame_mapping", .variant config.imuFrameMapping.name none),
    ("buffer_capacity", .integer config.bufferCapacity.toNat)]

end Config

end NavStream
