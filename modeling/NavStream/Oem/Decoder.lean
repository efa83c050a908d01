import NavStream.Bytes.Search
import NavStream.Frame.Decoder
import NavStream.Oem.Fix
import NavStream.Oem.Header
import NavStream.Oem.Ins
import NavStream.Oem.Log.Ephemeris
import NavStream.Oem.Log.Range
import NavStream.Oem.RawSample

/-!
# Decoding binary frames

A frame is located by its sync bytes. Once all of it is there its check value is compared: a frame
that fails loses only its header, since what follows may hold the next frame, and one that passes
is dispatched by its log.

* `State` — what is kept between frames;
* `checkFrame` — the check of the frame behind a located header;
* `Memory.dispatch` — what a checked frame leads to;
* `decoder` — the frame decoder.
-/

namespace NavStream.Oem

open NavStream.Bytes NavStream.Checksum NavStream.Frame

/-- What the user knows about the inertial unit. -/
structure Settings where
  /-- The model of logs that do not tell it, and of corrected changes. -/
  imuType : ImuType
  /-- How the unit is mounted. -/
  mapping : ImuFrameMapping
deriving DecidableEq

instance : Inhabited Settings := ⟨default, default⟩

/-- What logs have left behind for later ones. -/
structure Memory where
  /-- The halves of a fix. -/
  fix : FixAccumulator
  /-- The inertial logs that a solution is combined with. -/
  ins : InsAccumulator
  /-- The time of the latest raw sample. -/
  clock : ImuClock
deriving DecidableEq

/-- The memory before the first log. -/
def Memory.new (settings : Settings) : Memory :=
  ⟨default, .new settings.imuType.parameter.samplingRate, default⟩

/-- The state of the decoder. -/
structure State where
  /-- The header at the front of the unread bytes, once it was located. -/
  header : Option Header
  /-- What earlier logs have left behind. -/
  memory : Memory
deriving DecidableEq

/-- What a checked frame leads to. -/
structure Dispatched where
  /-- The memory afterwards. -/
  memory : Memory
  /-- The message, if there is one. -/
  message : Option Message
  /-- The reports, in order. -/
  diagnostics : List Diagnostic

namespace Memory

/-- A frame that changes nothing and gives a message. -/
def give (memory : Memory) (message : Option Message) : Dispatched := ⟨memory, message, []⟩

/-- Takes in a log of the fix group. -/
def applyFix (memory : Memory) (update : FixUpdate) : Dispatched :=
  let (fix, given) := memory.fix.apply update
  ⟨{ memory with fix }, given.map .fix, []⟩

/-- Takes in a log of the inertial group. -/
def applyIns (memory : Memory) (update : InsUpdate) : Dispatched :=
  let (ins, given) := memory.ins.apply update
  ⟨{ memory with ins }, given.map .ins, []⟩

/-- Takes in a raw sample of a unit. -/
def applyRaw (memory : Memory) (settings : Settings) (log : RawImu) (model : ImuType) :
    Dispatched :=
  let parameter := model.parameter
  let imu := scaleRawImu log parameter settings.mapping
  let (clock, diagnostics) := memory.clock.tick imu.measurementTime parameter.samplePeriod
  ⟨{ memory with clock }, some (.imu imu), diagnostics⟩

/-- Takes in a raw sample that tells the model of its unit. -/
def applyExtended (memory : Memory) (settings : Settings) (log : RawImu) : Dispatched :=
  let code := log.imuType.getD 0
  let errors : List Diagnostic := if log.imuError ≠ 0 then [.imuError log.imuStatus] else []
  match ImuType.ofCode? code with
  | none => ⟨memory, none, errors ++ [.unsupportedImu code]⟩
  | some model =>
    let dispatched := memory.applyRaw settings log model
    { dispatched with diagnostics := errors ++ dispatched.diagnostics }

/-- What a payload of an accepted length leads to; nothing where it does not hold the log. -/
def applyLog (memory : Memory) (settings : Settings) (id : LogId) (time : Float)
    (payload : List UInt8) : Dispatched :=
  let log? : Option Dispatched :=
    match id with
    | .bestPos | .psrPos =>
      (FieldReader.decode? BestPos.reader payload).map fun log =>
        memory.applyFix (.position time log)
    | .bestVel | .psrVel | .bestGnssVel =>
      (FieldReader.decode? BestVel.reader payload).map fun log =>
        memory.applyFix (.velocity time log)
    | .bestGnssPos =>
      (FieldReader.decode? BestPos.reader payload).map fun log =>
        memory.give (some (.bestPosition (log.bestPosition time)))
    | .corrImuData | .corrImuDataS | .imuRateCorrImuS =>
      (FieldReader.decode? CorrImuData.reader payload).map fun log => memory.applyIns (.rates log)
    | .insCov | .insCovS =>
      (FieldReader.decode? InsCov.reader payload).map fun log => memory.applyIns (.covariance log)
    | .insPva | .insPvaS =>
      (FieldReader.decode? InsPva.reader payload).map fun log => memory.applyIns (.solution log)
    | .insPvaX =>
      (FieldReader.decode? InsPvaX.reader payload).map fun log =>
        memory.give (some (.insStatus ⟨time, log.insStatus, log.positionType⟩))
    | .rawImu | .rawImuS =>
      (FieldReader.decode? RawImu.reader payload).map fun log =>
        memory.applyRaw settings log settings.imuType
    | .rawImuX | .rawImuSX =>
      (FieldReader.decode? RawImu.extendedReader payload).map fun log =>
        memory.applyExtended settings log
    | .gpsEphemeris =>
      (FieldReader.decode? gpsOrbit payload).map fun orbit =>
        memory.give (some (.ephemeris ⟨time, .gps, .keplerian orbit⟩))
    | .bdsEphemeris =>
      (FieldReader.decode? beiDouOrbit payload).map fun orbit =>
        memory.give (some (.ephemeris ⟨time, .beiDou, .keplerian orbit⟩))
    | .gloEphemeris =>
      (FieldReader.decode? glonassOrbit payload).map fun orbit =>
        memory.give (some (.ephemeris ⟨time, .glonass, .glonass orbit⟩))
    | .range =>
      (FieldReader.decode? (rangeReader time) payload).map fun observation =>
        memory.give (some (.observation observation))
    | .heading =>
      (FieldReader.decode? (headingReader time) payload).map fun heading =>
        memory.give (some (.heading heading))
  log?.getD (memory.give none)

/-- What a checked frame leads to. Logs that are not understood, and payloads of a wrong length,
change nothing. -/
def dispatch (memory : Memory) (settings : Settings) (header : Header) (payload : List UInt8) :
    Dispatched :=
  match LogId.ofCode? header.messageId with
  | none => ⟨memory, none, [.unsupportedLog header.messageId]⟩
  | some id =>
    if id.accepts payload.length then
      memory.applyLog settings id header.measurementTime payload
    else ⟨memory, none, [.payloadSize id payload.length]⟩

end Memory

/-- Looks for a header. Bytes that cannot begin one are discarded; where no sync pattern is found,
the last two bytes may still begin one. -/
def seek (state : State) (bytes : List UInt8) : SeekResult State :=
  match findOffset startsWithSync bytes with
  | none =>
    let skip := bytes.length - (syncLength - 1)
    ⟨{ state with header := none }, skip, false, if 0 < skip then [.noSync skip] else []⟩
  | some offset =>
    let header := Header.decode? (bytes.drop offset)
    ⟨{ state with header }, offset, header.isSome,
      if 0 < offset then [.skippedToSync offset] else []⟩

/-- What the bytes at the front turn out to be once a header was located there. -/
inductive FrameCheck where
  /-- The frame is not complete yet. -/
  | incomplete
  /-- The frame carries `expected`, its contents give `computed`. -/
  | corrupt (expected computed : UInt32)
  /-- The frame is intact and carries `payload`. -/
  | intact (payload : List UInt8)
deriving DecidableEq, Repr

/-- Checks the frame at the front, whose header was located. -/
def checkFrame (header : Header) (bytes : List UInt8) : FrameCheck :=
  if bytes.length < header.frameLength then .incomplete
  else
    let frame := bytes.take header.frameLength
    let body := frame.take (header.frameLength - trailerLength)
    let trailer := frame.drop (header.frameLength - trailerLength)
    match checkCrc32 body trailer with
    | .mismatch expected computed => .corrupt expected computed
    | .intact => .intact (body.drop header.length)

/-- Checks and dispatches the frame at the front, once all of it is there. -/
def extract (settings : Settings) (state : State) (bytes : List UInt8) : ExtractResult State :=
  match state.header <|> Header.decode? bytes with
  | none => ⟨state, 1, .done [], []⟩
  | some header =>
    match checkFrame header bytes with
    | .incomplete => ⟨{ state with header := some header }, 0, .needMore, []⟩
    | .corrupt expected computed =>
      ⟨{ state with header := none }, header.length, .done [],
        [.crcMismatch header.messageId expected computed]⟩
    | .intact payload =>
      let dispatched := state.memory.dispatch settings header payload
      ⟨⟨none, dispatched.memory⟩, header.frameLength, .done dispatched.message.toList,
        dispatched.diagnostics⟩

/-- The decoder of binary frames. -/
def decoder (settings : Settings) : FrameDecoder State where
  name := "novatel"
  initial := ⟨none, .new settings⟩
  seek := seek
  extract := extract settings
  seek_nil _ := rfl

end NavStream.Oem
