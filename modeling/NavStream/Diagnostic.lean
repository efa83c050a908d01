import NavStream.Correction.Status
import NavStream.Datum.Display
import NavStream.Message.Basic
import NavStream.Oem.LogId
import NavStream.Oem.Unsupported
import NavStream.Sentence.Kind
import NavStream.Text.Quoted

/-!
# Diagnostics

Decoding never fails: what is damaged or unknown is dropped, and every drop is reported. A
`Diagnostic` names the cause; its level, target, text and fields follow from the cause.

* `Level` — how serious a report is;
* `Diagnostic` — the causes;
* `Diagnostic.target` — where a report comes from;
* `Diagnostic.message`, `Diagnostic.fields` — what a report says;
* `Diagnostic.line` — the report as a line of text.
-/

namespace NavStream

/-- How serious a report is. -/
inductive Level where
  | trace | debug | info | warn | error
deriving DecidableEq, Repr

namespace Level

/-- The rank of a level; more serious reports rank higher. -/
def rank : Level → Nat
  | trace => 1
  | debug => 2
  | info => 3
  | warn => 4
  | error => 5

/-- The name of a level. -/
def name : Level → String
  | trace => "TRACE"
  | debug => "DEBUG"
  | info => "INFO"
  | warn => "WARN"
  | error => "ERROR"

end Level

/-- The value of a field of a report. -/
inductive FieldValue where
  /-- A whole number. -/
  | number (n : Int)
  /-- A measured quantity. -/
  | float (x : Float)
  /-- A word of the report's own vocabulary, shown as it is. -/
  | word (text : String)
  /-- Text, shown between quotes. -/
  | text (text : String)

/-- A report on what was dropped, skipped or completed. -/
inductive Diagnostic where
  /-- No binary header starts in the unread bytes. -/
  | noSync (skip : Nat)
  /-- Bytes in front of a binary header are skipped. -/
  | skippedToSync (skip : Nat)
  /-- The check value of a binary frame does not fit its contents. -/
  | crcMismatch (messageId : UInt16) (expected computed : UInt32)
  /-- A log that leads to no message. -/
  | unsupportedLog (messageId : UInt16)
  /-- A payload of a length that its log does not have. -/
  | payloadSize (id : Oem.LogId) (length : Nat)
  /-- An inertial unit reports an error. -/
  | imuError (status : UInt32)
  /-- A raw sample of an inertial unit that is not known. -/
  | unsupportedImu (code : UInt8)
  /-- Two raw samples are not one period apart. -/
  | irregularSampling (gap expected : Float)
  /-- No sentence starts in the unread bytes. -/
  | noSentence (skip : Nat)
  /-- Bytes in front of a sentence are skipped. -/
  | skippedToSentence (skip : Nat)
  /-- A sentence does not end within the longest length. -/
  | noTerminator (kind : Sentence.Kind) (length : Nat)
  /-- A sentence is too short to carry a checksum. -/
  | sentenceTooShort (kind : Sentence.Kind) (length : Nat)
  /-- No asterisk stands in front of the checksum digits. -/
  | noChecksum (kind : Sentence.Kind)
  /-- The checksum of a sentence does not fit its contents. -/
  | checksumMismatch (kind : Sentence.Kind) (expected computed : UInt32)
  /-- A sentence is not text. -/
  | sentenceNotText (kind : Sentence.Kind)
  /-- A sentence does not parse, for the reason given. -/
  | sentenceRejected (kind : Sentence.Kind) (reason : String)
  /-- A frame was completed without using a byte, so one is skipped. -/
  | stalled (decoder : String)
  /-- A frame was completed. -/
  | frameDecoded (decoder : String) (count : Nat)
  /-- The correction decoder reports an error. -/
  | correctionError (code : Int) (consumed : Nat)
  /-- The correction decoder completed a message of no interest. -/
  | correctionUnhandled (code : Int)
  /-- The correction decoder completed a message. -/
  | correctionReady (event : Correction.Event)
  /-- Nobody receives messages any more. -/
  | receiverGone
  /-- A message finds no room in the channel. -/
  | channelFull (kind : MessageKind)

namespace Diagnostic

/-- How serious a report is. -/
def level : Diagnostic → Level
  | noSync _ | unsupportedLog _ | noSentence _ | frameDecoded .. => .trace
  | skippedToSync _ | skippedToSentence _ | correctionUnhandled _ | correctionReady _ => .debug
  | _ => .warn

/-- The part of decoding that a report comes from. -/
def target : Diagnostic → String
  | noSync _ | skippedToSync _ | crcMismatch .. | unsupportedLog _ | payloadSize .. | imuError _
  | unsupportedImu _ => "gnss_frames::novatel"
  | irregularSampling .. => "gnss_frames::novatel::accumulator"
  | noSentence _ | skippedToSentence _ | noTerminator .. | sentenceTooShort .. | noChecksum _
  | checksumMismatch .. | sentenceNotText _ | sentenceRejected .. => "gnss_frames::huace"
  | stalled _ | frameDecoded .. => "gnss_frames::framing::session"
  | correctionError .. | correctionUnhandled _ | correctionReady _ => "gnss_frames::correction"
  | receiverGone | channelFull _ => "gnss_frames::sink"

/-- The text of a report. -/
def message : Diagnostic → String
  | noSync _ => "no sync found"
  | skippedToSync _ => "skipping bytes before sync"
  | crcMismatch .. => "crc mismatch; dropping header"
  | unsupportedLog _ => "ignoring unsupported log"
  | payloadSize .. => "incorrect payload size; dropping frame"
  | imuError status => "imu error, status 0x" ++ Text.hexDigits status.toNat
  | unsupportedImu _ => "dropping frame"
  | irregularSampling .. => "unexpected delay between two IMU measurements"
  | noSentence _ => "no header found"
  | skippedToSentence _ => "skipping bytes before header"
  | noTerminator .. => "no terminator; dropping header"
  | sentenceTooShort .. => "frame too short; dropping"
  | noChecksum _ => "checksum delimiter not found; dropping"
  | checksumMismatch .. => "checksum mismatch; dropping"
  | sentenceNotText _ => "sentence is not valid utf-8; dropping"
  | sentenceRejected .. => "failed to parse sentence; dropping"
  | stalled _ => "frame completed without consuming input; skipping a byte"
  | frameDecoded .. => "frame decoded"
  | correctionError .. => "correction decoder error"
  | correctionUnhandled _ => "unhandled correction status"
  | correctionReady _ => "correction message ready"
  | receiverGone => "message receiver disconnected; dropping all further messages"
  | channelFull _ => "message channel full; dropping message"

/-- The fields of a report, in the order in which they are shown. -/
def fields : Diagnostic → List (String × FieldValue)
  | noSync skip => [("skip", .number skip)]
  | skippedToSync skip => [("skip", .number skip)]
  | crcMismatch messageId expected computed =>
    [("message_id", .number messageId.toNat), ("expected", .number expected.toNat),
      ("computed", .number computed.toNat)]
  | unsupportedLog messageId => [("message_id", .number messageId.toNat)]
  | payloadSize id length => [("id", .word id.name), ("len", .number length)]
  | imuError _ => []
  | unsupportedImu code => [("err", .word (Oem.Unsupported.imuType code).message)]
  | irregularSampling gap expected => [("gap", .float gap), ("expected", .float expected)]
  | noSentence skip => [("skip", .number skip)]
  | skippedToSentence skip => [("skip", .number skip)]
  | noTerminator kind length => [("kind", .word kind.name), ("len", .number length)]
  | sentenceTooShort kind length => [("kind", .word kind.name), ("frame_len", .number length)]
  | noChecksum kind => [("kind", .word kind.name)]
  | checksumMismatch kind expected computed =>
    [("kind", .word kind.name), ("expected", .number expected.toNat),
      ("computed", .number computed.toNat)]
  | sentenceNotText kind => [("kind", .word kind.name)]
  | sentenceRejected kind reason => [("kind", .word kind.name), ("err", .word reason)]
  | stalled decoder => [("decoder", .text decoder)]
  | frameDecoded decoder count => [("decoder", .text decoder), ("count", .number count)]
  | correctionError code consumed => [("code", .number code), ("consumed", .number consumed)]
  | correctionUnhandled code => [("code", .number code)]
  | correctionReady event => [("event", .word event.text)]
  | receiverGone => []
  | channelFull kind => [("kind", .word kind.name)]

end Diagnostic

namespace FieldValue

/-- How a field is shown in a line of text. -/
def render : FieldValue → String
  | .number n => toString n
  | .float x => displayStyle.float x
  | .word shown => shown
  | .text quoted => Text.quote quoted

end FieldValue

/-- A report as a line of text: the level, the message and the fields. -/
def logLine (level : Level) (message : String) (fields : List (String × FieldValue)) : String :=
  let name := level.name
  let indent := String.ofList (List.replicate (5 - name.length) ' ')
  indent ++ name ++ " " ++ message ++
    String.join (fields.map fun (key, value) => " " ++ key ++ "=" ++ value.render) ++ "\n"

end NavStream
