import NavStream.Bytes.Search
import NavStream.Checksum.Xor
import NavStream.Frame.Decoder
import NavStream.Sentence.Bundle
import NavStream.Text.Utf8

/-!
# Decoding sentences

A sentence begins with the token of its kind and ends with a carriage return and a line feed. In
front of these stand an asterisk and two hexadecimal digits, the exclusive or of the bytes between
the dollar sign and the asterisk. A sentence that does not end within the longest length is given
up; one that fails a check is dropped whole.

* `checkFrame` — the checks of a whole sentence and what it leads to;
* `decoder` — the frame decoder.
-/

namespace NavStream.Sentence

open NavStream.Bytes NavStream.Checksum NavStream.Frame

/-- Carriage return and line feed. -/
def terminator : List UInt8 := [13, 10]

/-- The asterisk in front of the checksum digits. -/
def delimiter : UInt8 := 42

/-- The number of checksum digits. -/
def digitCount : Nat := 2

/-- The length of the longest sentence, its terminator included. -/
def maxFrameLength : Nat := 4096

/-- The kind of the sentence at the front, once it was located. -/
abbrev State := Option Kind

/-- The length of the longest token. -/
def longestToken : Nat := (Kind.all.map (·.token.length)).foldl max 0

/-- What a sentence that passed its checks leads to; `body` is what stands in front of the
asterisk. -/
def interpret (kind : Kind) (frame body : List UInt8) : List Message × List Diagnostic :=
  match kind with
  | .gpgga => ([.raw ⟨.gpgga, frame⟩], [])
  | .gpchc | .gpchcx =>
    match Text.decode? body with
    | none => ([], [.sentenceNotText kind])
    | some sentence =>
      match Record.parse sentence with
      | .ok record => (record.bundle, [])
      | .error error => ([], [.sentenceRejected kind error.message])

/-- Checks a whole sentence, its terminator included, and interprets it if it passes. -/
def checkFrame (kind : Kind) (frame : List UInt8) : List Message × List Diagnostic :=
  if frame.length < kind.token.length + 1 + digitCount + terminator.length then
    ([], [.sentenceTooShort kind frame.length])
  else
    let star := frame.length - terminator.length - digitCount - 1
    if frame.getD star 0 ≠ delimiter then ([], [.noChecksum kind])
    else
      let body := frame.take star
      match checkXor (body.drop 1) (frame.getD (star + 1) 0) (frame.getD (star + 2) 0) with
      | .mismatch expected computed => ([], [.checksumMismatch kind expected computed])
      | .intact => interpret kind frame body

/-- Looks for a token. Bytes that cannot begin one are discarded; where none is found, the last
bytes may still begin one. -/
def seek (_ : State) (bytes : List UInt8) : SeekResult State :=
  match firstToken? (Kind.all.map Kind.token) bytes with
  | none =>
    let skip := bytes.length - (longestToken - 1)
    ⟨none, skip, false, if 0 < skip then [.noSentence skip] else []⟩
  | some (offset, index) =>
    let kind := Kind.all[index]?
    ⟨kind, offset, kind.isSome, if 0 < offset then [.skippedToSentence offset] else []⟩

/-- Decodes the sentence at the front, once it ends. -/
def extract (state : State) (bytes : List UInt8) : ExtractResult State :=
  match state with
  | none => ⟨none, 1, .done [], []⟩
  | some kind =>
    match offsetOf? terminator (bytes.take maxFrameLength) with
    | none =>
      if maxFrameLength ≤ bytes.length then
        ⟨none, kind.token.length, .done [], [.noTerminator kind bytes.length]⟩
      else ⟨some kind, 0, .needMore, []⟩
    | some offset =>
      let frameLength := offset + terminator.length
      let (messages, diagnostics) := checkFrame kind (bytes.take frameLength)
      ⟨none, frameLength, .done messages, diagnostics⟩

/-- The decoder of sentences. -/
def decoder : FrameDecoder State where
  name := "huace"
  initial := none
  seek := seek
  extract := extract
  seek_nil _ := rfl

end NavStream.Sentence
