import NavStream.Diagnostic

/-!
# Frame decoders

A frame decoder works in two phases. It first looks for a header at the front of the unread bytes,
discarding what stands before it, and then, once enough bytes are there, checks and decodes the
frame. Between the phases it keeps a state of its own.

A decoder sees only the unread bytes, and all it can do to them is to discard some from the front:
each phase answers with the number of bytes to discard.

* `SeekResult`, `ExtractResult` — the answers of the two phases;
* `FrameDecoder` — a decoder, which locates nothing where there is nothing to read.
-/

namespace NavStream.Frame

/-- The answer of a decoder that looked for a header. -/
structure SeekResult (σ : Type) where
  /-- The decoder's next state. -/
  state : σ
  /-- How many bytes to discard from the front. -/
  discard : Nat
  /-- Whether a header now stands at the front. -/
  located : Bool
  /-- What the decoder reports. -/
  diagnostics : List Diagnostic

/-- What became of a frame whose header was located. -/
inductive Extraction where
  /-- The frame is not complete yet. -/
  | needMore
  /-- The frame is done with; one that fails a check gives no messages. -/
  | done (messages : List Message)
deriving DecidableEq

/-- The answer of a decoder that was asked for the frame at the front. -/
structure ExtractResult (σ : Type) where
  /-- The decoder's next state. -/
  state : σ
  /-- How many bytes to discard from the front. -/
  discard : Nat
  /-- What became of the frame. -/
  outcome : Extraction
  /-- What the decoder reports. -/
  diagnostics : List Diagnostic

/-- A decoder of one wire format with states `σ`. -/
structure FrameDecoder (σ : Type) where
  /-- The name used in reports. -/
  name : String
  /-- The state at the start of a stream. -/
  initial : σ
  /-- Looks for a header in the unread bytes. -/
  seek : σ → List UInt8 → SeekResult σ
  /-- Decodes the frame at the front of the unread bytes. -/
  extract : σ → List UInt8 → ExtractResult σ
  /-- No header is located where there is nothing to read. -/
  seek_nil : ∀ state, (seek state []).located = false

end NavStream.Frame
