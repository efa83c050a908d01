import NavStream.Config

/-!
# Decoding captures

A capture is a file that holds what a receiver sent. It is decoded like a live stream: in chunks,
one after the other.

* `chunksOf` — the chunks of a capture;
* `Run.ofChunks` — decoding a session chunk by chunk.
-/

namespace NavStream.Capture

open NavStream.Frame

/-- Bytes in chunks of `size`, of which the last may be shorter. A size of zero gives no chunks. -/
def chunksOf (size : Nat) (bytes : List UInt8) : List (List UInt8) :=
  if _h : size = 0 ∨ bytes = [] then []
  else bytes.take size :: chunksOf size (bytes.drop size)
termination_by bytes.length
decreasing_by
  have : bytes.length ≠ 0 := fun h => _h (.inr (List.eq_nil_of_length_eq_zero h))
  simp only [List.length_drop]
  omega

/-- A session after decoding, with everything that it gave. -/
structure Run (σ : Type) where
  /-- The session afterwards. -/
  session : Session σ
  /-- The messages, in order. -/
  messages : Array Message := #[]
  /-- The reports, in order. -/
  diagnostics : Array Diagnostic := #[]
  /-- The number of bytes discarded. -/
  consumed : Nat := 0

namespace Run

variable {σ : Type}

/-- Decodes one more chunk. -/
def step (run : Run σ) (chunk : List UInt8) : Run σ :=
  let fed := run.session.feed chunk
  let decoded := fed.decode
  { session := decoded.session
    messages := run.messages ++ decoded.messages
    diagnostics := run.diagnostics ++ decoded.diagnostics
    consumed := run.consumed + (fed.progress decoded).consumed }

/-- Decodes chunks, one after the other. -/
def ofChunks (session : Session σ) (chunks : List (List UInt8)) : Run σ :=
  chunks.foldl step { session }

end Run

/-- Decodes a capture in chunks. -/
def decode (config : Config) (chunk : Nat) (bytes : List UInt8) : Run config.format.State :=
  Run.ofChunks config.session (chunksOf chunk bytes)

end NavStream.Capture
