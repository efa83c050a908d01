import NavStream.Bytes.Buffer
import NavStream.Diagnostic

/-!
# Correction streams

Corrections are decoded by an external decoder that takes one byte at a time. A `Stream` keeps the
bytes that arrive until they are handed on and stops after every byte that completes something.

* `Stream.feed` — adds bytes;
* `Stream.next` — the next event;
* `Stream.drain` — every event of the bytes that wait;
* `readable_next_lt` — an event uses at least one byte, which is why `drain` ends.
-/

namespace NavStream.Correction

open NavStream.Bytes

/-- An external decoder with states `σ`. Its answer to a byte is a status. -/
structure Decoder (σ : Type) where
  /-- Takes one byte. -/
  input : σ → UInt8 → σ × Int

/-- A stream of corrections. -/
structure Stream (σ : Type) where
  /-- The external decoder. -/
  decoder : Decoder σ
  /-- The state of the external decoder. -/
  state : σ
  /-- The bytes that wait. -/
  buffer : ByteBuffer

/-- What the next byte that completes something gave. -/
structure Delivery (σ : Type) where
  /-- The stream afterwards. -/
  stream : Stream σ
  /-- The event, or nothing where the bytes ran out. -/
  event? : Option Event
  /-- The reports, in order. -/
  diagnostics : List Diagnostic

/-- What all bytes that waited gave. -/
structure Deliveries (σ : Type) where
  /-- The stream afterwards. -/
  stream : Stream σ
  /-- The events, in order. -/
  events : List Event
  /-- The reports, in order. -/
  diagnostics : List Diagnostic

/-- The report of an event, where `consumed` bytes were handed on so far. -/
def report (consumed : Nat) : Event → Diagnostic
  | .error code => .correctionError code consumed
  | .other code => .correctionUnhandled code
  | event => .correctionReady event

namespace Stream

variable {σ : Type}

/-- A new stream. -/
def new (decoder : Decoder σ) (state : σ) : Stream σ := ⟨decoder, state, default⟩

/-- Adds bytes. -/
def feed (stream : Stream σ) (bytes : List UInt8) : Stream σ :=
  { stream with buffer := stream.buffer.append bytes }

/-- Hands bytes on until one of them completes something. -/
def next (stream : Stream σ) : Delivery σ :=
  match _h : stream.buffer.poll with
  | none => ⟨stream, none, []⟩
  | some (byte, rest) =>
    let (state, status) := stream.decoder.input stream.state byte
    let after : Stream σ := { stream with state := state, buffer := rest }
    match Event.ofStatus status with
    | none => after.next
    | some event => ⟨after, some event, [report rest.consumed event]⟩
termination_by stream.buffer.readable
decreasing_by
  have := ByteBuffer.readable_of_poll _h
  show rest.readable < stream.buffer.readable
  omega

/-- An event uses at least one byte. -/
theorem readable_next_lt {stream : Stream σ} {event : Event}
    (h : stream.next.event? = some event) :
    stream.next.stream.buffer.readable < stream.buffer.readable := by
  fun_induction next stream with
  | case1 stream hp => cases h
  | case2 stream byte rest hp state status hi after hs ih =>
    have := ByteBuffer.readable_of_poll hp
    have hlt := ih h
    have : after.buffer.readable = rest.readable := rfl
    omega
  | case3 stream byte rest hp state status hi after event hs =>
    have := ByteBuffer.readable_of_poll hp
    show rest.readable < stream.buffer.readable
    omega

/-- Hands all bytes on. -/
def drain (stream : Stream σ) : Deliveries σ :=
  let delivery := stream.next
  match _h : delivery.event? with
  | none => ⟨delivery.stream, [], delivery.diagnostics⟩
  | some event =>
    let rest := delivery.stream.drain
    { rest with
      events := event :: rest.events
      diagnostics := delivery.diagnostics ++ rest.diagnostics }
termination_by stream.buffer.readable
decreasing_by exact readable_next_lt _h

end Stream

end NavStream.Correction
