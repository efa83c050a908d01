import NavStream.Bytes.Buffer
import NavStream.Frame.Decoder

/-!
# Decoding sessions

A session is one stream: a buffer of unread bytes and the decoder of its wire format. Bytes are fed
in whatever fragments they arrive, and decoding runs in cycles: look for a header, then extract the
frame behind it. A session remembers the phase it is in, so a frame may arrive in pieces.

* `Session.feed` — adds bytes;
* `Session.cycle` — one cycle;
* `Session.decode` — cycles until more bytes are needed;
* `Session.drive` — decodes and publishes what it finds;
* `Session.weight_cycle_lt` — every cycle that asks to be continued has used something up, which is
  why `decode` ends.
-/

namespace NavStream.Frame

open NavStream.Bytes

/-- What a session does next. -/
inductive Phase where
  /-- Look for a header. -/
  | seekHeader
  /-- Decode the frame whose header stands at the front. -/
  | extractPayload
deriving DecidableEq, Repr

/-- Whether more can be decoded from the unread bytes. -/
inductive Progress.State where
  /-- Further frames may be complete. -/
  | continue
  /-- Nothing can be decoded before more bytes arrive. -/
  | wait
deriving DecidableEq, Repr

/-- What decoding achieved. -/
structure Progress where
  /-- The number of messages. -/
  messages : Nat
  /-- The number of bytes discarded. -/
  consumed : Nat
  /-- Whether to go on. -/
  state : Progress.State
deriving DecidableEq, Repr

/-- A stream that is being decoded. -/
structure Session (σ : Type) where
  /-- The decoder of the wire format. -/
  decoder : FrameDecoder σ
  /-- The bytes of the stream. -/
  buffer : ByteBuffer
  /-- What comes next. -/
  phase : Phase
  /-- The decoder's state. -/
  state : σ

/-- A session after looking for a header. -/
structure Sought (σ : Type) where
  /-- The session afterwards. -/
  session : Session σ
  /-- Whether a header now stands at the front. -/
  located : Bool
  /-- The reports, in order. -/
  diagnostics : List Diagnostic

/-- A session after some decoding, with what the decoding gave. -/
structure Decoded (σ : Type) where
  /-- The session afterwards. -/
  session : Session σ
  /-- The messages, in order. -/
  messages : List Message
  /-- The reports, in order. -/
  diagnostics : List Diagnostic
  /-- Whether to go on. -/
  next : Progress.State

namespace Session

variable {σ : Type}

/-- A new session over a buffer. -/
def new (decoder : FrameDecoder σ) (buffer : ByteBuffer) : Session σ :=
  ⟨decoder, buffer, .seekHeader, decoder.initial⟩

/-- Adds bytes of the stream. -/
def feed (session : Session σ) (bytes : List UInt8) : Session σ :=
  { session with buffer := session.buffer.append bytes }

/-- Looks for a header. Where one is located, the session is ready to extract. -/
def seek (session : Session σ) : Sought σ :=
  let result := session.decoder.seek session.state session.buffer.peek
  { session := { session with
      buffer := session.buffer.drain result.discard
      state := result.state
      phase := if result.located then .extractPayload else .seekHeader }
    located := result.located
    diagnostics := result.diagnostics }

/-- Extracts the frame at the front. A frame that used no byte makes the session skip one. -/
def extract (session : Session σ) : Decoded σ :=
  let result := session.decoder.extract session.state session.buffer.peek
  let buffer := session.buffer.drain result.discard
  match result.outcome with
  | .needMore =>
    ⟨{ session with buffer := buffer, state := result.state }, [], result.diagnostics, .wait⟩
  | .done messages =>
    let stalled := buffer.consumed == session.buffer.consumed
    let name := session.decoder.name
    ⟨{ session with
        buffer := if stalled then buffer.drain 1 else buffer
        state := result.state
        phase := .seekHeader },
      messages,
      result.diagnostics ++ (if stalled then [.stalled name] else []) ++
        [.frameDecoded name messages.length],
      .continue⟩

/-- One cycle: looks for a header unless one stands at the front already, and extracts its frame. -/
def cycle (session : Session σ) : Decoded σ :=
  match session.phase with
  | .extractPayload => session.extract
  | .seekHeader =>
    let sought := session.seek
    if sought.located then
      let decoded := sought.session.extract
      { decoded with diagnostics := sought.diagnostics ++ decoded.diagnostics }
    else ⟨sought.session, [], sought.diagnostics, .wait⟩

/-! ## Why decoding ends -/

/-- What is left to use up: the unread bytes, and one more where a header is waiting to be used. -/
def weight (session : Session σ) : Nat :=
  session.buffer.readable + (if session.phase = .extractPayload then 1 else 0)

/-- A completed frame leaves the session looking for a header. -/
theorem phase_extract {session : Session σ} (h : session.extract.next = .continue) :
    session.extract.session.phase = .seekHeader := by
  unfold extract at h ⊢
  dsimp only at h ⊢
  split at h <;> simp_all

/-- Extracting a frame adds no unread bytes. -/
theorem readable_extract_le (session : Session σ) :
    session.extract.session.buffer.readable ≤ session.buffer.readable := by
  unfold extract
  dsimp only
  split
  · simp
  · split
    · simp only [ByteBuffer.readable_drain]
      omega
    · simp

/-- A completed frame uses at least one byte where there is one. -/
theorem readable_extract_lt {session : Session σ} (h : session.extract.next = .continue)
    (hb : 0 < session.buffer.readable) :
    session.extract.session.buffer.readable < session.buffer.readable := by
  unfold extract at h ⊢
  dsimp only at h ⊢
  split at h
  · simp at h
  · dsimp only
    split
    · simp only [ByteBuffer.readable_drain]
      omega
    · next hs =>
      simp only [ByteBuffer.readable_drain]
      rcases Nat.eq_zero_or_pos (session.decoder.extract session.state session.buffer.peek).discard
        with hz | hz
      · exfalso
        apply hs
        rw [hz]
        simp only [ByteBuffer.drain, hb, beq_iff_eq]
        simp
      · omega

/-- A header is located only where there is something to read. -/
theorem readable_pos_of_located {session : Session σ} (h : session.seek.located = true) :
    0 < session.buffer.readable := by
  rcases Nat.eq_zero_or_pos session.buffer.readable with hz | hpos
  · have hnil : session.buffer.peek = [] := by
      apply List.eq_nil_of_length_eq_zero
      rw [ByteBuffer.length_peek, hz]
    simp only [seek, hnil, session.decoder.seek_nil] at h
    cases h
  · exact hpos

/-- Looking for a header adds no unread bytes. -/
theorem readable_seek_le (session : Session σ) :
    session.seek.session.buffer.readable ≤ session.buffer.readable := by
  simp [seek]

/-- Every cycle that asks to be continued leaves less to use up. -/
theorem weight_cycle_lt {session : Session σ} (h : session.cycle.next = .continue) :
    session.cycle.session.weight < session.weight := by
  unfold cycle at h ⊢
  cases hp : session.phase with
  | extractPayload =>
    simp only [hp] at h ⊢
    have hle := readable_extract_le session
    simp only [weight, hp, phase_extract h]
    simp
    omega
  | seekHeader =>
    simp only [hp] at h ⊢
    cases hl : session.seek.located with
    | false => simp [hl] at h
    | true =>
      simp only [hl, if_true] at h ⊢
      have hpos := readable_pos_of_located hl
      have hsought := readable_seek_le session
      have hle := readable_extract_le session.seek.session
      simp only [weight, hp, phase_extract h]
      rcases Nat.eq_zero_or_pos session.seek.session.buffer.readable with hz | hz
      · simp
        omega
      · have hlt := readable_extract_lt h hz
        simp
        omega

/-- Decodes every frame that is complete. -/
def decode (session : Session σ) : Decoded σ :=
  let first := session.cycle
  if _h : first.next = .continue then
    let rest := first.session.decode
    { rest with
      messages := first.messages ++ rest.messages
      diagnostics := first.diagnostics ++ rest.diagnostics }
  else first
termination_by session.weight
decreasing_by exact weight_cycle_lt _h

/-- Publishes messages to a sink, in order. -/
def publishAll {τ : Type} (publish : τ → Message → τ × List Diagnostic) (sink : τ) :
    List Message → τ × List Diagnostic
  | [] => (sink, [])
  | message :: rest =>
    let (after, first) := publish sink message
    let (last, others) := publishAll publish after rest
    (last, first ++ others)

/-- Decodes every frame that is complete and publishes the messages to a sink. The reports of
decoding come before those of the sink. -/
def drive {τ : Type} (publish : τ → Message → τ × List Diagnostic) (sink : τ)
    (session : Session σ) : τ × Decoded σ × List Diagnostic :=
  let decoded := session.decode
  let (after, reports) := publishAll publish sink decoded.messages
  (after, decoded, decoded.diagnostics ++ reports)

/-- The progress of decoding that started from a session. -/
def progress (before : Session σ) (decoded : Decoded σ) : Progress where
  messages := decoded.messages.length
  consumed := decoded.session.buffer.consumed - before.buffer.consumed
  state := decoded.next

end Session

end NavStream.Frame
