import NavStream.Proofs.Bytes.QueueRun
import NavStream.Proofs.Frame.Effect

/-!
# Decoding stops

Decoding is a loop of cycles that ends with the first one that does not ask to be continued. The
decoder may break its contract in any way: be done with a frame without using a byte of it, use
bytes up although it needs more, or be asked for a frame where nothing is left to read. The loop
stops all the same, because a cycle that goes on uses up an unread byte or, once, the header that
was waiting to be used.

* `ByteBuffer.drain_drain` — discarding twice is discarding once;
* `Session.afterCycles` — a session after some cycles;
* `Session.exists_drain_cycle` — all that a cycle does to the buffer is to discard bytes of it;
* `Session.through` — what the first cycles of a session give together;
* `Session.exists_cycles_of_decode` — decoding is the loop, which is no longer than the weight;
* `Session.decode_stops` — where the loop stops, and what it reports.
-/

namespace NavStream.Bytes.ByteBuffer

/-- Buffers of the same block, cursors, room and count are the same. -/
theorem eq_of_fields {left right : ByteBuffer} (hwritten : left.written = right.written)
    (hread : left.readPos = right.readPos) (hwrite : left.writePos = right.writePos)
    (hcapacity : left.capacity = right.capacity) (hconsumed : left.consumed = right.consumed) :
    left = right := by
  cases left
  cases right
  subst hwritten hread hwrite hcapacity hconsumed
  rfl

/-- Discarding writes nothing. -/
@[simp] theorem written_drain (buffer : ByteBuffer) (count : Nat) :
    (buffer.drain count).written = buffer.written := by
  unfold drain
  split <;> rfl

/-- Where the unread bytes begin after some were discarded. -/
theorem readPos_drain (buffer : ByteBuffer) (count : Nat) :
    (buffer.drain count).readPos =
      if count < buffer.readable then buffer.readPos + count else reserve := by
  unfold drain
  split <;> rfl

/-- Where the unread bytes end after some were discarded. -/
theorem writePos_drain (buffer : ByteBuffer) (count : Nat) :
    (buffer.drain count).writePos =
      if count < buffer.readable then buffer.writePos else reserve := by
  unfold drain
  split <;> rfl

/-- Discarding twice is discarding once. -/
theorem drain_drain (buffer : ByteBuffer) (first second : Nat) :
    (buffer.drain first).drain second = buffer.drain (first + second) := by
  apply eq_of_fields
  · simp only [written_drain]
  · simp only [readPos_drain, readable_drain]
    split_ifs <;> omega
  · simp only [writePos_drain, readable_drain]
    split_ifs <;> omega
  · simp only [capacity_drain]
  · simp only [consumed_drain, readable_drain]
    omega

/-- What was discarded is what is there no more. -/
theorem drain_readable_sub (buffer : ByteBuffer) (count : Nat) :
    buffer.drain (buffer.readable - (buffer.drain count).readable) = buffer.drain count := by
  rw [readable_drain]
  rcases Nat.lt_or_ge count buffer.readable with hless | hall
  · congr 1
    omega
  · have hrest : ¬buffer.readable - (buffer.readable - count) < buffer.readable := by omega
    rw [drain, dif_neg hrest, drain, dif_neg (Nat.not_lt.2 hall)]

end NavStream.Bytes.ByteBuffer

namespace NavStream.Frame

open NavStream.Bytes

namespace Session

variable {σ : Type}

/-- A session after some cycles. -/
def afterCycles (session : Session σ) : Nat → Session σ
  | 0 => session
  | count + 1 => session.cycle.session.afterCycles count

/-! ## What cycles do to the buffer -/

/-- Extracting discards bytes. -/
theorem exists_drain_extract (session : Session σ) :
    ∃ count, session.extract.session.buffer = session.buffer.drain count := by
  unfold extract
  dsimp only
  split
  · exact ⟨_, rfl⟩
  · dsimp only
    split
    · exact ⟨_, session.buffer.drain_drain _ 1⟩
    · exact ⟨_, rfl⟩

/-- **All that a cycle does to the buffer is to discard bytes.** -/
theorem exists_drain_cycle (session : Session σ) :
    ∃ count, session.cycle.session.buffer = session.buffer.drain count := by
  unfold cycle
  cases session.phase with
  | extractPayload => exact session.exists_drain_extract
  | seekHeader =>
    dsimp only
    split
    · obtain ⟨count, hcount⟩ := session.seek.session.exists_drain_extract
      exact ⟨_, hcount.trans (session.buffer.drain_drain _ count)⟩
    · exact ⟨_, rfl⟩

/-- Several cycles discard bytes as well, as many as are there no more. -/
theorem buffer_afterCycles (session : Session σ) (count : Nat) :
    (session.afterCycles (count + 1)).buffer =
      session.buffer.drain
        (session.buffer.readable - (session.afterCycles (count + 1)).buffer.readable) := by
  have hdrain : ∃ discarded,
      (session.afterCycles (count + 1)).buffer = session.buffer.drain discarded := by
    induction count generalizing session with
    | zero => exact session.exists_drain_cycle
    | succ count ih =>
      obtain ⟨first, hfirst⟩ := session.exists_drain_cycle
      obtain ⟨others, hothers⟩ := ih session.cycle.session
      exact ⟨first + others, by rw [afterCycles, hothers, hfirst, ByteBuffer.drain_drain]⟩
  obtain ⟨discarded, hdiscarded⟩ := hdrain
  rw [hdiscarded, ByteBuffer.drain_readable_sub]

/-! ## The loop -/

/-- What the first cycles of a session give together, up to the one behind `earlier` others. -/
def through (session : Session σ) (earlier : Nat) : Decoded σ where
  session := session.afterCycles (earlier + 1)
  messages := (List.range (earlier + 1)).flatMap fun count =>
    (session.afterCycles count).cycle.messages
  diagnostics := (List.range (earlier + 1)).flatMap fun count =>
    (session.afterCycles count).cycle.diagnostics
  next := (session.afterCycles earlier).cycle.next

/-- The first cycle alone gives what it gives. -/
theorem through_zero (session : Session σ) : session.through 0 = session.cycle := by
  simp [through, afterCycles]

/-- What the first cycle gives comes in front of what the others give. -/
theorem through_succ (session : Session σ) (earlier : Nat) :
    session.through (earlier + 1) =
      { session.cycle.session.through earlier with
        messages := session.cycle.messages ++ (session.cycle.session.through earlier).messages
        diagnostics :=
          session.cycle.diagnostics ++ (session.cycle.session.through earlier).diagnostics } := by
  simp only [through, List.range_succ_eq_map (n := earlier + 1), List.flatMap_cons,
    List.flatMap_map]
  rfl

/-- **Decoding is a loop of cycles**: all but the last one go on, and the last one waits. There are
no more that go on than the weight of the session tells. -/
theorem exists_cycles_of_decode (session : Session σ) :
    ∃ count ≤ session.weight,
      (∀ earlier < count, (session.afterCycles earlier).cycle.next = .continue) ∧
      (session.afterCycles count).cycle.next = .wait ∧
      session.decode = session.through count := by
  induction hweight : session.weight using Nat.strongRecOn generalizing session with
  | ind weight ih =>
    by_cases hnext : session.cycle.next = .continue
    · have hless : session.cycle.session.weight < weight := hweight ▸ weight_cycle_lt hnext
      obtain ⟨count, hcount, hearlier, hlast, hdecode⟩ := ih _ hless session.cycle.session rfl
      refine ⟨count + 1, by omega, ?_, hlast, ?_⟩
      · intro earlier hlt
        cases earlier with
        | zero => exact hnext
        | succ earlier => exact hearlier earlier (by omega)
      · rw [decode, dif_pos hnext, hdecode, through_succ]
    · refine ⟨0, Nat.zero_le _, fun earlier hlt => absurd hlt (Nat.not_lt_zero _),
        next_eq_wait hnext, ?_⟩
      rw [decode, dif_neg hnext, through_zero]

/-- There is no more to use up than the unread bytes and one header. -/
theorem weight_le (session : Session σ) : session.weight ≤ session.buffer.readable + 1 := by
  unfold weight
  split <;> omega

/-- **Decoding stops, whatever the decoder does.** It runs no more cycles that go on than there are
unread bytes, and one, and then a cycle that waits. It gives what these cycles give. All that they
do to the buffer is to discard bytes of it, so that the unread bytes tell a decoder all that it
could read off the buffer. The progress tells how many bytes fewer are left to read, how many
messages there are, and that nothing can be decoded before more bytes arrive. -/
theorem decode_stops (session : Session σ) :
    let decoded := session.decode
    let progress := session.progress decoded
    (∃ count ≤ session.buffer.readable + 1,
      (∀ earlier < count, (session.afterCycles earlier).cycle.next = .continue) ∧
      (session.afterCycles count).cycle.next = .wait ∧
      decoded = session.through count) ∧
      (∀ count, (session.afterCycles (count + 1)).buffer =
        session.buffer.drain
          (session.buffer.readable - (session.afterCycles (count + 1)).buffer.readable)) ∧
      progress.state = .wait ∧
      progress.consumed + decoded.session.buffer.readable = session.buffer.readable ∧
      progress.messages = decoded.messages.length := by
  intro decoded progress
  obtain ⟨count, hcount, hearlier, hlast, hdecode⟩ := session.exists_cycles_of_decode
  have hstate : progress.state = .wait := (congrArg Decoded.next hdecode).trans hlast
  have hbuffer : decoded.session.buffer =
      session.buffer.drain (session.buffer.readable - decoded.session.buffer.readable) := by
    have hsession : decoded.session = session.afterCycles (count + 1) :=
      congrArg Decoded.session hdecode
    rw [hsession]
    exact session.buffer_afterCycles count
  have hconsumed : progress.consumed + decoded.session.buffer.readable =
      session.buffer.readable := by
    have hless := congrArg ByteBuffer.readable hbuffer
    have hcounted := congrArg ByteBuffer.consumed hbuffer
    rw [ByteBuffer.readable_drain] at hless
    rw [ByteBuffer.consumed_drain] at hcounted
    show decoded.session.buffer.consumed - session.buffer.consumed + _ = _
    omega
  exact ⟨⟨count, Nat.le_trans hcount session.weight_le, hearlier, hlast, hdecode⟩,
    session.buffer_afterCycles, hstate, hconsumed, rfl⟩

end Session

end NavStream.Frame
