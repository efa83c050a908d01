import NavStream.Proofs.Bytes.QueueRun
import NavStream.Proofs.Frame.Contract
import NavStream.Proofs.Oem.Anchored
import NavStream.Proofs.Sentence.Segments

/-!
# Bounded buffers

A session that decodes after every chunk never has much to keep. A cycle that waits leaves less than
one frame unread, since as soon as a whole frame is there, or as much as the longest sentence takes,
the cycle goes on. The block grows only where the unread bytes and the next chunk do not fit into
it, so it is never much larger than both, whatever the stream holds and however long it is.

* `ByteBuffer.capacity_append_le` — how far a block grows when bytes are appended;
* `Session.moments` — the states of a session between and within its calls;
* `Session.Rests`, `Session.Rests.bounded` — sessions that wait with few unread bytes keep to a
  bound;
* `Oem.rests`, `Sentence.rests` — binary sessions and those of sentences do;
* `Config.bounded_after_decodeEach` — the bounds for every configuration.
-/

namespace NavStream.Bytes.ByteBuffer

/-- A block grows by no more than the new bytes, and only where they and the unread ones do not fit
into it. -/
theorem capacity_append_le (buffer : ByteBuffer) (bytes : List UInt8) :
    (buffer.append bytes).capacity ≤
      max buffer.capacity (reserve + buffer.readable + 2 * bytes.length) := by
  have hwritten := Nat.le_trans buffer.writePos_le_size buffer.size_le_capacity
  rw [capacity_append]
  by_cases hgrow : buffer.capacity - reserve < buffer.readable + bytes.length
  · rw [if_pos hgrow]
    omega
  · rw [if_neg hgrow]
    exact Nat.le_max_left _ _

end NavStream.Bytes.ByteBuffer

namespace NavStream.Frame

open NavStream.Bytes

namespace Session

variable {σ : Type}

/-! ## Decoding keeps the block -/

/-- Looking for a header keeps the block. -/
theorem capacity_seek (session : Session σ) :
    session.seek.session.buffer.capacity = session.buffer.capacity :=
  session.buffer.capacity_drain _

/-- Extracting a frame keeps the block. -/
theorem capacity_extract (session : Session σ) :
    session.extract.session.buffer.capacity = session.buffer.capacity := by
  unfold extract
  dsimp only
  split
  · exact session.buffer.capacity_drain _
  · split <;> simp

/-- The session at the moment when a cycle begins to extract has the same block. -/
theorem capacity_of_begun {session begun : Session σ} (h : session.begun? = some begun) :
    begun.buffer.capacity = session.buffer.capacity := by
  rcases begun_cases h with ⟨-, rfl⟩ | ⟨-, -, rfl⟩
  · rfl
  · exact session.capacity_seek

/-- A cycle keeps the block. -/
theorem capacity_cycle (session : Session σ) :
    session.cycle.session.buffer.capacity = session.buffer.capacity := by
  cases hbegun : session.begun? with
  | none =>
    rw [cycle_of_not_begun hbegun]
    exact session.capacity_seek
  | some begun =>
    rw [(cycle_of_begun hbegun).1, capacity_extract, capacity_of_begun hbegun]

/-- All cycles of decoding begin with the same block. -/
theorem capacity_of_mem_stages {session stage : Session σ} (h : stage ∈ session.stages) :
    stage.buffer.capacity = session.buffer.capacity := by
  induction hw : session.weight using Nat.strongRecOn generalizing session with
  | ind weight ih =>
    rw [stages, List.mem_cons] at h
    rcases h with rfl | hlater
    · rfl
    · by_cases hnext : session.cycle.next = .continue
      · rw [dif_pos hnext] at hlater
        rw [ih _ (hw ▸ weight_cycle_lt hnext) hlater rfl, capacity_cycle]
      · rw [dif_neg hnext] at hlater
        cases hlater

/-- **Decoding ends with a cycle that waits**, and what all cycles preserve holds up to it. -/
theorem exists_waiting_cycle {holds : Session σ → Prop}
    (cycle : ∀ session, holds session → holds session.cycle.session) {session : Session σ}
    (h : holds session) :
    ∃ last, holds last ∧ last.cycle.next = .wait ∧ last ∈ session.stages ∧
      session.decode.session = last.cycle.session := by
  induction hw : session.weight using Nat.strongRecOn generalizing session with
  | ind weight ih =>
    by_cases hnext : session.cycle.next = .continue
    · obtain ⟨last, hlast, hwait, hmem, heq⟩ :=
        ih _ (hw ▸ weight_cycle_lt hnext) (cycle session h) rfl
      refine ⟨last, hlast, hwait, ?_, ?_⟩
      · rw [stages, dif_pos hnext]
        exact List.mem_cons_of_mem _ hmem
      · rw [decode, dif_pos hnext]
        exact heq
    · refine ⟨session, h, next_eq_wait hnext, ?_, ?_⟩
      · rw [stages]
        exact List.mem_cons_self
      · rw [decode, dif_neg hnext]

/-! ## Moments of a run -/

/-- The session at the moments of its next cycle: before it, when it begins to extract, if it comes
to that, and after it. -/
def moments (session : Session σ) : List (Session σ) :=
  session :: (session.begun?.toList ++ [session.cycle.session])

/-- At all moments of a cycle the block is the same. -/
theorem capacity_of_mem_moments {session moment : Session σ} (h : moment ∈ session.moments) :
    moment.buffer.capacity = session.buffer.capacity := by
  simp only [moments, List.mem_cons, List.mem_append, Option.mem_toList, List.not_mem_nil,
    or_false] at h
  rcases h with rfl | hbegun | rfl
  · rfl
  · exact capacity_of_begun hbegun
  · exact session.capacity_cycle

end Session

/-- A history in which no block was larger than `bound`, neither now nor at any moment of a cycle. -/
structure History.Within {σ : Type} (bound : Nat) (history : History σ) : Prop where
  now : history.session.buffer.capacity ≤ bound
  before : ∀ stage ∈ history.cycles, ∀ moment ∈ stage.moments, moment.buffer.capacity ≤ bound

namespace Session

variable {σ : Type} {holds : Session σ → Prop} {most : Nat}

/-- Sessions of which all calls make sessions of the same sort, and that leave at most `most` bytes
unread when they wait. -/
structure Rests (holds : Session σ → Prop) (most : Nat) : Prop where
  feed : ∀ session chunk, holds session → holds (session.feed chunk)
  cycle : ∀ session, holds session → holds session.cycle.session
  waits : ∀ session, holds session → session.cycle.next = .wait →
    session.cycle.session.buffer.readable ≤ most

/-- Decoding leaves few bytes unread, and the block as it is. -/
theorem Rests.decode (rests : Rests holds most) {session : Session σ} (h : holds session) :
    holds session.decode.session ∧ session.decode.session.buffer.readable ≤ most ∧
      session.decode.session.buffer.capacity = session.buffer.capacity := by
  obtain ⟨last, hlast, hwait, hmem, heq⟩ := exists_waiting_cycle rests.cycle h
  rw [heq]
  refine ⟨rests.cycle last hlast, rests.waits last hlast hwait, ?_⟩
  rw [capacity_cycle, capacity_of_mem_stages hmem]

/-- Decoding after a chunk keeps to a bound that the block keeps to with the chunk in it. -/
theorem Rests.within_decode (rests : Rests holds most) {bound : Nat} {history : History σ}
    (h : holds history.session) (hwithin : history.Within bound) :
    (history.call .decode).Within bound where
  now := by
    show history.session.decode.session.buffer.capacity ≤ bound
    rw [(rests.decode h).2.2]
    exact hwithin.now
  before := by
    intro stage hstage moment hmoment
    rcases List.mem_append.1 hstage with hearlier | hlater
    · exact hwithin.before stage hearlier moment hmoment
    · rw [capacity_of_mem_moments hmoment, capacity_of_mem_stages hlater]
      exact hwithin.now

/-- A chunk enlarges the block by little where little is left unread in front of it. -/
theorem within_feed {bound limit : Nat} {history : History σ} (hwithin : history.Within bound)
    (hunread : history.session.buffer.readable ≤ most) (hbound : reserve + most + 2 * limit ≤ bound)
    {chunk : List UInt8} (hchunk : chunk.length ≤ limit) :
    (history.call (.feed chunk)).Within bound where
  now := by
    have hnow := hwithin.now
    have hgrown := history.session.buffer.capacity_append_le chunk
    show (history.session.buffer.append chunk).capacity ≤ bound
    omega
  before := hwithin.before

/-- **However long it runs, a session that decodes after every chunk keeps few bytes and a small
block**, if it leaves few bytes unread when it waits. -/
theorem Rests.bounded (rests : Rests holds most) {session : Session σ} (h : holds session)
    (hempty : session.buffer.peek = []) {limit : Nat} {chunks : List (List UInt8)}
    (hchunks : ∀ chunk ∈ chunks, chunk.length ≤ limit) :
    let last := (session.after (Sentence.decodeEach chunks)).session
    (holds last ∧ last.buffer.readable ≤ most) ∧
      ∀ calls, calls <+: Sentence.decodeEach chunks →
        (session.after calls).Within
          (max session.buffer.capacity (reserve + most + 2 * limit)) := by
  induction chunks using List.reverseRecOn with
  | nil =>
    have hunread : session.buffer.readable = 0 := by
      rw [← ByteBuffer.length_peek, hempty, List.length_nil]
    refine ⟨⟨h, ?_⟩, fun calls hcalls => ?_⟩
    · show session.buffer.readable ≤ most
      omega
    · rw [List.prefix_nil.1 hcalls]
      exact ⟨Nat.le_max_left _ _, fun stage hmem => absurd hmem List.not_mem_nil⟩
  | append_singleton earlier chunk ih =>
    obtain ⟨⟨hlast, hunread⟩, hwithin⟩ :=
      ih fun other hmem => hchunks other (List.mem_append_left _ hmem)
    have hchunk : chunk.length ≤ limit := hchunks chunk (by simp)
    have hcalls : Sentence.decodeEach (earlier ++ [chunk]) =
        Sentence.decodeEach earlier ++ [.feed chunk] ++ [.decode] := by
      simp [Sentence.decodeEach]
    have hfed := within_feed (hwithin _ (List.prefix_refl _)) hunread (Nat.le_max_right _ _) hchunk
    have hready := rests.feed _ chunk hlast
    rw [← after_concat] at hfed
    have hdecoded := rests.within_decode (by rw [after_concat]; exact hready) hfed
    rw [← after_concat] at hdecoded
    rw [hcalls]
    refine ⟨?_, fun calls hprefix => ?_⟩
    · rw [after_concat, after_concat]
      exact ⟨(rests.decode hready).1, (rests.decode hready).2.1⟩
    · rcases List.prefix_concat_iff.1 hprefix with rfl | hfeed
      · exact hdecoded
      · rcases List.prefix_concat_iff.1 hfeed with rfl | hbefore
        · exact hfed
        · exact hwithin calls hbefore

end Session

end NavStream.Frame

/-! ## Binary sessions -/

namespace NavStream.Oem

open NavStream.Bytes NavStream.Frame

/-- The length of the longest frame that a header can announce. -/
def longestFrame : Nat := HeaderKind.long.length + 65535 + Checksum.trailerLength

/-- No header announces a longer frame than the longest. -/
theorem frameLength_le (header : Header) : header.frameLength ≤ longestFrame := by
  have hmessage := header.messageLength.toNat_lt
  unfold Header.frameLength longestFrame Header.length
  cases header.kind <;> simp only [HeaderKind.length] <;> omega

/-- **Where more bytes are needed, less than a frame is left** behind what is skipped. -/
theorem length_lt_of_open {bytes : List UInt8} (h : (front bytes).found.settled = false) :
    (bytes.drop (front bytes).skip).length < longestFrame := by
  unfold front at h ⊢
  cases hfind : findOffset startsWithSync bytes with
  | none =>
    have hlimit : syncLength - 1 < longestFrame := by decide
    rw [List.length_drop]
    dsimp only
    omega
  | some offset =>
    rw [hfind] at h
    dsimp only at h ⊢
    unfold Found.ofBytes at h
    cases hheader : Header.decode? (bytes.drop offset) with
    | none =>
      -- a sync pattern stands there, so that what is missing is some of its header
      obtain ⟨kind, rest, hrest⟩ := startsWithSync_iff.1 (findOffset_eq_some hfind).2.1
      have hshort : ¬kind.length ≤ rest.length + syncLength := by
        rw [← Header.isSome_decode?_sync, ← hrest, hheader]
        exact Bool.false_ne_true
      have hlength : (bytes.drop offset).length = rest.length + syncLength := by
        rw [hrest]
        rfl
      have hkind : kind.length ≤ longestFrame := by cases kind <;> decide
      omega
    | some header =>
      have hframe := frameLength_le header
      rw [hheader] at h
      dsimp only at h
      cases hcheck : checkFrame header (bytes.drop offset) with
      | incomplete =>
        have hlength := checkFrame_eq_incomplete_iff.1 hcheck
        omega
      | corrupt expected computed => simp [hcheck, Found.settled] at h
      | intact payload => simp [hcheck, Found.settled] at h

/-- **A binary session that waits keeps less than a frame.** -/
theorem rests (settings : Settings) :
    Session.Rests (Anchored settings) (longestFrame - 1) where
  feed _ chunk h := h.feed chunk
  cycle _ h := h.cycle
  waits := by
    intro session h hwait
    rw [h.next_cycle] at hwait
    have hopen : (front session.buffer.peek).found.settled = false := by
      cases hsettled : (front session.buffer.peek).found.settled with
      | false => rfl
      | true =>
        rw [hsettled] at hwait
        cases hwait
    have hlength := length_lt_of_open hopen
    rw [← ByteBuffer.length_peek, Session.peek_cycle, h.effect, Front.effect_consumed,
      ((front session.buffer.peek).effect_of_open settings session.state.memory hopen).2.2,
      Nat.add_zero]
    omega

end NavStream.Oem

/-! ## Sessions of sentences -/

namespace NavStream.Sentence

open NavStream.Bytes NavStream.Frame

/-- A sentence that has not ended is shorter than the longest one. -/
theorem length_lt_of_pending {bytes : List UInt8} (h : ending bytes = .pending) :
    bytes.length < maxFrameLength := by
  by_contra hlong
  cases hfind : offsetOf? terminator (bytes.take maxFrameLength) with
  | none =>
    rw [ending_eq_endless_iff.2 ⟨hfind, Nat.le_of_not_lt hlong⟩] at h
    cases h
  | some offset =>
    rw [ending_eq_closed_iff.2 ⟨offset, hfind, rfl⟩] at h
    cases h

/-- A cycle that waits behind a token keeps a sentence that has not ended. -/
theorem length_lt_of_isBehind {session : Session State} {bytes : List UInt8} {kind : Kind}
    {offset : Nat} (heffect : session.effect.IsBehind offset ((ending bytes).effect kind bytes))
    (hdrop : session.buffer.peek.drop offset = bytes) (hwait : session.cycle.next = .wait) :
    session.cycle.session.buffer.peek.length < maxFrameLength := by
  rw [Session.next_cycle, heffect.next, Ending.effect_next] at hwait
  cases hending : ending bytes with
  | pending =>
    rw [Session.peek_cycle, heffect.consumed, hending, ← List.drop_drop, hdrop]
    exact length_lt_of_pending hending
  | endless =>
    rw [hending] at hwait
    cases hwait
  | closed length =>
    rw [hending] at hwait
    cases hwait

/-- **A session of sentences that waits keeps less than the longest sentence.** -/
theorem rests : Session.Rests Anchored (maxFrameLength - 1) where
  feed _ chunk h := h.feed chunk
  cycle _ h := h.cycle
  waits := by
    intro session h hwait
    rw [← ByteBuffer.length_peek]
    cases h with
    | holds kind h =>
      exact Nat.le_pred_of_lt (length_lt_of_isBehind h.isBehind List.drop_zero hwait)
    | seeks h =>
      cases hfind : findOffset startsWithToken session.buffer.peek with
      | none =>
        have hlimit : longestToken - 1 ≤ maxFrameLength - 1 := by decide
        rw [Session.peek_cycle, h.effect_of_none hfind, List.length_drop]
        dsimp only
        omega
      | some offset =>
        obtain ⟨kind, hkind⟩ := Option.isSome_iff_exists.1 (findOffset_eq_some hfind).2.1
        exact Nat.le_pred_of_lt
          (length_lt_of_isBehind (h.effect_of_some hfind hkind) rfl hwait)

end NavStream.Sentence

/-! ## Sessions of every configuration -/

namespace NavStream.Config

open NavStream.Bytes NavStream.Frame NavStream.Sentence

/-- The largest number of bytes that a session of a format leaves unread: one byte less than the
longest frame, or than the longest sentence. -/
def mostUnread : WireFormat → Nat
  | .binary => 65566
  | .sentences => 4095

/-- **Buffers are bounded.** However many chunks of at most `limit` bytes are fed to a new session
that decodes after each of them, whatever they hold: after every chunk no more bytes are left unread
than the format allows, and at no moment the block is larger than at the start, or than the reserve,
these unread bytes and two chunks. -/
theorem bounded_after_decodeEach (config : Config) (limit : Nat) (chunks : List (List UInt8))
    (hchunks : ∀ chunk ∈ chunks, chunk.length ≤ limit) :
    let bound := max (reserve + config.bufferCapacity.toNat)
      (reserve + mostUnread config.format + 2 * limit)
    (config.session.after (decodeEach chunks)).session.buffer.readable ≤
        mostUnread config.format ∧
      ∀ calls, calls <+: decodeEach chunks → (config.session.after calls).Within bound := by
  obtain ⟨format, imuType, mapping, capacity⟩ := config
  cases format with
  | binary =>
    have hempty := peek_session ⟨.binary, imuType, mapping, capacity⟩
    obtain ⟨⟨-, hunread⟩, hwithin⟩ := (Oem.rests ⟨imuType, mapping⟩).bounded
      (Oem.anchored_of_seekHeader rfl rfl) hempty hchunks
    exact ⟨hunread, hwithin⟩
  | sentences =>
    have hempty := peek_session ⟨.sentences, imuType, mapping, capacity⟩
    obtain ⟨⟨-, hunread⟩, hwithin⟩ :=
      Sentence.rests.bounded (.seeks ⟨rfl, rfl, rfl⟩) hempty hchunks
    exact ⟨hunread, hwithin⟩

/-- A token and eight thousand letters that never end, in a block that has room for sixteen. -/
theorem bounded_of_lostTerminator :
    let config : Config := { format := .sentences, bufferCapacity := 16 }
    let chunks := Kind.gpchc.token :: List.replicate 1000 (List.replicate 8 65)
    (∀ chunk ∈ chunks, chunk.length ≤ 8) ∧
      (config.session.after (decodeEach chunks)).session.buffer.readable ≤ 4095 ∧
      ∀ calls, calls <+: decodeEach chunks → (config.session.after calls).Within 4119 := by
  intro config chunks
  have hchunks : ∀ chunk ∈ chunks, chunk.length ≤ 8 := by
    intro chunk hmem
    rcases List.mem_cons.1 hmem with rfl | hletters
    · decide
    · simp [List.eq_of_mem_replicate hletters]
  exact ⟨hchunks, bounded_after_decodeEach config 8 chunks hchunks⟩

end NavStream.Config
