import NavStream.Proofs.Frame.History
import NavStream.Proofs.Oem.Anchored
import NavStream.Proofs.Oem.EncodedFrame

/-!
# Finding the next frame after damage

Garbage may hold sync patterns that begin no frame. The frame that such a pattern announces is
refused as long as its check value does not hold, and only its header is stepped over. So no frame
is lost that stands behind the garbage, whatever lengths are announced inside it.

* `FalseSync` — a sync pattern in front of a frame, that announces a frame which is refused;
* `SeeksFrom.cycle_of_falseSync`, `SeeksFrom.cycle_of_intact` — what one cycle does on the way;
* `exists_cycles_of_falseSync` — some cycles lead past all of them to the frame;
* `exists_cycles_after_feed` — the frame is dispatched once, and nothing else is.
-/

namespace NavStream.Oem

open NavStream.Bytes NavStream.Frame

/-- A sync pattern at `offset` that announces a frame inside the stream whose header ends at or
before `limit` and whose check value does not hold. -/
def FalseSync (stream : List UInt8) (limit offset : Nat) : Prop :=
  ∃ range : FrameRange, range.start = offset ∧ range.Located stream ∧
    offset + range.header.length ≤ limit ∧ ¬range.CrcHolds stream

/-- Where a sync pattern stands at `limit`, the first one stands at or before it. -/
theorem exists_findOffset_le {stream : List UInt8} {start limit : Nat} (hle : start ≤ limit)
    (hsync : startsWithSync (stream.drop limit) = true) :
    ∃ offset, findOffset startsWithSync (stream.drop start) = some offset ∧
      start + offset ≤ limit := by
  have hthere : startsWithSync ((stream.drop start).drop (limit - start)) = true := by
    rw [List.drop_drop, Nat.add_sub_cancel' hle]
    exact hsync
  have hlength := syncLength_le_of_startsWithSync hthere
  simp only [syncLength, List.length_drop] at hlength
  cases hfind : findOffset startsWithSync (stream.drop start) with
  | none =>
    have hnot := findOffset_eq_none_iff.1 hfind (limit - start)
      (by rw [List.length_drop]; omega)
    rw [hthere] at hnot
    cases hnot
  | some offset =>
    refine ⟨offset, rfl, Nat.le_of_not_lt fun hlt => ?_⟩
    have hnot := (findOffset_eq_some hfind).2.2 (limit - start) (by omega)
    rw [hthere] at hnot
    cases hnot

/-! ## One cycle -/

/-- A history whose session looks for a header from `start` of the stream on. -/
structure SeeksFrom (settings : Settings) (stream : List UInt8) (start : Nat)
    (history : History State) : Prop where
  decoder : history.session.decoder = Oem.decoder settings
  phase : history.session.phase = .seekHeader
  peek : history.session.buffer.peek = stream.drop start

namespace SeeksFrom

variable {settings : Settings} {stream : List UInt8} {start offset : Nat}
  {history : History State} (h : SeeksFrom settings stream start history)
  (hfind : findOffset startsWithSync (stream.drop start) = some offset)

include h hfind

/-- What the next cycle meets stands at the first sync pattern. -/
theorem front_eq :
    front history.session.buffer.peek = ⟨offset, .ofBytes (stream.drop (start + offset))⟩ := by
  rw [h.peek, front, hfind]
  dsimp only
  rw [List.drop_drop]

/-- A cycle steps over the header of a frame that is refused, gives nothing and keeps the memory. -/
theorem cycle_of_refused {range : FrameRange} (hrange : range.start = start + offset)
    (hlocated : range.Located stream) (hcrc : ¬range.CrcHolds stream) :
    SeeksFrom settings stream (range.start + range.header.length) (history.call .cycle) ∧
      (history.call .cycle).messages = history.messages ∧
      (history.call .cycle).session.state.memory = history.session.state.memory := by
  obtain ⟨expected, computed, hcorrupt⟩ := FrameRange.ofBytes_of_not_crcHolds hlocated hcrc
  have hfront := h.front_eq hfind
  rw [← hrange, hcorrupt] at hfront
  have hanchored := anchored_of_seekHeader h.decoder h.phase
  obtain ⟨hphase, hpeek, hstate, hmessages⟩ := hanchored.cycle_of_corrupt hfront
  refine ⟨⟨hanchored.cycle.decoder, hphase, ?_⟩, ?_, ?_⟩
  · refine hpeek.trans ?_
    rw [h.peek, List.drop_drop, hrange, Nat.add_assoc]
  · show history.messages ++ history.session.cycle.messages = _
    rw [hmessages, List.append_nil]
  · show history.session.cycle.session.state.memory = _
    rw [hstate]

/-- **A cycle skips the header of a false sync pattern**, gives nothing and keeps the memory. -/
theorem cycle_of_falseSync {limit : Nat} (hfalse : FalseSync stream limit (start + offset)) :
    ∃ next, start < next ∧ next ≤ limit ∧
      SeeksFrom settings stream next (history.call .cycle) ∧
      (history.call .cycle).messages = history.messages ∧
      (history.call .cycle).session.state.memory = history.session.state.memory := by
  obtain ⟨range, hrange, hlocated, hlimit, hcrc⟩ := hfalse
  have hpositive := range.header.length_pos
  exact ⟨range.start + range.header.length, by omega, by omega,
    h.cycle_of_refused hfind hrange hlocated hcrc⟩

/-- **A cycle dispatches an intact frame** at the first sync pattern and steps over it. -/
theorem cycle_of_intact {header : Header} {payload : List UInt8}
    (hfound : Found.ofBytes (stream.drop (start + offset)) = .intact header payload) :
    let dispatched := history.session.state.memory.dispatch settings header payload
    SeeksFrom settings stream (start + offset + header.frameLength) (history.call .cycle) ∧
      (history.call .cycle).messages = history.messages ++ dispatched.message.toList ∧
      (history.call .cycle).session.state.memory = dispatched.memory := by
  have hfront := h.front_eq hfind
  rw [hfound] at hfront
  have hanchored := anchored_of_seekHeader h.decoder h.phase
  obtain ⟨hphase, hpeek, hstate, hmessages⟩ := hanchored.cycle_of_intact hfront
  refine ⟨⟨hanchored.cycle.decoder, hphase, ?_⟩, ?_, ?_⟩
  · refine hpeek.trans ?_
    rw [h.peek, List.drop_drop, Nat.add_assoc]
  · show history.messages ++ history.session.cycle.messages = _
    rw [hmessages]
  · show history.session.cycle.session.state.memory = _
    rw [hstate]

end SeeksFrom

/-! ## All cycles up to the frame -/

/-- **Some cycles lead past the garbage.** A session that looks for a header anywhere in front of a
frame, with nothing but false sync patterns in between, dispatches that frame next. -/
theorem exists_cycles_of_falseSync {settings : Settings} {stream : List UInt8} {limit : Nat}
    {header : Header} {payload : List UInt8}
    (hframe : Found.ofBytes (stream.drop limit) = .intact header payload)
    (hsync : startsWithSync (stream.drop limit) = true)
    (hfalse : ∀ offset < limit, startsWithSync (stream.drop offset) = true →
      FalseSync stream limit offset)
    (start : Nat) (hstart : start ≤ limit) (history : History State)
    (h : SeeksFrom settings stream start history) :
    ∃ count,
      let last := (List.replicate count Call.cycle).foldl History.call history
      let dispatched := history.session.state.memory.dispatch settings header payload
      SeeksFrom settings stream (limit + header.frameLength) last ∧
        last.messages = history.messages ++ dispatched.message.toList ∧
        last.session.state.memory = dispatched.memory := by
  -- the induction is on how far the frame still is; every false sync pattern brings it nearer
  induction hdistance : limit - start using Nat.strongRecOn generalizing start history with
  | ind distance ih =>
    obtain ⟨offset, hfind, hoffset⟩ := exists_findOffset_le hstart hsync
    rcases Nat.lt_or_eq_of_le hoffset with hbefore | hthere
    · have hpattern := (findOffset_eq_some hfind).2.1
      rw [List.drop_drop] at hpattern
      obtain ⟨next, hnext, hlimit, hseeks, hmessages, hmemory⟩ :=
        h.cycle_of_falseSync hfind (hfalse _ hbefore hpattern)
      obtain ⟨count, hcount⟩ := ih (limit - next) (by omega) next hlimit _ hseeks rfl
      rw [hmessages, hmemory] at hcount
      exact ⟨count + 1, hcount⟩
    · rw [← hthere] at hframe ⊢
      exact ⟨1, h.cycle_of_intact hfind hframe⟩

/-- **No frame is lost behind garbage.** A session that looks for a header with nothing left to read
is fed garbage, an encoded frame and whatever comes next. Where every sync pattern in the garbage is
a false one, some cycles lead to the bytes behind the frame: the frame has been dispatched once,
with the header that it carries, and nothing else has been. -/
theorem exists_cycles_after_feed {settings : Settings} {session : Session State}
    (hdecoder : session.decoder = decoder settings) (hphase : session.phase = .seekHeader)
    (hempty : session.buffer.peek = []) {header : Header} {payload garbage rest : List UInt8}
    (hfits : payload.length ≤ header.kind.maxPayload)
    (hfalse : ∀ offset < garbage.length,
      startsWithSync ((garbage ++ encodeFrame header payload ++ rest).drop offset) = true →
        FalseSync (garbage ++ encodeFrame header payload ++ rest) garbage.length offset) :
    ∃ count decoded, Header.decode? (encodeFrame header payload) = some decoded ∧
      let last := session.after
        (.feed (garbage ++ encodeFrame header payload ++ rest) :: List.replicate count .cycle)
      let dispatched := session.state.memory.dispatch settings decoded payload
      last.session.phase = .seekHeader ∧ last.session.buffer.peek = rest ∧
        last.messages = dispatched.message.toList ∧
        last.session.state.memory = dispatched.memory := by
  have hdecode : Header.decode? (encodeFrame header payload) = some (announced header payload) := by
    have hfront := decode?_encodeFrame_append header payload []
    rwa [List.append_nil] at hfront
  have hbehind : (garbage ++ encodeFrame header payload ++ rest).drop garbage.length =
      encodeFrame header payload ++ rest := by
    rw [List.append_assoc, List.drop_left]
  have hframe : Found.ofBytes
      ((garbage ++ encodeFrame header payload ++ rest).drop garbage.length) =
        .intact (announced header payload) payload := by
    rw [hbehind]
    exact ofBytes_encodeFrame hfits rest
  have hsync : startsWithSync
      ((garbage ++ encodeFrame header payload ++ rest).drop garbage.length) = true := by
    rw [hbehind]
    exact Header.startsWithSync_of_decode? (decode?_encodeFrame_append header payload rest)
  have hseeks : SeeksFrom settings (garbage ++ encodeFrame header payload ++ rest) 0
      (History.call { session } (.feed (garbage ++ encodeFrame header payload ++ rest))) := by
    refine ⟨hdecoder, hphase, ?_⟩
    show (session.feed _).buffer.peek = _
    rw [Session.peek_feed, hempty, List.nil_append, List.drop_zero]
  obtain ⟨count, hlast, hmessages, hmemory⟩ :=
    exists_cycles_of_falseSync hframe hsync hfalse 0 (Nat.zero_le _) _ hseeks
  refine ⟨count, announced header payload, hdecode, hlast.phase, ?_, hmessages, hmemory⟩
  refine hlast.peek.trans ?_
  rw [← List.drop_drop, hbehind, ← length_encodeFrame hfits, List.drop_left]

/-- A short header without a payload. The frame that it announces ends in the next four bytes. -/
def strayHeader : List UInt8 := [0xAA, 0x44, 0x13, 0, 0, 0, 0, 0, 0, 0, 0, 0]

/-- A frame whose first bytes a stray header claims as its check value is not lost. -/
theorem exists_cycles_past_strayHeader :
    ∃ count,
      let last := (Session.new (decoder default) (.withCapacity 64)).after
        (.feed (strayHeader ++ encodeFrame (.short LogId.range.code 0 0 0) [0, 0, 0, 0] ++ [7]) ::
          List.replicate count .cycle)
      last.session.phase = .seekHeader ∧ last.session.buffer.peek = [7] ∧
        last.messages =
          [.observation ⟨(Header.short LogId.range.code 4 0 0).measurementTime, []⟩] := by
  have hfalse : ∀ offset < strayHeader.length,
      startsWithSync ((strayHeader ++ encodeFrame (.short LogId.range.code 0 0 0) [0, 0, 0, 0] ++
        [7]).drop offset) = true →
      FalseSync (strayHeader ++ encodeFrame (.short LogId.range.code 0 0 0) [0, 0, 0, 0] ++ [7])
        strayHeader.length offset := by
    intro offset hlt hsync
    have hzero : offset = 0 := by
      revert offset
      decide +kernel
    subst hzero
    refine ⟨⟨0, 16, .short 0 0 0 0⟩, rfl, ⟨hsync, ?_, rfl, ?_⟩, ?_, ?_⟩
    · decide +kernel
    · decide
    · decide
    · decide +kernel
  obtain ⟨count, decoded, hdecoded, hphase, hpeek, hmessages, -⟩ :=
    @exists_cycles_after_feed default (Session.new (decoder default) (.withCapacity 64)) rfl rfl
      (by simp [Session.new]) _ _ _ _ (by decide) hfalse
  have hheader : decoded = .short LogId.range.code 4 0 0 :=
    Option.some.inj (hdecoded.symm.trans (by decide +kernel))
  subst hheader
  exact ⟨count, hphase, hpeek, hmessages⟩

end NavStream.Oem
