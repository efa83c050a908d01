import NavStream.Proofs.Oem.FrameCheck
import NavStream.Proofs.Oem.Resync

/-!
# Frames behind a corrupt one

A bit that changes behind the header of a frame always shows in its check value, so the frame is
refused. Only its header is stepped over, and what follows is searched for sync patterns again. The
next frame is therefore found if everything that looks like a frame on the way is complete and
refused too. Where a sync pattern inside the corrupt frame announces more bytes than have come, the
next frame has to wait for them.

* `flipBit` — a bit that changes;
* `not_crcHolds_flipBit` — it shows in the check value;
* `Meets` — the sync patterns that a session comes across;
* `SeeksFrom.decode_to_frame` — decoding leads past false ones to an intact frame;
* `next_frame_survives_flip` — the frame behind a corrupt one is dispatched like a first one;
* `next_frame_waits_behind_longStrayHeader` — one that has to wait.
-/

namespace NavStream.Oem

open NavStream.Bytes NavStream.Checksum NavStream.Frame

/-! ## A bit that changes shows -/

/-- Bytes in which one bit has changed. -/
def flipBit (bytes : List UInt8) (index : Nat) (bit : Fin 8) : List UInt8 :=
  bytes.modify index (· ^^^ (1 <<< UInt8.ofNat bit))

variable {header : Header} {payload : List UInt8} {index : Nat}

/-- No byte stays what it is. -/
theorem xor_bit_ne (byte : UInt8) (bit : Fin 8) : byte ^^^ (1 <<< UInt8.ofNat bit) ≠ byte := by
  have hbit : ∀ bit : Fin 8, (1 : UInt8) <<< UInt8.ofNat bit ≠ 0 := by decide
  intro heq
  refine hbit bit ?_
  rw [← UInt8.xor_right_inj byte, heq, UInt8.xor_zero]

/-- There are as many bytes as before. -/
theorem length_flipBit (bytes : List UInt8) (index : Nat) (bit : Fin 8) :
    (flipBit bytes index bit).length = bytes.length :=
  List.length_modify ..

/-- What stands in front of the bit stays what it is. -/
theorem flipBit_append_of_le {front : List UInt8} (back : List UInt8) (bit : Fin 8)
    (h : front.length ≤ index) :
    flipBit (front ++ back) index bit = front ++ flipBit back (index - front.length) bit := by
  induction front generalizing index with
  | nil => rfl
  | cons byte front ih =>
    obtain ⟨before, rfl⟩ := Nat.exists_eq_add_one.mpr (Nat.lt_of_lt_of_le (Nat.succ_pos _) h)
    have hrest := ih (Nat.le_of_succ_le_succ h)
    rw [List.length_cons, Nat.add_sub_add_right]
    exact congrArg (byte :: ·) hrest

/-- A bit that changes shows in the check value. -/
theorem crc32_flipBit_ne {bytes : List UInt8} (bit : Fin 8) (h : index < bytes.length) :
    crc32 (flipBit bytes index bit) ≠ crc32 bytes := by
  have hbytes : bytes = bytes.take index ++ bytes[index] :: bytes.drop (index + 1) := by
    rw [← List.drop_eq_getElem_cons h, List.take_append_drop]
  rw [flipBit, List.modify_eq_take_cons_drop h]
  conv_rhs => rw [hbytes]
  rw [Ne, crc32_append_cons_inj]
  exact xor_bit_ne _ _

section Flipped

variable (hfits : payload.length ≤ header.kind.maxPayload) (hindex : header.length ≤ index)
  (bit : Fin 8) (rest : List UInt8)

include hfits hindex

/-- A frame is announced as before where a bit behind its header has changed. -/
theorem located_flipBit :
    (encodedRange header payload).Located
      (flipBit (encodeFrame header payload) index bit ++ rest) := by
  have hheader : Header.decode? (flipBit (encodeFrame header payload) index bit ++ rest) =
      some (announced header payload) := by
    rw [encodeFrame_eq, List.append_assoc,
      flipBit_append_of_le _ _ (by rwa [length_announcing_encode]), List.append_assoc]
    exact Header.decode?_encode_append _ _
  refine ⟨Header.startsWithSync_of_decode? hheader, hheader, (Nat.zero_add _).symm, ?_⟩
  rw [List.length_append, length_flipBit, length_encodeFrame hfits]
  exact Nat.le_add_right _ _

/-- **A bit that changes behind the header of a frame makes its check value wrong.** -/
theorem not_crcHolds_flipBit (hlt : index < (encodeFrame header payload).length) :
    ¬(encodedRange header payload).CrcHolds
      (flipBit (encodeFrame header payload) index bit ++ rest) := by
  have hextract : (flipBit (encodeFrame header payload) index bit ++ rest).extract 0
      (announced header payload).frameLength = flipBit (encodeFrame header payload) index bit := by
    rw [List.extract_eq_take_drop, List.drop_zero, Nat.sub_zero]
    exact List.take_left' (by rw [length_flipBit, length_encodeFrame hfits])
  rw [FrameRange.crcHolds_iff (located_flipBit hfits hindex bit rest), encodedRange, hextract,
    ← crc32_encodeFrame header payload]
  exact crc32_flipBit_ne bit hlt

end Flipped

/-! ## On the way to the next frame -/

/-- A session that looks for a header from one offset of a stream on, and steps over the headers that
it finds, comes across the sync pattern at another. -/
inductive Meets (stream : List UInt8) : Nat → Nat → Prop
  | first {start offset : Nat}
      (hfind : findOffset startsWithSync (stream.drop start) = some offset) :
      Meets stream start (start + offset)
  | later {start offset last : Nat} {header : Header}
      (hfind : findOffset startsWithSync (stream.drop start) = some offset)
      (hheader : Header.decode? (stream.drop (start + offset)) = some header)
      (hmeets : Meets stream (start + offset + header.length) last) :
      Meets stream start last

/-- A session goes forward. -/
theorem Meets.le {stream : List UInt8} {start last : Nat} (h : Meets stream start last) :
    start ≤ last := by
  induction h with
  | first hfind => exact Nat.le_add_right _ _
  | later hfind hheader hmeets ih => omega

/-- What a session comes across are sync patterns. -/
theorem Meets.sync {stream : List UInt8} {start last : Nat} (h : Meets stream start last) :
    startsWithSync (stream.drop last) = true := by
  induction h with
  | first hfind =>
    have hsync := (findOffset_eq_some hfind).2.1
    rwa [List.drop_drop] at hsync
  | later hfind hheader hmeets ih => exact ih

/-- The first sync pattern from a frame on is that of the frame. -/
theorem FrameRange.Located.findOffset_eq {stream : List UInt8} {range : FrameRange}
    (h : range.Located stream) :
    findOffset startsWithSync (stream.drop range.start) = some 0 := by
  refine findOffset_eq_zero h.sync ?_
  intro hnil
  have hsync := h.sync
  rw [hnil] at hsync
  cases hsync

/-- From a header on a session comes across this header, and then across what it meets behind it. -/
theorem Meets.eq_or_later {stream : List UInt8} {range : FrameRange} {last : Nat}
    (hlocated : range.Located stream) (hmeets : Meets stream range.start last) :
    last = range.start ∨ Meets stream (range.start + range.header.length) last := by
  have hthere := hlocated.findOffset_eq
  cases hmeets with
  | first hfind =>
    rw [hthere] at hfind
    cases hfind
    exact .inl rfl
  | later hfind hheader hmeets =>
    rw [hthere] at hfind
    cases hfind
    cases hheader.symm.trans hlocated.header
    exact .inr hmeets

namespace SeeksFrom

variable {settings : Settings} {stream : List UInt8} {start : Nat} {history : History State}

/-- Decoding goes on after a frame that is complete. -/
theorem decode_of_settled (h : SeeksFrom settings stream start history)
    (hsettled : (front history.session.buffer.peek).found.settled = true) :
    history.call .decode = (history.call .cycle).call .decode := by
  have hnext := (anchored_of_seekHeader h.decoder h.phase).next_cycle
  rw [hsettled, if_pos rfl] at hnext
  rw [History.call_decode, if_pos hnext]

/-- Decoding goes on behind the header of a frame that is refused. -/
theorem decode_of_refused {offset : Nat} {range : FrameRange}
    (h : SeeksFrom settings stream start history)
    (hfind : findOffset startsWithSync (stream.drop start) = some offset)
    (hrange : range.start = start + offset) (hlocated : range.Located stream)
    (hcrc : ¬range.CrcHolds stream) :
    history.call .decode = (history.call .cycle).call .decode := by
  obtain ⟨expected, computed, hcorrupt⟩ := FrameRange.ofBytes_of_not_crcHolds hlocated hcrc
  refine h.decode_of_settled ?_
  rw [h.front_eq hfind, ← hrange, hcorrupt]
  rfl

/-- Decoding stops where more bytes are needed. It gives nothing and keeps what it has found. -/
theorem decode_of_open (h : SeeksFrom settings stream start history)
    (hopen : (front history.session.buffer.peek).found.settled = false) :
    (history.call .decode).messages = history.messages ∧
      (history.call .decode).session.buffer.peek =
        history.session.buffer.peek.drop (front history.session.buffer.peek).skip := by
  have hanchored := anchored_of_seekHeader h.decoder h.phase
  have hnext := hanchored.next_cycle
  rw [hopen, if_neg Bool.false_ne_true] at hnext
  obtain ⟨hmessages, -, hlength⟩ := (front history.session.buffer.peek).effect_of_open settings
    history.session.state.memory hopen
  rw [History.call_decode, if_neg (by rw [hnext]; nofun)]
  refine ⟨?_, ?_⟩
  · show history.messages ++ history.session.cycle.messages = _
    rw [Session.messages_cycle, hanchored.effect, hmessages, List.append_nil]
  · show history.session.cycle.session.buffer.peek = _
    rw [Session.peek_cycle, hanchored.effect, Front.effect_consumed, hlength, Nat.add_zero]

/-- **Decoding leads past false sync patterns to an intact frame**, if these are all that it comes
across on the way. Where nothing stands behind the frame, nothing is left to read. -/
theorem decode_to_frame {limit : Nat} {header : Header} {payload : List UInt8}
    (hframe : Found.ofBytes (stream.drop limit) = .intact header payload)
    (hend : stream.length = limit + header.frameLength)
    (hfalse : ∀ offset < limit, Meets stream start offset → FalseSync stream limit offset)
    (hstart : start ≤ limit) (h : SeeksFrom settings stream start history) :
    (history.call .decode).messages = history.messages ++
        (history.session.state.memory.dispatch settings header payload).message.toList ∧
      (history.call .decode).session.buffer.peek = [] := by
  have hsync : startsWithSync (stream.drop limit) = true :=
    (FrameRange.of_ofBytes_eq_intact hframe).1.sync
  -- the induction is on how far the frame still is; every false sync pattern brings it nearer
  induction hdistance : limit - start using Nat.strongRecOn generalizing start history with
  | ind distance ih =>
    obtain ⟨offset, hfind, hoffset⟩ := exists_findOffset_le hstart hsync
    rcases Nat.lt_or_eq_of_le hoffset with hbefore | hthere
    · obtain ⟨range, hrange, hlocated, hlimit, hcrc⟩ := hfalse _ hbefore (.first hfind)
      obtain ⟨hseeks, hmessages, hmemory⟩ := h.cycle_of_refused hfind hrange hlocated hcrc
      have hheader := hlocated.header
      have hpositive := range.header.length_pos
      rw [h.decode_of_refused hfind hrange hlocated hcrc, ← hmessages, ← hmemory]
      rw [hrange] at hheader hseeks
      refine ih (limit - (start + offset + range.header.length)) (by omega) ?_ hlimit hseeks rfl
      intro last hlast hmeets
      exact hfalse last hlast (.later hfind hheader hmeets)
    · rw [← hthere] at hframe hend
      have hfront := h.front_eq hfind
      rw [hframe] at hfront
      obtain ⟨hseeks, hmessages, -⟩ := h.cycle_of_intact hfind hframe
      have hnil : (history.call .cycle).session.buffer.peek = [] := by
        rw [hseeks.peek, ← hend, List.drop_length]
      obtain ⟨hkept, hpeek⟩ := hseeks.decode_of_open (by rw [hnil]; rfl)
      rw [h.decode_of_settled (by rw [hfront]; rfl), hkept, hpeek, hmessages, hnil]
      exact ⟨rfl, List.drop_nil⟩

end SeeksFrom

/-! ## The frame behind a corrupt one -/

/-- A new session that is fed a stream looks for a header in all of it. -/
theorem seeksFrom_of_new (settings : Settings) (capacity : Nat) (stream : List UInt8) :
    SeeksFrom settings stream 0
      ((Session.new (decoder settings) (.withCapacity capacity)).after [.feed stream]) := by
  refine ⟨rfl, rfl, ?_⟩
  show ((Session.new (decoder settings) (.withCapacity capacity)).feed stream).buffer.peek = _
  rw [Session.peek_feed]
  simp [Session.new]

/-- A new session that comes across nothing but false sync patterns in front of a frame dispatches
the frame and nothing else. -/
theorem decode_of_new (settings : Settings) (capacity : Nat) {stream : List UInt8} {limit : Nat}
    {header : Header} {payload : List UInt8}
    (hframe : Found.ofBytes (stream.drop limit) = .intact header payload)
    (hend : stream.length = limit + header.frameLength)
    (hfalse : ∀ offset < limit, Meets stream 0 offset → FalseSync stream limit offset) :
    let last := (Session.new (decoder settings) (.withCapacity capacity)).after
      [.feed stream, .decode]
    last.messages = ((Memory.new settings).dispatch settings header payload).message.toList ∧
      last.session.buffer.peek = [] :=
  (seeksFrom_of_new settings capacity stream).decode_to_frame hframe hend hfalse (Nat.zero_le _)

/-- An encoded frame is found intact where nothing follows it. -/
theorem ofBytes_encodeFrame_self {header : Header} {payload : List UInt8}
    (h : payload.length ≤ header.kind.maxPayload) :
    Found.ofBytes (encodeFrame header payload) = .intact (announced header payload) payload := by
  have hfound := ofBytes_encodeFrame h []
  rwa [List.append_nil] at hfound

/-- A new session that is fed an encoded frame dispatches it. -/
theorem decode_of_encodeFrame (settings : Settings) (capacity : Nat) {header : Header}
    {payload : List UInt8} (h : payload.length ≤ header.kind.maxPayload) :
    let last := (Session.new (decoder settings) (.withCapacity capacity)).after
      [.feed (encodeFrame header payload), .decode]
    last.messages =
        ((Memory.new settings).dispatch settings (announced header payload) payload).message.toList ∧
      last.session.buffer.peek = [] := by
  refine @decode_of_new settings capacity (encodeFrame header payload) 0 _ _
    (ofBytes_encodeFrame_self h) ?_ ?_
  · rw [length_encodeFrame h, Nat.zero_add]
  · intro offset hoffset
    cases hoffset

/-- **The frame behind a corrupt one is not lost.** A session is fed a frame in which one bit behind
the header has changed, and another frame behind it. If every sync pattern that it comes across on
the way from the first header to the second one announces a frame that is complete and refused, and
whose header ends in front of the second frame, then decoding gives what it gives of the second frame
alone, and nothing is left to read. -/
theorem next_frame_survives_flip {settings : Settings} {capacity : Nat}
    {header next : Header} {payload content : List UInt8} {index : Nat} {bit : Fin 8}
    (hfits : payload.length ≤ header.kind.maxPayload)
    (hnext : content.length ≤ next.kind.maxPayload)
    (hindex : header.length ≤ index) (hlt : index < (encodeFrame header payload).length)
    (hfalse : ∀ offset < (encodeFrame header payload).length,
      Meets (flipBit (encodeFrame header payload) index bit ++ encodeFrame next content)
        header.length offset →
      FalseSync (flipBit (encodeFrame header payload) index bit ++ encodeFrame next content)
        (encodeFrame header payload).length offset) :
    let session := Session.new (decoder settings) (.withCapacity capacity)
    let both := session.after
      [.feed (flipBit (encodeFrame header payload) index bit ++ encodeFrame next content), .decode]
    let alone := session.after [.feed (encodeFrame next content), .decode]
    both.messages = alone.messages ∧
      both.session.buffer.peek = [] ∧ alone.session.buffer.peek = [] := by
  have hbehind : (flipBit (encodeFrame header payload) index bit ++
      encodeFrame next content).drop (encodeFrame header payload).length =
        encodeFrame next content :=
    List.drop_left' (length_flipBit _ _ _)
  have hintact := ofBytes_encodeFrame_self hnext
  have hlocated := located_flipBit hfits hindex bit (encodeFrame next content)
  have hrefused := not_crcHolds_flipBit hfits hindex bit (encodeFrame next content) hlt
  have hway : ∀ offset < (encodeFrame header payload).length,
      Meets (flipBit (encodeFrame header payload) index bit ++ encodeFrame next content) 0 offset →
      FalseSync (flipBit (encodeFrame header payload) index bit ++ encodeFrame next content)
        (encodeFrame header payload).length offset := by
    intro offset hoffset hmeets
    rcases Meets.eq_or_later hlocated hmeets with rfl | hlater
    · -- the corrupt frame itself
      refine ⟨encodedRange header payload, rfl, hlocated, ?_, hrefused⟩
      show 0 + (announced header payload).length ≤ (encodeFrame header payload).length
      rw [length_announced]
      omega
    · rw [encodedRange, length_announced, Nat.zero_add] at hlater
      exact hfalse offset hoffset hlater
  obtain ⟨hboth, hempty⟩ := decode_of_new settings capacity (hbehind ▸ hintact)
    (by rw [List.length_append, length_flipBit, length_encodeFrame hnext]) hway
  obtain ⟨halone, hempty'⟩ := decode_of_encodeFrame settings capacity hnext
  exact ⟨hboth.trans halone.symm, hempty, hempty'⟩

/-- The header of a frame without a payload, as it may stand in the payload of another frame. A bit
of the outer frame's check value changes. The frame that the inner header announces ends with that
check value and is refused. -/
theorem next_frame_survives_strayHeader :
    let first := encodeFrame (.short 0 0 0 0) strayHeader
    let second := encodeFrame (.short LogId.range.code 0 0 0) [0, 0, 0, 0]
    let session := Session.new (decoder default) (.withCapacity 64)
    let both := session.after [.feed (flipBit first 27 0 ++ second), .decode]
    let alone := session.after [.feed second, .decode]
    both.messages = alone.messages ∧
      both.session.buffer.peek = [] ∧ alone.session.buffer.peek = [] := by
  refine next_frame_survives_flip (by decide) (by decide) (by decide) (by decide) ?_
  intro offset hoffset hmeets
  have hle := hmeets.le
  have hsync := hmeets.sync
  clear hmeets
  have hthere : offset = 12 := by
    revert offset
    decide +kernel
  subst hthere
  refine ⟨⟨12, 28, .short 0 0 0 0⟩, rfl, ⟨hsync, ?_, rfl, ?_⟩, ?_, ?_⟩
  · decide +kernel
  · decide
  · decide
  · decide +kernel

/-- If decoding needs more bytes behind the header of a corrupt frame, it gives nothing. -/
theorem decode_of_flip_open (settings : Settings) (capacity : Nat) {header : Header}
    {payload rest : List UInt8} {index : Nat} {bit : Fin 8}
    (hfits : payload.length ≤ header.kind.maxPayload)
    (hindex : header.length ≤ index) (hlt : index < (encodeFrame header payload).length)
    (hopen : (front ((flipBit (encodeFrame header payload) index bit ++ rest).drop
      header.length)).found.settled = false) :
    let last := (Session.new (decoder settings) (.withCapacity capacity)).after
      [.feed (flipBit (encodeFrame header payload) index bit ++ rest), .decode]
    last.messages = [] ∧ last.session.buffer.peek =
      ((flipBit (encodeFrame header payload) index bit ++ rest).drop header.length).drop
        (front ((flipBit (encodeFrame header payload) index bit ++ rest).drop
          header.length)).skip := by
  have hlocated := located_flipBit hfits hindex bit rest
  have hrefused := not_crcHolds_flipBit hfits hindex bit rest hlt
  have hfind := hlocated.findOffset_eq
  have hseeks := seeksFrom_of_new settings capacity
    (flipBit (encodeFrame header payload) index bit ++ rest)
  obtain ⟨hbehind, hmessages, -⟩ := hseeks.cycle_of_refused hfind rfl hlocated hrefused
  rw [encodedRange, length_announced, Nat.zero_add] at hbehind
  have hpeek := hbehind.peek
  obtain ⟨hkept, hleft⟩ := hbehind.decode_of_open (by rw [hpeek]; exact hopen)
  have hdecode := hseeks.decode_of_refused hfind rfl hlocated hrefused
  rw [hpeek] at hleft
  intro last
  have hlast : last = _ := hdecode
  rw [hlast]
  exact ⟨hkept.trans hmessages, hleft⟩

/-- A short header that announces the longest payload it can. -/
def longStrayHeader : List UInt8 := [0xAA, 0x44, 0x13, 0xFF, 0, 0, 0, 0, 0, 0, 0, 0]

/-- The payload of a corrupt frame holds a header that announces more bytes than have come. The next
frame alone would have given a message, and now it waits for those bytes. -/
theorem next_frame_waits_behind_longStrayHeader :
    let first := encodeFrame (.short 0 0 0 0) longStrayHeader
    let second := encodeFrame (.short LogId.range.code 0 0 0) [0, 0, 0, 0]
    let session := Session.new (decoder default) (.withCapacity 64)
    let both := session.after [.feed (flipBit first 27 0 ++ second), .decode]
    let alone := session.after [.feed second, .decode]
    longStrayHeader.length ≤ HeaderKind.short.maxPayload ∧
      (Header.short 0 0 0 0).length ≤ 27 ∧ 27 < first.length ∧
      both.messages = [] ∧ both.session.buffer.peek.length = 36 ∧
      alone.messages =
        [.observation ⟨(Header.short LogId.range.code 4 0 0).measurementTime, []⟩] ∧
      alone.session.buffer.peek = [] := by
  intro first second session both alone
  have hboth : both.messages = [] ∧ both.session.buffer.peek =
      ((flipBit first 27 0 ++ second).drop 12).drop
        (front ((flipBit first 27 0 ++ second).drop 12)).skip :=
    decode_of_flip_open default 64 (by decide) (by decide) (by decide) (by decide +kernel)
  have halone : alone.messages =
        [.observation ⟨(Header.short LogId.range.code 4 0 0).measurementTime, []⟩] ∧
      alone.session.buffer.peek = [] :=
    decode_of_encodeFrame default 64 (by decide)
  refine ⟨by decide, by decide, by decide, hboth.1, ?_, halone⟩
  rw [hboth.2]
  decide +kernel

end NavStream.Oem
