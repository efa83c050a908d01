import NavStream.Proofs.Checksum.Residue
import NavStream.Proofs.Oem.EncodedFrame

/-!
# The register behind a frame

A receiver need not cut a frame into what is checked and its check value: the check passes exactly
where the register is empty behind all of it.

* `crc32_encodeFrame` — the register behind a frame that was encoded;
* `FrameRange.crcHolds_iff`, `checkFrame_intact_iff` — the check of a frame that has come;
* `residue_laws` — the two forms of the check agree.
-/

namespace NavStream.Oem

open NavStream.Bytes NavStream.Checksum

/-- The register behind an encoded frame is empty. -/
theorem crc32_encodeFrame (header : Header) (payload : List UInt8) :
    crc32 (encodeFrame header payload) = 0 := by
  have htrailer (value : UInt32) : (trailerOf value).length = trailerLength := leBytes_length _ _
  rw [encodeFrame_eq, crc32_append_eq_zero_iff (htrailer _), ofNat_leValue_trailerOf]

/-- The check value of a frame holds exactly where the register behind the frame is empty. -/
theorem FrameRange.crcHolds_iff {range : FrameRange} {stream : List UInt8}
    (h : range.Located stream) :
    range.CrcHolds stream ↔ crc32 (stream.extract range.start range.stop) = 0 := by
  have hparts := h.length_add_trailerLength_le
  have hinside := h.inside
  have hsplit : stream.extract range.start range.stop =
      stream.extract range.start (range.stop - trailerLength) ++
        stream.extract (range.stop - trailerLength) range.stop := by
    have hbody : range.start + (range.stop - trailerLength - range.start) =
        range.stop - trailerLength := by omega
    have hlength : range.stop - range.start = range.stop - trailerLength - range.start +
        (range.stop - (range.stop - trailerLength)) := by omega
    rw [List.extract_eq_take_drop, List.extract_eq_take_drop, List.extract_eq_take_drop, hlength,
      List.take_add, List.drop_drop, hbody]
  have htrailer : (stream.extract (range.stop - trailerLength) range.stop).length =
      trailerLength := by
    rw [List.extract_eq_take_drop, List.length_take, List.length_drop]
    omega
  rw [hsplit, crc32_append_eq_zero_iff htrailer]
  rfl

/-- A frame ends in its check value. -/
theorem Header.trailerLength_le_frameLength (header : Header) :
    trailerLength ≤ header.frameLength :=
  Nat.le_add_left ..

/-- **A frame passes the check exactly where all of it has come and the register behind it is
empty.** -/
theorem checkFrame_intact_iff (header : Header) (bytes : List UInt8) :
    (∃ payload, checkFrame header bytes = .intact payload) ↔
      header.frameLength ≤ bytes.length ∧ crc32 (bytes.take header.frameLength) = 0 := by
  by_cases hfits : bytes.length < header.frameLength
  · have hopen : checkFrame header bytes = .incomplete := by rw [checkFrame, if_pos hfits]
    simp [hopen, hfits]
  · have htrailer : ((bytes.take header.frameLength).drop
        (header.frameLength - trailerLength)).length = trailerLength := by
      have hparts := header.trailerLength_le_frameLength
      rw [List.length_drop, List.length_take]
      omega
    have hcrc : crc32 (bytes.take header.frameLength) = 0 ↔ _ :=
      List.take_append_drop (header.frameLength - trailerLength) (bytes.take header.frameLength) ▸
        crc32_append_eq_zero_iff htrailer
    unfold checkFrame
    dsimp only
    rw [hcrc, if_neg hfits, checkCrc32, Verdict.compare]
    constructor
    · rintro ⟨payload, h⟩
      refine ⟨Nat.le_of_not_lt hfits, ?_⟩
      by_contra hne
      rw [if_neg (Ne.symm hne)] at h
      cases h
    · rintro ⟨-, heq⟩
      rw [if_pos heq.symm]
      exact ⟨_, rfl⟩

/-- **The two forms of the check agree.** A trailer agrees with the bytes in front of it exactly
where the register is empty behind both, so it is empty behind every encoded frame, and a frame of
any length passes the check of the decoder exactly where it is empty behind the frame. -/
theorem residue_laws :
    (∀ bytes trailer : List UInt8, trailer.length = trailerLength →
      (checkCrc32 bytes trailer = .intact ↔ crc32 (bytes ++ trailer) = 0)) ∧
    (∀ (header : Header) (payload : List UInt8), crc32 (encodeFrame header payload) = 0) ∧
    (∀ (header : Header) (bytes : List UInt8),
      (∃ payload, checkFrame header bytes = .intact payload) ↔
        header.frameLength ≤ bytes.length ∧ crc32 (bytes.take header.frameLength) = 0) := by
  refine ⟨fun bytes trailer htrailer => ?_, crc32_encodeFrame, checkFrame_intact_iff⟩
  rw [checkCrc32_eq_intact_iff, crc32_append_eq_zero_iff htrailer]
  exact eq_comm

/-- A trailer that agrees, and the register behind it. -/
theorem residue_laws_of_sync :
    checkCrc32 [0xAA, 0x44, 0x13] [0x69, 0x13, 0x44, 0xC4] = .intact ∧
      crc32 [0xAA, 0x44, 0x13, 0x69, 0x13, 0x44, 0xC4] = 0 := by
  have hintact : checkCrc32 [0xAA, 0x44, 0x13] [0x69, 0x13, 0x44, 0xC4] = .intact := by
    decide +kernel
  exact ⟨hintact, (residue_laws.1 [0xAA, 0x44, 0x13] [0x69, 0x13, 0x44, 0xC4] rfl).mp hintact⟩

end NavStream.Oem
