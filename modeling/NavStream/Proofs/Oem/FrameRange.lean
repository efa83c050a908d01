import NavStream.Proofs.Oem.Front

/-!
# Frames inside a stream

A frame of a stream is a range of its bytes: it begins with a header, is as long as the header
announces, and ends in the check value of the bytes in front.

* `FrameRange`, `FrameRange.Located` — a range at which a header announces a frame;
* `FrameRange.CrcHolds`, `FrameRange.payload` — its check value and its payload;
* `FrameRange.checkFrame_eq` — the check of the frame compares just these.
-/

namespace NavStream.Oem

open NavStream.Bytes NavStream.Checksum

/-- A range of a stream, with the header of the frame that stands there. -/
structure FrameRange where
  /-- The offset of the first sync byte. -/
  start : Nat
  /-- The offset behind the check value. -/
  stop : Nat
  /-- The header of the frame. -/
  header : Header
deriving DecidableEq

namespace FrameRange

/-- The frame of the range is announced there, and lies inside the stream. -/
structure Located (range : FrameRange) (stream : List UInt8) : Prop where
  sync : startsWithSync (stream.drop range.start) = true
  header : Header.decode? (stream.drop range.start) = some range.header
  length : range.stop = range.start + range.header.frameLength
  inside : range.stop ≤ stream.length

/-- The last four bytes of the range spell the check value of the bytes in front. -/
def CrcHolds (range : FrameRange) (stream : List UInt8) : Prop :=
  crc32 (stream.extract range.start (range.stop - trailerLength)) =
    UInt32.ofNat (leValue (stream.extract (range.stop - trailerLength) range.stop))

instance (range : FrameRange) (stream : List UInt8) : Decidable (range.CrcHolds stream) :=
  inferInstanceAs (Decidable (_ = _))

/-- The bytes of the range between the header and the check value. -/
def payload (range : FrameRange) (stream : List UInt8) : List UInt8 :=
  stream.extract (range.start + range.header.length) (range.stop - trailerLength)

/-- The payload stands behind the header, in front of the check value. -/
theorem payload_eq_drop (range : FrameRange) (stream : List UInt8) :
    range.payload stream =
      (stream.extract range.start (range.stop - trailerLength)).drop range.header.length := by
  rw [payload, List.extract_eq_take_drop, List.extract_eq_take_drop, List.drop_take,
    List.drop_drop, Nat.sub_add_eq]

variable {range : FrameRange} {stream : List UInt8}

/-- A header and a check value are parts of a frame. -/
theorem Located.length_add_trailerLength_le (h : range.Located stream) :
    range.start + range.header.length + trailerLength ≤ range.stop := by
  have hlength := h.length
  unfold Header.frameLength at hlength
  omega

/-- **The check of a frame compares the check value with the bytes in front**, and what stands
between it and the header is the payload. -/
theorem checkFrame_eq (h : range.Located stream) :
    checkFrame range.header (stream.drop range.start) =
      if range.CrcHolds stream then .intact (range.payload stream)
      else .corrupt
        (UInt32.ofNat (leValue (stream.extract (range.stop - trailerLength) range.stop)))
        (crc32 (stream.extract range.start (range.stop - trailerLength))) := by
  have hstop := h.length
  have hinside := h.inside
  have hparts := h.length_add_trailerLength_le
  have hfits : ¬(stream.drop range.start).length < range.header.frameLength := by
    rw [List.length_drop]
    omega
  have hbody : ((stream.drop range.start).take range.header.frameLength).take
      (range.header.frameLength - trailerLength) =
      stream.extract range.start (range.stop - trailerLength) := by
    rw [List.extract_eq_take_drop, List.take_take]
    congr 1
    omega
  have htrailer : ((stream.drop range.start).take range.header.frameLength).drop
      (range.header.frameLength - trailerLength) =
      stream.extract (range.stop - trailerLength) range.stop := by
    rw [List.extract_eq_take_drop, List.drop_take, List.drop_drop]
    congr 1
    · omega
    · congr 1
      omega
  unfold checkFrame
  dsimp only
  rw [if_neg hfits, hbody, htrailer, ← payload_eq_drop, checkCrc32, Verdict.compare]
  by_cases hcrc : range.CrcHolds stream
  · rw [if_pos hcrc, if_pos hcrc.symm]
  · rw [if_neg hcrc, if_neg (fun heq => hcrc heq.symm)]

/-- What stands at the start of a frame whose check value holds. -/
theorem ofBytes_of_crcHolds (h : range.Located stream) (hcrc : range.CrcHolds stream) :
    Found.ofBytes (stream.drop range.start) = .intact range.header (range.payload stream) := by
  rw [Found.ofBytes, h.header]
  dsimp only
  rw [checkFrame_eq h, if_pos hcrc]

/-- What stands at the start of a frame whose check value does not hold. -/
theorem ofBytes_of_not_crcHolds (h : range.Located stream) (hcrc : ¬range.CrcHolds stream) :
    ∃ expected computed,
      Found.ofBytes (stream.drop range.start) = .corrupt range.header expected computed := by
  rw [Found.ofBytes, h.header]
  dsimp only
  rw [checkFrame_eq h, if_neg hcrc]
  exact ⟨_, _, rfl⟩

/-- An intact frame stands at a range of the stream whose check value holds. -/
theorem of_ofBytes_eq_intact {start : Nat} {header : Header} {content : List UInt8}
    (h : Found.ofBytes (stream.drop start) = .intact header content) :
    let range : FrameRange := ⟨start, start + header.frameLength, header⟩
    range.Located stream ∧ range.CrcHolds stream ∧ range.payload stream = content := by
  unfold Found.ofBytes at h
  cases hheader : Header.decode? (stream.drop start) with
  | none => simp [hheader] at h
  | some header' =>
    cases hcheck : checkFrame header' (stream.drop start) with
    | incomplete => simp [hheader, hcheck] at h
    | corrupt expected computed => simp [hheader, hcheck] at h
    | intact content' =>
      simp only [hheader, hcheck, Found.intact.injEq] at h
      obtain ⟨rfl, rfl⟩ := h
      have hfits := frameLength_le_of_intact hcheck
      have hpositive := header'.length_pos
      have hpart := header'.length_le_frameLength
      rw [List.length_drop] at hfits
      have hlocated : Located ⟨start, start + header'.frameLength, header'⟩ stream :=
        ⟨Header.startsWithSync_of_decode? hheader, hheader, rfl, by dsimp only; omega⟩
      have heq := checkFrame_eq hlocated
      dsimp only at heq ⊢
      rw [hcheck] at heq
      split at heq
      next hcrc => exact ⟨hlocated, hcrc, (FrameCheck.intact.inj heq).symm⟩
      next => cases heq

/-! ## When the stream goes on -/

/-- A part of a stream stays what it is when the stream goes on. -/
theorem extract_append {stop : Nat} (h : stop ≤ stream.length) (start : Nat)
    (later : List UInt8) : (stream ++ later).extract start stop = stream.extract start stop := by
  rw [List.extract_eq_take_drop, List.extract_eq_take_drop, ← List.drop_take, ← List.drop_take,
    List.take_append_of_le_length h]

/-- A frame stays where it is when the stream goes on. -/
theorem Located.append (h : range.Located stream) (later : List UInt8) :
    range.Located (stream ++ later) := by
  have hstart : range.start ≤ stream.length := by
    have hlength := h.length
    have hinside := h.inside
    omega
  have hheader : Header.decode? ((stream ++ later).drop range.start) = some range.header := by
    rw [List.drop_append_of_le_length hstart]
    exact Header.decode?_append h.header later
  refine ⟨Header.startsWithSync_of_decode? hheader, hheader, h.length, ?_⟩
  rw [List.length_append]
  exact Nat.le_add_right_of_le h.inside

/-- The check value of a frame holds as before when the stream goes on. -/
theorem crcHolds_append (h : range.Located stream) (later : List UInt8) :
    range.CrcHolds (stream ++ later) ↔ range.CrcHolds stream := by
  unfold CrcHolds
  rw [extract_append h.inside, extract_append (Nat.le_trans (Nat.sub_le _ _) h.inside)]

/-- The payload of a frame is the same when the stream goes on. -/
theorem payload_append (h : range.Located stream) (later : List UInt8) :
    range.payload (stream ++ later) = range.payload stream :=
  extract_append (Nat.le_trans (Nat.sub_le _ _) h.inside) _ later

end FrameRange

end NavStream.Oem
