import NavStream.Proofs.Oem.FrameRange

/-!
# Frames that were encoded

A frame that was encoded around a payload that its header can announce is intact, whatever stands
behind it, and gives the payload back.

* `HeaderKind.maxPayload` — the longest payload that a layout can announce;
* `announced`, `located_encodeFrame` — the header of an encoded frame, and where the frame stands;
* `ofBytes_encodeFrame` — an encoded frame is found intact.
-/

namespace NavStream.Oem

open NavStream.Bytes NavStream.Checksum

/-- The length of the longest payload that a header of the layout can announce. -/
def HeaderKind.maxPayload : HeaderKind → Nat
  | long => 65535
  | short => 255

/-- The header that stands in front of an encoded frame: it announces the length of the payload, as
far as two bytes can tell it. -/
def announcing (header : Header) (payload : List UInt8) : Header :=
  { header with messageLength := UInt16.ofNat (min payload.length 65535) }

/-- The header that an encoded frame reads back. -/
def announced (header : Header) (payload : List UInt8) : Header :=
  (announcing header payload).readBack

/-- An encoded frame is its header, its payload and their check value. -/
theorem encodeFrame_eq (header : Header) (payload : List UInt8) :
    encodeFrame header payload =
      (announcing header payload).encode ++ payload ++
        trailerOf (crc32 ((announcing header payload).encode ++ payload)) := rfl

/-- The header of an encoded frame has the layout that was asked for. -/
theorem length_announced (header : Header) (payload : List UInt8) :
    (announced header payload).length = header.length := by
  obtain ⟨kind⟩ := header
  cases kind <;> rfl

/-- The header of an encoded frame is as long as its layout says. -/
theorem length_announcing_encode (header : Header) (payload : List UInt8) :
    (announcing header payload).encode.length = header.length :=
  Header.length_encode _

/-- An encoded frame announces its payload, if its layout can. -/
theorem frameLength_announced {header : Header} {payload : List UInt8}
    (h : payload.length ≤ header.kind.maxPayload) :
    (announced header payload).frameLength = header.length + payload.length + trailerLength := by
  have hmessage : (announced header payload).messageLength.toNat = payload.length := by
    obtain ⟨kind⟩ := header
    cases kind with
    | long =>
      show (UInt16.ofNat (min payload.length 65535)).toNat = payload.length
      simp only [HeaderKind.maxPayload] at h
      rw [Nat.min_eq_left h, UInt16.toNat_ofNat']
      omega
    | short =>
      show (UInt16.ofNat (min payload.length 65535)).toUInt8.toUInt16.toNat = payload.length
      simp only [HeaderKind.maxPayload] at h
      rw [Nat.min_eq_left (by omega), UInt8.toNat_toUInt16, UInt16.toNat_toUInt8,
        UInt16.toNat_ofNat']
      omega
  rw [Header.frameLength, hmessage, length_announced]

/-- An encoded frame is as long as its header announces. -/
theorem length_encodeFrame {header : Header} {payload : List UInt8}
    (h : payload.length ≤ header.kind.maxPayload) :
    (encodeFrame header payload).length = (announced header payload).frameLength := by
  rw [encodeFrame_eq, frameLength_announced h, List.length_append, List.length_append,
    length_announcing_encode, trailerOf, leBytes_length]

/-- An encoded frame begins with its header. -/
theorem decode?_encodeFrame_append (header : Header) (payload rest : List UInt8) :
    Header.decode? (encodeFrame header payload ++ rest) = some (announced header payload) := by
  rw [encodeFrame_eq, List.append_assoc, List.append_assoc]
  exact Header.decode?_encode_append _ _

/-- The range of an encoded frame at the front of a stream. -/
def encodedRange (header : Header) (payload : List UInt8) : FrameRange :=
  ⟨0, (announced header payload).frameLength, announced header payload⟩

/-- An encoded frame is announced by its header and lies inside the stream. -/
theorem located_encodeFrame {header : Header} {payload : List UInt8}
    (h : payload.length ≤ header.kind.maxPayload) (rest : List UInt8) :
    (encodedRange header payload).Located (encodeFrame header payload ++ rest) := by
  have hdecode := decode?_encodeFrame_append header payload rest
  refine ⟨Header.startsWithSync_of_decode? hdecode, hdecode, (Nat.zero_add _).symm, ?_⟩
  rw [List.length_append, length_encodeFrame h]
  exact Nat.le_add_right _ _

/-- What stands in front of the check value of an encoded frame. -/
theorem extract_body_encodeFrame {header : Header} {payload : List UInt8}
    (h : payload.length ≤ header.kind.maxPayload) (rest : List UInt8) :
    (encodeFrame header payload ++ rest).extract 0
        ((announced header payload).frameLength - trailerLength) =
      (announcing header payload).encode ++ payload := by
  have hbody : (announced header payload).frameLength - trailerLength =
      ((announcing header payload).encode ++ payload).length := by
    rw [frameLength_announced h, List.length_append, length_announcing_encode]
    omega
  rw [List.extract_eq_take_drop, hbody, encodeFrame_eq, List.append_assoc, Nat.sub_zero,
    List.drop_zero, List.take_left]

/-- **An encoded frame is found intact**, whatever stands behind it, and gives its payload back. -/
theorem ofBytes_encodeFrame {header : Header} {payload : List UInt8}
    (h : payload.length ≤ header.kind.maxPayload) (rest : List UInt8) :
    Found.ofBytes (encodeFrame header payload ++ rest) =
      .intact (announced header payload) payload := by
  have hbody := extract_body_encodeFrame h rest
  have hlength : ((announcing header payload).encode ++ payload).length + trailerLength =
      (announced header payload).frameLength := by
    rw [frameLength_announced h, List.length_append, length_announcing_encode]
  have htrailer : (encodeFrame header payload ++ rest).extract
      ((announced header payload).frameLength - trailerLength)
      (announced header payload).frameLength =
      trailerOf (crc32 ((announcing header payload).encode ++ payload)) := by
    rw [List.extract_eq_take_drop, ← hlength, Nat.add_sub_cancel, encodeFrame_eq,
      List.append_assoc, List.drop_left, Nat.add_sub_cancel_left]
    exact List.take_left' (leBytes_length _ _)
  have hcrc : (encodedRange header payload).CrcHolds (encodeFrame header payload ++ rest) := by
    show crc32 _ = UInt32.ofNat (leValue _)
    rw [encodedRange, hbody, htrailer, ofNat_leValue_trailerOf]
  have hpayload : (encodedRange header payload).payload (encodeFrame header payload ++ rest) =
      payload := by
    rw [FrameRange.payload_eq_drop, encodedRange, hbody, length_announced]
    exact List.drop_left' (length_announcing_encode header payload)
  have hfound := FrameRange.ofBytes_of_crcHolds (located_encodeFrame h rest) hcrc
  rw [hpayload] at hfound
  exact hfound

end NavStream.Oem
