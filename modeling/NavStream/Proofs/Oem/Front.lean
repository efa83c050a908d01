import NavStream.Oem.Decoder
import NavStream.Proofs.Frame.Effect
import NavStream.Proofs.Oem.HeaderCodec

/-!
# The front of the unread bytes

What a cycle of the binary decoder does depends on what the unread bytes begin with, and not on how
much of it earlier cycles have seen already. `front` tells what they begin with: bytes to skip, and
behind them a frame that is intact or corrupt, or something that more bytes have to decide.

* `front` — what unread bytes begin with;
* `cycleEffect_eq_front` — a cycle does what the front calls for;
* `front_append_of_settled`, `front_append` — the front when more bytes arrive.
-/

namespace NavStream.Oem

open NavStream.Bytes NavStream.Checksum NavStream.Frame

/-! ## Checking a frame -/

/-- A frame is incomplete when there are fewer bytes than its header announces. -/
theorem checkFrame_eq_incomplete_iff {header : Header} {bytes : List UInt8} :
    checkFrame header bytes = .incomplete ↔ bytes.length < header.frameLength := by
  unfold checkFrame
  by_cases hlt : bytes.length < header.frameLength
  · rw [if_pos hlt]
    exact iff_of_true rfl hlt
  · rw [if_neg hlt]
    refine iff_of_false ?_ hlt
    dsimp only
    split <;> exact FrameCheck.noConfusion

/-- An intact frame is there as a whole. -/
theorem frameLength_le_of_intact {header : Header} {bytes payload : List UInt8}
    (h : checkFrame header bytes = .intact payload) : header.frameLength ≤ bytes.length := by
  rw [← Nat.not_lt, ← checkFrame_eq_incomplete_iff, h]
  exact FrameCheck.noConfusion

/-- The check of a complete frame does not change when more bytes arrive. -/
theorem checkFrame_append {header : Header} {bytes : List UInt8}
    (h : header.frameLength ≤ bytes.length) (later : List UInt8) :
    checkFrame header (bytes ++ later) = checkFrame header bytes := by
  unfold checkFrame
  rw [if_neg (by rw [List.length_append]; omega), if_neg (by omega),
    List.take_append_of_le_length h]

/-- A header is part of its frame. -/
theorem Header.length_le_frameLength (header : Header) : header.length ≤ header.frameLength := by
  unfold frameLength
  omega

/-- No header is empty. -/
theorem Header.length_pos (header : Header) : 0 < header.length := by
  obtain ⟨kind⟩ := header
  cases kind <;> exact Nat.succ_pos _

/-! ## What the unread bytes begin with -/

/-- What stands at the first sync pattern. -/
inductive Found where
  /-- There is no sync pattern. -/
  | nothing
  /-- The header is not complete yet. -/
  | partialHeader
  /-- The frame is not complete yet. -/
  | partialFrame (header : Header)
  /-- The frame carries `expected`, its contents give `computed`. -/
  | corrupt (header : Header) (expected computed : UInt32)
  /-- The frame is intact and carries `payload`. -/
  | intact (header : Header) (payload : List UInt8)
deriving DecidableEq

namespace Found

/-- Whether no more bytes are needed to decide what to do. -/
def settled : Found → Bool
  | corrupt .. | intact .. => true
  | nothing | partialHeader | partialFrame _ => false

/-- How many bytes are used up: the frame if it is intact, and only the header if not. -/
def length : Found → Nat
  | nothing | partialHeader | partialFrame _ => 0
  | corrupt header .. => header.length
  | intact header _ => header.frameLength

/-- What bytes are that begin with a sync pattern. -/
def ofBytes (bytes : List UInt8) : Found :=
  match Header.decode? bytes with
  | none => partialHeader
  | some header =>
    match checkFrame header bytes with
    | .incomplete => partialFrame header
    | .corrupt expected computed => corrupt header expected computed
    | .intact payload => intact header payload

end Found

/-- What the unread bytes begin with. -/
structure Front where
  /-- How many bytes to skip. -/
  skip : Nat
  /-- What stands behind them. -/
  found : Found
deriving DecidableEq

/-- What unread bytes begin with. Where there is no sync pattern the last two bytes may still begin
one. -/
def front (bytes : List UInt8) : Front :=
  match findOffset startsWithSync bytes with
  | none => ⟨bytes.length - (syncLength - 1), .nothing⟩
  | some offset => ⟨offset, .ofBytes (bytes.drop offset)⟩

namespace Front

/-- The same front behind `count` more bytes to skip. -/
def behind (front : Front) (count : Nat) : Front := { front with skip := front.skip + count }

/-- The reports of skipping. -/
def skipReports (front : Front) : List Diagnostic :=
  if 0 < front.skip then [.skippedToSync front.skip] else []

/-- What a cycle does that meets this front. -/
def effect (settings : Settings) (memory : Memory) (front : Front) : Effect State :=
  match front.found with
  | .nothing =>
    ⟨.seekHeader, ⟨none, memory⟩, front.skip, [],
      if 0 < front.skip then [.noSync front.skip] else [], .wait⟩
  | .partialHeader => ⟨.seekHeader, ⟨none, memory⟩, front.skip, [], front.skipReports, .wait⟩
  | .partialFrame header =>
    ⟨.extractPayload, ⟨some header, memory⟩, front.skip, [], front.skipReports, .wait⟩
  | .corrupt header expected computed =>
    ⟨.seekHeader, ⟨none, memory⟩, front.skip + header.length, [],
      front.skipReports ++
        [.crcMismatch header.messageId expected computed, .frameDecoded "novatel" 0],
      .continue⟩
  | .intact header payload =>
    let dispatched := memory.dispatch settings header payload
    ⟨.seekHeader, ⟨none, dispatched.memory⟩, front.skip + header.frameLength,
      dispatched.message.toList,
      front.skipReports ++ (dispatched.diagnostics ++
        [.frameDecoded "novatel" dispatched.message.toList.length]),
      .continue⟩

variable (settings : Settings) (memory : Memory) (front : Front)

/-- A cycle goes on after a frame that is complete. -/
theorem effect_next :
    (front.effect settings memory).next = if front.found.settled then .continue else .wait := by
  unfold effect
  cases front.found <;> rfl

/-- A cycle skips what is to be skipped and uses up what was found. -/
theorem effect_consumed :
    (front.effect settings memory).consumed = front.skip + front.found.length := by
  unfold effect
  cases front.found <;> rfl

/-- Where more bytes are needed nothing is given, and the memory stays. -/
theorem effect_of_open (h : front.found.settled = false) :
    (front.effect settings memory).messages = [] ∧
      (front.effect settings memory).state.memory = memory ∧ front.found.length = 0 := by
  unfold effect
  cases hfound : front.found <;> simp_all [Found.settled, Found.length]

/-- More bytes in front change nothing but how many are skipped. -/
theorem effect_behind (count : Nat) :
    ((front.behind count).effect settings memory).IsBehind count
      (front.effect settings memory) := by
  obtain ⟨skip, found⟩ := front
  constructor
  case consumed =>
    rw [effect_consumed, effect_consumed, behind]
    dsimp only
    omega
  all_goals cases found <;> rfl

end Front

/-- What is skipped and used up was there. -/
theorem skip_add_length_le (bytes : List UInt8) :
    (front bytes).skip + (front bytes).found.length ≤ bytes.length := by
  unfold front
  cases hfind : findOffset startsWithSync bytes with
  | none => exact Nat.sub_le _ _
  | some offset =>
    have hlt := (findOffset_eq_some hfind).1
    dsimp only
    unfold Found.ofBytes
    cases hheader : Header.decode? (bytes.drop offset) with
    | none => exact Nat.le_of_lt hlt
    | some header =>
      have hheaderLe := Header.length_le_of_decode? hheader
      rw [List.length_drop] at hheaderLe
      dsimp only
      cases hcheck : checkFrame header (bytes.drop offset) with
      | incomplete => exact Nat.le_of_lt hlt
      | corrupt expected computed =>
        simp only [Found.length]
        omega
      | intact payload =>
        have hle := frameLength_le_of_intact hcheck
        rw [List.length_drop] at hle
        simp only [Found.length]
        omega

/-! ## A cycle does what the front calls for -/

/-- Extracting a frame whose header is recorded checks the frame of this header. -/
theorem extract_of_recorded (settings : Settings) {state : State} {header : Header}
    (h : state.header = some header) (bytes : List UInt8) :
    extract settings state bytes =
      match checkFrame header bytes with
      | .incomplete => ⟨{ state with header := some header }, 0, .needMore, []⟩
      | .corrupt expected computed =>
        ⟨{ state with header := none }, header.length, .done [],
          [.crcMismatch header.messageId expected computed]⟩
      | .intact payload =>
        let dispatched := state.memory.dispatch settings header payload
        ⟨⟨none, dispatched.memory⟩, header.frameLength, .done dispatched.message.toList,
          dispatched.diagnostics⟩ := by
  rw [extract, h]
  rfl

/-- Extracting does what stands at the front, once its header was located. -/
theorem extractEffect_eq (settings : Settings) {state : State} {bytes : List UInt8}
    {header : Header} (hstate : state.header = some header)
    (hbytes : Header.decode? bytes = some header) :
    (decoder settings).extractEffect state bytes =
      Front.effect settings state.memory ⟨0, .ofBytes bytes⟩ := by
  have hextract : (decoder settings).extract state bytes = extract settings state bytes := rfl
  have hname : (decoder settings).name = "novatel" := rfl
  unfold FrameDecoder.extractEffect Found.ofBytes Front.effect
  rw [hextract, hname, extract_of_recorded settings hstate, hbytes]
  dsimp only
  cases hcheck : checkFrame header bytes with
  | incomplete => simp [Front.skipReports]
  | corrupt expected computed =>
    have hle : header.length ≤ bytes.length := Header.length_le_of_decode? hbytes
    have hpos := header.length_pos
    simp [Front.skipReports, Nat.min_eq_left hle, Nat.ne_of_gt hpos]
  | intact payload =>
    have hle := frameLength_le_of_intact hcheck
    have hpos : 0 < header.frameLength :=
      Nat.lt_of_lt_of_le header.length_pos header.length_le_frameLength
    simp [Front.skipReports, Nat.min_eq_left hle, Nat.ne_of_gt hpos]

/-- **A cycle does what the front of the unread bytes calls for**, also where an earlier cycle has
located the header already. -/
theorem cycleEffect_eq_front (settings : Settings) {phase : Phase} {state : State}
    {bytes : List UInt8}
    (h : phase = .extractPayload →
      ∃ header, state.header = some header ∧ Header.decode? bytes = some header) :
    (decoder settings).cycleEffect phase state bytes =
      (front bytes).effect settings state.memory := by
  have hseek : (decoder settings).seek state bytes = seek state bytes := rfl
  unfold FrameDecoder.cycleEffect
  cases phase with
  | extractPayload =>
    obtain ⟨header, hstate, hbytes⟩ := h rfl
    have hsync := Header.startsWithSync_of_decode? hbytes
    have hne : bytes ≠ [] := by rintro rfl; cases hsync
    dsimp only
    rw [extractEffect_eq settings hstate hbytes, front, findOffset_eq_zero hsync hne]
    rfl
  | seekHeader =>
    dsimp only
    rw [hseek, seek, front]
    cases hfind : findOffset startsWithSync bytes with
    | none => simp [Front.effect]
    | some offset =>
      have hoffset : offset ≤ bytes.length := Nat.le_of_lt (findOffset_eq_some hfind).1
      dsimp only
      rcases Option.eq_none_or_eq_some (Header.decode? (bytes.drop offset)) with
        hheader | ⟨header, hheader⟩
      · simp [Front.effect, Front.skipReports, Found.ofBytes, hheader, Nat.min_eq_left hoffset]
      · have hextract : (decoder settings).extractEffect
            ⟨Header.decode? (bytes.drop offset), state.memory⟩ (bytes.drop offset) =
            Front.effect settings state.memory ⟨0, .ofBytes (bytes.drop offset)⟩ :=
          extractEffect_eq settings hheader hheader
        rw [if_pos (by rw [hheader]; rfl), hextract, Nat.min_eq_left hoffset]
        cases hfound : Found.ofBytes (bytes.drop offset) with
        | nothing | partialHeader =>
          simp only [Found.ofBytes, hheader] at hfound
          split at hfound <;> cases hfound
        | partialFrame header' => simp [Front.effect, Front.skipReports]
        | corrupt header' expected computed => simp [Front.effect, Front.skipReports]
        | intact header' payload => simp [Front.effect, Front.skipReports]

/-! ## When more bytes arrive -/

/-- The sync pattern that was found stays the first one. -/
theorem findOffset_startsWithSync_append {bytes : List UInt8} {offset : Nat}
    (h : findOffset startsWithSync bytes = some offset) (later : List UInt8) :
    findOffset startsWithSync (bytes ++ later) = some offset := by
  obtain ⟨hlt, hsync, -⟩ := findOffset_eq_some h
  have hlength := syncLength_le_of_startsWithSync hsync
  refine findOffset_append_of_some windowed_startsWithSync h ?_ ?_
  · rw [List.length_drop] at hlength
    simp only [syncLength] at hlength
    omega
  · rw [windowed_startsWithSync _ _ hlength]
    exact hsync

/-- A frame that is complete stays what it is when more bytes arrive. -/
theorem Found.ofBytes_append {bytes : List UInt8} (h : (ofBytes bytes).settled = true)
    (later : List UInt8) : ofBytes (bytes ++ later) = ofBytes bytes := by
  unfold ofBytes at h ⊢
  cases hheader : Header.decode? bytes with
  | none => simp [hheader, settled] at h
  | some header =>
    rw [Header.decode?_append hheader]
    dsimp only
    have hle : header.frameLength ≤ bytes.length := by
      rw [← Nat.not_lt, ← checkFrame_eq_incomplete_iff]
      intro hcheck
      simp [hheader, hcheck, settled] at h
    rw [checkFrame_append hle]

/-- A front at which there is a sync pattern can be met from there on. -/
theorem front_append_of_some {bytes : List UInt8} {offset : Nat}
    (h : findOffset startsWithSync bytes = some offset) (later : List UInt8) :
    front (bytes ++ later) = ⟨offset, .ofBytes (bytes.drop offset ++ later)⟩ := by
  have hle : offset ≤ bytes.length := Nat.le_of_lt (findOffset_eq_some h).1
  rw [front, findOffset_startsWithSync_append h later]
  dsimp only
  rw [List.drop_append_of_le_length hle]

/-- **What was decided stays decided** when more bytes arrive. -/
theorem front_append_of_settled {bytes : List UInt8} (h : (front bytes).found.settled = true)
    (later : List UInt8) : front (bytes ++ later) = front bytes := by
  cases hfind : findOffset startsWithSync bytes with
  | none => simp [front, hfind, Found.settled] at h
  | some offset =>
    rw [front_append_of_some hfind]
    rw [front, hfind] at h ⊢
    rw [Found.ofBytes_append h]

/-- **What is to be skipped may be skipped at once**: the front after more bytes have come is the
same, whether bytes are skipped before or after. -/
theorem front_append (bytes later : List UInt8) :
    front (bytes ++ later) =
      (front (bytes.drop (front bytes).skip ++ later)).behind (front bytes).skip := by
  cases hfind : findOffset startsWithSync bytes with
  | none =>
    have hskip : (front bytes).skip = bytes.length - (syncLength - 1) := by rw [front, hfind]
    have hsearch : findOffset startsWithSync (bytes ++ later) =
        (findOffset startsWithSync (bytes.drop (bytes.length - (syncLength - 1)) ++ later)).map
          (· + (bytes.length - (syncLength - 1))) :=
      findOffset_append_of_none windowed_startsWithSync hfind later
    have hle : bytes.length - (syncLength - 1) ≤ bytes.length := Nat.sub_le _ _
    rw [hskip, front, front, hsearch]
    cases findOffset startsWithSync (bytes.drop (bytes.length - (syncLength - 1)) ++ later) with
    | none =>
      simp only [Option.map_none, Front.behind, List.length_append, List.length_drop, syncLength,
        Front.mk.injEq, and_true]
      omega
    | some offset =>
      simp only [Option.map_some, Front.behind]
      rw [Nat.add_comm, ← List.drop_drop, List.drop_append_of_le_length hle, Nat.add_comm]
  | some offset =>
    have hskip : (front bytes).skip = offset := by rw [front, hfind]
    obtain ⟨hlt, hsync, -⟩ := findOffset_eq_some hfind
    have hzero : findOffset startsWithSync (bytes.drop offset) = some 0 :=
      findOffset_eq_zero hsync (List.ne_nil_of_length_pos (by rw [List.length_drop]; omega))
    rw [hskip, front_append_of_some hfind, front_append_of_some hzero]
    simp [Front.behind]

end NavStream.Oem
