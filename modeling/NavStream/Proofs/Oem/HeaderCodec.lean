import NavStream.Oem.Header
import NavStream.Proofs.Bytes.FixedWidth
import NavStream.Proofs.Bytes.Windows

/-!
# Reading and writing headers

A header is read from a fixed number of bytes, which its sync pattern tells. More bytes do not
change what was read, and a header that was written reads back as far as its layout reaches. One
that was read is written as it was, but for what a long one does not keep.

* `startsWithSync_iff`, `windowed_startsWithSync` — what a sync pattern is;
* `Header.decode?_append` — a header stays the same when more bytes arrive;
* `Header.isSome_decode?_sync` — when there is a header;
* `Header.decode?_encode_append` — a header that was written reads back;
* `Header.encode_of_decode?` — a header that was read is written as it was;
* `Header.codec_laws` — all of it together.
-/

namespace NavStream.Oem

open NavStream.Bytes NavStream.Bytes.FieldReader

/-- The selector of a layout selects it. -/
@[simp] theorem HeaderKind.ofSelector?_selector (kind : HeaderKind) :
    ofSelector? kind.selector = some kind := by
  cases kind <;> rfl

/-- A byte that selects a layout is its selector. -/
theorem HeaderKind.selector_of_ofSelector? {selector : UInt8} {kind : HeaderKind}
    (h : ofSelector? selector = some kind) : kind.selector = selector := by
  unfold ofSelector? at h
  split at h
  next hlong => cases h; exact hlong.symm
  next =>
    split at h
    next hshort => cases h; exact hshort.symm
    next => cases h

/-- Bytes begin with a sync pattern when they begin with the sync bytes of a layout. -/
theorem startsWithSync_iff {bytes : List UInt8} :
    startsWithSync bytes = true ↔
      ∃ (kind : HeaderKind) (rest : List UInt8), bytes = 0xAA :: 0x44 :: kind.selector :: rest := by
  constructor
  · intro h
    unfold startsWithSync at h
    split at h
    next selector rest =>
      obtain ⟨kind, hkind⟩ := Option.isSome_iff_exists.1 h
      exact ⟨kind, rest, by rw [HeaderKind.selector_of_ofSelector? hkind]⟩
    next => cases h
  · rintro ⟨kind, rest, rfl⟩
    simp [startsWithSync]

/-- A sync pattern is longer than nothing. -/
theorem syncLength_le_of_startsWithSync {bytes : List UInt8} (h : startsWithSync bytes = true) :
    syncLength ≤ bytes.length := by
  obtain ⟨kind, rest, rfl⟩ := startsWithSync_iff.1 h
  simp [syncLength]

/-- Whether bytes begin with a sync pattern is told by the first three. -/
theorem windowed_startsWithSync : Windowed startsWithSync syncLength := by
  intro front back h
  match front with
  | [] | [_] | [_, _] => simp [syncLength] at h
  | first :: second :: third :: rest =>
    rw [Bool.eq_iff_iff, startsWithSync_iff, startsWithSync_iff]
    simp

namespace HeaderKind

/-- The fields behind the sync bytes of a layout. -/
def fields : HeaderKind → FieldReader Header
  | long => Header.longFields
  | short => Header.shortFields

/-- The fields of a layout fill its header behind the sync bytes. -/
theorem fixedWidth_fields (kind : HeaderKind) :
    FixedWidth kind.fields (kind.length - syncLength) := by
  cases kind with
  | long =>
    exact (fixedWidth_skip 1).bind fun _ => fixedWidth_word16.bind fun _ =>
      fixedWidth_word8.bind fun _ => fixedWidth_word8.bind fun _ =>
      fixedWidth_word16.bind fun _ => fixedWidth_word16.bind fun _ =>
      fixedWidth_word8.bind fun _ => fixedWidth_word8.bind fun _ =>
      fixedWidth_word16.bind fun _ => fixedWidth_word32.bind fun _ =>
      fixedWidth_word32.bind fun _ => (fixedWidth_skip 2).bind fun _ =>
      fixedWidth_word16.map _
  | short =>
    exact fixedWidth_word8.bind fun _ => fixedWidth_word16.bind fun _ =>
      fixedWidth_word16.bind fun _ => fixedWidth_word32.map _

/-- The fields of a layout give a header of that layout. -/
theorem yields_fields (kind : HeaderKind) : Yields kind.fields (·.kind = kind) := by
  cases kind with
  | long =>
    iterate 13 refine Yields.bind fun _ => ?_
    exact Yields.pure rfl
  | short =>
    iterate 4 refine Yields.bind fun _ => ?_
    exact Yields.pure rfl

end HeaderKind

namespace Header

/-- A header is read as the sync pattern says. -/
theorem decode?_sync (kind : HeaderKind) (rest : List UInt8) :
    decode? (0xAA :: 0x44 :: kind.selector :: rest) = FieldReader.decode? kind.fields rest := by
  cases kind <;> rfl

/-- Where there is a header there is a sync pattern. -/
theorem startsWithSync_of_decode? {bytes : List UInt8} {header : Header}
    (h : decode? bytes = some header) : startsWithSync bytes = true := by
  unfold decode? at h
  split at h
  next selector rest =>
    cases hkind : HeaderKind.ofSelector? selector with
    | none => simp [hkind] at h
    | some kind => simp [startsWithSync, hkind]
  next => cases h

/-- A header was read from the sync bytes of its layout and the fields behind them. -/
theorem of_decode? {bytes : List UInt8} {header : Header} (h : decode? bytes = some header) :
    ∃ rest, bytes = 0xAA :: 0x44 :: header.kind.selector :: rest ∧
      FieldReader.decode? header.kind.fields rest = some header := by
  obtain ⟨kind, rest, rfl⟩ := startsWithSync_iff.1 (startsWithSync_of_decode? h)
  rw [decode?_sync] at h
  have hkind : header.kind = kind := kind.yields_fields.of_decode? h
  rw [hkind]
  exact ⟨rest, rfl, h⟩

/-- There is a header exactly where there is a sync pattern and as many bytes as its layout
takes. -/
theorem isSome_decode?_sync (kind : HeaderKind) (rest : List UInt8) :
    (decode? (0xAA :: 0x44 :: kind.selector :: rest)).isSome ↔
      kind.length ≤ rest.length + syncLength := by
  rw [decode?_sync, kind.fixedWidth_fields.isSome_decode?]
  exact Nat.sub_le_iff_le_add

/-- A header was read from as many bytes as it is long. -/
theorem length_le_of_decode? {bytes : List UInt8} {header : Header}
    (h : decode? bytes = some header) : header.length ≤ bytes.length := by
  obtain ⟨rest, rfl, hfields⟩ := of_decode? h
  exact (isSome_decode?_sync header.kind rest).1 (by rw [h]; rfl)

/-- A header stays the same when more bytes arrive. -/
theorem decode?_append {bytes : List UInt8} {header : Header} (h : decode? bytes = some header)
    (later : List UInt8) : decode? (bytes ++ later) = some header := by
  obtain ⟨rest, rfl, hfields⟩ := of_decode? h
  have hwidth := (header.kind.fixedWidth_fields.isSome_decode? rest).1 (by rw [hfields]; rfl)
  rw [← hfields, ← header.kind.fixedWidth_fields.decode?_append hwidth later]
  exact decode?_sync header.kind (rest ++ later)

/-- What a header reads back as once it was written: a short one keeps the low byte of the payload
length, and none of the fields that only long ones have. -/
def readBack (header : Header) : Header :=
  match header.kind with
  | .long => header
  | .short =>
    short header.messageId header.messageLength.toUInt8.toUInt16 header.gpsWeek
      header.gpsMillisecs

/-- A header that was written reads back, whatever stands behind it. -/
theorem decode?_encode_append (header : Header) (rest : List UInt8) :
    decode? (header.encode ++ rest) = some header.readBack := by
  obtain ⟨kind⟩ := header
  cases kind with
  | long =>
    simp only [encode, List.append_assoc, List.cons_append, List.nil_append]
    rw [decode?_sync, HeaderKind.fields, FieldReader.decode?, longFields,
      bind_of_eq (skip_one_cons _ _), bind_of_eq (word16_leBytes _ _), bind_of_eq (word8_cons _ _),
      bind_of_eq (word8_cons _ _), bind_of_eq (word16_leBytes _ _),
      bind_of_eq (word16_leBytes _ _), bind_of_eq (word8_cons _ _), bind_of_eq (word8_cons _ _),
      bind_of_eq (word16_leBytes _ _), bind_of_eq (word32_leBytes _ _),
      bind_of_eq (word32_leBytes _ _), bind_of_eq (skip_two_cons _ _ _),
      bind_of_eq (word16_leBytes _ _)]
    rfl
  | short =>
    simp only [encode, List.append_assoc, List.cons_append, List.nil_append]
    rw [decode?_sync, HeaderKind.fields, FieldReader.decode?, shortFields,
      bind_of_eq (word8_cons _ _), bind_of_eq (word16_leBytes _ _),
      bind_of_eq (word16_leBytes _ _), bind_of_eq (word32_leBytes _ _)]
    rfl

/-- What becomes of the bytes of a header that is read and written again: a long one does not keep
its own length and the reserved field. -/
def rewritten (kind : HeaderKind) (bytes : List UInt8) : List UInt8 :=
  match kind with
  | .long => (((bytes.take 28).set 3 28).set 24 0).set 25 0
  | .short => bytes.take 12

/-- The fields of a long header are written as they were read, the length of the header and the
reserved field apart. -/
theorem encode_of_longFields {rest : List UInt8} {header : Header}
    (hlength : HeaderKind.long.length ≤ rest.length + syncLength)
    (hfields : FieldReader.decode? HeaderKind.long.fields rest = some header) :
    header.encode =
      rewritten .long (0xAA :: 0x44 :: HeaderKind.long.selector :: rest) := by
  match rest, hlength with
  | _ :: id0 :: id1 :: type :: port :: len0 :: len1 :: seq0 :: seq1 :: idle :: status ::
      week0 :: week1 :: ms0 :: ms1 :: ms2 :: ms3 :: rec0 :: rec1 :: rec2 :: rec3 ::
      _ :: _ :: ver0 :: ver1 :: tail, _ =>
    obtain ⟨id, hid, hreadId⟩ := exists_word16 id0 id1
    obtain ⟨len, hlen, hreadLen⟩ := exists_word16 len0 len1
    obtain ⟨seq, hseq, hreadSeq⟩ := exists_word16 seq0 seq1
    obtain ⟨week, hweek, hreadWeek⟩ := exists_word16 week0 week1
    obtain ⟨ms, hms, hreadMs⟩ := exists_word32 ms0 ms1 ms2 ms3
    obtain ⟨receiver, hreceiver, hreadReceiver⟩ := exists_word32 rec0 rec1 rec2 rec3
    obtain ⟨version, hversion, hreadVersion⟩ := exists_word16 ver0 ver1
    rw [HeaderKind.fields, FieldReader.decode?, longFields, bind_of_eq (skip_one_cons _ _),
      bind_of_eq (hreadId _), bind_of_eq (word8_cons _ _), bind_of_eq (word8_cons _ _),
      bind_of_eq (hreadLen _), bind_of_eq (hreadSeq _), bind_of_eq (word8_cons _ _),
      bind_of_eq (word8_cons _ _), bind_of_eq (hreadWeek _), bind_of_eq (hreadMs _),
      bind_of_eq (hreadReceiver _), bind_of_eq (skip_two_cons _ _ _),
      bind_of_eq (hreadVersion _), pure_apply, Option.map_some, Option.some.injEq] at hfields
    subst hfields
    simp [encode, rewritten, hid, hlen, hseq, hweek, hms, hreceiver, hversion]

/-- The fields of a short header are written as they were read. -/
theorem encode_of_shortFields {rest : List UInt8} {header : Header}
    (hlength : HeaderKind.short.length ≤ rest.length + syncLength)
    (hfields : FieldReader.decode? HeaderKind.short.fields rest = some header) :
    header.encode =
      rewritten .short (0xAA :: 0x44 :: HeaderKind.short.selector :: rest) := by
  match rest, hlength with
  | length :: id0 :: id1 :: week0 :: week1 :: ms0 :: ms1 :: ms2 :: ms3 :: tail, _ =>
    obtain ⟨id, hid, hreadId⟩ := exists_word16 id0 id1
    obtain ⟨week, hweek, hreadWeek⟩ := exists_word16 week0 week1
    obtain ⟨ms, hms, hreadMs⟩ := exists_word32 ms0 ms1 ms2 ms3
    rw [HeaderKind.fields, FieldReader.decode?, shortFields, bind_of_eq (word8_cons _ _),
      bind_of_eq (hreadId _), bind_of_eq (hreadWeek _), bind_of_eq (hreadMs _), pure_apply,
      Option.map_some, Option.some.injEq] at hfields
    subst hfields
    simp [encode, rewritten, short, hid, hweek, hms]

/-- A header that was read is written as it was, its own length and the reserved field of a long
one apart. -/
theorem encode_of_decode? {bytes : List UInt8} {header : Header}
    (h : decode? bytes = some header) : header.encode = rewritten header.kind bytes := by
  obtain ⟨rest, rfl, hfields⟩ := of_decode? h
  have hlength := (isSome_decode?_sync header.kind rest).1 (by rw [h]; rfl)
  cases hkind : header.kind with
  | long =>
    rw [hkind] at hfields hlength
    exact encode_of_longFields hlength hfields
  | short =>
    rw [hkind] at hfields hlength
    exact encode_of_shortFields hlength hfields

/-- Bytes begin with a sync pattern and have as many bytes as its layout takes. -/
theorem isSome_decode?_iff (bytes : List UInt8) :
    (decode? bytes).isSome ↔
      ∃ kind : HeaderKind, [0xAA, 0x44, kind.selector] <+: bytes ∧ kind.length ≤ bytes.length := by
  constructor
  · intro h
    obtain ⟨header, hheader⟩ := Option.isSome_iff_exists.1 h
    obtain ⟨rest, hbytes, -⟩ := of_decode? hheader
    exact ⟨header.kind, ⟨rest, hbytes.symm⟩, length_le_of_decode? hheader⟩
  · rintro ⟨kind, ⟨rest, rfl⟩, hlength⟩
    exact (isSome_decode?_sync kind rest).2 hlength

/-- **The codec of headers.** A long header comes back whatever follows it; a short one comes back
with the low byte of the payload length and without the fields that it does not have. There is a
header exactly where there is a sync pattern and as many bytes as its layout takes, and writing it
again gives these bytes, the own length and the reserved field of a long one apart. -/
theorem codec_laws :
    (∀ (header : Header) (rest : List UInt8), header.kind = .long →
      decode? (header.encode ++ rest) = some header) ∧
    (∀ (header : Header) (rest : List UInt8), header.kind = .short →
      decode? (header.encode ++ rest) =
        some (short header.messageId (UInt16.ofNat (header.messageLength.toNat % 256))
          header.gpsWeek header.gpsMillisecs)) ∧
    (∀ (messageId messageLength gpsWeek : UInt16) (gpsMillisecs : UInt32) (rest : List UInt8),
      messageLength.toNat < 256 →
      decode? ((short messageId messageLength gpsWeek gpsMillisecs).encode ++ rest) =
        some (short messageId messageLength gpsWeek gpsMillisecs)) ∧
    (∀ bytes : List UInt8, (decode? bytes).isSome ↔
      [0xAA, 0x44, 0x12] <+: bytes ∧ 28 ≤ bytes.length ∨
        [0xAA, 0x44, 0x13] <+: bytes ∧ 12 ≤ bytes.length) ∧
    (∀ (bytes : List UInt8) (header : Header), decode? bytes = some header →
      header.encode = rewritten header.kind bytes) := by
  have hshort (header : Header) (rest : List UInt8) (hkind : header.kind = .short) :
      decode? (header.encode ++ rest) =
        some (short header.messageId (UInt16.ofNat (header.messageLength.toNat % 256))
          header.gpsWeek header.gpsMillisecs) := by
    have hlow : header.messageLength.toUInt8.toUInt16 =
        UInt16.ofNat (header.messageLength.toNat % 256) := by
      rw [← UInt16.toNat_inj, UInt8.toNat_toUInt16, UInt16.toNat_toUInt8, UInt16.toNat_ofNat']
      omega
    rw [decode?_encode_append, readBack, hkind, ← hlow]
  refine ⟨?_, hshort, ?_, ?_, fun bytes header => encode_of_decode?⟩
  · intro header rest hkind
    rw [decode?_encode_append, readBack, hkind]
  · intro messageId messageLength gpsWeek gpsMillisecs rest hlength
    rw [hshort _ rest rfl]
    simp only [short]
    rw [Nat.mod_eq_of_lt hlength, UInt16.ofNat_toNat]
  · intro bytes
    rw [isSome_decode?_iff]
    constructor
    · rintro ⟨kind, h⟩
      cases kind with
      | long => exact .inl h
      | short => exact .inr h
    · rintro (h | h)
      · exact ⟨.long, h⟩
      · exact ⟨.short, h⟩

/-- The headers of a position log and of an inertial one as a receiver sent them. -/
theorem codec_laws_of_received :
    Header.encode { kind := .long, messageId := 42, messageLength := 72, gpsWeek := 2223,
                    gpsMillisecs := 401640000, messageType := 0, portAddress := 0x20,
                    sequence := 0, idleTime := 0x90, timeStatus := 0xB4, receiverStatus := 0,
                    swVersion := 0x182B } =
      [0xAA, 0x44, 0x12, 0x1C, 0x2A, 0, 0, 0x20, 0x48, 0, 0, 0, 0x90, 0xB4, 0xAF, 0x08, 0x40,
        0x8A, 0xF0, 0x17, 0, 0, 0, 0, 0, 0, 0x2B, 0x18] ∧
    decode? ((short 507 0x5F 2223 401640000).encode ++ [1, 2, 3]) =
      some (short 507 0x5F 2223 401640000) := by
  have hread : decode? [0xAA, 0x44, 0x12, 0x1C, 0x2A, 0, 0, 0x20, 0x48, 0, 0, 0, 0x90, 0xB4, 0xAF,
      0x08, 0x40, 0x8A, 0xF0, 0x17, 0, 0, 0, 0, 0x7B, 0xCD, 0x2B, 0x18, 1, 2, 3] =
      some { kind := .long, messageId := 42, messageLength := 72, gpsWeek := 2223,
             gpsMillisecs := 401640000, messageType := 0, portAddress := 0x20, sequence := 0,
             idleTime := 0x90, timeStatus := 0xB4, receiverStatus := 0, swVersion := 0x182B } := by
    decide
  have hshort := codec_laws.2.2.1 507 0x5F 2223 401640000 [1, 2, 3] (by decide)
  exact ⟨codec_laws.2.2.2.2 _ _ hread, hshort⟩

end Header

end NavStream.Oem
