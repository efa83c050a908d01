import NavStream.Proofs.Sentence.Ending

/-!
# Intact sentences

What a whole sentence leads to can be told without going through the checks one by one: an intact
sentence gives what it carries, and any other gives nothing.

* `Intact` — what the checks ask of a sentence;
* `carried` — the messages that an intact sentence carries;
* `checkFrame_of_not_intact` — a sentence that is not intact gives one warning and nothing else;
* `checkFrame_messages` — the checks let pass just the intact sentences;
* `Carries` — what a sentence gives that gives anything at all;
* `Delivers`, `Carries.delivers` — the kinds and the times of these messages;
* `intact_of_longerToken` — an intact sentence is intact under the longer token as well.
-/

namespace NavStream.Sentence

open NavStream.Bytes NavStream.Checksum NavStream.Frame

/-- Where the asterisk of a sentence belongs: in front of the digits and the terminator. -/
def starOf (frame : List UInt8) : Nat := frame.length - terminator.length - digitCount - 1

/-- What stands in front of the asterisk. -/
def bodyOf (frame : List UInt8) : List UInt8 := frame.take (starOf frame)

/-- A sentence that is long enough for its token, has the asterisk in its place, and whose digits
spell the exclusive or of the bytes between the dollar sign and the asterisk. -/
structure Intact (kind : Kind) (frame : List UInt8) : Prop where
  /-- Token, asterisk, digits and terminator have room. -/
  long : kind.token.length + 1 + digitCount + terminator.length ≤ frame.length
  /-- The asterisk stands where it belongs. -/
  star : frame.getD (starOf frame) 0 = delimiter
  /-- The digits are hexadecimal, and spell the check value. -/
  digits : hexByte? (frame.getD (starOf frame + 1) 0) (frame.getD (starOf frame + 2) 0) =
    some (xorChecksum ((bodyOf frame).drop 1))

/-- What the checks ask of a sentence, check by check. -/
theorem intact_iff {kind : Kind} {frame : List UInt8} :
    Intact kind frame ↔
      kind.token.length + 1 + digitCount + terminator.length ≤ frame.length ∧
        frame.getD (starOf frame) 0 = delimiter ∧
        hexByte? (frame.getD (starOf frame + 1) 0) (frame.getD (starOf frame + 2) 0) =
          some (xorChecksum ((bodyOf frame).drop 1)) :=
  ⟨fun h => ⟨h.long, h.star, h.digits⟩, fun ⟨long, star, digits⟩ => ⟨long, star, digits⟩⟩

instance (kind : Kind) (frame : List UInt8) : Decidable (Intact kind frame) :=
  decidable_of_iff _ intact_iff.symm

/-- The record that is written in front of the asterisk, if it is text and reads as one. -/
def recordOf? (frame : List UInt8) : Option Record :=
  (Text.decode? (bodyOf frame)).bind fun sentence => (Record.parse sentence).toOption

/-- The messages that an intact sentence carries: a position sentence itself, and the messages of
the record that any other holds. -/
def carried (kind : Kind) (frame : List UInt8) : List Message :=
  match kind with
  | .gpgga => [.raw ⟨.gpgga, frame⟩]
  | .gpchc | .gpchcx => ((recordOf? frame).map Record.bundle).getD []

/-! ## The checks -/

/-- Interpreting a sentence gives what it carries. -/
theorem interpret_messages (kind : Kind) (frame : List UInt8) :
    (interpret kind frame (bodyOf frame)).1 = carried kind frame := by
  unfold interpret carried recordOf?
  cases kind with
  | gpgga => rfl
  | gpchc | gpchcx =>
    dsimp only
    cases Text.decode? (bodyOf frame) with
    | none => rfl
    | some sentence =>
      dsimp only [Option.bind_some]
      cases Record.parse sentence <;> rfl

/-- The checks one after the other, by the place of the asterisk. -/
theorem checkFrame_eq (kind : Kind) (frame : List UInt8) :
    checkFrame kind frame =
      if frame.length < kind.token.length + 1 + digitCount + terminator.length then
        ([], [.sentenceTooShort kind frame.length])
      else if frame.getD (starOf frame) 0 ≠ delimiter then ([], [.noChecksum kind])
      else
        match checkXor ((bodyOf frame).drop 1) (frame.getD (starOf frame + 1) 0)
          (frame.getD (starOf frame + 2) 0) with
        | .mismatch expected computed => ([], [.checksumMismatch kind expected computed])
        | .intact => interpret kind frame (bodyOf frame) :=
  rfl

/-- An intact sentence is interpreted. -/
theorem checkFrame_of_intact {kind : Kind} {frame : List UInt8} (h : Intact kind frame) :
    checkFrame kind frame = interpret kind frame (bodyOf frame) := by
  have hstar : ¬frame.getD (starOf frame) 0 ≠ delimiter := not_not_intro h.star
  rw [checkFrame_eq, if_neg (Nat.not_lt_of_le h.long), if_neg hstar,
    checkXor_eq_intact_iff.2 h.digits]

/-- **A sentence that is not intact gives one warning**, and nothing else. -/
theorem checkFrame_of_not_intact {kind : Kind} {frame : List UInt8} (h : ¬Intact kind frame) :
    ∃ report : Diagnostic, checkFrame kind frame = ([], [report]) ∧ report.level = .warn := by
  rw [checkFrame_eq]
  by_cases hshort : frame.length < kind.token.length + 1 + digitCount + terminator.length
  · rw [if_pos hshort]
    exact ⟨_, rfl, rfl⟩
  · rw [if_neg hshort]
    by_cases hstar : frame.getD (starOf frame) 0 ≠ delimiter
    · rw [if_pos hstar]
      exact ⟨_, rfl, rfl⟩
    · rw [if_neg hstar]
      cases hcheck : checkXor ((bodyOf frame).drop 1) (frame.getD (starOf frame + 1) 0)
        (frame.getD (starOf frame + 2) 0) with
      | mismatch expected computed => exact ⟨_, rfl, rfl⟩
      | intact =>
        refine absurd ⟨Nat.le_of_not_lt hshort, Decidable.not_not.1 hstar, ?_⟩ h
        exact checkXor_eq_intact_iff.1 hcheck

/-- **The checks let pass just the intact sentences**, and these give what they carry. -/
theorem checkFrame_messages (kind : Kind) (frame : List UInt8) :
    (checkFrame kind frame).1 = if Intact kind frame then carried kind frame else [] := by
  by_cases hintact : Intact kind frame
  · rw [checkFrame_of_intact hintact, if_pos hintact]
    exact interpret_messages kind frame
  · obtain ⟨report, hcheck, -⟩ := checkFrame_of_not_intact hintact
    rw [hcheck, if_neg hintact]

/-- `Carries frame kind messages`: a sentence of this kind holds just these messages. -/
inductive Carries (frame : List UInt8) : Kind → List Message → Prop where
  /-- A position sentence holds itself, whole. -/
  | position : Carries frame .gpgga [.raw ⟨.gpgga, frame⟩]
  /-- Any other sentence holds the messages of the record in front of its asterisk. -/
  | record {kind : Kind} {record : Record} (hkind : kind ≠ .gpgga)
      (hrecord : recordOf? frame = some record) : Carries frame kind record.bundle

/-- `Delivers frame kind messages`: a sentence of this kind gives these messages. -/
inductive Delivers (frame : List UInt8) : Kind → List Message → Prop where
  /-- A position sentence is forwarded whole. -/
  | forwarded : Delivers frame .gpgga [.raw ⟨.gpgga, frame⟩]
  /-- Any other gives five messages of one time. -/
  | bundled {kind : Kind} {messages : List Message} (time : Float) (hkind : kind ≠ .gpgga)
      (hkinds : messages.map Message.kind = [.bestPosition, .imu, .ins, .insStatus, .heading])
      (htimes : ∀ message ∈ messages, message.measurementTime? = some time) :
      Delivers frame kind messages

/-- What a sentence holds is what it gives. -/
theorem Carries.delivers {kind : Kind} {frame : List UInt8} {messages : List Message}
    (h : Carries frame kind messages) : Delivers frame kind messages := by
  cases h with
  | position => exact .forwarded
  | @record kind record hkind hrecord =>
    exact .bundled record.measurementTime hkind record.map_kind_bundle
      fun _ => Record.measurementTime?_of_mem_bundle

/-- A sentence that is delivered gives something. -/
theorem Delivers.ne_nil {kind : Kind} {frame : List UInt8} {messages : List Message}
    (h : Delivers frame kind messages) : messages ≠ [] := by
  cases h with
  | forwarded => exact List.cons_ne_nil _ _
  | bundled time hkind hkinds htimes =>
    rintro rfl
    cases hkinds

/-- Messages that an intact sentence carries are those that it holds. -/
theorem carries_of_carried_ne_nil {kind : Kind} {frame : List UInt8}
    (h : carried kind frame ≠ []) : Carries frame kind (carried kind frame) := by
  cases kind with
  | gpgga => exact .position
  | gpchc | gpchcx =>
    unfold carried at h ⊢
    cases hrecord : recordOf? frame with
    | none => simp [hrecord] at h
    | some record => exact .record Kind.noConfusion hrecord

/-- **A sentence that gives anything is intact.** -/
theorem of_checkFrame_ne_nil {kind : Kind} {frame : List UInt8}
    (h : (checkFrame kind frame).1 ≠ []) :
    Intact kind frame ∧ Carries frame kind (checkFrame kind frame).1 := by
  rw [checkFrame_messages] at h ⊢
  by_cases hintact : Intact kind frame
  · rw [if_pos hintact] at h ⊢
    exact ⟨hintact, carries_of_carried_ne_nil h⟩
  · rw [if_neg hintact] at h
    exact absurd rfl h

/-! ## The longer token -/

/-- A sentence that begins with the longer token and is intact under the shorter one is intact under
the longer one: where it is just too short for that, the last byte of the longer token stands in the
place of the asterisk. -/
theorem intact_of_longerToken {frame : List UInt8} (htoken : Kind.gpchcx.token <+: frame)
    (h : Intact .gpchc frame) : Intact .gpchcx frame := by
  obtain ⟨rest, rfl⟩ := htoken
  refine ⟨?_, h.star, h.digits⟩
  have hlong : 11 ≤ (Kind.gpchcx.token ++ rest).length := h.long
  have hstar := h.star
  show 12 ≤ (Kind.gpchcx.token ++ rest).length
  rcases Nat.lt_or_eq_of_le hlong with hmore | hequal
  · exact hmore
  · have hplace : starOf (Kind.gpchcx.token ++ rest) = 6 := by
      unfold starOf
      rw [← hequal]
      rfl
    have hbyte : (Kind.gpchcx.token ++ rest).getD 6 0 = 88 := rfl
    rw [hplace, hbyte] at hstar
    exact absurd hstar (by decide)

/-- **An intact sentence is intact under the kind that counts.** -/
theorem Intact.of_leading? {kind counts : Kind} {frame : List UInt8} (h : Intact kind frame)
    (htoken : kind.token <+: frame) (hcounts : leading? frame = some counts) :
    Intact counts frame := by
  rcases leading?_of_token htoken with hsame | ⟨rfl, hlonger⟩
  · rw [hcounts] at hsame
    cases hsame
    exact h
  · rw [hcounts] at hlonger
    cases hlonger
    exact intact_of_longerToken (prefix_of_leading? hcounts) h

/-- A sentence holds under the kind that counts what it holds under the recorded one. -/
theorem Carries.of_leading? {kind counts : Kind} {frame : List UInt8} {messages : List Message}
    (h : Carries frame kind messages) (htoken : kind.token <+: frame)
    (hcounts : leading? frame = some counts) : Carries frame counts messages := by
  rcases leading?_of_token htoken with hsame | ⟨rfl, hlonger⟩
  · rw [hcounts] at hsame
    cases hsame
    exact h
  · rw [hcounts] at hlonger
    cases hlonger
    cases h with
    | record hkind hrecord => exact .record Kind.noConfusion hrecord

end NavStream.Sentence
