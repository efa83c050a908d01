import NavStream.Proofs.Checksum.Xor
import NavStream.Proofs.Sentence.Segments

/-!
# Sentences with a changed byte

The checks of a sentence leave no byte behind its token out: those in front of the asterisk are
under the checksum, the asterisk has its place, and the digits spell a value that no others spell.
So a sentence of which one of these bytes changes is not intact any more, not even under another
kind that the change may have made of it. It is dropped whole, with one warning.

* `not_intact_set` — a sentence with a changed byte is not intact;
* `Seeks.decode_of_sentence` — what a session does that was fed one whole sentence;
* `changed_byte_shows` — what it does where a byte has changed.
-/

namespace NavStream.Sentence

open NavStream.Bytes NavStream.Checksum NavStream.Frame

variable {frame : List UInt8} {index : Nat} {byte : UInt8}

/-! ## Changed bytes -/

/-- A byte that has changed is found in its place. -/
theorem getD_set_self (h : index < frame.length) : (frame.set index byte).getD index 0 = byte := by
  rw [List.getD_eq_getElem?_getD, List.getElem?_set_self h, Option.getD_some]

/-- The other bytes are what they were. -/
theorem getD_set_of_ne {place : Nat} (h : index ≠ place) :
    (frame.set index byte).getD place 0 = frame.getD place 0 := by
  rw [List.getD_eq_getElem?_getD, List.getElem?_set_ne h, ← List.getD_eq_getElem?_getD]

/-- The place of the asterisk does not change. -/
theorem starOf_set : starOf (frame.set index byte) = starOf frame := by
  rw [starOf, starOf, List.length_set]

/-- A byte in front of the asterisk that changes, but for the first, changes the check value. -/
theorem xorChecksum_body_set_ne (hpositive : 0 < index) (hbefore : index < starOf frame)
    (hbyte : byte ≠ frame.getD index 0) :
    xorChecksum ((bodyOf (frame.set index byte)).drop 1) ≠
      xorChecksum ((bodyOf frame).drop 1) := by
  have hstar : starOf frame ≤ frame.length := by
    unfold starOf
    omega
  have hindex : index - 1 < ((bodyOf frame).drop 1).length := by
    rw [bodyOf, List.length_drop, List.length_take_of_le hstar]
    omega
  have hplace : 1 + (index - 1) = index := by omega
  have hold : ((bodyOf frame).drop 1)[index - 1] = frame.getD index 0 := by
    rw [List.getElem_drop, List.getD_eq_getElem?_getD,
      List.getElem?_eq_getElem (Nat.lt_of_lt_of_le hbefore hstar), Option.getD_some]
    simp only [bodyOf, List.getElem_take, hplace]
  have hbody : (bodyOf (frame.set index byte)).drop 1 =
      ((bodyOf frame).drop 1).set (index - 1) byte := by
    rw [bodyOf, starOf_set, List.take_set, List.drop_set, if_neg (Nat.not_lt_of_le hpositive)]
    rfl
  rw [hbody]
  exact xorChecksum_set_ne hindex (hold ▸ hbyte)

/-- **A sentence with a changed byte is not intact**, whatever kind it is now taken for. Only the
case of a digit may change. -/
theorem not_intact_set {kind other : Kind} (h : Intact kind frame) (hpositive : 0 < index)
    (hfront : index + terminator.length < frame.length) (hbyte : byte ≠ frame.getD index 0)
    (hcase : starOf frame < index → lowerCase byte ≠ lowerCase (frame.getD index 0)) :
    ¬Intact other (frame.set index byte) := by
  intro hintact
  have hlong := h.long
  have hinside : index < frame.length := Nat.lt_of_le_of_lt (Nat.le_add_right ..) hfront
  have hdigits := hintact.digits
  rw [starOf_set] at hdigits
  have hplaces : starOf frame + 5 = frame.length := by
    have hparts : digitCount = 2 ∧ terminator.length = 2 := ⟨rfl, rfl⟩
    unfold starOf
    omega
  have hterminator : terminator.length = 2 := rfl
  rcases Nat.lt_trichotomy index (starOf frame) with hbefore | rfl | hbehind
  · -- a byte under the checksum
    rw [getD_set_of_ne (by omega), getD_set_of_ne (by omega), h.digits,
      Option.some.injEq] at hdigits
    exact xorChecksum_body_set_ne hpositive hbefore hbyte hdigits.symm
  · -- the asterisk
    have hstar := hintact.star
    rw [starOf_set, getD_set_self hinside, ← h.star] at hstar
    exact hbyte hstar
  · -- a digit
    have hbody : bodyOf (frame.set index byte) = bodyOf frame := by
      rw [bodyOf, bodyOf, starOf_set, List.take_set_of_le (Nat.le_of_lt hbehind)]
    rw [hbody] at hdigits
    obtain ⟨hhigh, hlow⟩ := lowerCase_of_hexByte? hdigits h.digits
    rcases Nat.lt_or_eq_of_le (Nat.succ_le_of_lt hbehind) with hsecond | hfirst
    · obtain rfl : index = starOf frame + 2 := by omega
      rw [getD_set_self hinside] at hlow
      exact hcase hbehind hlow
    · obtain rfl : index = starOf frame + 1 := by omega
      rw [getD_set_self hinside] at hhigh
      exact hcase hbehind hhigh

/-- A sentence with a changed byte still ends where it did, if no other terminator has come up. -/
theorem terminated_set (h : Terminated frame) (hfront : index + terminator.length < frame.length)
    (honce : ∀ i, terminator <+: (frame.set index byte).drop i →
      i + terminator.length = frame.length) : Terminated (frame.set index byte) := by
  refine ⟨?_, ?_, ?_⟩
  · obtain ⟨body, hbody⟩ := h.ends
    have hindex : index < body.length := by
      rw [← hbody, List.length_append] at hfront
      omega
    rw [← hbody, List.set_append_left _ _ hindex]
    exact List.suffix_append _ _
  · intro i hi
    rw [List.length_set]
    exact honce i hi
  · rw [List.length_set]
    exact h.fits

/-- A token stays where it is if a byte behind it changes. -/
theorem token_prefix_set {kind : Kind} (h : kind.token <+: frame)
    (hbehind : kind.token.length ≤ index) : kind.token <+: frame.set index byte := by
  obtain ⟨rest, rfl⟩ := h
  rw [List.set_append_right _ _ hbehind]
  exact List.prefix_append _ _

/-! ## What the session does -/

/-- **A session that was fed one whole sentence** checks it, reports that it is done with it, and
has nothing left to read. -/
theorem Seeks.decode_of_sentence {session : Session State} (h : Seeks session) {kind : Kind}
    (hkind : leading? session.buffer.peek = some kind)
    (hterminated : Terminated session.buffer.peek) :
    session.decode.messages = (checkFrame kind session.buffer.peek).1 ∧
      session.decode.diagnostics = (checkFrame kind session.buffer.peek).2 ++
        [.frameDecoded "huace" (checkFrame kind session.buffer.peek).1.length] ∧
      session.decode.session.buffer.peek = [] := by
  have hclosed := terminated_iff.1 hterminated
  have heffect := h.effect_of_token hkind
  have hbehind : session.effect.IsBehind 0
      ((ending session.buffer.peek).effect kind session.buffer.peek) := by
    rw [heffect]
    exact Effect.isBehind_zero _
  have hseeks := seeks_cycle hbehind h.decoder (by rw [hclosed]; rfl)
  rw [hclosed, Ending.effect, List.take_length] at heffect
  dsimp only at heffect
  have hfirst := Session.realizes_cycle session
  rw [heffect] at hfirst
  have hempty : session.cycle.session.buffer.peek = [] := by
    rw [hfirst.peek, List.drop_length]
  -- the second cycle finds nothing to read
  have hsecond := Session.realizes_cycle session.cycle.session
  rw [hseeks.effect_of_none (by rw [hempty]; rfl), hempty] at hsecond
  have hwait : ¬session.cycle.session.cycle.next = .continue := by
    rw [hsecond.next]
    exact Progress.State.noConfusion
  rw [Session.decode, dif_pos hfirst.next, Session.decode, dif_neg hwait]
  dsimp only
  rw [hfirst.messages, hfirst.diagnostics, hsecond.messages, hsecond.diagnostics, hsecond.peek,
    hempty]
  exact ⟨List.append_nil _, List.append_nil _, rfl⟩

/-- A session that was fed a sentence that is not intact drops it with one warning. -/
theorem Seeks.decode_of_not_intact {session : Session State} (h : Seeks session)
    (htoken : startsWithToken session.buffer.peek = true)
    (hterminated : Terminated session.buffer.peek)
    (hspoilt : ∀ kind, ¬Intact kind session.buffer.peek) :
    session.decode.messages = [] ∧
      (session.decode.diagnostics.filter fun report => report.level = .warn).length = 1 ∧
      session.decode.session.buffer.peek = [] := by
  obtain ⟨kind, hkind⟩ := Option.isSome_iff_exists.1 htoken
  obtain ⟨report, hcheck, hlevel⟩ := checkFrame_of_not_intact (hspoilt kind)
  obtain ⟨hmessages, hdiagnostics, hempty⟩ := h.decode_of_sentence hkind hterminated
  rw [hcheck] at hmessages hdiagnostics
  refine ⟨hmessages, ?_, hempty⟩
  have hdone : (Diagnostic.frameDecoded "huace" 0).level ≠ .warn := by decide
  rw [hdiagnostics]
  simp [hlevel, hdone]

/-- **A changed byte shows.** Of a sentence that passes its checks one byte is changed, anywhere
between its token and its terminator, so that no terminator comes up in front of the last one and
that more than the case of a digit changes. A new session that is fed the changed sentence gives
nothing, warns once, and has nothing left to read. -/
theorem changed_byte_shows (config : Config) {kind : Kind} {frame : List UInt8} {index : Nat}
    {byte : UInt8} (hkind : leading? frame = some kind) (hterminated : Terminated frame)
    (hintact : Intact kind frame) (hbehind : kind.token.length ≤ index)
    (hfront : index + terminator.length < frame.length) (hbyte : byte ≠ frame.getD index 0)
    (hcase : starOf frame < index → lowerCase byte ≠ lowerCase (frame.getD index 0))
    (honce : ∀ i, terminator <+: (frame.set index byte).drop i →
      i + terminator.length = frame.length) :
    let decoded :=
      (({ config with format := .sentences } : Config).session.feed (frame.set index byte)).decode
    decoded.messages = [] ∧
      (decoded.diagnostics.filter fun report => report.level = .warn).length = 1 ∧
      decoded.session.buffer.peek = [] := by
  intro decoded
  have hpeek : (({ config with format := .sentences } : Config).session.feed
      (frame.set index byte)).buffer.peek = frame.set index byte := by
    rw [Session.peek_feed, Config.peek_session, List.nil_append]
  have htoken : kind.token <+: frame.set index byte :=
    token_prefix_set (prefix_of_leading? hkind) hbehind
  have hpositive : 0 < index :=
    Nat.lt_of_lt_of_le (Nat.lt_of_lt_of_le (by decide) (le_token_length kind)) hbehind
  refine Seeks.decode_of_not_intact ⟨rfl, rfl, rfl⟩ ?_ ?_ ?_
  · rw [hpeek]
    exact startsWithToken_of_token htoken
  · rw [hpeek]
    exact terminated_set hterminated hfront honce
  · intro other
    rw [hpeek]
    exact not_intact_set hintact hpositive hfront hbyte hcase

/-- The shortest navigation sentence, its digits spelling the check value. -/
def shortestNavigation : List UInt8 := Kind.gpchc.token ++ [42, 53, 70, 13, 10]

/-- Its asterisk is turned into the last letter of the longer token, for which it is too short. -/
theorem changed_byte_shows_in_longer_token :
    let decoded :=
      (({ format := .sentences } : Config).session.feed (shortestNavigation.set 6 88)).decode
    leading? (shortestNavigation.set 6 88) = some .gpchcx ∧ decoded.messages = [] ∧
      (decoded.diagnostics.filter fun report => report.level = .warn).length = 1 ∧
      decoded.session.buffer.peek = [] := by
  have hkind : leading? shortestNavigation = some .gpchc := by decide
  have hintact : Intact .gpchc shortestNavigation := by decide
  have hterminated : Terminated (shortestNavigation.set 6 88) := by decide
  refine ⟨by decide, ?_⟩
  exact changed_byte_shows { format := .sentences } hkind (by decide) hintact (by decide)
    (by decide) (by decide) (by decide) hterminated.once

end NavStream.Sentence
