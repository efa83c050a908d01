import NavStream.Proofs.Frame.Schedule
import NavStream.Proofs.Sentence.Anchored
import NavStream.Proofs.Sentence.Intact

/-!
# The recorded kind does not matter

A sentence may be located under the shorter of two tokens and be completed by bytes that make the
longer one of it. The session then extracts it under another kind than one that has seen these bytes
at once: it asks for one byte less, and a sentence that does not end loses one byte less. Neither
matters in the end.

* `messages_eq_of_longerToken` — under either kind a sentence gives the same messages;
* `Seeks.effect_isBehind` — bytes that begin no token may be skipped at any time;
* `outcome_eq_of_recorded` — decoding goes on alike, whichever kind was recorded.
-/

namespace NavStream.Sentence

open NavStream.Bytes NavStream.Frame

/-! ## The messages of a sentence -/

/-- A sentence of the longer token is intact under either kind or under none. -/
theorem intact_take_iff {bytes : List UInt8} (h : Kind.gpchcx.token <+: bytes) (length : Nat) :
    Intact .gpchc (bytes.take length) ↔ Intact .gpchcx (bytes.take length) := by
  constructor
  · intro hintact
    have hlong : 11 ≤ (bytes.take length).length := hintact.long
    have hroom : Kind.gpchcx.token.length ≤ length := by
      rw [List.length_take] at hlong
      exact Nat.le_trans (by decide) (Nat.le_trans hlong (Nat.min_le_left _ _))
    exact intact_of_longerToken (List.prefix_take_iff.2 ⟨h, hroom⟩) hintact
  · intro hintact
    exact ⟨Nat.le_of_succ_le hintact.long, hintact.star, hintact.digits⟩

/-- **Under either kind a sentence gives the same messages.** -/
theorem messages_eq_of_longerToken {bytes : List UInt8} (h : Kind.gpchcx.token <+: bytes)
    (ending : Ending) : ending.messages .gpchc bytes = ending.messages .gpchcx bytes := by
  cases ending with
  | pending => rfl
  | endless => rfl
  | closed length =>
    have hcarried : carried .gpchc (bytes.take length) = carried .gpchcx (bytes.take length) := rfl
    rw [Ending.messages, Ending.messages, checkFrame_messages, checkFrame_messages, hcarried]
    exact if_congr (intact_take_iff h length) rfl rfl

/-! ## Skipping bytes that begin no token -/

/-- **Bytes that begin no token may be skipped at any time**, as long as enough of them are left. -/
theorem Seeks.effect_isBehind {session other : Session State} (h : Seeks session)
    (hother : Seeks other) {count : Nat}
    (hpeek : session.buffer.peek.drop count = other.buffer.peek)
    (hfind : findOffset startsWithToken session.buffer.peek =
      (findOffset startsWithToken other.buffer.peek).map (· + count))
    (hskip : session.buffer.peek.length - (longestToken - 1) =
      count + (other.buffer.peek.length - (longestToken - 1))) :
    session.effect.IsBehind count other.effect := by
  cases hnext : findOffset startsWithToken other.buffer.peek with
  | none =>
    rw [hnext, Option.map_none] at hfind
    rw [h.effect_of_none hfind, hother.effect_of_none hnext]
    exact ⟨rfl, rfl, hskip, rfl, rfl⟩
  | some offset =>
    rw [hnext, Option.map_some] at hfind
    obtain ⟨kind, hkind⟩ := Option.isSome_iff_exists.1 (findOffset_eq_some hnext).2.1
    have hdrop : session.buffer.peek.drop (offset + count) = other.buffer.peek.drop offset := by
      rw [Nat.add_comm, ← List.drop_drop, hpeek]
    have hkind' : leading? (session.buffer.peek.drop (offset + count)) = some kind := by
      rw [hdrop]
      exact hkind
    have hlater := h.effect_of_some hfind hkind'
    have hsooner := hother.effect_of_some hnext hkind
    rw [hdrop, Nat.add_comm] at hlater
    exact hlater.of_behind hsooner

/-- A byte that is no dollar sign may be skipped at any time, as long as enough bytes are left. -/
theorem Seeks.effect_isBehind_cons {session other : Session State} (h : Seeks session)
    (hother : Seeks other) {byte : UInt8} (hbyte : byte ≠ 36)
    (hpeek : session.buffer.peek = byte :: other.buffer.peek)
    (hlength : longestToken - 1 ≤ other.buffer.peek.length) :
    session.effect.IsBehind 1 other.effect := by
  have hnone : startsWithToken (byte :: other.buffer.peek) = false := by
    rw [Bool.eq_false_iff]
    intro htoken
    exact hbyte (eq_dollar_of_startsWithToken htoken)
  refine h.effect_isBehind hother ?_ ?_ ?_
  · rw [hpeek]
    rfl
  · rw [hpeek, findOffset_cons, hnone, if_neg Bool.false_ne_true]
  · rw [hpeek, List.length_cons]
    omega

/-! ## Sentences under either kind -/

/-- A session gives up a sentence that does not end, behind the token that it knows. -/
theorem cycle_of_endless {session : Session State} {bytes : List UInt8} {kind : Kind}
    {offset : Nat} (heffect : session.effect.IsBehind offset ((ending bytes).effect kind bytes))
    (hdecoder : session.decoder = decoder) (hdrop : session.buffer.peek.drop offset = bytes)
    (hendless : ending bytes = .endless) :
    Seeks session.cycle.session ∧
      session.cycle.session.buffer.peek = bytes.drop kind.token.length ∧
      session.outcome = session.cycle.session.outcome.behind [] (offset + kind.token.length) := by
  have hsettled : (ending bytes).settled = true := by
    rw [hendless]
    rfl
  have hseeks := seeks_cycle heffect hdecoder hsettled
  rw [hendless] at heffect
  have hconsumed : session.effect.consumed = offset + kind.token.length := heffect.consumed
  have hmessages : session.effect.messages = [] := heffect.messages
  have hnext : session.effect.next = .continue := heffect.next
  refine ⟨hseeks, ?_, ?_⟩
  · rw [Session.peek_cycle, hconsumed, ← List.drop_drop, hdrop]
  · rw [Session.outcome_eq, if_pos hnext, hmessages, hconsumed]

/-- **A sentence that does not end loses its token under either kind.** The byte that only the
longer token has begins no token, and is skipped when the next sentence is looked for. -/
theorem outcome_of_endless {seeking held : Session State} (hseeks : Seeks seeking)
    (hholds : Holds held .gpchc) {offset : Nat}
    (hpeek : held.buffer.peek = seeking.buffer.peek.drop offset)
    (hfind : findOffset startsWithToken seeking.buffer.peek = some offset)
    (hlonger : leading? held.buffer.peek = some .gpchcx)
    (hendless : ending held.buffer.peek = .endless) :
    seeking.outcome = held.outcome.behind [] offset := by
  obtain ⟨rest, hrest⟩ := prefix_of_leading? hlonger
  have hlength := (ending_eq_endless_iff.1 hendless).2
  have hsought := hseeks.effect_of_some hfind (hpeek ▸ hlonger)
  rw [← hpeek] at hsought
  obtain ⟨hafter, hleft, hsoughtOutcome⟩ :=
    cycle_of_endless hsought hseeks.decoder hpeek.symm hendless
  obtain ⟨hbefore, hmore, hheldOutcome⟩ :=
    cycle_of_endless hholds.isBehind hholds.decoder List.drop_zero hendless
  -- the session that does not know the longer token has its last byte left
  have hbyte : held.cycle.session.buffer.peek = 88 :: seeking.cycle.session.buffer.peek := by
    rw [hmore, hleft, ← hrest]
    rfl
  have henough : longestToken - 1 ≤ seeking.cycle.session.buffer.peek.length := by
    have hwide : longestToken - 1 ≤ maxFrameLength - Kind.gpchcx.token.length := by decide
    rw [hleft, List.length_drop]
    omega
  have hdecoder : held.cycle.session.decoder = seeking.cycle.session.decoder := by
    rw [hbefore.decoder, hafter.decoder]
  have hdrop : seeking.cycle.session.buffer.peek = held.cycle.session.buffer.peek.drop 1 := by
    rw [hbyte]
    rfl
  have hskipped := Session.outcome_of_isBehind hdecoder hdrop
    (hbefore.effect_isBehind_cons hafter (by decide) hbyte henough)
  rw [hsoughtOutcome, hheldOutcome, hskipped, Outcome.behind_behind, Outcome.behind_behind]
  rfl

/-- **The recorded kind does not matter.** A session that has located a sentence under some kind
decodes what a session does that looks for it again, perhaps to find the longer token there. -/
theorem outcome_eq_of_recorded {seeking held : Session State} (hseeks : Seeks seeking) {kind : Kind}
    (hholds : Holds held kind) {offset : Nat}
    (hfind : findOffset startsWithToken seeking.buffer.peek = some offset)
    (hpeek : held.buffer.peek = seeking.buffer.peek.drop offset) :
    seeking.outcome = held.outcome.behind [] offset := by
  have hdecoder : seeking.decoder = held.decoder := by rw [hseeks.decoder, hholds.decoder]
  rcases leading?_of_token hholds.token with hsame | ⟨rfl, hlonger⟩
  · -- the recorded kind is the one that is found
    have hsought := hseeks.effect_of_some hfind (hpeek ▸ hsame)
    rw [← hpeek, ← hholds.effect] at hsought
    exact Session.outcome_of_isBehind hdecoder hpeek hsought
  · have hsought := hseeks.effect_of_some hfind (hpeek ▸ hlonger)
    rw [← hpeek] at hsought
    have hheld := hholds.effect
    cases hending : ending held.buffer.peek with
    | endless => exact outcome_of_endless hseeks hholds hpeek hfind hlonger hending
    | pending =>
      rw [hending] at hsought hheld
      have hwait : seeking.effect.next = .wait := hsought.next
      have hwait' : held.effect.next = .wait := by rw [hheld]; rfl
      rw [Session.outcome_eq seeking, Session.outcome_eq held, hwait, hwait', hsought.messages,
        hsought.consumed, hheld, hpeek]
      rw [if_neg (by decide), if_neg (by decide)]
      rfl
    | closed length =>
      refine Session.outcome_of_isBehind hdecoder hpeek ?_
      have hmessages := messages_eq_of_longerToken (prefix_of_leading? hlonger) (.closed length)
      rw [hending] at hsought hheld
      rw [hheld]
      refine ⟨hsought.phase, hsought.state, hsought.consumed, ?_, hsought.next⟩
      rw [hsought.messages, Ending.effect_messages, Ending.effect_messages, hmessages]

end NavStream.Sentence
