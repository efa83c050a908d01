import NavStream.Config
import NavStream.Proofs.Oem.Contract
import NavStream.Proofs.Sentence.Contract

/-!
# Sessions of any configuration keep to the contract

Both decoders honour their contracts, so the sessions of every configuration stay in step with their
decoders, whatever is asked of them.

* `agreement_after` — what holds of a session after any calls.
-/

namespace NavStream.Config

open NavStream.Bytes NavStream.Frame NavStream.Sentence

/-- **Session, decoder and buffer agree after any calls.** A session is about to extract exactly
where its decoder has recorded a header or a kind, and then the unread bytes begin with it. A cycle
extracts only what is recorded; it leaves the buffer as it is where it needs more bytes, never has
to skip a byte, and uses up twelve bytes of a binary stream or six of sentences at least when it
goes on. Where it meets the end of a sentence, the asterisk belongs three bytes in front of the
terminator, which is behind the token if the sentence is long enough for it. -/
theorem agreement_after (config : Config) (calls : List Call) :
    let binary := (({ config with format := .binary } : Config).session.after calls).session
    let sentences := (({ config with format := .sentences } : Config).session.after calls).session
    Session.Reliable Oem.recording 12 binary ∧
      Session.Reliable Sentence.recording 6 sentences ∧
      ∀ begun kind offset, sentences.begun? = some begun → begun.state = some kind →
        offsetOf? terminator (begun.buffer.peek.take maxFrameLength) = some offset →
        let frame := begun.buffer.peek.take (offset + terminator.length)
        starOf frame + 3 = offset ∧
          (kind.token.length + 1 + digitCount + terminator.length ≤ frame.length →
            kind.token.length ≤ starOf frame) := by
  intro binary sentences
  have hbinary : Session.Reliable Oem.recording 12 binary :=
    Session.reliable_after (Oem.honors_decoder config.settings) (Nat.succ_pos _) _ calls
  have hsentences : Session.Reliable Sentence.recording 6 sentences :=
    Session.reliable_after Sentence.honors_decoder (Nat.succ_pos _) _ calls
  refine ⟨hbinary, hsentences, ?_⟩
  intro begun kind offset hbegun hkind hoffset frame
  obtain ⟨recorded, hrecorded, htoken⟩ := hsentences.recorded begun hbegun
  have hsame : recorded = kind := Option.some.inj (hrecorded.symm.trans hkind)
  subst hsame
  exact ⟨starOf_add htoken hoffset, token_length_le_starOf⟩

end NavStream.Config
