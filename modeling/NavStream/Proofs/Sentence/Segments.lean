import NavStream.Proofs.Sentence.Intact
import NavStream.Proofs.Sentence.Schedule

/-!
# Streams made of segments

Between sentences that end, a stream may hold noise without a dollar sign, and sentences whose
terminator was lost. Whatever the sentences say, and wherever the stream is cut, each of them gives
what it gives alone: one that fails a check takes just its own bytes with it, and one that never
ends takes nothing of what comes after.

* `Segment` — a piece of a stream;
* `Segment.messages`, `Segment.messages_cases` — what a segment gives;
* `outcome_messages_of_segments` — decoding goes from segment to segment;
* `messages_of_segments` — what a stream of segments gives, however it is cut.
-/

namespace NavStream.Sentence

open NavStream.Bytes NavStream.Frame

/-- The dollar sign. -/
def dollar : UInt8 := 36

/-- A piece of a stream. -/
inductive Segment where
  /-- Bytes among which there is no dollar sign. -/
  | noise (bytes : List UInt8) (hquiet : dollar ∉ bytes)
  /-- A sentence that ends, whatever it says. -/
  | sentence (frame : List UInt8) (htoken : startsWithToken frame = true)
      (hterminated : Terminated frame)
  /-- A sentence that does not end, as long as the longest one or longer, behind which no other one
  begins. -/
  | lost (bytes : List UInt8) (htoken : startsWithToken bytes = true)
      (hlong : maxFrameLength ≤ bytes.length) (hendless : ¬terminator <:+: bytes)
      (hquiet : dollar ∉ bytes.drop 1)

namespace Segment

/-- The bytes of a segment. -/
def bytes : Segment → List UInt8
  | noise bytes _ => bytes
  | sentence frame _ _ => frame
  | lost bytes _ _ _ _ => bytes

/-- What a segment gives: a sentence that ends gives what it carries, if it is intact under the kind
of its longest token. -/
def messages : Segment → List Message
  | sentence frame _ _ =>
    match leading? frame with
    | none => []
    | some kind => if Intact kind frame then carried kind frame else []
  | noise _ _ | lost _ _ _ _ _ => []

/-- **A segment gives nothing, or it is an intact sentence** that is delivered under the kind of its
longest token. -/
theorem messages_cases (segment : Segment) :
    segment.messages = [] ∨ ∃ kind, leading? segment.bytes = some kind ∧
      Intact kind segment.bytes ∧ Delivers segment.bytes kind segment.messages := by
  cases segment with
  | noise bytes hquiet => exact .inl rfl
  | lost bytes htoken hlong hendless hquiet => exact .inl rfl
  | sentence frame htoken hterminated =>
    obtain ⟨kind, hkind⟩ := Option.isSome_iff_exists.1 htoken
    have hmessages : (sentence frame htoken hterminated).messages =
        if Intact kind frame then carried kind frame else [] := by
      rw [messages, hkind]
    rw [hmessages]
    by_cases hintact : Intact kind frame
    · rw [if_pos hintact]
      by_cases hnone : carried kind frame = []
      · exact .inl hnone
      · exact .inr ⟨kind, hkind, hintact, (carries_of_carried_ne_nil hnone).delivers⟩
    · exact .inl (if_neg hintact)

end Segment

/-! ## Bytes without a dollar sign -/

/-- No token begins where there is no dollar sign. -/
theorem not_startsWithToken_drop {front : List UInt8} (h : dollar ∉ front) (rest : List UInt8)
    {i : Nat} (hi : i < front.length) : startsWithToken ((front ++ rest).drop i) = false := by
  rw [Bool.eq_false_iff, List.drop_append_of_le_length (Nat.le_of_lt hi),
    List.drop_eq_getElem_cons hi, List.cons_append]
  intro htoken
  have hdollar : front[i] = dollar := eq_dollar_of_startsWithToken htoken
  exact h (hdollar ▸ List.getElem_mem hi)

/-- No token is found where there is no dollar sign. -/
theorem findOffset_eq_none_of_quiet {front : List UInt8} (h : dollar ∉ front) :
    findOffset startsWithToken front = none := by
  refine findOffset_eq_none_iff.2 fun i hi => ?_
  have hnone := not_startsWithToken_drop h [] hi
  rw [List.append_nil] at hnone
  exact hnone

/-- Behind bytes without a dollar sign the first token is found. -/
theorem findOffset_of_quiet {front bytes : List UInt8} (h : dollar ∉ front)
    (htoken : startsWithToken bytes = true) :
    findOffset startsWithToken (front ++ bytes) = some front.length := by
  have hlength := length_of_startsWithToken htoken
  have hpositive : 0 < longestToken - 1 := by decide
  refine findOffset_eq_some_iff.2 ⟨?_, ?_, fun i hi => not_startsWithToken_drop h bytes hi⟩
  · rw [List.length_append]
    omega
  · rw [List.drop_left]
    exact htoken

/-! ## From segment to segment -/

variable {session : Session State} {front rest : List UInt8}

/-- A session that finds nothing to decode gives nothing. -/
theorem Seeks.outcome_messages_of_quiet (h : Seeks session)
    (hquiet : dollar ∉ session.buffer.peek) : session.outcome.messages = [] := by
  have heffect := h.effect_of_none (findOffset_eq_none_of_quiet hquiet)
  rw [Session.outcome_eq, heffect]
  rfl

/-- What a session meets behind bytes without a dollar sign, where bytes begin with a token. -/
theorem Seeks.isBehind_of_quiet (h : Seeks session) {bytes : List UInt8} {kind : Kind}
    (hpeek : session.buffer.peek = front ++ bytes) (hquiet : dollar ∉ front)
    (hkind : leading? bytes = some kind) :
    session.effect.IsBehind front.length ((ending bytes).effect kind bytes) ∧
      session.buffer.peek.drop front.length = bytes := by
  have hdrop : session.buffer.peek.drop front.length = bytes := by
    rw [hpeek, List.drop_left]
  have htoken := startsWithToken_of_token (prefix_of_leading? hkind)
  have hfind : findOffset startsWithToken session.buffer.peek = some front.length := by
    rw [hpeek]
    exact findOffset_of_quiet hquiet htoken
  have heffect := h.effect_of_some hfind (hdrop.symm ▸ hkind)
  rw [hdrop] at heffect
  exact ⟨heffect, hdrop⟩

/-- **A sentence that ends gives what it gives alone**, and decoding goes on behind it. -/
theorem Seeks.outcome_messages_of_sentence (h : Seeks session) {frame : List UInt8}
    (htoken : startsWithToken frame = true) (hterminated : Terminated frame)
    (hpeek : session.buffer.peek = front ++ (frame ++ rest)) (hquiet : dollar ∉ front) :
    Seeks session.cycle.session ∧ session.cycle.session.buffer.peek = rest ∧
      session.outcome.messages =
        (Segment.sentence frame htoken hterminated).messages ++
          session.cycle.session.outcome.messages := by
  obtain ⟨kind, hkind⟩ := Option.isSome_iff_exists.1 htoken
  have hclosed := ending_append_of_terminated hterminated rest
  have halone := terminated_iff.1 hterminated
  -- the sentence is long enough for its kind to be settled
  have hlong := longestToken_le_of_settled (prefix_of_leading? hkind)
    (by rw [halone]; exact Ending.noConfusion)
  have hkind' : leading? (frame ++ rest) = some kind := by
    rw [leading?_append hlong, hkind]
  obtain ⟨heffect, hdrop⟩ := h.isBehind_of_quiet hpeek hquiet hkind'
  have hseeks := seeks_cycle heffect h.decoder (by rw [hclosed]; rfl)
  rw [hclosed] at heffect
  have hnext : session.effect.next = .continue := heffect.next
  have hmessages : session.effect.messages =
      (Segment.sentence frame htoken hterminated).messages := by
    rw [heffect.messages, Ending.effect_messages, Ending.messages, List.take_left,
      checkFrame_messages, Segment.messages, hkind]
  refine ⟨hseeks, ?_, ?_⟩
  · rw [Session.peek_cycle, heffect.consumed, ← List.drop_drop, hdrop]
    exact List.drop_left
  · rw [Session.outcome_eq, if_pos hnext, Outcome.behind, hmessages]

/-- **A sentence that does not end gives nothing**, and decoding goes on behind its token. -/
theorem Seeks.outcome_messages_of_lost (h : Seeks session) {bytes : List UInt8}
    (htoken : startsWithToken bytes = true) (hlong : maxFrameLength ≤ bytes.length)
    (hendless : ¬terminator <:+: bytes) (hquietBehind : dollar ∉ bytes.drop 1)
    (hpeek : session.buffer.peek = front ++ (bytes ++ rest)) (hquiet : dollar ∉ front) :
    Seeks session.cycle.session ∧
      (∃ left, dollar ∉ left ∧ session.cycle.session.buffer.peek = left ++ rest) ∧
      session.outcome.messages = session.cycle.session.outcome.messages := by
  obtain ⟨kind, hkind⟩ := Option.isSome_iff_exists.1 htoken
  have hkind' : leading? (bytes ++ rest) = some kind := by
    have hlimit : longestToken ≤ maxFrameLength := by decide
    rw [leading?_append (Nat.le_trans hlimit hlong), hkind]
  have hending := ending_append_of_unterminated hlong hendless rest
  obtain ⟨heffect, hdrop⟩ := h.isBehind_of_quiet hpeek hquiet hkind'
  obtain ⟨hseeks, hleft, houtcome⟩ := cycle_of_endless heffect h.decoder hdrop hending
  have htokenLength := (prefix_of_leading? hkind).length_le
  have hpositive : 1 ≤ kind.token.length := Nat.le_trans (by decide) (le_token_length kind)
  refine ⟨hseeks, ⟨bytes.drop kind.token.length, ?_, ?_⟩, ?_⟩
  · exact fun hmem => hquietBehind (List.drop_subset_drop_left bytes hpositive hmem)
  · rw [hleft, List.drop_append_of_le_length htokenLength]
  · rw [houtcome]
    rfl

/-- **Decoding goes from segment to segment.** -/
theorem outcome_messages_of_segments (segments : List Segment) (h : Seeks session)
    (hpeek : session.buffer.peek = front ++ segments.flatMap Segment.bytes)
    (hquiet : dollar ∉ front) :
    session.outcome.messages = segments.flatMap Segment.messages := by
  induction segments generalizing session front with
  | nil =>
    rw [List.flatMap_nil, List.append_nil] at hpeek
    exact h.outcome_messages_of_quiet (hpeek ▸ hquiet)
  | cons first others ih =>
    rw [List.flatMap_cons] at hpeek
    rw [List.flatMap_cons]
    cases first with
    | noise bytes hnoise =>
      rw [Segment.bytes, ← List.append_assoc] at hpeek
      have hfront : dollar ∉ front ++ bytes := by
        rw [List.mem_append]
        exact fun hmem => hmem.elim hquiet hnoise
      exact ih h hpeek hfront
    | sentence frame htoken hterminated =>
      obtain ⟨hseeks, hrest, houtcome⟩ :=
        h.outcome_messages_of_sentence htoken hterminated hpeek hquiet
      have hbehind : session.cycle.session.buffer.peek = [] ++ others.flatMap Segment.bytes := hrest
      rw [houtcome, ih hseeks hbehind List.not_mem_nil]
    | lost bytes htoken hlong hendless hquietBehind =>
      obtain ⟨hseeks, ⟨left, hleft, hrest⟩, houtcome⟩ :=
        h.outcome_messages_of_lost htoken hlong hendless hquietBehind hpeek hquiet
      rw [houtcome, ih hseeks hrest hleft]
      rfl

/-! ## However the stream is cut -/

/-- The calls that feed chunks and decode after each of them. -/
def decodeEach (chunks : List (List UInt8)) : List Call :=
  chunks.flatMap fun chunk => [.feed chunk, .decode]

/-- Decoding after every chunk feeds the stream that the chunks make up. -/
theorem streamOf_decodeEach (chunks : List (List UInt8)) :
    streamOf (decodeEach chunks) = chunks.flatten := by
  induction chunks with
  | nil => rfl
  | cons chunk rest ih =>
    rw [decodeEach, List.flatMap_cons, streamOf_append, List.flatten_cons]
    rw [decodeEach] at ih
    rw [ih]
    simp [streamOf, Call.chunk]

/-- Decoding after every chunk, of which there is one at least, decodes last, when the whole stream
has been fed. -/
theorem exists_calls_of_decodeEach {chunks : List (List UInt8)} (h : chunks ≠ []) :
    ∃ calls, decodeEach chunks = calls ++ [.decode] ∧ streamOf calls = chunks.flatten := by
  obtain hnone | ⟨init, last, hchunks⟩ := List.eq_nil_or_concat chunks
  · exact absurd hnone h
  · have hcalls : decodeEach chunks = decodeEach init ++ [.feed last] ++ [.decode] := by
      rw [hchunks, List.concat_eq_append, decodeEach, List.flatMap_append, List.append_assoc]
      rfl
    refine ⟨_, hcalls, ?_⟩
    rw [← streamOf_decodeEach, hcalls, streamOf_append (_ ++ _)]
    exact (List.append_nil _).symm

/-- An anchored session has given, after any calls of which the last one decodes, what decoding
gives once the whole stream has come. -/
theorem Anchored.outcome_after (h : Anchored session) (calls : List Call) :
    (session.after (calls ++ [.decode])).outcome = (session.feed (streamOf calls)).outcome := by
  refine Session.outcome_after_concat_decode ?_ ?_ ?_ h calls
  · intro session chunk h
    exact h.feed chunk
  · intro session h
    exact h.cycle
  · intro session h
    exact h.foresees

/-- A session without unread bytes gives what the segments of its stream give, however the stream is
cut into chunks. -/
theorem Seeks.messages_after_decodeEach (h : Seeks session) (hempty : session.buffer.peek = [])
    (segments : List Segment) (chunks : List (List UInt8))
    (hchunks : chunks.flatten = segments.flatMap Segment.bytes) :
    (session.after (decodeEach chunks)).messages = segments.flatMap Segment.messages := by
  by_cases hnone : chunks = []
  · have hpeek : session.buffer.peek = [] ++ segments.flatMap Segment.bytes := by
      rw [hempty, ← hchunks, hnone]
      rfl
    rw [← outcome_messages_of_segments segments h hpeek List.not_mem_nil,
      h.outcome_messages_of_quiet (hempty ▸ List.not_mem_nil), hnone]
    rfl
  · obtain ⟨calls, hcalls, hstream⟩ := exists_calls_of_decodeEach hnone
    have hpeek : (session.feed (segments.flatMap Segment.bytes)).buffer.peek =
        [] ++ segments.flatMap Segment.bytes := by
      rw [Session.peek_feed, hempty]
    have houtcome := (Anchored.seeks h).outcome_after calls
    rw [hstream, hchunks, ← hcalls] at houtcome
    rw [← outcome_messages_of_segments segments (h.feed _) hpeek List.not_mem_nil, ← houtcome]
    rfl

/-- **Each segment of a stream gives what it gives alone**, in order, however the stream is cut into
chunks after which a new session decodes. What a segment gives is nothing, or what an intact
sentence delivers: a position sentence itself, and any other five messages of fixed kinds and of one
time. -/
theorem messages_of_segments (config : Config) (segments : List Segment)
    (chunks : List (List UInt8)) (hchunks : chunks.flatten = segments.flatMap Segment.bytes) :
    (({ config with format := .sentences } : Config).session.after (decodeEach chunks)).messages =
        segments.flatMap Segment.messages ∧
      ∀ segment ∈ segments, segment.messages = [] ∨
        ∃ kind, leading? segment.bytes = some kind ∧ Intact kind segment.bytes ∧
          Delivers segment.bytes kind segment.messages :=
  ⟨Seeks.messages_after_decodeEach ⟨rfl, rfl, rfl⟩ (Config.peek_session _) segments chunks hchunks,
    fun segment _ => segment.messages_cases⟩

/-- The shortest position sentence, its digits spelling the check value. -/
def shortestPosition : List UInt8 := Kind.gpgga.token ++ [42, 53, 54, 13, 10]

/-- The same sentence with a wrong digit. -/
def spoiltPosition : List UInt8 := Kind.gpgga.token ++ [42, 53, 55, 13, 10]

/-- A sentence that tells week 2223 and second 7, its digits spelling the check value. -/
def weekAndSecond : List UInt8 :=
  Kind.gpchcx.token ++ [44, 50, 50, 50, 51, 44, 55, 42, 51, 49, 13, 10]

/-- The token of a sentence with nothing but letters behind it. -/
def lettersOnly (count : Nat) : List UInt8 := Kind.gpchc.token ++ List.replicate count 65

/-- A sentence that goes on for long enough without a terminator. -/
def Segment.ofLetters (count : Nat) (hlong : maxFrameLength ≤ Kind.gpchc.token.length + count) :
    Segment :=
  .lost (lettersOnly count) (startsWithToken_of_token (List.prefix_append _ _))
    (by rw [lettersOnly, List.length_append, List.length_replicate]; exact hlong)
    (by
      intro h
      have hmem : (13 : UInt8) ∈ lettersOnly count := h.subset List.mem_cons_self
      simp [lettersOnly, Kind.token] at hmem)
    (by simp [lettersOnly, Kind.token, dollar])

/-- A stream with segments of every sort. -/
def mixedSegments : List Segment := [
  .noise [0, 255] (by decide),
  .sentence shortestPosition (by decide) (by decide),
  .ofLetters 4090 (by decide),
  .sentence weekAndSecond (by decide) (by decide),
  .sentence spoiltPosition (by decide) (by decide)]

/-- The position is given and so is the record, though the stream is cut inside their tokens and
inside a terminator, and though a sentence without an end and a spoilt one stand behind them. -/
theorem messages_of_mixedSegments :
    let chunks := [[0, 255, 36, 71], [80, 71, 71, 65, 42, 53, 54, 13],
      10 :: lettersOnly 4090 ++ Kind.gpchc.token, weekAndSecond.drop 6 ++ spoiltPosition]
    chunks.flatten = mixedSegments.flatMap Segment.bytes ∧
      ∃ record, recordOf? weekAndSecond = some record ∧
        (({ format := .sentences } : Config).session.after (decodeEach chunks)).messages =
          .raw ⟨.gpgga, shortestPosition⟩ :: record.bundle := by
  intro chunks
  have hchunks : chunks.flatten = mixedSegments.flatMap Segment.bytes := by
    simp [chunks, mixedSegments, Segment.ofLetters, Segment.bytes, shortestPosition, weekAndSecond,
      Kind.token]
  have hread : (recordOf? weekAndSecond).isSome = true := by decide +kernel
  obtain ⟨record, hrecord⟩ := Option.isSome_iff_exists.1 hread
  have hgiven : mixedSegments.flatMap Segment.messages =
      .raw ⟨.gpgga, shortestPosition⟩ :: record.bundle := by
    have hposition : leading? shortestPosition = some .gpgga := by decide
    have hspoilt : leading? spoiltPosition = some .gpgga := by decide
    have hweek : leading? weekAndSecond = some .gpchcx := by decide
    have hintact : Intact .gpgga shortestPosition := by decide
    have hnot : ¬Intact .gpgga spoiltPosition := by decide
    have hwhole : Intact .gpchcx weekAndSecond := by decide
    simp [mixedSegments, Segment.ofLetters, Segment.messages, hposition, hspoilt, hweek, hintact,
      hnot, hwhole, hrecord, carried]
  exact ⟨hchunks, record, hrecord, (messages_of_segments { format := .sentences } mixedSegments
    chunks hchunks).1.trans hgiven⟩

end NavStream.Sentence
