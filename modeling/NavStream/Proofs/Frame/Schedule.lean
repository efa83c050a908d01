import NavStream.Proofs.Frame.History

/-!
# When the schedule of calls does not matter

A stream may be cut into chunks anywhere, and decoding may be asked for at any time. All of this
makes no difference to what decoding has given in the end, as long as no cycle acts rashly: what it
gives now must be what decoding would give later, whatever arrives in between.

* `Outcome`, `Session.outcome` — what decoding a session gives;
* `Session.Foresees` — a session whose next cycle does not act rashly;
* `Session.outcome_after_concat_decode` — such sessions give what decoding the whole stream gives;
* `Session.outcome_after_of_foresees` — such sessions decode a stream the same way under every
  schedule.
-/

namespace NavStream.Frame

/-- What decoding gave. -/
@[ext]
structure Outcome where
  /-- The messages, in order. -/
  messages : List Message
  /-- The bytes that are left to read. -/
  unread : List UInt8
  /-- The number of bytes discarded. -/
  consumed : Nat
deriving DecidableEq

/-- The outcome of decoding that began with `messages` and `consumed` bytes before. -/
def Outcome.behind (outcome : Outcome) (messages : List Message) (consumed : Nat) : Outcome :=
  ⟨messages ++ outcome.messages, outcome.unread, consumed + outcome.consumed⟩

/-- What came before comes in front, piece by piece. -/
theorem Outcome.behind_behind (outcome : Outcome) (first second : List Message)
    (used more : Nat) :
    (outcome.behind second more).behind first used =
      outcome.behind (first ++ second) (used + more) := by
  simp only [behind, List.append_assoc, Nat.add_assoc]

/-- What came of a history. -/
def History.outcome {σ : Type} (history : History σ) : Outcome :=
  ⟨history.messages, history.session.buffer.peek, history.consumed⟩

namespace Session

variable {σ : Type}

/-- What decoding a session gives. -/
def outcome (session : Session σ) : Outcome :=
  ⟨session.decode.messages, session.decode.session.buffer.peek,
    (session.progress session.decode).consumed⟩

/-- Decoding gives what its first cycle gives, and what decoding goes on to give if the cycle asks
for it. -/
theorem outcome_eq (session : Session σ) :
    session.outcome =
      if session.effect.next = .continue then
        session.cycle.session.outcome.behind session.effect.messages session.effect.consumed
      else ⟨session.effect.messages, session.buffer.peek.drop session.effect.consumed,
        session.effect.consumed⟩ := by
  have hconsumed := consumed_cycle session
  rw [← next_cycle, ← messages_cycle, ← peek_cycle]
  by_cases hnext : session.cycle.next = .continue
  · have hle := consumed_le_decode session.cycle.session
    rw [if_pos hnext, outcome, decode, dif_pos hnext]
    simp only [outcome, Outcome.behind, progress, Outcome.mk.injEq, true_and]
    omega
  · rw [if_neg hnext, outcome, decode, dif_neg hnext]
    simp only [progress, Outcome.mk.injEq, true_and]
    omega

/-- Sessions that are alike decode alike. -/
theorem Alike.outcome {left right : Session σ} (h : Alike left right) :
    left.outcome = right.outcome := by
  induction hw : left.weight using Nat.strongRecOn generalizing left right with
  | ind weight ih =>
    rw [outcome_eq left, outcome_eq right, h.effect, h.peek]
    by_cases hnext : right.effect.next = .continue
    · have hlt : left.cycle.session.weight < weight := by
        rw [← hw]
        exact weight_cycle_lt (by rw [next_cycle, h.effect, hnext])
      rw [if_pos hnext, if_pos hnext, ih _ hlt h.cycle rfl]
    · rw [if_neg hnext, if_neg hnext]

/-- Where the next cycle of one session does what that of another does behind `count` more bytes,
decoding gives the same, and these bytes are discarded as well. -/
theorem outcome_of_isBehind {session other : Session σ} {count : Nat}
    (hdecoder : session.decoder = other.decoder)
    (hpeek : other.buffer.peek = session.buffer.peek.drop count)
    (heffect : session.effect.IsBehind count other.effect) :
    session.outcome = other.outcome.behind [] count := by
  have hdrop : session.buffer.peek.drop session.effect.consumed =
      other.buffer.peek.drop other.effect.consumed := by
    rw [heffect.consumed, ← List.drop_drop, hpeek]
  have halike : Alike session.cycle.session other.cycle.session := by
    constructor
    · rw [decoder_cycle, decoder_cycle, hdecoder]
    · rw [phase_cycle, phase_cycle, heffect.phase]
    · rw [state_cycle, state_cycle, heffect.state]
    · rw [peek_cycle, peek_cycle, hdrop]
  rw [outcome_eq session, outcome_eq other, hdrop, heffect.next, heffect.messages,
    heffect.consumed, halike.outcome]
  by_cases hnext : other.effect.next = .continue
  · rw [if_pos hnext, if_pos hnext, Outcome.behind_behind, List.nil_append]
  · rw [if_neg hnext, if_neg hnext, Outcome.behind, List.nil_append]

/-- Where a cycle that goes on would do the same after more bytes have come, it may as well run
before they come. -/
theorem outcome_feed_of_continue {session : Session σ} {later : List UInt8}
    (hnext : session.effect.next = .continue)
    (hconsumed : session.effect.consumed ≤ session.buffer.peek.length)
    (heffect : (session.feed later).effect.IsBehind 0 session.effect) :
    (session.feed later).outcome =
      (session.cycle.session.feed later).outcome.behind session.effect.messages
        session.effect.consumed := by
  have hcount : (session.feed later).effect.consumed = session.effect.consumed := by
    rw [heffect.consumed, Nat.zero_add]
  have halike : Alike (session.feed later).cycle.session (session.cycle.session.feed later) := by
    constructor
    · rw [decoder_cycle, decoder_feed, decoder_feed, decoder_cycle]
    · rw [phase_cycle, heffect.phase, phase_feed, phase_cycle]
    · rw [state_cycle, heffect.state, state_feed, state_cycle]
    · rw [peek_cycle, hcount, peek_feed, peek_feed, peek_cycle,
        List.drop_append_of_le_length hconsumed]
  rw [outcome_eq, heffect.next, if_pos hnext, heffect.messages, hcount, halike.outcome]

/-- The next cycle does not act rashly: running it now and decoding after more bytes have come gives
what decoding alone gives then. -/
def Foresees (session : Session σ) : Prop :=
  ∀ later, (session.feed later).outcome =
    (session.cycle.session.feed later).outcome.behind session.effect.messages
      session.effect.consumed

/-- What `session` will have given once it is fed everything, whatever is still to come, is what the
history has given and what decoding gives from there. -/
structure Settles (holds : Session σ → Prop) (session : Session σ) (history : History σ) :
    Prop where
  holds : holds history.session
  outcome : ∀ later, (session.feed (history.fed ++ later)).outcome =
    (history.session.feed later).outcome.behind history.messages history.consumed

/-- What a session will have given is settled as long as the calls in between run cycles that do not
act rashly. -/
theorem settles_after {holds : Session σ → Prop}
    (feed : ∀ session chunk, holds session → holds (session.feed chunk))
    (cycle : ∀ session, holds session → holds session.cycle.session)
    (foresees : ∀ session, holds session → session.Foresees)
    (session : Session σ) (h : holds session) (calls : List Call) :
    Settles holds session (session.after calls) := by
  refine after_induction session calls ⟨h, fun later => ?_⟩ ?_ ?_
  · simp [Outcome.behind]
  · rintro history chunk ⟨hholds, hfuture⟩
    refine ⟨feed _ chunk hholds, fun later => ?_⟩
    have halike := (alike_feed_feed history.session chunk later).outcome
    show (session.feed (history.fed ++ chunk ++ later)).outcome =
      ((history.session.feed chunk).feed later).outcome.behind history.messages history.consumed
    rw [List.append_assoc, hfuture, halike]
  · rintro history ⟨hholds, hfuture⟩
    refine ⟨cycle _ hholds, fun later => ?_⟩
    have hconsumed : (history.session.progress history.session.cycle).consumed =
        history.session.effect.consumed := by
      rw [progress, consumed_cycle, Nat.add_sub_cancel_left]
    show (session.feed (history.fed ++ later)).outcome =
      (history.session.cycle.session.feed later).outcome.behind
        (history.messages ++ history.session.cycle.messages)
        (history.consumed + (history.session.progress history.session.cycle).consumed)
    rw [hfuture, foresees _ hholds later, Outcome.behind_behind, messages_cycle, hconsumed]

/-- A session whose cycles never act rashly has given, after any calls of which the last one
decodes, what decoding gives once the whole stream has come. -/
theorem outcome_after_concat_decode {holds : Session σ → Prop}
    (feed : ∀ session chunk, holds session → holds (session.feed chunk))
    (cycle : ∀ session, holds session → holds session.cycle.session)
    (foresees : ∀ session, holds session → session.Foresees)
    {session : Session σ} (h : holds session) (calls : List Call) :
    (session.after (calls ++ [.decode])).outcome = (session.feed (streamOf calls)).outcome := by
  have hnil : Alike ((session.after calls).session.feed []) (session.after calls).session :=
    ⟨rfl, rfl, rfl, by rw [peek_feed, List.append_nil]⟩
  have hsettled := (settles_after feed cycle foresees session h calls).outcome []
  rw [fed_after, List.append_nil, hnil.outcome] at hsettled
  rw [hsettled, after_concat]
  rfl

/-- **The schedule does not matter.** A session whose cycles never act rashly has given, after any
calls of which the last one decodes, what a session alike gives that is fed everything at once and
decoded once. -/
theorem outcome_after_of_foresees {holds : Session σ → Prop}
    (feed : ∀ session chunk, holds session → holds (session.feed chunk))
    (cycle : ∀ session, holds session → holds session.cycle.session)
    (foresees : ∀ session, holds session → session.Foresees)
    {session other : Session σ} (h : holds session) (alike : Alike session other)
    (calls : List Call) :
    (session.after (calls ++ [.decode])).outcome =
      (other.after [.feed (streamOf calls), .decode]).outcome := by
  have hfeed : Alike (session.feed (streamOf calls)) (other.feed (streamOf calls)) :=
    ⟨alike.decoder, alike.phase, alike.state, by rw [peek_feed, peek_feed, alike.peek]⟩
  have hother : (other.after [.feed (streamOf calls), .decode]).outcome =
      (other.feed (streamOf calls)).outcome := by
    show Outcome.mk _ _ _ = Outcome.mk _ _ _
    simp [after, History.call, History.record]
  rw [outcome_after_concat_decode feed cycle foresees h, hfeed.outcome, hother]

end Session

end NavStream.Frame
