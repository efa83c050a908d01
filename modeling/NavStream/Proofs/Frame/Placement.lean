import NavStream.Proofs.Frame.History

/-!
# Where cycles read

The unread bytes of a session are the rest of its stream behind what it has discarded, so that every
cycle reads at a place of the stream. Later cycles read behind what earlier ones have used up, and a
session gives nothing but what its cycles give.

* `Placed` — the invariant;
* `Session.placed_after` — where the cycles of a session read after any calls;
* `Session.messages_after`, `Session.diagnostics_after` — its messages and reports are those of its
  cycles.
-/

namespace NavStream.Frame

open NavStream.Bytes

variable {σ : Type}

/-! ## What a cycle uses up was there -/

/-- Extracting uses up no more than there is. -/
theorem FrameDecoder.extractEffect_consumed_le (decoder : FrameDecoder σ) (state : σ)
    (bytes : List UInt8) : (decoder.extractEffect state bytes).consumed ≤ bytes.length := by
  unfold extractEffect
  dsimp only
  cases (decoder.extract state bytes).outcome with
  | needMore => exact Nat.min_le_right _ _
  | done messages =>
    dsimp only
    split
    next => exact Nat.min_le_right _ _
    next => exact Nat.min_le_right _ _

/-- A cycle uses up no more than there is. -/
theorem Session.effect_consumed_le (session : Session σ) :
    session.effect.consumed ≤ session.buffer.peek.length := by
  unfold effect FrameDecoder.cycleEffect
  cases session.phase with
  | extractPayload => exact session.decoder.extractEffect_consumed_le _ _
  | seekHeader =>
    dsimp only
    split
    next =>
      have hrest := session.decoder.extractEffect_consumed_le
        (session.decoder.seek session.state session.buffer.peek).state
        (session.buffer.peek.drop (session.decoder.seek session.state session.buffer.peek).discard)
      rw [List.length_drop] at hrest
      dsimp only
      omega
    next => exact Nat.min_le_right _ _

/-! ## Places in the stream -/

/-- A session that reads bytes of a stream behind what it has discarded, though perhaps not all that
have come since. -/
structure ReadsIn (stream : List UInt8) (session : Session σ) : Prop where
  within : session.buffer.consumed ≤ stream.length
  unread : session.buffer.peek <+: stream.drop session.buffer.consumed

/-- A session reads at the same place when the stream goes on. -/
theorem ReadsIn.append {stream : List UInt8} {session : Session σ} (h : ReadsIn stream session)
    (later : List UInt8) : ReadsIn (stream ++ later) session where
  within := by
    rw [List.length_append]
    exact Nat.le_add_right_of_le h.within
  unread := by
    rw [List.drop_append_of_le_length h.within]
    exact h.unread.trans (List.prefix_append _ later)

/-- The unread bytes lie inside the stream. -/
theorem ReadsIn.consumed_add_le {stream : List UInt8} {session : Session σ}
    (h : ReadsIn stream session) :
    session.buffer.consumed + session.buffer.peek.length ≤ stream.length := by
  have hlength := h.unread.length_le
  have hwithin := h.within
  rw [List.length_drop] at hlength
  omega

/-- What stands at some place of the unread bytes is a range of the stream. -/
theorem ReadsIn.take_drop_peek {stream : List UInt8} {session : Session σ}
    (h : ReadsIn stream session) {offset length : Nat}
    (hinside : length ≤ (session.buffer.peek.drop offset).length) :
    (session.buffer.peek.drop offset).take length =
      stream.extract (session.buffer.consumed + offset)
        (session.buffer.consumed + offset + length) := by
  obtain ⟨later, hlater⟩ := h.unread
  have hdrop : stream.drop (session.buffer.consumed + offset) =
      (session.buffer.peek ++ later).drop offset := by
    rw [← List.drop_drop, hlater]
  rw [List.extract_eq_take_drop, Nat.add_sub_cancel_left, hdrop]
  rcases Nat.eq_zero_or_pos length with hzero | hpositive
  · rw [hzero, List.take_zero, List.take_zero]
  · rw [List.length_drop] at hinside
    rw [List.drop_append_of_le_length (by omega),
      List.take_append_of_le_length (by rw [List.length_drop]; exact hinside)]

/-- What a cycle discards ends where the next one reads. -/
def UsesBefore (earlier later : Session σ) : Prop :=
  earlier.buffer.consumed + earlier.effect.consumed ≤ later.buffer.consumed

/-- A history whose cycles have read its stream one after the other, each in a session of which
`holds` is true. -/
structure Placed (holds : Session σ → Prop) (history : History σ) : Prop where
  kept : holds history.session
  unread : history.session.buffer.peek = history.fed.drop history.session.buffer.consumed
  within : history.session.buffer.consumed ≤ history.fed.length
  read : ∀ session ∈ history.cycles, holds session ∧ ReadsIn history.fed session
  ordered : history.cycles.Pairwise UsesBefore
  behind : ∀ session ∈ history.cycles, UsesBefore session history.session

namespace Placed

variable {holds : Session σ → Prop} {history : History σ} (h : Placed holds history)

include h

/-- Feeding moves no cycle. -/
theorem feed (feed : ∀ session chunk, holds session → holds (session.feed chunk))
    (chunk : List UInt8) : Placed holds (history.call (.feed chunk)) where
  kept := feed _ chunk h.kept
  unread := by
    show (history.session.feed chunk).buffer.peek =
      (history.fed ++ chunk).drop (history.session.feed chunk).buffer.consumed
    rw [Session.peek_feed, Session.consumed_feed, h.unread, List.drop_append_of_le_length h.within]
  within := by
    show (history.session.feed chunk).buffer.consumed ≤ (history.fed ++ chunk).length
    rw [Session.consumed_feed, List.length_append]
    exact Nat.le_add_right_of_le h.within
  read := fun session hmem => ⟨(h.read session hmem).1, (h.read session hmem).2.append chunk⟩
  ordered := h.ordered
  behind := by
    intro session hmem
    show _ ≤ (history.session.feed chunk).buffer.consumed
    rw [Session.consumed_feed]
    exact h.behind session hmem

/-- The next cycle reads behind all that earlier ones have used up. -/
theorem cycle (cycle : ∀ session, holds session → holds session.cycle.session) :
    Placed holds (history.call .cycle) where
  kept := cycle _ h.kept
  unread := by
    show history.session.cycle.session.buffer.peek =
      history.fed.drop history.session.cycle.session.buffer.consumed
    rw [Session.peek_cycle, Session.consumed_cycle, h.unread, List.drop_drop]
  within := by
    have hused := history.session.effect_consumed_le
    have hwithin := h.within
    show history.session.cycle.session.buffer.consumed ≤ history.fed.length
    rw [h.unread, List.length_drop] at hused
    rw [Session.consumed_cycle]
    omega
  read := by
    intro session hmem
    rcases List.mem_append.1 hmem with hbefore | hlast
    · exact h.read session hbefore
    · rw [List.mem_singleton.1 hlast]
      exact ⟨h.kept, h.within, by rw [h.unread]; exact List.prefix_refl _⟩
  ordered := by
    refine List.pairwise_append.2 ⟨h.ordered, List.pairwise_singleton _ _, ?_⟩
    intro earlier hbefore later hlast
    rw [List.mem_singleton.1 hlast]
    exact h.behind earlier hbefore
  behind := by
    intro session hmem
    show _ ≤ history.session.cycle.session.buffer.consumed
    rw [Session.consumed_cycle]
    rcases List.mem_append.1 hmem with hbefore | hlast
    · exact Nat.le_add_right_of_le (h.behind session hbefore)
    · obtain rfl := List.mem_singleton.1 hlast
      exact Nat.le_refl _

end Placed

namespace Session

/-- **The cycles of a session read its stream one after the other**, whatever calls run them. -/
theorem placed_after {holds : Session σ → Prop}
    (feed : ∀ session chunk, holds session → holds (session.feed chunk))
    (cycle : ∀ session, holds session → holds session.cycle.session) {session : Session σ}
    (h : holds session) (hempty : session.buffer.peek = []) (hzero : session.buffer.consumed = 0)
    (calls : List Call) : Placed holds (session.after calls) := by
  refine after_induction session calls ?_ ?_ ?_
  · refine ⟨h, ?_, ?_, ?_, List.Pairwise.nil, ?_⟩
    · rw [hempty, List.drop_nil]
    · exact Nat.le_of_eq hzero
    · exact fun _ hmem => absurd hmem List.not_mem_nil
    · exact fun _ hmem => absurd hmem List.not_mem_nil
  · intro history chunk hplaced
    exact hplaced.feed feed chunk
  · intro history hplaced
    exact hplaced.cycle cycle

/-- What only cycles add to is what they have added, in order. -/
theorem collected_after {α : Type} (collected : History σ → List α) (added : Session σ → List α)
    (session : Session σ) (calls : List Call) (start : collected { session } = [])
    (feed : ∀ history chunk, collected (history.call (.feed chunk)) = collected history)
    (cycle : ∀ history,
      collected (history.call .cycle) = collected history ++ added history.session) :
    collected (session.after calls) = ((session.after calls).cycles.map added).flatten := by
  refine @after_induction σ (fun history =>
    collected history = (history.cycles.map added).flatten) session calls start ?_ ?_
  · intro history chunk h
    rw [feed]
    exact h
  · intro history h
    have hcycles : (history.call .cycle).cycles = history.cycles ++ [history.session] := rfl
    rw [cycle, hcycles, h, List.map_append, List.flatten_append]
    simp

/-- **A session gives what its cycles give**, in order, and nothing else. -/
theorem messages_after (session : Session σ) (calls : List Call) :
    (session.after calls).messages =
      ((session.after calls).cycles.map fun stage => stage.cycle.messages).flatten :=
  collected_after History.messages (·.cycle.messages) session calls rfl (fun _ _ => rfl)
    fun _ => rfl

/-- **A session reports what its cycles report**, in order, and nothing else. -/
theorem diagnostics_after (session : Session σ) (calls : List Call) :
    (session.after calls).diagnostics =
      ((session.after calls).cycles.map fun stage => stage.cycle.diagnostics).flatten :=
  collected_after History.diagnostics (·.cycle.diagnostics) session calls rfl (fun _ _ => rfl)
    fun _ => rfl

end Session

end NavStream.Frame
