import NavStream.Bytes.Buffer

/-!
# The byte buffer as a queue

Wherever the unread bytes of a buffer stand in its block, appending puts bytes behind them and
discarding takes bytes away in front of them. What else is left in the block is never read.

* `toList_moveBytes`, `toList_putBytes` — a block after bytes were moved or written;
* `peek_append`, `peek_drain` — the unread bytes after each operation;
* `consumed_append`, `consumed_drain` — the count of discarded bytes after each operation.
-/

namespace NavStream.Bytes

/-! ## Bytes inside a block -/

/-- A byte that is written is the last one of the bytes up to it. -/
theorem take_succ_set {bytes : List UInt8} {target : Nat} (h : target < bytes.length)
    (byte : UInt8) : (bytes.set target byte).take (target + 1) = bytes.take target ++ [byte] := by
  have hset : target < (bytes.set target byte).length := by rwa [List.length_set]
  rw [List.take_succ_eq_append_getElem hset, List.take_set_of_le (Nat.le_refl _),
    List.getElem_set_self]

/-- Bytes that were moved to the front stand there, whether or not they overlapped what stood there
before. -/
theorem toList_moveBytes {block : Array UInt8} {source target count : Nat}
    (hfront : target ≤ source) (hfits : source + count ≤ block.size) :
    (moveBytes block source target count).toList =
      block.toList.take target ++ (block.toList.drop source).take count ++
        block.toList.drop (target + count) := by
  -- the first byte lands at or in front of its place, so that all others are still to be read there
  induction count generalizing block source target with
  | zero => rw [moveBytes, List.take_zero, List.append_nil, Nat.add_zero, List.take_append_drop]
  | succ count ih =>
    have hsource : source < block.toList.length := by rw [Array.length_toList]; omega
    have htarget : target < block.toList.length := Nat.lt_of_le_of_lt hfront hsource
    have hbyte : block.getD source 0 = block.toList[source] := by
      rw [Array.getD_eq_getD_getElem?, Array.getElem?_eq_getElem hsource, Option.getD_some,
        Array.getElem_toList]
    have hrest : target + 1 + count = target + (count + 1) := by omega
    rw [moveBytes, hbyte, ih (Nat.add_le_add_right hfront 1)
      (by rw [Array.size_setIfInBounds]; omega), Array.toList_setIfInBounds,
      take_succ_set htarget, List.drop_set_of_lt (by omega), List.drop_set_of_lt (by omega),
      List.drop_eq_getElem_cons hsource, List.take_succ_cons, hrest]
    simp only [List.append_assoc, List.singleton_append]

/-- Bytes that were written stand where they were written, and the rest of the block is as it
was. -/
theorem toList_putBytes {block : Array UInt8} {target : Nat} (h : target ≤ block.size)
    (bytes : List UInt8) :
    (putBytes block target bytes).toList =
      block.toList.take target ++ bytes ++ block.toList.drop (target + bytes.length) := by
  induction bytes generalizing block target with
  | nil => rw [putBytes, List.append_nil, List.length_nil, Nat.add_zero, List.take_append_drop]
  | cons byte rest ih =>
    have hrest : target + 1 + rest.length = target + (rest.length + 1) := by omega
    rw [putBytes, List.length_cons]
    split
    next hlt =>
      rw [ih (by rw [Array.size_setIfInBounds]; exact hlt), Array.toList_setIfInBounds,
        take_succ_set hlt, List.drop_set_of_lt (by omega), hrest]
      simp only [List.append_assoc, List.singleton_append]
    next hge =>
      have hend : block.toList.length ≤ target := Nat.le_of_not_lt hge
      have hlast : (block.toList ++ [byte]).length ≤ target + 1 := by
        rw [List.length_append]
        exact Nat.succ_le_succ hend
      rw [ih (by rw [Array.size_push]; exact Nat.succ_le_succ h), Array.toList_push,
        List.take_of_length_le hlast, List.take_of_length_le hend,
        List.drop_of_length_le (Nat.le_add_right_of_le hlast), List.drop_of_length_le (by omega)]
      simp only [List.append_assoc, List.singleton_append]

namespace ByteBuffer

/-! ## The unread bytes -/

/-- The unread bytes are those of the block between both cursors. -/
theorem peek_eq (buffer : ByteBuffer) :
    buffer.peek = (buffer.written.toList.take buffer.writePos).drop buffer.readPos := by
  rw [peek, Array.toList_extract, List.extract_eq_take_drop, List.drop_take]

/-- A new buffer has nothing to read. -/
@[simp] theorem peek_withCapacity (capacity : Nat) : (withCapacity capacity).peek = [] := by
  apply List.eq_nil_of_length_eq_zero
  rw [length_peek, readable_withCapacity]

/-- Moving the unread bytes to the front keeps them. -/
theorem peek_compact (buffer : ByteBuffer) : buffer.compact.peek = buffer.peek := by
  have hreserve := buffer.reserve_le_readPos
  have hcursors := buffer.readPos_le_writePos
  have hsize := buffer.writePos_le_size
  have hend : buffer.readPos + buffer.readable ≤ buffer.written.size := by
    unfold readable
    omega
  have hfront : (buffer.written.toList.take reserve).length = reserve := by
    rw [List.length_take, Array.length_toList]
    omega
  have hmoved : ((buffer.written.toList.drop buffer.readPos).take buffer.readable).length =
      buffer.readable := by
    rw [List.length_take, List.length_drop, Array.length_toList]
    omega
  have hlength : (buffer.written.toList.take reserve ++
      (buffer.written.toList.drop buffer.readPos).take buffer.readable).length =
      reserve + buffer.readable := by
    rw [List.length_append, hfront, hmoved]
  rw [peek_eq, peek_eq]
  show ((moveBytes buffer.written buffer.readPos reserve buffer.readable).toList.take
    (reserve + buffer.readable)).drop reserve = _
  rw [toList_moveBytes hreserve hend, ← hlength, List.take_left, List.drop_left' hfront,
    List.drop_take, readable]

/-- Making room keeps the unread bytes. -/
theorem peek_makeRoom (buffer : ByteBuffer) (count : Nat) :
    (buffer.makeRoom count).peek = buffer.peek := by
  unfold makeRoom
  split
  · rfl
  · split
    · rfl
    · exact peek_compact buffer

/-- Bytes that are written into free room stand behind the unread ones. -/
theorem peek_write (buffer : ByteBuffer) (bytes : List UInt8)
    (fits : buffer.writePos + bytes.length ≤ buffer.capacity) :
    (buffer.write bytes fits).peek = buffer.peek ++ bytes := by
  have hfront : (buffer.written.toList.take buffer.writePos).length = buffer.writePos := by
    rw [List.length_take, Array.length_toList]
    exact Nat.min_eq_left buffer.writePos_le_size
  have hlength : (buffer.written.toList.take buffer.writePos ++ bytes).length =
      buffer.writePos + bytes.length := by
    rw [List.length_append, hfront]
  rw [peek_eq, peek_eq]
  show ((putBytes buffer.written buffer.writePos bytes).toList.take
    (buffer.writePos + bytes.length)).drop buffer.readPos = _
  rw [toList_putBytes buffer.writePos_le_size, ← hlength, List.take_left,
    List.drop_append_of_le_length (by rw [hfront]; exact buffer.readPos_le_writePos)]

/-- Bytes are appended behind the unread ones. -/
@[simp] theorem peek_append (buffer : ByteBuffer) (bytes : List UInt8) :
    (buffer.append bytes).peek = buffer.peek ++ bytes := by
  rw [append, peek_write, peek_makeRoom]

/-- Nothing is left to read once everything is discarded. -/
@[simp] theorem peek_drainAll (buffer : ByteBuffer) : buffer.drainAll.peek = [] := by
  apply List.eq_nil_of_length_eq_zero
  rw [length_peek, readable_drainAll]

/-- Bytes are discarded in front of the unread ones. -/
@[simp] theorem peek_drain (buffer : ByteBuffer) (count : Nat) :
    (buffer.drain count).peek = buffer.peek.drop count := by
  by_cases h : count < buffer.readable
  · have hdrain : (buffer.drain count).peek =
        (buffer.written.toList.take buffer.writePos).drop (buffer.readPos + count) := by
      rw [peek_eq, drain, dif_pos h]
    rw [hdrain, peek_eq, List.drop_drop]
  · rw [drain, dif_neg h, peek_drainAll, List.drop_of_length_le]
    rw [length_peek]
    omega

/-- Discarding more bytes than there are discards all of them. -/
@[simp] theorem drop_min_readable (buffer : ByteBuffer) (count : Nat) :
    buffer.peek.drop (min count buffer.readable) = buffer.peek.drop count := by
  rcases Nat.le_total count buffer.readable with h | h
  · rw [Nat.min_eq_left h]
  · have hcount : buffer.peek.length ≤ count := by rw [length_peek]; exact h
    rw [Nat.min_eq_right h, List.drop_of_length_le hcount, ← length_peek, List.drop_length]

/-- Making room discards nothing. -/
theorem consumed_makeRoom (buffer : ByteBuffer) (count : Nat) :
    (buffer.makeRoom count).consumed = buffer.consumed := by
  unfold makeRoom
  split
  · rfl
  · split <;> rfl

/-- Appending discards nothing. -/
@[simp] theorem consumed_append (buffer : ByteBuffer) (bytes : List UInt8) :
    (buffer.append bytes).consumed = buffer.consumed :=
  consumed_makeRoom buffer bytes.length

/-- Discarded bytes are counted, as far as there were that many. -/
@[simp] theorem consumed_drain (buffer : ByteBuffer) (count : Nat) :
    (buffer.drain count).consumed = buffer.consumed + min count buffer.readable := by
  unfold drain
  split
  next h => rw [Nat.min_eq_left (Nat.le_of_lt h)]
  next h => rw [Nat.min_eq_right (Nat.le_of_not_lt h), drainAll]

end ByteBuffer

end NavStream.Bytes
