/-!
# The byte buffer of a stream

Bytes arrive from a transport in arbitrary fragments and leave at the front as frames are decoded.
A `ByteBuffer` keeps them in one block, laid out as reserve, drained bytes, unread bytes and free
room. Appending first moves unread bytes to the front of the block when that makes enough room, and
only otherwise enlarges the block.

* `ByteBuffer.allocate?` — a new buffer, where there can be one;
* `ByteBuffer.append`, `drain`, `drainAll`, `poll` — the operations;
* `ByteBuffer.peek` — the unread bytes;
* `readable_append`, `readable_drain` — how many bytes wait after each operation.
-/

namespace NavStream.Bytes

/-- Bytes kept free in front of the first unread byte. -/
def reserve : Nat := 8

/-- Room for bytes of a new buffer, the reserve not counted, where nothing else is asked for. -/
def defaultCapacity : Nat := 4096

/-- The most bytes that one block can have: the largest signed word. -/
def largestBlock : Nat := UInt64.size / 2 - 1

/-- Copies `count` bytes of a block from `source` to `target`, the first one first. Both ranges may
overlap where the bytes move to the front. -/
def moveBytes (block : Array UInt8) (source target : Nat) : Nat → Array UInt8
  | 0 => block
  | count + 1 =>
    moveBytes (block.setIfInBounds target (block.getD source 0)) (source + 1) (target + 1) count

/-- Moving bytes does not change the size of a block. -/
@[simp] theorem size_moveBytes (block : Array UInt8) (source target count : Nat) :
    (moveBytes block source target count).size = block.size := by
  induction count generalizing block source target with
  | zero => rfl
  | succ count ih => rw [moveBytes, ih, Array.size_setIfInBounds]

/-- Writes bytes into a block, over what stands there from `target` on and behind its end. -/
def putBytes (block : Array UInt8) (target : Nat) : List UInt8 → Array UInt8
  | [] => block
  | byte :: rest =>
    putBytes (if target < block.size then block.setIfInBounds target byte else block.push byte)
      (target + 1) rest

/-- A block grows as far as bytes are written behind its end. -/
theorem size_putBytes {block : Array UInt8} {target : Nat} (h : target ≤ block.size)
    (bytes : List UInt8) :
    (putBytes block target bytes).size = max block.size (target + bytes.length) := by
  induction bytes generalizing block target with
  | nil =>
    rw [putBytes, List.length_nil]
    omega
  | cons byte rest ih =>
    rw [putBytes, List.length_cons]
    split
    next hlt =>
      rw [ih (by rw [Array.size_setIfInBounds]; exact hlt), Array.size_setIfInBounds]
      omega
    next hge =>
      rw [ih (by rw [Array.size_push]; omega), Array.size_push]
      omega

/-- The block that holds the unread bytes of a stream. -/
structure ByteBuffer where
  /-- The block as far as it was ever written. Bytes that were discarded are left in it, in front of
  the unread ones and behind them. -/
  written : Array UInt8
  /-- Where the unread bytes begin. -/
  readPos : Nat
  /-- Where the unread bytes end and free room begins. -/
  writePos : Nat
  /-- The size of the whole block, the reserve and free room included. -/
  capacity : Nat
  /-- How many bytes were discarded over the life of the buffer. -/
  consumed : Nat
  /-- The reserve is never read. -/
  reserve_le_readPos : reserve ≤ readPos
  /-- Unread bytes begin before they end. -/
  readPos_le_writePos : readPos ≤ writePos
  /-- Unread bytes were written. -/
  writePos_le_size : writePos ≤ written.size
  /-- What was written lies inside the block. -/
  size_le_capacity : written.size ≤ capacity

namespace ByteBuffer

/-- An empty buffer with room for `capacity` bytes behind the reserve, whatever that is. Rooms that
are given as words go through `allocate?`. -/
def withCapacity (capacity : Nat) : ByteBuffer where
  written := Array.replicate reserve 0
  readPos := reserve
  writePos := reserve
  capacity := reserve + capacity
  consumed := 0
  reserve_le_readPos := Nat.le_refl _
  readPos_le_writePos := Nat.le_refl _
  writePos_le_size := by simp
  size_le_capacity := by simp

instance : Inhabited ByteBuffer := ⟨withCapacity defaultCapacity⟩

/-- The size of the block of a new buffer, in the arithmetic of words. -/
def blockSize (capacity : UInt64) : UInt64 := reserve.toUInt64 + capacity

/-- An empty buffer with room for `capacity` bytes behind the reserve. There is none where the size
of its block overflows a word, so that the block would end in front of the cursors, and none where
no block can be that large. -/
def allocate? (capacity : UInt64) : Option ByteBuffer :=
  let size := blockSize capacity
  if size < capacity ∨ largestBlock < size.toNat then none else some (withCapacity capacity.toNat)

/-- The size of a block as words add it. -/
theorem toNat_blockSize (capacity : UInt64) :
    (blockSize capacity).toNat = (reserve + capacity.toNat) % UInt64.size :=
  UInt64.toNat_add _ _

/-- The size of a block overflows a word, or is larger than a block can be, just where the reserve
and the room are together larger than a block can be. -/
theorem blockSize_fails_iff (capacity : UInt64) :
    blockSize capacity < capacity ∨ largestBlock < (blockSize capacity).toNat ↔
      largestBlock < reserve + capacity.toNat := by
  have hword := capacity.toNat_lt_size
  rw [UInt64.lt_iff_toNat_lt, toNat_blockSize, largestBlock, reserve]
  rw [UInt64.size] at hword ⊢
  omega

/-- **Where there is a buffer**: the reserve and the room are together no larger than a block can
be. -/
theorem allocate?_eq (capacity : UInt64) :
    allocate? capacity =
      if reserve + capacity.toNat ≤ largestBlock then some (withCapacity capacity.toNat)
      else none := by
  by_cases hfits : reserve + capacity.toNat ≤ largestBlock
  · have hgood := mt (blockSize_fails_iff capacity).1 (Nat.not_lt.2 hfits)
    rw [if_pos hfits, allocate?, if_neg hgood]
  · have hfails := (blockSize_fails_iff capacity).2 (Nat.not_le.1 hfits)
    rw [if_neg hfits, allocate?, if_pos hfails]

/-- The number of unread bytes. -/
def readable (buffer : ByteBuffer) : Nat := buffer.writePos - buffer.readPos

/-- Whether no byte waits to be read. -/
def isEmpty (buffer : ByteBuffer) : Bool := buffer.readable == 0

/-- The unread bytes. -/
def peek (buffer : ByteBuffer) : List UInt8 :=
  (buffer.written.extract buffer.readPos buffer.writePos).toList

/-- Free room behind the unread bytes. -/
def writable (buffer : ByteBuffer) : Nat := buffer.capacity - buffer.writePos

/-- Drained bytes in front of the unread ones, whose room can be used again. -/
def frontSlack (buffer : ByteBuffer) : Nat := buffer.readPos - reserve

/-- Unread bytes fit where they would begin right behind the reserve. -/
theorem reserve_add_readable_le (buffer : ByteBuffer) :
    reserve + buffer.readable ≤ buffer.writePos := by
  have h₁ := buffer.reserve_le_readPos
  have h₂ := buffer.readPos_le_writePos
  unfold readable
  omega

/-- Enlarges the block so that `count` bytes fit behind the unread ones, which stay where they
are. -/
def grow (buffer : ByteBuffer) (count : Nat) : ByteBuffer where
  written := buffer.written
  readPos := buffer.readPos
  writePos := buffer.writePos
  capacity := buffer.capacity + (count - buffer.writable)
  consumed := buffer.consumed
  reserve_le_readPos := buffer.reserve_le_readPos
  readPos_le_writePos := buffer.readPos_le_writePos
  writePos_le_size := buffer.writePos_le_size
  size_le_capacity := Nat.le_trans buffer.size_le_capacity (Nat.le_add_right _ _)

/-- Moves the unread bytes to the front of the block, right behind the reserve. -/
def compact (buffer : ByteBuffer) : ByteBuffer where
  written := moveBytes buffer.written buffer.readPos reserve buffer.readable
  readPos := reserve
  writePos := reserve + buffer.readable
  capacity := buffer.capacity
  consumed := buffer.consumed
  reserve_le_readPos := Nat.le_refl _
  readPos_le_writePos := Nat.le_add_right _ _
  writePos_le_size := by
    rw [size_moveBytes]
    exact Nat.le_trans buffer.reserve_add_readable_le buffer.writePos_le_size
  size_le_capacity := by
    rw [size_moveBytes]
    exact buffer.size_le_capacity

/-- Makes room for `count` more bytes: nothing is done where they fit, and the block grows only
where moving the unread bytes to the front would not help. -/
def makeRoom (buffer : ByteBuffer) (count : Nat) : ByteBuffer :=
  if count ≤ buffer.writable then buffer
  else if buffer.writable + buffer.frontSlack < count then buffer.grow count
  else buffer.compact

/-- Making room leaves at least the room that was asked for. -/
theorem writePos_makeRoom_add_le (buffer : ByteBuffer) (count : Nat) :
    (buffer.makeRoom count).writePos + count ≤ (buffer.makeRoom count).capacity := by
  have h₁ := buffer.reserve_le_readPos
  have h₂ := buffer.readPos_le_writePos
  have h₃ := Nat.le_trans buffer.writePos_le_size buffer.size_le_capacity
  unfold makeRoom
  split
  next h => simp only [writable] at h; omega
  next h =>
    split
    next =>
      simp only [grow, writable]
      omega
    next h' =>
      simp only [compact, writable, frontSlack, readable] at h h' ⊢
      omega

/-- Writes bytes into the free room behind the unread ones. -/
def write (buffer : ByteBuffer) (bytes : List UInt8)
    (fits : buffer.writePos + bytes.length ≤ buffer.capacity) : ByteBuffer where
  written := putBytes buffer.written buffer.writePos bytes
  readPos := buffer.readPos
  writePos := buffer.writePos + bytes.length
  capacity := buffer.capacity
  consumed := buffer.consumed
  reserve_le_readPos := buffer.reserve_le_readPos
  readPos_le_writePos := Nat.le_add_right_of_le buffer.readPos_le_writePos
  writePos_le_size := by
    rw [size_putBytes buffer.writePos_le_size]
    exact Nat.le_max_right _ _
  size_le_capacity := by
    rw [size_putBytes buffer.writePos_le_size]
    exact Nat.max_le.2 ⟨buffer.size_le_capacity, fits⟩

/-- Adds bytes behind the unread ones. -/
def append (buffer : ByteBuffer) (bytes : List UInt8) : ByteBuffer :=
  (buffer.makeRoom bytes.length).write bytes (buffer.writePos_makeRoom_add_le _)

/-- Discards every unread byte; the whole room behind the reserve is free again. -/
def drainAll (buffer : ByteBuffer) : ByteBuffer where
  written := buffer.written
  readPos := reserve
  writePos := reserve
  capacity := buffer.capacity
  consumed := buffer.consumed + buffer.readable
  reserve_le_readPos := Nat.le_refl _
  readPos_le_writePos := Nat.le_refl _
  writePos_le_size :=
    Nat.le_trans (Nat.le_trans buffer.reserve_le_readPos buffer.readPos_le_writePos)
      buffer.writePos_le_size
  size_le_capacity := buffer.size_le_capacity

/-- Discards up to `count` unread bytes from the front. -/
def drain (buffer : ByteBuffer) (count : Nat) : ByteBuffer :=
  if h : count < buffer.readable then
    { written := buffer.written
      readPos := buffer.readPos + count
      writePos := buffer.writePos
      capacity := buffer.capacity
      consumed := buffer.consumed + count
      reserve_le_readPos := Nat.le_add_right_of_le buffer.reserve_le_readPos
      readPos_le_writePos := by
        unfold readable at h
        omega
      writePos_le_size := buffer.writePos_le_size
      size_le_capacity := buffer.size_le_capacity }
  else buffer.drainAll

/-- Takes the next unread byte out of the buffer. -/
def poll (buffer : ByteBuffer) : Option (UInt8 × ByteBuffer) :=
  if h : buffer.readPos < buffer.writePos then
    have inside : buffer.readPos < buffer.written.size :=
      Nat.lt_of_lt_of_le h buffer.writePos_le_size
    some (buffer.written[buffer.readPos], buffer.drain 1)
  else none

/-! ## How many bytes wait -/

/-- A new buffer holds nothing. -/
@[simp] theorem readable_withCapacity (capacity : Nat) : (withCapacity capacity).readable = 0 :=
  Nat.sub_self reserve

/-- There are as many unread bytes as the cursors say. -/
@[simp] theorem length_peek (buffer : ByteBuffer) : buffer.peek.length = buffer.readable := by
  have h := buffer.writePos_le_size
  rw [peek, Array.length_toList, Array.size_extract, readable, Nat.min_eq_left h]

/-- Making room neither adds nor removes unread bytes. -/
@[simp] theorem readable_makeRoom (buffer : ByteBuffer) (count : Nat) :
    (buffer.makeRoom count).readable = buffer.readable := by
  unfold makeRoom
  split
  · rfl
  · split
    · rfl
    · exact Nat.add_sub_cancel_left reserve buffer.readable

/-- Every byte appended waits to be read. -/
@[simp] theorem readable_append (buffer : ByteBuffer) (bytes : List UInt8) :
    (buffer.append bytes).readable = buffer.readable + bytes.length := by
  have h := readable_makeRoom buffer bytes.length
  have h₂ := (buffer.makeRoom bytes.length).readPos_le_writePos
  simp only [readable] at h
  simp only [append, write, readable]
  omega

/-- Nothing waits once everything is discarded. -/
@[simp] theorem readable_drainAll (buffer : ByteBuffer) : buffer.drainAll.readable = 0 :=
  Nat.sub_self reserve

/-- Discarding takes away what it is asked to, as far as there is that much. -/
@[simp] theorem readable_drain (buffer : ByteBuffer) (count : Nat) :
    (buffer.drain count).readable = buffer.readable - count := by
  unfold drain
  split
  next h => simp only [readable] at h ⊢; omega
  next h => rw [readable_drainAll]; omega

/-- Every byte taken out leaves one fewer to read. -/
theorem readable_of_poll {buffer rest : ByteBuffer} {byte : UInt8}
    (h : buffer.poll = some (byte, rest)) : rest.readable + 1 = buffer.readable := by
  unfold poll at h
  split at h
  next hlt =>
    cases h
    have h₀ : 0 < buffer.readable := by simp only [readable]; omega
    rw [readable_drain]
    omega
  next => cases h

end ByteBuffer

end NavStream.Bytes
