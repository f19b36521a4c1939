import SocketDemux.Bytes
import SocketDemux.Error.Basic
/-!
# SocketDemux.Buffer.Storage

A **bounded byte queue** in a fixed block of cells.

The first `filled` cells hold the buffered bytes; the cells behind them are free
room and hold whatever was there before. Buffered bytes always start at the first
cell: taking some off the front moves the rest down, over the cells they leave.

* `Storage.data` — the buffered bytes: the view in which a storage is a queue.
* `Storage.write`, `Storage.commit` — bytes are first put into the free room, and
  count as buffered when they are committed.
* `Storage.pop`, `Storage.discard` — take bytes off the front; more than are
  buffered are refused, and nothing changes.
* `Storage.find` — looks at the buffered bytes only, not at what the free room
  happens to hold.
-/

namespace SocketDemux

/-- A block of cells of which the first `filled` are in use. -/
structure Storage where
  cells : Bytes
  filled : Nat
  filled_le : filled ≤ cells.length
  /-- Positions are machine words. -/
  length_cells_le : cells.length ≤ wordMax

/-- The cells after moving those in `[first, last)` down to the front, over whatever
is there; the cells they come from keep their content. -/
def moveToFront (cells : Bytes) (first last : Nat) : Bytes :=
  overwrite cells ((cells.take last).drop first)

theorem length_moveToFront (cells : Bytes) (first last : Nat) :
    (moveToFront cells first last).length = cells.length := by
  apply length_overwrite
  rw [List.length_drop, List.length_take]
  omega

namespace Storage

/-- An empty storage of `capacity` cells, or of as many as can be addressed. -/
def withCapacity (capacity : Nat) : Storage :=
  ⟨List.replicate (min capacity wordMax) 0, 0, by omega, by rw [List.length_replicate]; omega⟩

/-- The buffered bytes. -/
def data (s : Storage) : Bytes := s.cells.take s.filled

/-- How many bytes are buffered. -/
def length (s : Storage) : Nat := s.filled

/-- How many bytes fit. -/
def capacity (s : Storage) : Nat := s.cells.length

/-- Is nothing buffered? -/
def isEmpty (s : Storage) : Bool := s.filled = 0

/-- Is there no free room? -/
def isFull (s : Storage) : Bool := s.filled = s.cells.length

/-- The cells of the free room. -/
def spare (s : Storage) : Bytes := s.cells.drop s.filled

/-- Writes over the front of the free room, without counting it as buffered. What
does not fit is left out. -/
def write (s : Storage) (bytes : Bytes) : Storage :=
  ⟨s.cells.take s.filled ++ overwrite s.spare (bytes.take s.spare.length), s.filled, by
    have := s.filled_le
    rw [List.length_append, List.length_take]
    omega, by
    have := s.filled_le
    have := s.length_cells_le
    rw [List.length_append, length_overwrite (List.length_take_le ..), spare, List.length_take,
      List.length_drop]
    omega⟩

/-- Counts the first `count` cells of the free room as buffered. -/
def commit (s : Storage) (count : Nat) : Storage :=
  ⟨s.cells, min (saturatingAdd s.filled count) s.cells.length, by omega, s.length_cells_le⟩

/-- The position of the first such byte. -/
def find (s : Storage) (byte : UInt8) : Option Nat := s.data.findIdx? (· = byte)

/-- Are `count` bytes buffered? -/
def check (s : Storage) (count : Nat) : Except SocketError Unit :=
  if count ≤ s.filled then .ok () else .error (.outOfRange count s.filled)

/-- Drops the first `count` bytes and moves the rest down. -/
def shift (s : Storage) (count : Nat) : Storage :=
  ⟨moveToFront s.cells count s.filled, s.filled - count, by
    have := s.filled_le
    rw [length_moveToFront]; omega, by
    rw [length_moveToFront]
    exact s.length_cells_le⟩

/-- Takes the first `count` bytes off. -/
def pop (s : Storage) (count : Nat) : Except SocketError Bytes × Storage :=
  match s.check count with
  | .error e => (.error e, s)
  | .ok () => (.ok (s.cells.take count), s.shift count)

/-- Drops the first `count` bytes. -/
def discard (s : Storage) (count : Nat) : Except SocketError Unit × Storage :=
  match s.check count with
  | .error e => (.error e, s)
  | .ok () => (.ok (), s.shift count)

/-- A copy of the first `count` bytes. -/
def peek (s : Storage) (count : Nat) : Except SocketError Bytes :=
  match s.check count with
  | .error e => .error e
  | .ok () => .ok (s.data.take count)

/-! ### The queue view -/

@[simp] theorem data_withCapacity (capacity : Nat) : (withCapacity capacity).data = [] := by
  simp [data, withCapacity]

@[simp] theorem capacity_withCapacity (capacity : Nat) :
    (withCapacity capacity).capacity = min capacity wordMax := by
  simp [Storage.capacity, withCapacity]

@[simp] theorem length_data (s : Storage) : s.data.length = s.filled := by
  have := s.filled_le
  simp [data]; omega

@[simp] theorem length_spare (s : Storage) : s.spare.length = s.capacity - s.filled := by
  simp [spare, capacity]

theorem data_append_spare (s : Storage) : s.data ++ s.spare = s.cells :=
  List.take_append_drop ..

@[simp] theorem filled_write (s : Storage) (bytes : Bytes) :
    (s.write bytes).filled = s.filled := rfl

@[simp] theorem capacity_write (s : Storage) (bytes : Bytes) :
    (s.write bytes).capacity = s.capacity := by
  have := s.filled_le
  simp only [Storage.capacity, write]
  rw [List.length_append, length_overwrite (List.length_take_le ..), spare, List.length_take,
    List.length_drop]
  omega

/-- What is written into the free room does not count as buffered. -/
@[simp] theorem data_write (s : Storage) (bytes : Bytes) : (s.write bytes).data = s.data := by
  have front : (s.cells.take s.filled).length = s.filled := by
    have := s.filled_le
    rw [List.length_take]
    omega
  simp only [data, write]
  rw [List.take_append, front, Nat.sub_self, List.take_zero, List.append_nil, List.take_take,
    Nat.min_self]

/-- Bytes are written over the front of the room. -/
theorem spare_write (s : Storage) (bytes : Bytes) :
    (s.write bytes).spare = overwrite s.spare (bytes.take s.spare.length) := by
  have front : (s.cells.take s.filled).length = s.filled := s.length_data
  rw [spare, filled_write, write]
  dsimp only
  rw [List.drop_append_of_le_length (by omega), List.drop_eq_nil_of_le (by omega),
    List.nil_append]

@[simp] theorem capacity_commit (s : Storage) (count : Nat) :
    (s.commit count).capacity = s.capacity := rfl

@[simp] theorem capacity_shift (s : Storage) (count : Nat) :
    (s.shift count).capacity = s.capacity := by
  simp [Storage.capacity, shift, length_moveToFront]

@[simp] theorem filled_shift (s : Storage) (count : Nat) :
    (s.shift count).filled = s.filled - count := rfl

/-- As many cells are moved down as bytes stay buffered. -/
theorem length_moved (s : Storage) (count : Nat) :
    ((s.cells.take s.filled).drop count).length = s.filled - count := by
  have := s.filled_le
  rw [List.length_drop, List.length_take]
  omega

/-- What is moved down are the buffered bytes behind the first `count`. -/
theorem data_shift (s : Storage) (count : Nat) :
    (s.shift count).data = s.data.drop count := by
  have moved := s.length_moved count
  simp only [data, shift, moveToFront, overwrite]
  rw [List.take_append_of_le_length (by omega), ← moved, List.take_length]

/-- Bytes that are taken off leave as many cells to the room, with what the last of them
held. -/
theorem spare_shift {s : Storage} {count : Nat} (enough : count ≤ s.filled) :
    (s.shift count).spare = s.data.drop (s.filled - count) ++ s.spare := by
  have moved := s.length_moved count
  have left : (s.shift count).spare = s.cells.drop (s.filled - count) := by
    rw [spare, filled_shift, shift]
    dsimp only
    rw [moveToFront, overwrite, moved, ← moved, List.drop_left]
  rw [left, ← data_append_spare, List.drop_append_of_le_length (by rw [length_data]; omega)]

/-- Committing at most the free room counts exactly that much: neither the word nor
the capacity cuts it short. -/
theorem filled_commit {s : Storage} {count : Nat} (room : count ≤ s.capacity - s.filled) :
    (s.commit count).filled = s.filled + count := by
  have := s.filled_le
  have := s.length_cells_le
  simp only [Storage.capacity] at room
  simp only [commit]
  rw [saturatingAdd_eq (by omega)]
  omega

/-- What is counted is what lies in front of the room. -/
theorem data_commit {s : Storage} {count : Nat} (room : count ≤ s.spare.length) :
    (s.commit count).data = s.data ++ s.spare.take count := by
  have counted : (s.commit count).filled = s.filled + count :=
    filled_commit (by rwa [length_spare] at room)
  rw [data, counted, data, spare]
  exact List.take_add

theorem spare_commit {s : Storage} {count : Nat} (room : count ≤ s.spare.length) :
    (s.commit count).spare = s.spare.drop count := by
  have counted : (s.commit count).filled = s.filled + count :=
    filled_commit (by rwa [length_spare] at room)
  rw [spare, counted, spare, List.drop_drop]
  rfl

/-- Bytes that are written and counted are appended. -/
theorem data_append {s : Storage} {bytes : Bytes} {count : Nat}
    (fits : bytes.length ≤ s.spare.length) (written : count ≤ bytes.length) :
    ((s.write bytes).commit count).data = s.data ++ bytes.take count := by
  have room : count ≤ (s.write bytes).spare.length := by
    rw [length_spare, capacity_write, filled_write, ← length_spare]
    omega
  rw [data_commit room, data_write, spare_write, List.take_of_length_le fits, overwrite,
    List.take_append_of_le_length written]

/-- Bytes that are written into the free room and committed join the buffered ones. -/
theorem data_write_commit {s : Storage} {bytes : Bytes}
    (room : bytes.length ≤ s.capacity - s.filled) :
    ((s.write bytes).commit bytes.length).data = s.data ++ bytes := by
  rw [data_append (by rwa [length_spare]) (Nat.le_refl _), List.take_length]

/-- The cells that are popped are buffered. -/
theorem pop_of_le {s : Storage} {count : Nat} (h : count ≤ s.filled) :
    s.pop count = (.ok (s.data.take count), s.shift count) := by
  have front : s.cells.take count = s.data.take count := by
    rw [data, List.take_take, Nat.min_eq_left h]
  simp [pop, check, h, front]

theorem pop_of_lt {s : Storage} {count : Nat} (h : s.filled < count) :
    s.pop count = (.error (.outOfRange count s.filled), s) := by
  simp [pop, check, Nat.not_le.mpr h]

theorem discard_of_le {s : Storage} {count : Nat} (h : count ≤ s.filled) :
    s.discard count = (.ok (), s.shift count) := by
  simp [discard, check, h]

theorem discard_of_lt {s : Storage} {count : Nat} (h : s.filled < count) :
    s.discard count = (.error (.outOfRange count s.filled), s) := by
  simp [discard, check, Nat.not_le.mpr h]

end Storage

end SocketDemux
