import Mathlib.Data.List.Infix
import SocketDemux.Proofs.Buffer.Refill
/-!
# SocketDemux.Proofs.Buffer.Queue

A storage **is a bounded queue of bytes**, in every sequence of calls.

The cells of a storage hold more than the queue does: behind the buffered bytes lies the
free room, with whatever was written into it and not counted yet, what was there before,
and what bytes that were taken off have left behind. All of that may come to be buffered
by a `commit`, so the view that is followed through a sequence of calls has both parts:

* `ByteQueue` — the bytes that are queued, and those that are known to lie ready in the
  front of the room. `ByteQueue.answer` is what each call does to two plain lists.
* `Storage.queue` — the view that knows the whole room. Every call of a storage is the one
  on this view (`queue_answer`), so no call ever reads cells that it must not read.
* `ByteQueue.Within` — knowing less of the room. As long as no more is counted than is
  known, it makes no difference (`Within.answers`): that is why two storages with the same
  buffered bytes cannot be told apart by what lies stale in their room.
* `Storage.QueueLaw`, `Storage.Lawful` — what holds of a sequence of calls, and of each
  call at the point that it has come to.

`moveToFront_eq_copyDown` is about the copy that a shift makes. Source and target overlap;
since the target lies in front, cells that are copied one by one are not overwritten before
their turn.
-/

namespace SocketDemux

/-! ### The copy to the front -/

/-- The cells after `count` of them were copied to the front, one after the other, each
from `first` cells further up. -/
def copyDown (cells : Bytes) (first : Nat) : Nat → Bytes
  | 0 => cells
  | count + 1 =>
      let copied := copyDown cells first count
      match copied[first + count]? with
      | some byte => copied.set count byte
      | none => copied

/-- The cells that are still to be copied hold what they held in the beginning. -/
theorem getElem?_copyDown {cells : Bytes} {first count : Nat}
    (fits : first + count ≤ cells.length) (i : Nat) :
    (copyDown cells first count)[i]? = if i < count then cells[first + i]? else cells[i]? := by
  induction count generalizing i with
  | zero => simp [copyDown]
  | succ count ih =>
    have earlier := ih (by omega)
    have length_copied : count < (copyDown cells first count).length := by
      refine (List.getElem?_eq_some_iff (a := cells[count])).mp ?_ |>.choose
      rw [earlier, if_neg (Nat.lt_irrefl _), List.getElem?_eq_getElem]
    have untouched : (copyDown cells first count)[first + count]? = some cells[first + count] := by
      rw [earlier, if_neg (by omega), List.getElem?_eq_getElem]
    rw [copyDown]
    simp only [untouched]
    rw [List.getElem?_set]
    by_cases here : count = i
    · subst here
      rw [if_pos rfl, if_pos length_copied, if_pos (Nat.lt_succ_self _),
        List.getElem?_eq_getElem]
    · rw [if_neg here, earlier]
      by_cases before : i < count
      · rw [if_pos before, if_pos (by omega)]
      · rw [if_neg before, if_neg (by omega)]

/-- To copy one by one moves all of them, though the cells overlap. -/
theorem moveToFront_eq_copyDown {cells : Bytes} {first last : Nat} (ordered : first ≤ last)
    (fits : last ≤ cells.length) :
    moveToFront cells first last = copyDown cells first (last - first) := by
  have moved : ((cells.take last).drop first).length = last - first := by
    rw [List.length_drop, List.length_take]
    omega
  apply List.ext_getElem?
  intro i
  rw [getElem?_copyDown (by omega), moveToFront, overwrite, List.getElem?_append, moved]
  by_cases front : i < last - first
  · rw [if_pos front, if_pos front, List.getElem?_drop, List.getElem?_take, if_pos (by omega)]
  · rw [if_neg front, if_neg front, List.getElem?_drop]
    congr 1
    omega

/-! ### Calls and answers -/

/-- A call on a storage. -/
inductive StorageCall
  /-- Bytes are written over the front of the free room, as by a read that it is the
  target of. -/
  | write (bytes : Bytes)
  | commit (count : Nat)
  | pop (count : Nat)
  | discard (count : Nat)
  | find (byte : UInt8)
  | check (count : Nat)
  | data
  | length
  | isEmpty
  | isFull
  /-- How much room is free? -/
  | room
  deriving Repr, DecidableEq

/-- What a call on a storage comes back with. -/
inductive StorageAnswer
  | done
  | popped (outcome : Except SocketError Bytes)
  | checked (outcome : Except SocketError Unit)
  | found (position : Option Nat)
  | bytes (bytes : Bytes)
  | number (count : Nat)
  | verdict (yes : Bool)
  deriving DecidableEq

namespace Storage

/-- What a call comes back with, and the storage afterwards. -/
def answer (s : Storage) : StorageCall → StorageAnswer × Storage
  | .write bytes => (.done, s.write bytes)
  | .commit count => (.done, s.commit count)
  | .pop count =>
      let (outcome, next) := s.pop count
      (.popped outcome, next)
  | .discard count =>
      let (outcome, next) := s.discard count
      (.checked outcome, next)
  | .find byte => (.found (s.find byte), s)
  | .check count => (.checked (s.check count), s)
  | .data => (.bytes s.data, s)
  | .length => (.number s.length, s)
  | .isEmpty => (.verdict s.isEmpty, s)
  | .isFull => (.verdict s.isFull, s)
  | .room => (.number s.spare.length, s)

/-- What one call after the other comes back with. -/
def answers (s : Storage) : List StorageCall → List StorageAnswer × Storage
  | [] => ([], s)
  | call :: rest =>
      let (first, next) := s.answer call
      let (others, last) := next.answers rest
      (first :: others, last)

end Storage

/-! ### Two lists -/

/-- A queue of bytes, and those that are known to lie ready behind it. -/
structure ByteQueue where
  content : Bytes
  ready : Bytes

namespace ByteQueue

/-- The first `count` bytes are split off. The place of the last ones is free now. -/
def dropFront (q : ByteQueue) (count : Nat) : ByteQueue :=
  ⟨q.content.drop count, q.content.drop (q.content.length - count) ++ q.ready⟩

/-- Are `count` bytes queued? -/
def check (q : ByteQueue) (count : Nat) : Except SocketError Unit :=
  if count ≤ q.content.length then .ok () else .error (.outOfRange count q.content.length)

/-- What a call comes back with, on a queue of at most `capacity` bytes. -/
def answer (capacity : Nat) (q : ByteQueue) : StorageCall → StorageAnswer × ByteQueue
  | .write bytes =>
      (.done, { q with ready := overwrite q.ready (bytes.take (capacity - q.content.length)) })
  | .commit count => (.done, ⟨q.content ++ q.ready.take count, q.ready.drop count⟩)
  | .pop count =>
      if count ≤ q.content.length then (.popped (.ok (q.content.take count)), q.dropFront count)
      else (.popped (.error (.outOfRange count q.content.length)), q)
  | .discard count =>
      if count ≤ q.content.length then (.checked (.ok ()), q.dropFront count)
      else (.checked (.error (.outOfRange count q.content.length)), q)
  | .find byte => (.found (q.content.idxOf? byte), q)
  | .check count => (.checked (q.check count), q)
  | .data => (.bytes q.content, q)
  | .length => (.number q.content.length, q)
  | .isEmpty => (.verdict q.content.isEmpty, q)
  | .isFull => (.verdict (q.content.length = capacity), q)
  | .room => (.number (capacity - q.content.length), q)

/-- What one call after the other comes back with. -/
def answers (capacity : Nat) (q : ByteQueue) : List StorageCall → List StorageAnswer × ByteQueue
  | [] => ([], q)
  | call :: rest =>
      let (first, next) := q.answer capacity call
      let (others, last) := next.answers capacity rest
      (first :: others, last)

/-- Only bytes that are known to lie ready are counted. -/
def Admits (q : ByteQueue) : StorageCall → Prop
  | .commit count => count ≤ q.ready.length
  | _ => True

/-- So they are, in a sequence of calls. -/
def AdmitsAll (capacity : Nat) (q : ByteQueue) : List StorageCall → Prop
  | [] => True
  | call :: rest => q.Admits call ∧ (q.answer capacity call).2.AdmitsAll capacity rest

instance decidableAdmits (q : ByteQueue) : (call : StorageCall) → Decidable (q.Admits call)
  | .commit count => inferInstanceAs (Decidable (count ≤ q.ready.length))
  | .write _ | .pop _ | .discard _ | .find _ | .check _ | .data | .length | .isEmpty | .isFull |
    .room => .isTrue trivial

instance decidableAdmitsAll (capacity : Nat) (q : ByteQueue) (calls : List StorageCall) :
    Decidable (q.AdmitsAll capacity calls) :=
  match calls with
  | [] => .isTrue trivial
  | call :: rest =>
      have := decidableAdmitsAll capacity (q.answer capacity call).2 rest
      inferInstanceAs (Decidable (q.Admits call ∧ _))

/-! ### To know less of the room -/

/-- The same bytes are queued, and of those that lie ready some are known. -/
structure Within (q whole : ByteQueue) : Prop where
  content : whole.content = q.content
  ready : q.ready <+: whole.ready

namespace Within

variable {q whole : ByteQueue}

theorem dropFront (h : q.Within whole) (count : Nat) :
    (q.dropFront count).Within (whole.dropFront count) := by
  refine ⟨?_, ?_⟩
  · rw [ByteQueue.dropFront, ByteQueue.dropFront, h.content]
  · rw [ByteQueue.dropFront, ByteQueue.dropFront, h.content]
    exact (List.prefix_append_right_inj _).mpr h.ready

/-- To know less makes no difference to a call that counts no more than is known. -/
theorem answer (h : q.Within whole) (capacity : Nat) {call : StorageCall}
    (admitted : q.Admits call) :
    (whole.answer capacity call).1 = (q.answer capacity call).1 ∧
      (q.answer capacity call).2.Within (whole.answer capacity call).2 := by
  cases call with
  | write bytes =>
    refine ⟨rfl, h.content, ?_⟩
    simp only [ByteQueue.answer, h.content, overwrite]
    exact (List.prefix_append_right_inj _).mpr (h.ready.drop _)
  | commit count =>
    obtain ⟨unknown, split⟩ := h.ready
    refine ⟨rfl, ?_, h.ready.drop count⟩
    simp only [ByteQueue.answer]
    rw [h.content, ← split, List.take_append_of_le_length admitted]
  | pop count =>
    simp only [ByteQueue.answer, h.content]
    split
    · exact ⟨rfl, h.dropFront count⟩
    · exact ⟨rfl, h⟩
  | discard count =>
    simp only [ByteQueue.answer, h.content]
    split
    · exact ⟨rfl, h.dropFront count⟩
    · exact ⟨rfl, h⟩
  | check count =>
    simp only [ByteQueue.answer, ByteQueue.check, h.content]
    exact ⟨trivial, h⟩
  | _ =>
    simp only [ByteQueue.answer, h.content]
    exact ⟨trivial, h⟩

/-- Nor to a sequence of calls. -/
theorem answers (h : q.Within whole) (capacity : Nat) {calls : List StorageCall}
    (admitted : q.AdmitsAll capacity calls) :
    (whole.answers capacity calls).1 = (q.answers capacity calls).1 ∧
      (q.answers capacity calls).2.Within (whole.answers capacity calls).2 ∧
      whole.AdmitsAll capacity calls := by
  induction calls generalizing q whole with
  | nil => exact ⟨rfl, h, trivial⟩
  | cons call rest ih =>
    obtain ⟨now, later⟩ := admitted
    obtain ⟨same, within⟩ := h.answer capacity now
    obtain ⟨others, last, allowed⟩ := ih within later
    refine ⟨?_, last, ?_, allowed⟩
    · simp only [ByteQueue.answers]
      rw [same, others]
    · cases call with
      | commit count => exact Nat.le_trans now h.ready.length_le
      | _ => trivial

end Within

end ByteQueue

/-! ### A storage is such a queue -/

namespace Storage

/-- The queue of a storage, with all that lies in the room. -/
def queue (s : Storage) : ByteQueue := ⟨s.data, s.spare⟩

theorem queue_shift {s : Storage} {count : Nat} (enough : count ≤ s.filled) :
    (s.shift count).queue = s.queue.dropFront count := by
  simp only [queue, ByteQueue.dropFront]
  rw [data_shift, spare_shift enough, length_data]

@[simp] theorem capacity_answer (s : Storage) (call : StorageCall) :
    (s.answer call).2.capacity = s.capacity := by
  cases call with
  | write bytes => exact capacity_write ..
  | pop count =>
    by_cases enough : count ≤ s.filled
    · simp only [answer, pop_of_le enough, capacity_shift]
    · simp only [answer, pop_of_lt (Nat.lt_of_not_le enough)]
  | discard count =>
    by_cases enough : count ≤ s.filled
    · simp only [answer, discard_of_le enough, capacity_shift]
    · simp only [answer, discard_of_lt (Nat.lt_of_not_le enough)]
  | _ => rfl

/-- Every call of a storage is one on its two lists. -/
theorem queue_answer {s : Storage} {call : StorageCall} (admitted : s.queue.Admits call) :
    s.queue.answer s.capacity call = ((s.answer call).1, (s.answer call).2.queue) := by
  cases call with
  | write bytes =>
    simp only [ByteQueue.answer, answer, queue, data_write, spare_write, length_data, length_spare]
  | commit count =>
    simp only [ByteQueue.answer, answer, queue]
    rw [data_commit admitted, spare_commit admitted]
  | pop count =>
    simp only [ByteQueue.answer, answer]
    rw [queue, length_data]
    by_cases enough : count ≤ s.filled
    · rw [if_pos enough, pop_of_le enough, ← queue, ← queue_shift enough]
      rfl
    · rw [if_neg enough, pop_of_lt (Nat.lt_of_not_le enough)]
      rfl
  | discard count =>
    simp only [ByteQueue.answer, answer]
    rw [queue, length_data]
    by_cases enough : count ≤ s.filled
    · rw [if_pos enough, discard_of_le enough, ← queue, ← queue_shift enough]
    · rw [if_neg enough, discard_of_lt (Nat.lt_of_not_le enough)]
      rfl
  | find byte =>
    simp only [ByteQueue.answer, answer, queue, find, List.idxOf?]
    congr
  | check count =>
    simp only [ByteQueue.answer, ByteQueue.check, answer, check, queue, length_data]
  | data => rfl
  | length => simp only [ByteQueue.answer, answer, queue, length_data, length]
  | isEmpty =>
    have same : s.data.isEmpty = s.isEmpty := by
      rw [Bool.eq_iff_iff, isEmpty_iff, List.isEmpty_iff]
    simp only [ByteQueue.answer, answer, queue, same]
  | isFull =>
    simp only [ByteQueue.answer, answer, queue, length_data, isFull, capacity]
  | room => simp only [ByteQueue.answer, answer, queue, length_data, length_spare]

/-- So is a sequence of calls. -/
theorem queue_answers {s : Storage} {calls : List StorageCall}
    (admitted : s.queue.AdmitsAll s.capacity calls) :
    s.queue.answers s.capacity calls = ((s.answers calls).1, (s.answers calls).2.queue) := by
  induction calls generalizing s with
  | nil => rfl
  | cons call rest ih =>
    obtain ⟨now, later⟩ := admitted
    have step := queue_answer now
    rw [step, ← capacity_answer s call] at later
    have others := ih later
    rw [capacity_answer] at others
    simp only [ByteQueue.answers, answers]
    rw [step, others]

theorem capacity_answers (s : Storage) (calls : List StorageCall) :
    (s.answers calls).2.capacity = s.capacity := by
  induction calls generalizing s with
  | nil => rfl
  | cons call rest ih => exact (ih _).trans (capacity_answer s call)

/-! ### One call at a time -/

/-- What is found is the first such byte of the buffered ones. -/
theorem find_iff {s : Storage} {byte : UInt8} {position : Nat} :
    s.find byte = some position ↔
      s.data[position]? = some byte ∧ ∀ earlier < position, s.data[earlier]? ≠ some byte := by
  rw [find, List.findIdx?_eq_some_iff_getElem]
  constructor
  · rintro ⟨inside, here, before⟩
    refine ⟨by simpa [List.getElem?_eq_getElem inside] using here, ?_⟩
    intro earlier sooner found
    obtain ⟨_, found⟩ := List.getElem?_eq_some_iff.mp found
    have other := before earlier sooner
    rw [found] at other
    simp at other
  · rintro ⟨here, before⟩
    obtain ⟨inside, here⟩ := List.getElem?_eq_some_iff.mp here
    refine ⟨inside, by simpa using here, ?_⟩
    intro earlier sooner
    have other := before earlier sooner
    rw [List.getElem?_eq_getElem (by omega)] at other
    simpa using other

/-- To take bytes off in two parts is to take them off at once. -/
theorem pop_add {s : Storage} {first second : Nat} (enough : first + second ≤ s.filled) :
    s.pop (first + second) =
        (.ok (s.data.take first ++ (s.data.drop first).take second), s.shift (first + second)) ∧
      s.pop first = (.ok (s.data.take first), s.shift first) ∧
      (s.shift first).pop second =
        (.ok ((s.data.drop first).take second), (s.shift first).shift second) ∧
      ((s.shift first).shift second).data = (s.shift (first + second)).data := by
  have behind : second ≤ (s.shift first).filled := by rw [filled_shift]; omega
  refine ⟨?_, pop_of_le (by omega), ?_, ?_⟩
  · rw [pop_of_le enough, List.take_add]
  · rw [pop_of_le behind, data_shift]
  · rw [data_shift, data_shift, data_shift, List.drop_drop]

/-- What each call does to the buffered bytes. -/
structure Lawful (s : Storage) : Prop where
  fits : s.data.length ≤ s.capacity
  room : s.spare.length = s.capacity - s.data.length
  /-- To count bytes of the room goes neither past the last word nor past the last cell. -/
  exact : ∀ count ≤ s.spare.length, saturatingAdd s.filled count = s.filled + count ∧
    min (s.filled + count) s.cells.length = s.filled + count ∧
    (s.commit count).data.length = s.data.length + count
  append : ∀ bytes count, bytes.length ≤ s.spare.length → count ≤ bytes.length →
    ((s.write bytes).commit count).data = s.data ++ bytes.take count
  /-- The rest is moved as it is, though the copy overlaps. -/
  move : ∀ count ≤ s.data.length,
    (s.shift count).cells = copyDown s.cells count (s.data.length - count) ∧
      (s.shift count).data = s.data.drop count
  split : ∀ count ≤ s.data.length, s.pop count = (.ok (s.data.take count), s.shift count) ∧
    s.discard count = (.ok (), s.shift count)
  /-- Two parts are taken off as at once. -/
  parts : ∀ first second, first + second ≤ s.data.length → ∃ front middle back last whole,
    s.pop first = (.ok front, middle) ∧ middle.pop second = (.ok back, last) ∧
      s.pop (first + second) = (.ok (front ++ back), whole) ∧ last.data = whole.data
  /-- More bytes than are buffered are refused. -/
  refuse : ∀ count, s.data.length < count →
    s.pop count = (.error (.outOfRange count s.data.length), s) ∧
      s.discard count = (.error (.outOfRange count s.data.length), s)
  find : ∀ byte position, s.find byte = some position ↔
    s.data[position]? = some byte ∧ ∀ earlier < position, s.data[earlier]? ≠ some byte

theorem lawful (s : Storage) : s.Lawful where
  fits := by rw [length_data]; exact s.filled_le
  room := by rw [length_spare, length_data]
  exact := by
    intro count room
    have filled := s.filled_le
    have word := s.length_cells_le
    rw [length_spare, capacity] at room
    refine ⟨saturatingAdd_eq (by omega), by omega, ?_⟩
    rw [length_data, length_data, filled_commit room]
  append := by
    intro bytes count fits written
    exact data_append fits written
  move := by
    intro count enough
    rw [length_data] at enough ⊢
    exact ⟨moveToFront_eq_copyDown enough s.filled_le, data_shift ..⟩
  split := by
    intro count enough
    rw [length_data] at enough
    exact ⟨pop_of_le enough, discard_of_le enough⟩
  parts := by
    intro first second enough
    rw [length_data] at enough
    obtain ⟨whole, front, back, same⟩ := pop_add enough
    exact ⟨_, _, _, _, _, front, back, whole, same⟩
  refuse := by
    intro count tooMany
    rw [length_data] at tooMany ⊢
    exact ⟨pop_of_lt tooMany, discard_of_lt tooMany⟩
  find := by
    intro byte position
    exact find_iff

/-! ### Sequences of calls -/

/-- What holds of a storage in a sequence of calls. -/
structure QueueLaw (s : Storage) (calls : List StorageCall) : Prop where
  /-- It answers as two plain lists do, and comes to hold what they come to. -/
  answers : s.queue.answers s.capacity calls = ((s.answers calls).1, (s.answers calls).2.queue)
  capacity : (s.answers calls).2.capacity = s.capacity
  lawful : (s.answers calls).2.Lawful
  /-- Another storage with the same buffered bytes answers alike, as long as only bytes are
  counted that were written, were buffered, or lie in the room of both. -/
  indifferent : ∀ (other : Storage) (ready : Bytes), other.data = s.data →
    other.capacity = s.capacity → ready <+: s.spare → ready <+: other.spare →
    (ByteQueue.mk s.data ready).AdmitsAll s.capacity calls →
    (other.answers calls).1 = (s.answers calls).1 ∧
      (other.answers calls).2.data = (s.answers calls).2.data

/-- Two storages that hold the same, as far as it is counted, answer alike. -/
theorem answers_indifferent {s other : Storage} {ready : Bytes} {calls : List StorageCall}
    (data : other.data = s.data) (capacity : other.capacity = s.capacity)
    (mine : ready <+: s.spare) (others : ready <+: other.spare)
    (admitted : (ByteQueue.mk s.data ready).AdmitsAll s.capacity calls) :
    (other.answers calls).1 = (s.answers calls).1 ∧
      (other.answers calls).2.data = (s.answers calls).2.data := by
  have known : (ByteQueue.mk s.data ready).Within s.queue := ⟨rfl, mine⟩
  have known' : (ByteQueue.mk s.data ready).Within other.queue := ⟨data, others⟩
  obtain ⟨same, within, allowed⟩ := known.answers s.capacity admitted
  obtain ⟨same', within', allowed'⟩ := known'.answers s.capacity admitted
  have run := queue_answers allowed
  rw [← capacity] at same' within' allowed'
  have run' := queue_answers allowed'
  rw [run] at same within
  rw [run'] at same' within'
  rw [capacity] at same' within'
  exact ⟨same'.trans same.symm, within'.content.trans within.content.symm⟩

/-- **A storage is a bounded queue.** Take a storage of any capacity, with anything in its
free room, and any sequence of calls in which no more is counted as buffered than the room
has. It answers as a list of bytes does that is no longer than the capacity, to which bytes
are appended and from which a front is split off; the bytes to be appended are those that
lie in the front of the room. At any point, counting bytes is exact, the copy that moves the
rest moves it unchanged, bytes may be taken off in two parts as well, and more than are
buffered are refused, with nothing changed. And what lies stale in the room is never seen:
another storage with the same buffered bytes answers alike, unless bytes are counted in
which the two differ, without having been written. -/
theorem behaves_as_queue {s : Storage} {calls : List StorageCall}
    (admitted : s.queue.AdmitsAll s.capacity calls) : s.QueueLaw calls where
  answers := queue_answers admitted
  capacity := capacity_answers s calls
  lawful := lawful _
  indifferent := by
    intro other ready data capacity mine others admitted
    exact answers_indifferent data capacity mine others admitted

/-- Part of a record is taken off. The cell behind the rest is counted again, with what is
left in it; then a delimiter comes in, and a byte that is not counted. -/
def recycling : List StorageCall :=
  [.write [97, 98, 99], .commit 3, .find 98, .pop 2, .commit 1, .write [10, 101], .commit 1,
    .find 10, .find 101, .pop 4, .discard 2, .data, .room, .isFull]

/-- An empty storage with cells that have been in use. -/
def usedCells : Storage := ⟨[10, 10, 10, 10], 0, by decide, by decide⟩

/-- New cells and used ones answer alike. -/
theorem recycling_as_queue :
    (withCapacity 4).queue.AdmitsAll (withCapacity 4).capacity recycling ∧
      (withCapacity 4).QueueLaw recycling ∧
      ((withCapacity 4).answers recycling).1 =
        [.done, .done, .found (some 1), .popped (.ok [97, 98]), .done, .done, .done,
          .found (some 2), .found none, .popped (.error (.outOfRange 4 3)), .checked (.ok ()),
          .bytes [10], .number 3, .verdict false] ∧
      (usedCells.answers recycling).1 = ((withCapacity 4).answers recycling).1 := by
  have admitted : (withCapacity 4).queue.AdmitsAll (withCapacity 4).capacity recycling := by
    decide +kernel
  have law := behaves_as_queue admitted
  refine ⟨admitted, law, by decide +kernel, ?_⟩
  exact (law.indifferent usedCells [] rfl (by decide) (List.nil_prefix ..) (List.nil_prefix ..)
    (by decide +kernel)).1

end Storage

end SocketDemux
