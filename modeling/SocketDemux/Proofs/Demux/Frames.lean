import SocketDemux.Proofs.Demux.Turns
/-!
# SocketDemux.Proofs.Demux.Frames

What becomes of a **whole stream**, without any worker.

`frame` cuts a stream that is there as a whole, through a window of the size of the
buffer: the first condition that does not decline what is in the window removes its
span, and the window moves on. When all decline, the window is what is left over; the
reason is that the window is full, or that the stream has come to its end.

This is what every worker comes to, however the stream reaches it, as long as more data
never changes a decision (`PrefixStable`): a decision about the part of the window that
has arrived is the decision about the window (`frame_of_first`).
-/

namespace SocketDemux

variable {κ : Type} [Condition κ]

/-- More data never changes a decision: the first condition that does not decline some
data removes a span of it, and does so again whatever follows the data. -/
def PrefixStable (conditions : List κ) : Prop :=
  ∀ data index turn, data ≠ [] → firstTurn? conditions data = some (index, turn) →
    (∃ span, turn = .ok span ∧ span.count ≤ data.length) ∧
      ∀ more, firstTurn? conditions (data ++ more) = some (index, turn)

/-- What becomes of a stream: what is removed from it, what is left over, and the
failure that this ends with. -/
structure Framed where
  removals : List Removal := []
  leftover : Bytes
  failure : SocketError

/-- The same, behind earlier removals. -/
def Framed.after (framed : Framed) (earlier : List Removal) : Framed :=
  { framed with removals := earlier ++ framed.removals }

@[simp] theorem Framed.after_leftover (framed : Framed) (earlier : List Removal) :
    (framed.after earlier).leftover = framed.leftover := rfl

@[simp] theorem Framed.after_failure (framed : Framed) (earlier : List Removal) :
    (framed.after earlier).failure = framed.failure := rfl

@[simp] theorem Framed.after_nil (framed : Framed) : framed.after [] = framed := rfl

theorem Framed.after_after (framed : Framed) (earlier earliest : List Removal) :
    (framed.after earlier).after earliest = framed.after (earliest ++ earlier) := by
  simp [Framed.after]

/-- The window is left over: it is full, or all that the stream has left. -/
def Framed.stuck (capacity : Nat) (fault : SocketError) (stream : Bytes) : Framed where
  leftover := stream.take capacity
  failure := if capacity ≤ stream.length then .bufferExhausted capacity else fault

/-- Cuts a stream through a window of so many bytes. Behind its last byte, the stream
ends with `fault`. -/
def frame (conditions : List κ) (capacity : Nat) (fault : SocketError) (stream : Bytes) : Framed :=
  if stream.take capacity = [] then .stuck capacity fault stream
  else
    match firstTurn? conditions (stream.take capacity) with
    | some (index, .ok span) =>
        (frame conditions capacity fault (stream.drop span.count)).after
          [⟨index, span.delivered, stream.take span.count⟩]
    | _ => .stuck capacity fault stream
termination_by stream.length
decreasing_by
  have := span.count_pos
  have : stream ≠ [] := by
    rintro rfl
    simp_all
  have := List.length_pos_iff.mpr this
  rw [List.length_drop]
  omega

variable {conditions : List κ} {capacity : Nat} {fault : SocketError}

/-- What a stream ends with is that the window is full, or its own end. -/
theorem failure_frame (conditions : List κ) (capacity : Nat) (fault : SocketError)
    (stream : Bytes) :
    (frame conditions capacity fault stream).failure = .bufferExhausted capacity ∨
      (frame conditions capacity fault stream).failure = fault := by
  have stuck : ∀ stream, (Framed.stuck capacity fault stream).failure =
      .bufferExhausted capacity ∨ (Framed.stuck capacity fault stream).failure = fault := by
    intro stream
    unfold Framed.stuck
    dsimp only
    split
    · exact .inl rfl
    · exact .inr rfl
  fun_induction frame conditions capacity fault stream with
  | case1 stream => exact stuck stream
  | case2 stream _ index span _ ih => exact ih
  | case3 stream => exact stuck stream

/-- A decision about the part of the window that has arrived is carried out. -/
theorem frame_of_first (stable : PrefixStable conditions) {data : Bytes}
    (within : data.length ≤ capacity) (present : data ≠ []) {index : Nat} {span : Span}
    (first : firstTurn? conditions data = some (index, .ok span)) (rest : Bytes) :
    frame conditions capacity fault (data ++ rest) =
      (frame conditions capacity fault (data.drop span.count ++ rest)).after
        [⟨index, span.delivered, data.take span.count⟩] := by
  obtain ⟨⟨_, same, enough⟩, always⟩ := stable data index _ present first
  cases same
  -- the window goes on behind what has arrived, which does not change the decision
  have window : (data ++ rest).take capacity = data ++ rest.take (capacity - data.length) := by
    rw [List.take_append, List.take_of_length_le within]
  rw [frame, window, if_neg (by simp [present]), always]
  dsimp only
  rw [List.take_append_of_le_length enough, List.drop_append_of_le_length enough]

/-- A window that everybody declines is left over. -/
theorem frame_of_unclaimed {stream : Bytes}
    (unclaimed : Unclaimed conditions (stream.take capacity)) :
    frame conditions capacity fault stream = .stuck capacity fault stream := by
  rw [frame]
  split
  · rfl
  · next present => rw [firstTurn?_eq_none (unclaimed present)]

/-- A full window that everybody declines ends the stream. -/
theorem frame_of_full {data : Bytes} (unclaimed : Unclaimed conditions data)
    (full : data.length = capacity) (rest : Bytes) :
    frame conditions capacity fault (data ++ rest) =
      { leftover := data, failure := .bufferExhausted capacity } := by
  have window : (data ++ rest).take capacity = data := by
    rw [← full, List.take_left]
  rw [frame_of_unclaimed (by rw [window]; exact unclaimed), Framed.stuck, window,
    if_pos (by rw [List.length_append]; omega)]

/-- A window with room, that everybody declines, is the end of the stream if nothing
follows. -/
theorem frame_of_room {data : Bytes} (unclaimed : Unclaimed conditions data)
    (room : data.length < capacity) :
    frame conditions capacity fault data = { leftover := data, failure := fault } := by
  have window : data.take capacity = data := List.take_of_length_le (by omega)
  rw [frame_of_unclaimed (by rw [window]; exact unclaimed), Framed.stuck, window,
    if_neg (by omega)]

/-! ### The delimiter -/

namespace Delimiter

/-- A delimiter removes everything up to and including its first occurrence. -/
theorem turn?_eq (delimiter : Delimiter) (data : Bytes) :
    Condition.turn? delimiter data =
      (data.findIdx? (· = delimiter.byte)).map fun position =>
        .ok ⟨position + 1, true, Nat.succ_pos position⟩ := by
  simp only [Condition.turn?, Condition.evaluate, decision]
  cases data.findIdx? (· = delimiter.byte) with
  | none => rfl
  | some position => rfl

/-- What follows the first delimiter does not change where the stream is cut. -/
theorem prefixStable (delimiter : Delimiter) : PrefixStable [delimiter] := by
  intro data index turn present first
  rw [firstTurn?, turn?_eq] at first
  cases found : data.findIdx? (· = delimiter.byte) with
  | none =>
    rw [found] at first
    cases first
  | some position =>
    rw [found] at first
    cases first
    have inside : position < data.length := (List.findIdx?_eq_some_iff_getElem.mp found).1
    refine ⟨⟨_, rfl, inside⟩, fun more => ?_⟩
    rw [firstTurn?, turn?_eq, List.findIdx?_append, found]
    rfl

end Delimiter

end SocketDemux
