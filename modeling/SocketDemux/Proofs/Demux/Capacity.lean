import SocketDemux.Proofs.Demux.Records
/-!
# SocketDemux.Proofs.Demux.Capacity

A **larger buffer** never changes what a smaller one has delivered.

Two workers with buffers of different capacities see different windows of the stream at
every refill, and ask their conditions about different data. Again each of them is
compared with `frame`, which depends on the capacity alone. As long as the smaller window
is not stuck, the first condition that does not decline it makes the same decision about
the larger one, since more data never changes a decision; so both cut the same fragments,
up to the place where the smaller window is stuck (`exists_common_frame`). If it is stuck
because the stream ends there, so is the larger one. If it is full, the larger one may go
on from there, and what it does comes behind what both have done.
-/

namespace SocketDemux

variable {κ : Type} [Condition κ] {conditions : List κ} {small large : Nat}

/-- The decisions about a smaller window are carried out through a larger one as well, up
to the place where the smaller one is stuck. -/
theorem exists_common_frame (stable : PrefixStable conditions) (grows : small ≤ large)
    (fault : SocketError) (stream : Bytes) :
    ∃ removals rest,
      frame conditions small fault stream = (Framed.stuck small fault rest).after removals ∧
      frame conditions large fault stream =
        (frame conditions large fault rest).after removals ∧
      Unclaimed conditions (rest.take small) := by
  fun_induction frame conditions small fault stream with
  | case1 stream empty => exact ⟨[], stream, rfl, rfl, fun present => absurd empty present⟩
  | case2 stream present index span first ih =>
    obtain ⟨removals, rest, smaller, larger, unclaimed⟩ := ih
    obtain ⟨⟨_, same, enough⟩, -⟩ := stable _ _ _ present first
    cases same
    have within : (stream.take small).length ≤ large := by
      rw [List.length_take]
      omega
    -- the larger window begins with the smaller one
    have cut : frame conditions large fault (stream.take small ++ stream.drop small) = _ :=
      frame_of_first stable within present first (stream.drop small)
    have taken : (stream.take small).take span.count = stream.take span.count := by
      rw [List.length_take] at enough
      rw [List.take_take, Nat.min_eq_left (by omega)]
    rw [← List.drop_append_of_le_length enough, List.take_append_drop, taken] at cut
    refine ⟨⟨index, span.delivered, stream.take span.count⟩ :: removals, rest, ?_, ?_, unclaimed⟩
    · rw [smaller, Framed.after_after]
      rfl
    · rw [cut, larger, Framed.after_after]
      rfl
  | case3 stream present declined =>
    refine ⟨[], stream, rfl, rfl, fun _ => declined_of_firstTurn? ?_⟩
    cases first : firstTurn? conditions (stream.take small) with
    | none => rfl
    | some turn =>
      obtain ⟨index, turn⟩ := turn
      obtain ⟨⟨span, rfl, -⟩, -⟩ := stable _ _ _ present first
      exact absurd first (declined index span)

/-- What is cut through a smaller window is cut first through a larger one. -/
theorem cutsAmong_frame_prefix (stable : PrefixStable conditions) (grows : small ≤ large)
    (fault : SocketError) (stream : Bytes) (index : Nat) :
    cutsAmong (frame conditions small fault stream).removals index <+:
      cutsAmong (frame conditions large fault stream).removals index := by
  obtain ⟨removals, rest, smaller, larger, -⟩ := exists_common_frame stable grows fault stream
  rw [smaller, larger]
  simp only [Framed.after, Framed.stuck, List.append_nil]
  rw [cutsAmong_append]
  exact List.prefix_append _ _

/-- A smaller window that does not fill up does all that there is to do. -/
theorem frame_eq_of_unexhausted (stable : PrefixStable conditions) (grows : small ≤ large)
    (fault : SocketError) (stream : Bytes)
    (unexhausted : (frame conditions small fault stream).failure ≠ .bufferExhausted small) :
    frame conditions large fault stream = frame conditions small fault stream ∧
      (frame conditions small fault stream).failure = fault := by
  obtain ⟨removals, rest, smaller, larger, unclaimed⟩ :=
    exists_common_frame stable grows fault stream
  rw [smaller] at unexhausted ⊢
  rw [larger]
  have room : rest.length < small := Nat.lt_of_not_le fun full => unexhausted (if_pos full)
  -- all that is left of the stream is in the smaller window, and so in the larger one
  rw [List.take_of_length_le (by omega)] at unclaimed
  have stuck : Framed.stuck small fault rest = { leftover := rest, failure := fault } := by
    rw [Framed.stuck, List.take_of_length_le (by omega), if_neg (by omega)]
  rw [stuck, frame_of_room unclaimed (by omega)]
  exact ⟨rfl, rfl⟩

/-- **A larger buffer never changes what a smaller one has delivered.** Two demultiplexers
with the same stateless conditions, for which more data never changes a decision, and with
buffers that are empty at the start, get the same stream and its end in whatever reads; one
buffer is at least as large as the other, nobody stops them, and readers may do what they
like meanwhile. Then the fragments that the smaller buffer delivers for a handle are the
first ones that the larger buffer delivers for it. And unless the smaller buffer is
exhausted, the two end in the same way: with the same fragments for every handle, the same
bytes left over, and the end of the stream recorded as the failure. -/
theorem larger_buffer_delivers_as_smaller [Stateless κ] (stable : PrefixStable conditions)
    {smaller larger : StreamBuffer} {fin : StreamEnd} {stream : Bytes}
    (brings₁ : smaller.Brings fin stream) (brings₂ : larger.Brings fin stream)
    (empty₁ : smaller.storage.data = []) (empty₂ : larger.storage.data = [])
    (grows : smaller.storage.capacity ≤ larger.storage.capacity) {readers₁ readers₂ : List Reader}
    {actions₁ actions₂ : List (Action κ)} (quiet₁ : ∀ action ∈ actions₁, action.Quiet)
    (quiet₂ : ∀ action ∈ actions₂, action.Quiet) {s₁ s₂ : System κ} {h₁ h₂ : History}
    (ran₁ : (System.mk (Demux.launch smaller conditions) [] readers₁).trace {} actions₁ =
      some (s₁, h₁))
    (ran₂ : (System.mk (Demux.launch larger conditions) [] readers₂).trace {} actions₂ =
      some (s₂, h₂)) :
    (∀ handle, h₁.givenTo handle ++ s₁.demux.settle.queues.queued handle <+:
        h₂.givenTo handle ++ s₂.demux.settle.queues.queued handle) ∧
      (s₁.demux.settle.workerEnd? =
          some (.failed (.bufferExhausted smaller.storage.capacity)) ∨
        (∀ handle, h₁.givenTo handle ++ s₁.demux.settle.queues.queued handle =
            h₂.givenTo handle ++ s₂.demux.settle.queues.queued handle) ∧
          s₁.demux.settle.buffer.storage.data = s₂.demux.settle.buffer.storage.data ∧
          s₁.demux.settle.workerEnd? = some (.failed fin.failure) ∧
          s₂.demux.settle.workerEnd? = some (.failed fin.failure) ∧
          s₁.demux.settle.queues.terminal = some fin.failure.copy ∧
          s₂.demux.settle.queues.terminal = some fin.failure.copy) := by
  obtain ⟨end₁, terminal₁, leftover₁, delivered₁⟩ :=
    settle_eq_frame stable brings₁ empty₁ quiet₁ ran₁
  obtain ⟨end₂, terminal₂, leftover₂, delivered₂⟩ :=
    settle_eq_frame stable brings₂ empty₂ quiet₂ ran₂
  constructor
  · intro handle
    rw [delivered₁ handle, delivered₂ handle]
    exact cutsAmong_frame_prefix stable grows _ _ _
  · by_cases exhausted : (frame conditions smaller.storage.capacity fin.failure stream).failure =
        .bufferExhausted smaller.storage.capacity
    · rw [exhausted] at end₁
      exact .inl end₁
    · obtain ⟨same, failure⟩ := frame_eq_of_unexhausted stable grows _ _ exhausted
      rw [same] at end₂ terminal₂ leftover₂ delivered₂
      rw [failure] at end₁ terminal₁ end₂ terminal₂
      refine .inr ⟨fun handle => ?_, leftover₁.trans leftover₂.symm, end₁, end₂, terminal₁,
        terminal₂⟩
      rw [delivered₁ handle, delivered₂ handle]

/-- A short line, and a longer one that a buffer of three bytes cannot hold, in pieces. -/
def growingLines : StreamBuffer :=
  .wrap
    { inbound :=
        { events :=
            [⟨.data [97, 10, 98], false, {}⟩, ⟨.failed (.os 11), false, {}⟩,
              ⟨.data [99, 100], false, {}⟩, ⟨.data [101, 10], false, {}⟩]
          ending := .ended } } 3

/-- The same lines at once, on their way to a buffer that can hold them. -/
def growingLinesAtOnce : StreamBuffer :=
  .wrap
    { inbound :=
        { events := [⟨.data [97, 10, 98, 99, 100, 101, 10], false, {}⟩]
          ending := .ended } } 5

theorem growingLines_brings : growingLines.Brings .closed [97, 10, 98, 99, 100, 101, 10] where
  down := rfl
  carries := by
    show Carries _ _ ([97, 10, 98] ++ ([99, 100] ++ ([101, 10] ++ []))) _
    refine .data (by decide) (.blocked (by decide) (Wait.goesOn_of_ready rfl) ?_)
    exact .data (by decide) (.data (by decide) (.ended rfl rfl))

theorem growingLinesAtOnce_brings :
    growingLinesAtOnce.Brings .closed [97, 10, 98, 99, 100, 101, 10] where
  down := rfl
  carries := by
    show Carries _ _ ([97, 10, 98, 99, 100, 101, 10] ++ []) _
    exact .data (by decide) (.ended rfl rfl)

/-- The buffer of three bytes is exhausted behind the first line, while that line is read;
the first line is also the first one that the larger buffer delivers. -/
theorem growingLines_begin_alike :
    ∃ s₁ h₁ s₂ h₂,
      (System.mk (Demux.launch growingLines [Delimiter.mk 10]) [] []).trace {}
        [.callRead ⟨0⟩ .blocking, .work, .work, .work, .goOnRead 0, .goOnRead 0] =
          some (s₁, h₁) ∧ h₁.given = [(⟨0⟩, [97, 10])] ∧
      (System.mk (Demux.launch growingLinesAtOnce [Delimiter.mk 10]) [] []).trace {} [] =
        some (s₂, h₂) ∧
      s₁.demux.settle.workerEnd? = some (.failed (.bufferExhausted 3)) ∧
      h₁.givenTo ⟨0⟩ ++ s₁.demux.settle.queues.queued ⟨0⟩ <+:
        h₂.givenTo ⟨0⟩ ++ s₂.demux.settle.queues.queued ⟨0⟩ ∧
      h₂.givenTo ⟨0⟩ ++ s₂.demux.settle.queues.queued ⟨0⟩ =
        [[97, 10], [98, 99, 100, 101, 10]] := by
  have possible : ((System.mk (Demux.launch growingLines [Delimiter.mk 10]) [] []).trace {}
      [.callRead ⟨0⟩ .blocking, .work, .work, .work, .goOnRead 0, .goOnRead 0]).map
        (fun last => last.2.given) = some [(⟨0⟩, [97, 10])] := by decide
  obtain ⟨⟨s₁, h₁⟩, ran₁, given⟩ := Option.map_eq_some_iff.mp possible
  have quiet : ∀ action ∈ ([.callRead ⟨0⟩ .blocking, .work, .work, .work, .goOnRead 0,
      .goOnRead 0] : List (Action Delimiter)), action.Quiet := by decide
  have quiet' : ∀ action ∈ ([] : List (Action Delimiter)), action.Quiet := by decide
  have stable := Delimiter.prefixStable ⟨10⟩
  obtain ⟨ended, -, -, -⟩ := settle_eq_frame stable growingLines_brings (by decide) quiet ran₁
  obtain ⟨-, -, -, delivered⟩ :=
    settle_eq_frame stable growingLinesAtOnce_brings (by decide) quiet' rfl
  obtain ⟨-, -, failure⟩ := frame_delimiter 10 3 .closed [97, 10, 98, 99, 100, 101, 10]
  obtain ⟨cuts, -, -⟩ := frame_delimiter 10 5 .closed [97, 10, 98, 99, 100, 101, 10]
  obtain ⟨begins, -⟩ :=
    larger_buffer_delivers_as_smaller stable growingLines_brings growingLinesAtOnce_brings
      (by decide) (by decide) (by decide) quiet quiet' ran₁ rfl
  refine ⟨s₁, h₁, _, _, ran₁, given, rfl, ?_, begins ⟨0⟩, (delivered ⟨0⟩).trans cuts⟩
  exact ended.trans (congrArg (some ∘ WorkerEnd.failed) failure)

end SocketDemux
