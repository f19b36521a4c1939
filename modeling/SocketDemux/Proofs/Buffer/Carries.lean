import SocketDemux.Proofs.Buffer.Refill
/-!
# SocketDemux.Proofs.Buffer.Carries

The **same stream in different reads**.

`Carries fin ending stream events` says that the answers of a transport bring exactly
`stream`, in pieces of whatever size, and then its end `fin`. Reads may be interrupted,
or may find nothing at the moment and wait, any number of times in between; nobody
requests cancellation. Two lists of answers that carry the same stream differ in its
splitting only.

A refill sees no more of the splitting than a piece of what the stream has left
(`Brings.fillBy_cases`), so what cannot depend on the size of such pieces cannot depend
on the splitting.
-/

namespace SocketDemux

/-- How a stream comes to its end. -/
inductive StreamEnd
  /-- The peer has closed it. -/
  | closed
  /-- It breaks with an error that no further read can mend. -/
  | broken (error : IoError) (uninterrupted : error.isInterrupted = false)
      (unblocked : error.isWouldBlock = false)

/-- What a read fails with that finds the end of the stream. -/
def StreamEnd.failure : StreamEnd → SocketError
  | closed => .closed
  | broken error _ _ => .failed .read error

/-- A wait without a deadline goes on to the next read, unless polling itself fails. -/
def Wait.GoesOn (wait : Wait) : Prop :=
  ∀ error, wait.ends = .failed error → error.isInterrupted = true

/-- A wait that ends as the socket becomes ready goes on. -/
theorem Wait.goesOn_of_ready {wait : Wait} (ready : wait.ends = .ready) : wait.GoesOn := by
  intro error failed
  rw [ready] at failed
  cases failed

theorem Wait.GoesOn.awaitReady_eq_ok {wait : Wait} (goesOn : wait.GoesOn) {flag : CancelFlag}
    (down : flag.raised = false) (now : Instant) :
    awaitReady flag none now wait = (.ok (), now + wait.lasts) := by
  obtain ⟨lasts, ends⟩ := wait
  cases ends with
  | ready => simp [awaitReady, Wait.run, down]
  | idle => simp [awaitReady, Wait.run, down, Deadline.expired]
  | failed error =>
    have interrupted := goesOn error rfl
    simp [awaitReady, Wait.run, down, interrupted, Deadline.expired]

/-- The answers of a transport bring this stream, and then its end. -/
inductive Carries (fin : StreamEnd) (ending : Ending) : Bytes → List ReadEvent → Prop
  /-- Behind the last answer, the stream has ended. -/
  | ended (closed : fin = .closed) (finished : ending = .ended) : Carries fin ending [] []
  /-- A read finds the end of the stream. -/
  | closed {wait : Wait} {rest : List ReadEvent} (closed : fin = .closed) :
      Carries fin ending [] (⟨.data [], false, wait⟩ :: rest)
  /-- A read finds the stream broken. -/
  | broken {error : IoError} {uninterrupted : error.isInterrupted = false}
      {unblocked : error.isWouldBlock = false} {wait : Wait} {rest : List ReadEvent}
      (broken : fin = .broken error uninterrupted unblocked) :
      Carries fin ending [] (⟨.failed error, false, wait⟩ :: rest)
  /-- A read brings a piece of the stream. -/
  | data {bytes stream : Bytes} {wait : Wait} {rest : List ReadEvent} (news : bytes ≠ [])
      (carries : Carries fin ending stream rest) :
      Carries fin ending (bytes ++ stream) (⟨.data bytes, false, wait⟩ :: rest)
  /-- A read is interrupted. -/
  | interrupted {stream : Bytes} {error : IoError} {wait : Wait} {rest : List ReadEvent}
      (interrupted : error.isInterrupted = true) (carries : Carries fin ending stream rest) :
      Carries fin ending stream (⟨.failed error, false, wait⟩ :: rest)
  /-- A read finds nothing at the moment; its wait goes on. -/
  | blocked {stream : Bytes} {error : IoError} {wait : Wait} {rest : List ReadEvent}
      (blocked : error.isWouldBlock = true) (goesOn : wait.GoesOn)
      (carries : Carries fin ending stream rest) :
      Carries fin ending stream (⟨.failed error, false, wait⟩ :: rest)

/-! ### Reading it -/

section Reading

variable {fin : StreamEnd} {ending : Ending} {stream : Bytes} {events : List ReadEvent}
  {flag : CancelFlag}

/-- The loop of a read that needs one byte takes a piece of the stream, or finds its end
if nothing of it is left. -/
theorem readRun_carries (carries : Carries fin ending stream events)
    (down : flag.raised = false) (room : Nat) (retry : Bool) (now : Instant) :
    (readRun ending none room 1 retry flag now events).flag.raised = false ∧
      ((stream = [] ∧
          (readRun ending none room 1 retry flag now events).reply = .error fin.failure) ∨
        ((readRun ending none room 1 retry flag now events).reply = .ok () ∧
          ∃ rest, (readRun ending none room 1 retry flag now events).taken ++ rest = stream ∧
            Carries fin ending rest (readRun ending none room 1 retry flag now events).events)) := by
  induction carries generalizing retry now flag with
  | ended closed finished =>
    subst closed finished
    simp [readRun, down, StreamEnd.failure]
  | closed closed =>
    subst closed
    simp [readRun, down, StreamEnd.failure]
  | @broken error uninterrupted unblocked _ _ broken =>
    subst broken
    simp [readRun, down, StreamEnd.failure, uninterrupted, unblocked]
  | @data bytes stream wait rest news carries _ =>
    by_cases large : room < bytes.length
    · -- the piece fills the room, and its rest stays in front of the stream
      have left : bytes.drop room ≠ [] := by
        rw [ne_eq, List.drop_eq_nil_iff]
        omega
      have run : readRun ending none room 1 retry flag now (⟨.data bytes, false, wait⟩ :: rest) =
          ⟨.ok (), bytes.take room, [⟨room, .data (bytes.take room)⟩],
            ⟨.data (bytes.drop room), false, wait⟩ :: rest, flag.raiseIf false, now⟩ := by
        simp [readRun, down, news, large]
      rw [run]
      refine ⟨by simp [down], .inr ⟨rfl, bytes.drop room ++ stream, ?_, .data left carries⟩⟩
      rw [← List.append_assoc, List.take_append_drop]
    · -- the piece is all that the loop needs
      have enough : 1 - bytes.length = 0 := by
        have := List.length_pos_iff.mpr news
        omega
      have run : readRun ending none room 1 retry flag now (⟨.data bytes, false, wait⟩ :: rest) =
          ⟨.ok (), bytes, [⟨room, .data bytes⟩], rest, flag.raiseIf false, now⟩ := by
        simp [readRun, down, news, large, enough, readRun_zero, ReadRun.after]
      rw [run]
      exact ⟨by simp [down], .inr ⟨rfl, stream, rfl, carries⟩⟩
  | @interrupted stream error wait rest interrupted carries ih =>
    have run : readRun ending none room 1 retry flag now (⟨.failed error, false, wait⟩ :: rest) =
        (readRun ending none room 1 true (flag.raiseIf false) now rest).after
          ⟨room, .failed error⟩ [] := by
      rw [readRun]
      simp [down, interrupted]
    rw [run]
    exact ih (by simp [down]) true now
  | @blocked stream error wait rest blocked goesOn carries ih =>
    have uninterrupted : error.isInterrupted = false := by
      simp only [IoError.isWouldBlock, decide_eq_true_eq] at blocked
      simp [IoError.isInterrupted, blocked]
    have lowered : (flag.raiseIf false).raised = false := by simp [down]
    have waited := goesOn.awaitReady_eq_ok lowered now
    have run : readRun ending none room 1 retry flag now (⟨.failed error, false, wait⟩ :: rest) =
        (readRun ending none room 1 false (flag.raiseIf false) (now + wait.lasts) rest).after
          ⟨room, .failed error⟩ [] := by
      rw [readRun]
      simp [down, uninterrupted, blocked, waited]
    rw [run]
    exact ih (by simp [down]) false _

end Reading

namespace StreamBuffer

/-- The transport below a buffer brings this stream, and nobody has requested
cancellation. -/
structure Brings (b : StreamBuffer) (fin : StreamEnd) (stream : Bytes) : Prop where
  down : b.endpoint.flag.raised = false
  carries : Carries fin b.endpoint.inbound.ending stream b.endpoint.inbound.events

/-- A refill of a buffer with room takes a piece of the stream, or finds its end if
nothing of it is left. -/
theorem Brings.fillBy {b : StreamBuffer} {fin : StreamEnd} {stream : Bytes}
    (brings : b.Brings fin stream) (room : b.storage.isFull = false) :
    (stream = [] ∧ (b.fillBy none).1 = .error fin.failure) ∨
      ∃ count next rest, b.fillBy none = (.ok count, next) ∧
        b.incoming none ++ rest = stream ∧ next.Brings fin rest := by
  obtain ⟨down, met⟩ := readRun_carries brings.carries brings.down b.storage.spare.length false
    b.endpoint.now
  have fits := Nat.not_lt.mpr (Storage.one_le_length_spare room)
  rcases met with ⟨finished, failed⟩ | ⟨succeeded, rest, taken, carries⟩
  · have read : (b.endpoint.readBy b.storage.spare 1 none).reply = .error fin.failure := by
      unfold Endpoint.readBy
      rw [if_neg fits]
      dsimp only
      rw [failed]
      rfl
    refine .inl ⟨finished, ?_⟩
    simp [StreamBuffer.fillBy, room, read]
  · have read : (b.endpoint.readBy b.storage.spare 1 none).reply =
        .ok (b.endpoint.readBy b.storage.spare 1 none).taken.length := by
      unfold Endpoint.readBy
      rw [if_neg fits]
      dsimp only
      rw [succeeded]
      rfl
    have call : b.fillBy none =
        (.ok (b.endpoint.readBy b.storage.spare 1 none).taken.length,
          ⟨(b.endpoint.readBy b.storage.spare 1 none).endpoint,
            (b.storage.write (b.endpoint.readBy b.storage.spare 1 none).taken).commit
              (b.endpoint.readBy b.storage.spare 1 none).taken.length⟩) := by
      unfold StreamBuffer.fillBy
      rw [if_neg (by simp [room])]
      dsimp only
      rw [read]
    refine .inr ⟨_, _, rest, call, ?_, ?_⟩
    · unfold incoming Endpoint.readBy
      rw [if_neg (by simp [room]), if_neg fits]
      exact taken
    · unfold Endpoint.readBy
      rw [if_neg fits]
      exact ⟨down, carries⟩

/-- What a refill comes back with: that the buffer is full, the end of the stream, or a
piece of it. It never has to wait. -/
theorem Brings.fillBy_cases {b next : StreamBuffer} {fin : StreamEnd} {stream : Bytes}
    {reply : Reply SocketError Nat} (brings : b.Brings fin stream)
    (call : b.fillBy none = (reply, next)) :
    (reply = .error (.bufferExhausted b.storage.capacity) ∧
        b.storage.data.length = b.storage.capacity) ∨
      (reply = .error fin.failure ∧ stream = [] ∧
        b.storage.data.length < b.storage.capacity) ∨
      ∃ count rest, reply = .ok count ∧ b.incoming none ++ rest = stream ∧
        next.Brings fin rest := by
  cases full : b.storage.isFull with
  | true =>
    rw [StreamBuffer.fillBy, if_pos full] at call
    cases call
    exact .inl ⟨rfl, (Storage.isFull_iff _).mp full⟩
  | false =>
    have room : b.storage.data.length < b.storage.capacity := by
      have filled := b.storage.filled_le
      simp only [Storage.isFull, decide_eq_false_iff_not] at full
      rw [Storage.length_data, Storage.capacity]
      omega
    rcases brings.fillBy full with ⟨finished, failed⟩ | ⟨count, after, rest, called, taken, brings'⟩
    · rw [call] at failed
      exact .inr (.inl ⟨failed, finished, room⟩)
    · rw [call] at called
      cases called
      exact .inr (.inr ⟨count, rest, rfl, taken, brings'⟩)

end StreamBuffer

end SocketDemux
