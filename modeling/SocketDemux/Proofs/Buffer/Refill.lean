import SocketDemux.Buffer.Basic
/-!
# SocketDemux.Proofs.Buffer.Refill

What **one refill** does to the bytes, however it ends.

A read of an endpoint loses what it took before a failure. A refill asks for one byte
only, so its read is over as soon as it has taken anything: a refill that does not
succeed has taken nothing (`taken_eq_nil_of_need_le_one`). That is what makes the
buffer lossless on every way out.

* `StreamBuffer.incoming` — the bytes that a refill takes from the transport.
* `fillBy_incoming` — they join the buffered bytes, and leave the stream, whether the
  refill succeeds, fails or waits; and there are some exactly if it succeeds.
* `fillBy_failure` — a refill fails because the buffer is full, or as its read does; and
  `ReadFailure` are the failures of a read that waits without a deadline.
-/

namespace SocketDemux

/-! ### A read that needs one byte at most -/

/-- A run that needs nothing is over. -/
theorem readRun_zero (ending : Ending) (deadline : Deadline) (room : Nat) (retry : Bool)
    (flag : CancelFlag) (now : Instant) (events : List ReadEvent) :
    readRun ending deadline room 0 retry flag now events = ⟨.ok (), [], [], events, flag, now⟩ := by
  cases events <;> simp [readRun]

/-- A run that needs one byte at most, and does not succeed, has taken nothing. -/
theorem taken_eq_nil_of_need_le_one (ending : Ending) (deadline : Deadline) (room need : Nat)
    (retry : Bool) (flag : CancelFlag) (now : Instant) (events : List ReadEvent)
    (small : need ≤ 1)
    (h : (readRun ending deadline room need retry flag now events).reply ≠ .ok ()) :
    (readRun ending deadline room need retry flag now events).taken = [] := by
  fun_induction readRun ending deadline room need retry flag now events with
  | case6 => exact absurd rfl h
  | case7 room need retry flag now unmet _ event rest flag' bytes _ news fits ih =>
    -- the data of this event is all that was needed, so the run ends well behind it
    have length_pos : 0 < bytes.length := List.length_pos_iff.mpr news
    have met : need - bytes.length = 0 := by omega
    rw [ReadRun.after_reply, met, readRun_zero] at h
    exact absurd rfl h
  | case8 _ _ _ _ _ _ _ _ _ _ _ _ _ ih => exact ih small h
  | case10 _ _ _ _ _ _ _ _ _ _ _ _ _ _ _ _ ih => exact ih small h
  | _ => rfl

namespace Endpoint

/-- A read that needs one byte at most, and does not succeed, has taken nothing. -/
theorem taken_readBy_eq_nil {e : Endpoint} {target : Bytes} {need : Nat} {deadline : Deadline}
    (small : need ≤ 1) (h : ∀ count, (e.readBy target need deadline).reply ≠ .ok count) :
    (e.readBy target need deadline).taken = [] := by
  unfold readBy at h ⊢
  split
  · rfl
  · next fits =>
    rw [if_neg fits] at h
    apply taken_eq_nil_of_need_le_one _ _ _ _ _ _ _ _ small
    intro succeeded
    dsimp only at h
    rw [succeeded] at h
    exact h _ rfl

end Endpoint

/-! ### What a read without a deadline fails with -/

/-- The failures of a read that waits as long as it takes. -/
inductive ReadFailure : SocketError → Prop
  | closed : ReadFailure .closed
  | cancelled : ReadFailure .terminationRequested
  | read (error : IoError) : ReadFailure (.failed .read error)
  | poll (error : IoError) : ReadFailure (.failed .poll error)

/-- Without a deadline, a wait fails only if it is cancelled or polling fails. -/
theorem ReadFailure.of_awaitReady {flag : CancelFlag} {now : Instant} {wait : Wait}
    {failure : SocketError} (h : (awaitReady flag none now wait).1 = .error failure) :
    ReadFailure failure := by
  have verdict : ∀ {ready : Bool} {later : Instant},
      (if flag.raised then Except.error SocketError.terminationRequested
        else if !ready && Deadline.expired none later then .error .readTimeout
        else Except.ok ()) = Except.error failure → ReadFailure failure := by
    intro ready later h
    split at h
    · cases h
      exact .cancelled
    · rw [Deadline.expired_none, Bool.and_false] at h
      cases h
  unfold awaitReady at h
  dsimp only at h
  split at h
  · split at h
    · exact verdict h
    · cases h
      exact .poll _
  · exact verdict h

theorem ReadFailure.of_readRun {ending : Ending} {room need : Nat} {retry : Bool}
    {flag : CancelFlag} {now : Instant} {events : List ReadEvent} {failure : SocketError}
    (h : (readRun ending none room need retry flag now events).reply = .error failure) :
    ReadFailure failure := by
  fun_induction readRun ending none room need retry flag now events with
  | case1 => cases h
  | case2 => cases h; exact .cancelled
  | case3 => cases h; exact .closed
  | case4 =>
    unfold awaitNothing at h
    split at h
    · cases h; exact .cancelled
    · cases h
  | case5 => cases h; exact .closed
  | case6 => cases h
  | case7 _ _ _ _ _ _ _ _ _ _ _ _ _ _ ih => exact ih h
  | case8 _ _ _ _ _ _ _ _ _ _ _ _ _ ih => exact ih h
  | case9 _ _ _ _ _ _ _ _ _ _ _ _ _ _ _ _ awaited =>
    cases h
    exact .of_awaitReady (by rw [awaited])
  | case10 _ _ _ _ _ _ _ _ _ _ _ _ _ _ _ _ ih => exact ih h
  | case11 => cases h; exact .read _

theorem ReadFailure.of_readBy {e : Endpoint} {target : Bytes} {need : Nat}
    {failure : SocketError} (h : (e.readBy target need none).reply = .error failure) :
    ReadFailure failure := by
  unfold Endpoint.readBy at h
  split at h
  · cases h
    exact .read _
  · dsimp only at h
    cases run : (readRun e.inbound.ending none target.length need false e.flag e.now
        e.inbound.events).reply with
    | ok _ => rw [run] at h; cases h
    | error _ =>
      rw [run] at h
      cases h
      exact .of_readRun run
    | waiting => rw [run] at h; cases h

/-! ### The buffered bytes -/

namespace Storage

/-- To write nothing changes nothing. -/
@[simp] theorem write_nil (s : Storage) : s.write [] = s := by
  obtain ⟨cells, filled, filled_le, length_cells_le⟩ := s
  simp [write, spare]

/-- A storage is empty exactly if it holds no bytes. -/
theorem isEmpty_iff (s : Storage) : s.isEmpty = true ↔ s.data = [] := by
  rw [← List.length_eq_zero_iff, length_data]
  simp [isEmpty]

/-- A storage that is not full has room. -/
theorem one_le_length_spare {s : Storage} (room : s.isFull = false) : 1 ≤ s.spare.length := by
  have filled := s.filled_le
  simp only [isFull, decide_eq_false_iff_not] at room
  rw [length_spare, capacity]
  omega

/-- A storage is full exactly if it holds as many bytes as fit. -/
theorem isFull_iff (s : Storage) : s.isFull = true ↔ s.data.length = s.capacity := by
  rw [length_data]
  simp [isFull, capacity]

end Storage

/-! ### A refill -/

namespace StreamBuffer

/-- The bytes that a refill takes from the transport. -/
def incoming (b : StreamBuffer) (deadline : Deadline) : Bytes :=
  if b.storage.isFull then [] else (b.endpoint.readBy b.storage.spare 1 deadline).taken

/-- What a refill takes joins the buffered bytes and leaves the stream; it takes
something exactly if it succeeds. -/
theorem fillBy_incoming {b next : StreamBuffer} {deadline : Deadline}
    {reply : Reply SocketError Nat} (h : b.fillBy deadline = (reply, next)) :
    next.storage.data = b.storage.data ++ b.incoming deadline ∧
      next.storage.capacity = b.storage.capacity ∧
      b.incoming deadline ++ next.endpoint.arrivals = b.endpoint.arrivals ∧
      (b.incoming deadline ≠ [] ↔ ∃ count, reply = .ok count) := by
  unfold fillBy at h
  unfold incoming
  by_cases full : b.storage.isFull = true
  · rw [if_pos full] at h ⊢
    cases h
    simp
  · rw [if_neg full] at h ⊢
    have rest := Endpoint.readBy_arrivals b.endpoint b.storage.spare 1 deadline
    have nothing := @Endpoint.taken_readBy_eq_nil b.endpoint b.storage.spare 1 deadline
      (Nat.le_refl 1)
    dsimp only at h
    split at h
    · next count succeeded =>
      cases h
      have enough := Endpoint.readBy_ok succeeded
      have fits := Endpoint.length_taken_readBy_le b.endpoint b.storage.spare 1 deadline
      rw [Storage.length_spare] at fits
      refine ⟨?_, by simp, rest, ?_⟩
      · rw [enough.1]
        exact Storage.data_write_commit fits
      · refine ⟨fun _ => ⟨count, rfl⟩, fun _ => ?_⟩
        rw [← List.length_pos_iff]
        omega
    · next failed =>
      -- what a failed read had taken would be lost here
      cases h
      have empty := nothing (by rw [failed]; intro count; exact fun h => nomatch h)
      refine ⟨by rw [empty]; simp, by simp, rest, ?_⟩
      simp [empty]
    · next waits =>
      cases h
      have empty := nothing (by rw [waits]; intro count; exact fun h => nomatch h)
      refine ⟨by rw [empty]; simp, by simp, rest, ?_⟩
      simp [empty]

/-- A refill that does not succeed takes nothing. -/
theorem incoming_eq_nil {b next : StreamBuffer} {deadline : Deadline}
    {reply : Reply SocketError Nat} (h : b.fillBy deadline = (reply, next))
    (unsuccessful : ∀ count, reply ≠ .ok count) : b.incoming deadline = [] := by
  obtain ⟨-, -, -, news⟩ := fillBy_incoming h
  by_cases empty : b.incoming deadline = []
  · exact empty
  · obtain ⟨count, succeeded⟩ := news.mp empty
    exact absurd succeeded (unsuccessful count)

/-- A refill without a deadline fails because the buffer is full, or else as a read
does. -/
theorem fillBy_failure {b next : StreamBuffer} {failure : SocketError}
    (h : b.fillBy none = (.error failure, next)) :
    (b.storage.data.length = b.storage.capacity ∧
        failure = .bufferExhausted b.storage.capacity) ∨
      ReadFailure failure := by
  unfold fillBy at h
  split at h
  · next full =>
    cases h
    exact .inl ⟨(Storage.isFull_iff _).mp full, rfl⟩
  · dsimp only at h
    split at h
    · cases h
    · next failed =>
      cases h
      exact .inr (.of_readBy failed)
    · cases h

/-- Once cancellation is requested, a refill touches nothing any more. It fails with that,
unless the buffer is full. -/
theorem fillBy_of_raised {b : StreamBuffer} (raised : b.endpoint.flag.raised = true)
    (deadline : Deadline) :
    b.fillBy deadline =
      (.error (if b.storage.isFull then .bufferExhausted b.storage.capacity
        else .terminationRequested), b) := by
  unfold fillBy
  by_cases full : b.storage.isFull = true
  · rw [if_pos full, if_pos full]
  · have fits := Storage.one_le_length_spare (by simpa using full)
    have read : b.endpoint.readBy b.storage.spare 1 deadline =
        ⟨.error .terminationRequested, b.storage.spare, [], [], b.endpoint⟩ := by
      unfold Endpoint.readBy readRun
      rw [if_neg (by omega)]
      simp [raised, Reply.map]
    rw [if_neg full, if_neg full, read]
    simp

end StreamBuffer

end SocketDemux
