import SocketDemux.Buffer.Storage
import SocketDemux.Endpoint.Basic
/-!
# SocketDemux.Buffer.Basic

A **stream buffer**: a fixed-capacity read buffer on top of an endpoint.

Small reads cost little, because every transport read is offered all the free room.
Two kinds of record can be read: exactly so many bytes (`readExact`), or everything
up to and including a delimiter (`readUntil`); `readInto` moves what is there into a
target. The capacity is a contract: a request that can never fit is refused instead
of waiting for ever, and so is a refill of a full buffer.

The three reads share one loop: `refillUntil` refills until the storage meets a goal.
A read that fails hands out nothing and keeps everything that was buffered.

`fillBy_ok` says what a refill that succeeds does to the storage and the stream:
what is taken from the stream is what joins the buffered bytes.
-/

namespace SocketDemux

/-- An endpoint, and the bytes that were read ahead from it. -/
structure StreamBuffer where
  endpoint : Endpoint
  storage : Storage

namespace StreamBuffer

/-- Puts a buffer of `capacity` bytes on top of an endpoint. A buffer of no capacity
could never hold a byte, so it gets room for one. -/
def wrap (e : Endpoint) (capacity : Nat) : StreamBuffer :=
  ⟨e, Storage.withCapacity (max capacity 1)⟩

/-- Puts another endpoint underneath. -/
def setEndpoint (b : StreamBuffer) (e : Endpoint) : StreamBuffer := { b with endpoint := e }

/-- How many bytes the buffer can hold. -/
def capacity (b : StreamBuffer) : Nat := b.storage.capacity

/-- How many bytes are buffered. -/
def length (b : StreamBuffer) : Nat := b.storage.length

/-- Is nothing buffered? -/
def isEmpty (b : StreamBuffer) : Bool := b.storage.isEmpty

/-- Requests cancellation of the endpoint; `true` for the request that raised the
flag. -/
def requestCancellation (b : StreamBuffer) : Bool × StreamBuffer :=
  let (raised, e) := b.endpoint.requestCancellation
  (raised, { b with endpoint := e })

/-! ### Refilling -/

/-- One endpoint read of at least one byte into the free room. Gives the number of
bytes that joined. -/
def fillBy (b : StreamBuffer) (deadline : Deadline) : Reply SocketError Nat × StreamBuffer :=
  if b.storage.isFull then (.error (.bufferExhausted b.storage.capacity), b)
  else
    let outcome := b.endpoint.readBy b.storage.spare 1 deadline
    let storage := b.storage.write outcome.taken
    match outcome.reply with
    | .ok count => (.ok count, ⟨outcome.endpoint, storage.commit count⟩)
    | .error failure => (.error failure, ⟨outcome.endpoint, storage⟩)
    | .waiting => (.waiting, ⟨outcome.endpoint, storage⟩)

/-- One endpoint read of at least one byte, within a time budget. -/
def fill (b : StreamBuffer) (timeout : Timeout) : Reply SocketError Nat × StreamBuffer :=
  b.fillBy (timeout.deadline b.endpoint.now)

/-- A refill that succeeds brings at least one byte, and the bytes it takes from the
stream are those that join the buffered ones. -/
theorem fillBy_ok {b next : StreamBuffer} {deadline : Deadline} {count : Nat}
    (h : b.fillBy deadline = (.ok count, next)) :
    ∃ bytes, bytes.length = count ∧ 1 ≤ count ∧
      next.storage.data = b.storage.data ++ bytes ∧
      next.storage.capacity = b.storage.capacity ∧
      bytes ++ next.endpoint.arrivals = b.endpoint.arrivals := by
  unfold fillBy at h
  split at h
  · cases h
  · dsimp only at h
    split at h
    · next outcome =>
      cases h
      have enough := Endpoint.readBy_ok outcome
      have fits := Endpoint.length_taken_readBy_le b.endpoint b.storage.spare 1 deadline
      rw [Storage.length_spare] at fits
      refine ⟨_, enough.1.symm, enough.2, ?_, by simp, Endpoint.readBy_arrivals ..⟩
      rw [enough.1]
      exact Storage.data_write_commit fits
    · cases h
    · cases h

/-- Refills until the storage meets `goal`. -/
def refillUntil (goal : Storage → Bool) (b : StreamBuffer) (deadline : Deadline) :
    Reply SocketError Unit × StreamBuffer :=
  if goal b.storage then (.ok (), b)
  else
    match _call : b.fillBy deadline with
    | (.ok _, next) => refillUntil goal next deadline
    | (.error failure, next) => (.error failure, next)
    | (.waiting, next) => (.waiting, next)
termination_by b.endpoint.arrivals.length
decreasing_by
  obtain ⟨bytes, length, some, _, _, rest⟩ := fillBy_ok _call
  have := congrArg List.length rest
  simp at this
  omega

/-! ### Reading records -/

/-- Takes the first `count` bytes off, without reading. -/
def pop (b : StreamBuffer) (count : Nat) : Except SocketError Bytes × StreamBuffer :=
  let (reply, storage) := b.storage.pop count
  (reply, { b with storage := storage })

/-- A copy of the first `count` bytes, without reading. -/
def peek (b : StreamBuffer) (count : Nat) : Except SocketError Bytes := b.storage.peek count

/-- Refills until the storage meets `goal`, then takes off as many bytes as `size`
says. -/
def takeWhen (goal : Storage → Bool) (size : Storage → Nat) (b : StreamBuffer)
    (deadline : Deadline) : Reply SocketError Bytes × StreamBuffer :=
  match b.refillUntil goal deadline with
  | (.ok (), next) =>
      let (reply, popped) := next.pop (size next.storage)
      (.ofExcept reply, popped)
  | (.error failure, next) => (.error failure, next)
  | (.waiting, next) => (.waiting, next)

/-- Reads exactly `count` bytes. -/
def readExact (b : StreamBuffer) (count : Nat) (timeout : Timeout) :
    Reply SocketError Bytes × StreamBuffer :=
  if b.storage.capacity < count then
    (.error (.requestTooLarge count b.storage.capacity), b)
  else
    b.takeWhen (fun s => count ≤ s.length) (fun _ => count) (timeout.deadline b.endpoint.now)

/-- The length of the first record: up to and including the first delimiter. -/
def recordLength (delimiter : UInt8) (s : Storage) : Nat :=
  match s.find delimiter with
  | some position => position + 1
  | none => 0

/-- Reads everything up to and including the next delimiter. -/
def readUntil (b : StreamBuffer) (delimiter : UInt8) (timeout : Timeout) :
    Reply SocketError Bytes × StreamBuffer :=
  b.takeWhen (fun s => (s.find delimiter).isSome) (recordLength delimiter)
    (timeout.deadline b.endpoint.now)

/-- What a read into a target comes back with. -/
structure MoveOutcome where
  reply : Reply SocketError Nat
  /-- The target after the read. -/
  target : Bytes
  buffer : StreamBuffer

/-- Waits until at least `need` bytes, and at least one, are buffered; then moves as
many as fit into `target`. -/
def readInto (b : StreamBuffer) (target : Bytes) (need : Nat) (timeout : Timeout) :
    MoveOutcome :=
  if target = [] then ⟨.ok 0, target, b⟩
  else if b.storage.capacity < need then
    ⟨.error (.requestTooLarge need b.storage.capacity), target, b⟩
  else
    match b.refillUntil (fun s => !s.isEmpty && decide (need ≤ s.length))
        (timeout.deadline b.endpoint.now) with
    | (.ok (), next) =>
        let count := min next.storage.length target.length
        let moved := overwrite target (next.storage.data.take count)
        match next.storage.discard count with
        | (.ok (), storage) => ⟨.ok count, moved, { next with storage := storage }⟩
        | (.error failure, storage) => ⟨.error failure, moved, { next with storage := storage }⟩
    | (.error failure, next) => ⟨.error failure, target, next⟩
    | (.waiting, next) => ⟨.waiting, target, next⟩

/-- A reader calls `readUntil` without a deadline; if it has to wait, cancellation is
requested while it does. Gives the reader's reply, and what the request answered. -/
def readUntilAcrossCancellation (b : StreamBuffer) (delimiter : UInt8) :
    Reply SocketError Bytes × Bool × StreamBuffer :=
  let (first, waited) := b.readUntil delimiter none
  let (raised, cancelled) := waited.requestCancellation
  match first with
  | .waiting =>
      let (second, after) := cancelled.readUntil delimiter none
      (second, raised, after)
  | _ => (first, raised, cancelled)

/-! ### Past the buffer -/

/-- Writes `data` with as many attempts as the options say. -/
def write (b : StreamBuffer) (data : Bytes) : Except SocketError Unit × StreamBuffer :=
  let outcome := b.endpoint.write data b.endpoint.options.writeAttempts
  (outcome.reply, { b with endpoint := outcome.endpoint })

/-- Reads from the endpoint itself; the buffered bytes stay where they are. -/
def readPast (b : StreamBuffer) (target : Bytes) (need : Nat) (timeout : Timeout) :
    ReadOutcome × StreamBuffer :=
  let outcome := b.endpoint.read target need timeout
  (outcome, { b with endpoint := outcome.endpoint })

end StreamBuffer

end SocketDemux
