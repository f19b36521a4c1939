import SocketDemux.Proofs.Buffer.Refill
/-!
# SocketDemux.Proofs.Buffer.Calls

**Sequences of calls** on a stream buffer, and where the bytes are after them.

A byte that has left the stream was handed out by a call that succeeded, or it is still
buffered. That has to hold on every way out of every call, also of those that fail in the
middle of their refills; each way out is a point of one relation between the buffer
before and the buffer after:

* `StreamBuffer.HandsOut b bytes next` — what was buffered, followed by what has left the
  stream since, is `bytes`, followed by what is buffered next. It composes (`trans`), and
  to hand out nothing is to keep what was buffered in front (`kept`).
* `BufferCall`, `StreamBuffer.answer` — one call with its arguments, and what it comes back
  with. Cancellation is requested between two calls by one of them, and during a call by
  the transport's own events.
* `BufferAnswer.handed` — the bytes that an answer hands out. A copy that `peek` gives stays
  buffered, so it does not count.

`calls_lose_nothing` is the balance after any sequence of calls.
-/

namespace SocketDemux

namespace StreamBuffer

/-! ### From one buffer to the next -/

/-- From `b` to `next`, these bytes were handed out, and no byte was lost. -/
structure HandsOut (b : StreamBuffer) (bytes : Bytes) (next : StreamBuffer) : Prop where
  balance : ∃ brought, brought ++ next.endpoint.arrivals = b.endpoint.arrivals ∧
    b.storage.data ++ brought = bytes ++ next.storage.data
  capacity : next.storage.capacity = b.storage.capacity

namespace HandsOut

variable {b middle next : StreamBuffer} {bytes first second : Bytes}

theorem refl (b : StreamBuffer) : HandsOut b [] b :=
  ⟨⟨[], rfl, List.append_nil _⟩, rfl⟩

/-- What is handed out first comes first. -/
theorem trans (front : HandsOut b first middle) (back : HandsOut middle second next) :
    HandsOut b (first ++ second) next := by
  obtain ⟨brought, stream, moved⟩ := front.balance
  obtain ⟨brought', stream', moved'⟩ := back.balance
  refine ⟨⟨brought ++ brought', ?_, ?_⟩, back.capacity.trans front.capacity⟩
  · rw [List.append_assoc, stream', stream]
  · rw [← List.append_assoc, moved, List.append_assoc, moved', List.append_assoc]

/-- Whoever hands out nothing keeps what was buffered, in front of what has joined it. -/
theorem kept (h : HandsOut b [] next) : b.storage.data <+: next.storage.data := by
  obtain ⟨brought, -, moved⟩ := h.balance
  exact ⟨brought, moved⟩

end HandsOut

/-- A refill hands out nothing, however it ends. -/
theorem handsOut_fillBy (b : StreamBuffer) (deadline : Deadline) :
    HandsOut b [] (b.fillBy deadline).2 := by
  obtain ⟨data, capacity, stream, -⟩ := fillBy_incoming (Prod.eta (b.fillBy deadline)).symm
  exact ⟨⟨_, stream, data.symm⟩, capacity⟩

/-- Nor do several refills. -/
theorem handsOut_refillUntil (goal : Storage → Bool) (b : StreamBuffer) (deadline : Deadline) :
    HandsOut b [] (refillUntil goal b deadline).2 := by
  fun_induction refillUntil goal b deadline with
  | case1 b met => exact .refl b
  | case2 b unmet count next call ih =>
    have first := b.handsOut_fillBy deadline
    rw [call] at first
    exact first.trans ih
  | case3 b unmet failure next call =>
    have first := b.handsOut_fillBy deadline
    rw [call] at first
    exact first
  | case4 b unmet next call =>
    have first := b.handsOut_fillBy deadline
    rw [call] at first
    exact first

/-- Bytes that are shifted off are handed out. -/
theorem handsOut_shift (b : StreamBuffer) (count : Nat) :
    HandsOut b (b.storage.data.take count) { b with storage := b.storage.shift count } := by
  refine ⟨⟨[], rfl, ?_⟩, Storage.capacity_shift ..⟩
  dsimp only
  rw [Storage.data_shift, List.take_append_drop, List.append_nil]

end StreamBuffer

/-- The bytes that a reply hands out: those that it succeeds with. -/
def Reply.handed : Reply SocketError Bytes → Bytes
  | .ok bytes => bytes
  | _ => []

namespace StreamBuffer

/-- What is popped is handed out, and else nothing is. -/
theorem handsOut_pop (b : StreamBuffer) (count : Nat) :
    HandsOut b (Reply.ofExcept (b.pop count).1).handed (b.pop count).2 := by
  unfold pop
  by_cases enough : count ≤ b.storage.filled
  · rw [Storage.pop_of_le enough]
    exact handsOut_shift ..
  · rw [Storage.pop_of_lt (by omega)]
    exact .refl b

/-- A record is handed out by the call that succeeds with it. -/
theorem handsOut_takeWhen (goal : Storage → Bool) (size : Storage → Nat) (b : StreamBuffer)
    (deadline : Deadline) :
    HandsOut b (b.takeWhen goal size deadline).1.handed (b.takeWhen goal size deadline).2 := by
  have refilled := handsOut_refillUntil goal b deadline
  unfold takeWhen
  split
  · next next call =>
    rw [call] at refilled
    exact refilled.trans (next.handsOut_pop (size next.storage))
  · next failure next call =>
    rw [call] at refilled
    exact refilled
  · next next call =>
    rw [call] at refilled
    exact refilled

theorem handsOut_readExact (b : StreamBuffer) (count : Nat) (timeout : Timeout) :
    HandsOut b (b.readExact count timeout).1.handed (b.readExact count timeout).2 := by
  unfold readExact
  split
  · exact .refl b
  · exact handsOut_takeWhen ..

theorem handsOut_readUntil (b : StreamBuffer) (delimiter : UInt8) (timeout : Timeout) :
    HandsOut b (b.readUntil delimiter timeout).1.handed (b.readUntil delimiter timeout).2 :=
  handsOut_takeWhen ..

/-- A read into a target hands out the bytes that it reports. One that reports none,
because it fails or waits, leaves the target as it was. -/
theorem readInto_cases (b : StreamBuffer) (target : Bytes) (need : Nat) (timeout : Timeout) :
    (∃ count, (b.readInto target need timeout).reply = .ok count ∧
        HandsOut b ((b.readInto target need timeout).target.take count)
          (b.readInto target need timeout).buffer) ∨
      (((∃ failure, (b.readInto target need timeout).reply = .error failure) ∨
          (b.readInto target need timeout).reply = .waiting) ∧
        (b.readInto target need timeout).target = target ∧
        HandsOut b [] (b.readInto target need timeout).buffer) := by
  have refilled := handsOut_refillUntil (fun s => !s.isEmpty && decide (need ≤ s.length)) b
    (timeout.deadline b.endpoint.now)
  unfold readInto
  by_cases nowhere : target = []
  · rw [if_pos nowhere]
    refine .inl ⟨0, rfl, ?_⟩
    rw [List.take_zero]
    exact .refl b
  by_cases large : b.storage.capacity < need
  · rw [if_neg nowhere, if_pos large]
    exact .inr ⟨.inl ⟨_, rfl⟩, rfl, .refl b⟩
  rw [if_neg nowhere, if_neg large]
  split
  · next next call =>
    rw [call] at refilled
    -- as many bytes as are moved are buffered, so discarding them does not fail
    have enough : min next.storage.length target.length ≤ next.storage.filled :=
      Nat.min_le_left _ _
    have length : (next.storage.data.take (min next.storage.length target.length)).length =
        min next.storage.length target.length := by
      rw [List.length_take, Storage.length_data]
      omega
    have moved := take_overwrite target
      (next.storage.data.take (min next.storage.length target.length))
    rw [length] at moved
    dsimp only
    rw [Storage.discard_of_le enough]
    refine .inl ⟨_, rfl, ?_⟩
    dsimp only
    rw [moved]
    exact refilled.trans (handsOut_shift ..)
  · next failure next call =>
    rw [call] at refilled
    exact .inr ⟨.inl ⟨failure, rfl⟩, rfl, refilled⟩
  · next next call =>
    rw [call] at refilled
    exact .inr ⟨.inr rfl, rfl, refilled⟩

end StreamBuffer

/-! ### Calls and answers -/

/-- A call on a stream buffer. -/
inductive BufferCall
  | fill (timeout : Timeout)
  | readExact (count : Nat) (timeout : Timeout)
  | readUntil (delimiter : UInt8) (timeout : Timeout)
  | readInto (target : Bytes) (need : Nat) (timeout : Timeout)
  | pop (count : Nat)
  | peek (count : Nat)
  | length
  | isEmpty
  /-- Somebody requests cancellation between two calls. -/
  | cancel
  deriving Repr, DecidableEq

/-- What a call on a stream buffer comes back with. -/
inductive BufferAnswer
  /-- A refill says how many bytes have joined. -/
  | filled (reply : Reply SocketError Nat)
  /-- A record, which leaves the buffer. -/
  | record (reply : Reply SocketError Bytes)
  /-- A copy of bytes that stay in the buffer. -/
  | copied (reply : Reply SocketError Bytes)
  /-- How many bytes were moved, and the target afterwards. -/
  | moved (reply : Reply SocketError Nat) (target : Bytes)
  | length (count : Nat)
  | isEmpty (empty : Bool)
  | cancelled (raised : Bool)
  deriving Repr, DecidableEq

namespace BufferAnswer

/-- The bytes that an answer hands out for good. -/
def handed : BufferAnswer → Bytes
  | record reply => reply.handed
  | moved (.ok count) target => target.take count
  | _ => []

/-- Has the call succeeded, failed, or not come back? -/
def status : BufferAnswer → Reply SocketError Unit
  | filled reply => reply.map fun _ => ()
  | record reply => reply.map fun _ => ()
  | copied reply => reply.map fun _ => ()
  | moved reply _ => reply.map fun _ => ()
  | length _ | isEmpty _ | cancelled _ => .ok ()

/-- Only an answer that reports success hands anything out. -/
theorem handed_eq_nil {answer : BufferAnswer} (unsuccessful : answer.status ≠ .ok ()) :
    answer.handed = [] := by
  cases answer with
  | record reply =>
    cases reply with
    | ok bytes => exact absurd rfl unsuccessful
    | error | waiting => rfl
  | moved reply target =>
    cases reply with
    | ok count => exact absurd rfl unsuccessful
    | error | waiting => rfl
  | _ => rfl

end BufferAnswer

namespace StreamBuffer

/-- What a call comes back with, and the buffer afterwards. -/
def answer (b : StreamBuffer) : BufferCall → BufferAnswer × StreamBuffer
  | .fill timeout =>
      let (reply, next) := b.fill timeout
      (.filled reply, next)
  | .readExact count timeout =>
      let (reply, next) := b.readExact count timeout
      (.record reply, next)
  | .readUntil delimiter timeout =>
      let (reply, next) := b.readUntil delimiter timeout
      (.record reply, next)
  | .readInto target need timeout =>
      let outcome := b.readInto target need timeout
      (.moved outcome.reply outcome.target, outcome.buffer)
  | .pop count =>
      let (reply, next) := b.pop count
      (.record (.ofExcept reply), next)
  | .peek count => (.copied (.ofExcept (b.peek count)), b)
  | .length => (.length b.length, b)
  | .isEmpty => (.isEmpty b.isEmpty, b)
  | .cancel =>
      let (raised, next) := b.requestCancellation
      (.cancelled raised, next)

/-- What one call after the other comes back with. -/
def answers (b : StreamBuffer) : List BufferCall → List BufferAnswer × StreamBuffer
  | [] => ([], b)
  | call :: rest =>
      let (first, next) := b.answer call
      let (others, last) := next.answers rest
      (first :: others, last)

/-- Every call hands out what its answer says, and loses nothing. -/
theorem handsOut_answer (b : StreamBuffer) (call : BufferCall) :
    HandsOut b (b.answer call).1.handed (b.answer call).2 := by
  cases call with
  | fill timeout => exact handsOut_fillBy ..
  | readExact count timeout => exact handsOut_readExact ..
  | readUntil delimiter timeout => exact handsOut_readUntil ..
  | readInto target need timeout =>
    unfold answer
    rcases b.readInto_cases target need timeout with
      ⟨count, succeeded, moved⟩ | ⟨⟨failure, failed⟩ | waits, -, kept⟩
    · simp only [BufferAnswer.handed, succeeded]
      exact moved
    · simp only [BufferAnswer.handed, failed]
      exact kept
    · simp only [BufferAnswer.handed, waits]
      exact kept
  | pop count => exact handsOut_pop ..
  | peek count => exact .refl b
  | length => exact .refl b
  | isEmpty => exact .refl b
  | cancel => exact ⟨⟨[], rfl, List.append_nil _⟩, rfl⟩

/-- So does a sequence of calls. -/
theorem handsOut_answers (b : StreamBuffer) (calls : List BufferCall) :
    HandsOut b ((b.answers calls).1.flatMap BufferAnswer.handed) (b.answers calls).2 := by
  induction calls generalizing b with
  | nil => exact .refl b
  | cons call rest ih =>
    rw [answers, List.flatMap_cons]
    exact (b.handsOut_answer call).trans (ih _)

/-- A read into a target that does not succeed hands nothing out by way of the target
either. -/
theorem target_of_status {b next : StreamBuffer} {target after : Bytes} {need : Nat}
    {timeout : Timeout} {reply : Reply SocketError Nat}
    (call : b.answer (.readInto target need timeout) = (.moved reply after, next))
    (unsuccessful : (BufferAnswer.moved reply after).status ≠ .ok ()) : after = target := by
  cases call
  rcases b.readInto_cases target need timeout with ⟨count, succeeded, -⟩ | ⟨-, kept, -⟩
  · rw [succeeded] at unsuccessful
    exact absurd rfl unsuccessful
  · exact kept

end StreamBuffer

/-! ### The balance -/

/-- **Lossless buffering.** Take a buffer of any capacity on top of any endpoint, and any
sequence of calls. The bytes that have left the stream by then are those that successful
calls have handed out, one after the other, followed by those that are still buffered. No
more are buffered than fit, and what fits never changes: the capacity asked for, but at
least one byte, and no more than can be addressed. The next call, if it fails or does not
come back, hands out nothing, and keeps all that was buffered in front. -/
theorem calls_lose_nothing {e : Endpoint} {capacity : Nat} {calls : List BufferCall}
    {answers : List BufferAnswer} {b : StreamBuffer}
    (ran : (StreamBuffer.wrap e capacity).answers calls = (answers, b)) :
    (∃ taken, taken ++ b.endpoint.arrivals = e.arrivals ∧
        taken = answers.flatMap BufferAnswer.handed ++ b.storage.data) ∧
      b.length ≤ b.capacity ∧ b.capacity = min (max capacity 1) wordMax ∧ 1 ≤ b.capacity ∧
      ∀ call answer next, b.answer call = (answer, next) → answer.status ≠ .ok () →
        answer.handed = [] ∧
          (∀ target need timeout reply after, call = .readInto target need timeout →
            answer = .moved reply after → after = target) ∧
          b.storage.data <+: next.storage.data := by
  have whole := (StreamBuffer.wrap e capacity).handsOut_answers calls
  rw [ran] at whole
  obtain ⟨taken, stream, balance⟩ := whole.balance
  have empty : (StreamBuffer.wrap e capacity).storage.data = [] := Storage.data_withCapacity _
  have fixed : b.capacity = min (max capacity 1) wordMax :=
    whole.capacity.trans (Storage.capacity_withCapacity _)
  have word : 1 ≤ wordMax := by decide
  refine ⟨⟨taken, stream, ?_⟩, b.storage.filled_le, fixed, by omega, ?_⟩
  · rw [empty] at balance
    exact balance
  · intro call answer next called unsuccessful
    have step := b.handsOut_answer call
    rw [called] at step
    have nothing := BufferAnswer.handed_eq_nil unsuccessful
    refine ⟨nothing, ?_, ?_⟩
    · rintro target need timeout reply after rfl rfl
      exact StreamBuffer.target_of_status called unsuccessful
    · rw [nothing] at step
      exact step.kept

/-- A record and the front of another one, of which the last byte is a long time coming;
then the transport breaks. -/
def slowRecord : Endpoint where
  inbound :=
    { events :=
        [⟨.data [97, 10, 98], false, {}⟩, ⟨.failed (.os 11), false, { lasts := 50 }⟩,
          ⟨.failed (.os 4), false, {}⟩, ⟨.data [99, 10], false, {}⟩,
          ⟨.failed (.os 104), false, {}⟩] }

/-- The first record is read; a call for the second one runs out of time and keeps what is
there; its bytes are moved when they have come. Then the transport breaks, and the
delimiter that is left stays buffered. -/
theorem slowRecord_lossless :
    ∃ answers b,
      (StreamBuffer.wrap slowRecord 4).answers
          [.readUntil 10 none, .readUntil 10 (some ⟨20⟩), .readInto [0, 0] 2 none] =
        (answers, b) ∧
      answers =
        [.record (.ok [97, 10]), .record (.error .readTimeout), .moved (.ok 2) [98, 99]] ∧
      (∃ taken, taken ++ b.endpoint.arrivals = slowRecord.arrivals ∧
        taken = answers.flatMap BufferAnswer.handed ++ b.storage.data) ∧
      b.storage.data = [10] ∧
      (b.answer (.readExact 2 none)).1 = .record (.error (.failed .read (.os 104))) ∧
      b.storage.data <+: (b.answer (.readExact 2 none)).2.storage.data := by
  have facts : ((StreamBuffer.wrap slowRecord 4).answers
      [.readUntil 10 none, .readUntil 10 (some ⟨20⟩), .readInto [0, 0] 2 none]).1 =
        [.record (.ok [97, 10]), .record (.error .readTimeout), .moved (.ok 2) [98, 99]] ∧
      ((StreamBuffer.wrap slowRecord 4).answers
        [.readUntil 10 none, .readUntil 10 (some ⟨20⟩), .readInto [0, 0] 2 none]).2.storage.data =
          [10] ∧
      (((StreamBuffer.wrap slowRecord 4).answers
        [.readUntil 10 none, .readUntil 10 (some ⟨20⟩), .readInto [0, 0] 2 none]).2.answer
          (.readExact 2 none)).1 = .record (.error (.failed .read (.os 104))) := by
    decide +kernel
  cases ran : (StreamBuffer.wrap slowRecord 4).answers
      [.readUntil 10 none, .readUntil 10 (some ⟨20⟩), .readInto [0, 0] 2 none] with
  | mk answers b =>
    rw [ran] at facts
    obtain ⟨given, left, broken⟩ := facts
    obtain ⟨balance, -, -, -, later⟩ := calls_lose_nothing ran
    refine ⟨answers, b, rfl, given, balance, left, broken, ?_⟩
    refine (later (.readExact 2 none) _ _ (Prod.eta _).symm ?_).2.2
    rw [broken]
    exact fun wrong => nomatch wrong

end SocketDemux
