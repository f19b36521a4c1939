import SocketDemux.Transport
/-!
# SocketDemux.Endpoint.ReadRun

The **read loop** of an endpoint: transport reads until enough bytes have arrived.

Each turn looks at the cancellation flag, offers the transport the unfilled rest of
the target, and then takes in what came, waits, or gives up. A read that a signal
interrupts is repeated at once, without a look at the flag (`retry`). Once enough
bytes are there no further transport read is made.

`readRun` recurses on the events to come. A data event that is larger than the room
fills the target, so the loop is over, and its rest stays in front of the stream.

Statements:

* `readRun_arrivals` — nothing is lost on the way: the bytes taken, followed by the
  bytes still to come, are the bytes that were to come before.
* `length_taken_le` — never more than the room.
* `need_le_of_ok` — a run that succeeds took at least what was needed.
* `readRun_error_kind` — no failure is an interruption: those are dealt with inside.
-/

namespace SocketDemux

/-- One call on the transport: the room offered, and the answer. -/
structure ReadCall where
  room : Nat
  reply : ReadReply
  deriving Repr, DecidableEq

/-- A run of the read loop: how it ended, what it took from the transport, the calls
it made, and the state it left. -/
structure ReadRun where
  reply : Reply SocketError Unit
  taken : Bytes
  calls : List ReadCall
  events : List ReadEvent
  flag : CancelFlag
  now : Instant
  deriving Repr, DecidableEq

/-- The run with one more call in front that took `bytes`. -/
def ReadRun.after (run : ReadRun) (call : ReadCall) (bytes : Bytes) : ReadRun :=
  { run with
    taken := bytes ++ run.taken
    calls := call :: run.calls }

/-- The error of a read that finds nothing at the moment. -/
def wouldBlock : IoError := .os 11

/-- Reads until `need` bytes have arrived, into a target with `room` for more.
`retry` says that the last transport read was interrupted. -/
def readRun (ending : Ending) (deadline : Deadline) (room need : Nat) (retry : Bool)
    (flag : CancelFlag) (now : Instant) (events : List ReadEvent) : ReadRun :=
  if need = 0 then ⟨.ok (), [], [], events, flag, now⟩
  else if flag.raised && !retry then ⟨.error .terminationRequested, [], [], events, flag, now⟩
  else
    match events with
    | [] =>
        match ending with
        | .ended => ⟨.error .closed, [], [⟨room, .data []⟩], [], flag, now⟩
        | .quiet =>
            ⟨(awaitNothing flag deadline now).1, [], [⟨room, .failed wouldBlock⟩], [], flag,
              (awaitNothing flag deadline now).2⟩
    | event :: rest =>
        let flag := flag.raiseIf event.cancels
        match event.reply with
        | .data bytes =>
            if bytes = [] then ⟨.error .closed, [], [⟨room, .data []⟩], rest, flag, now⟩
            else if room < bytes.length then
              ⟨.ok (), bytes.take room, [⟨room, .data (bytes.take room)⟩],
                { event with reply := .data (bytes.drop room) } :: rest, flag, now⟩
            else
              (readRun ending deadline (room - bytes.length) (need - bytes.length) false flag now
                rest).after ⟨room, .data bytes⟩ bytes
        | .failed e =>
            if e.isInterrupted then
              (readRun ending deadline room need true flag now rest).after ⟨room, .failed e⟩ []
            else if e.isWouldBlock then
              match awaitReady flag deadline now event.wait with
              | (.error failure, later) =>
                  ⟨.error failure, [], [⟨room, .failed e⟩], rest, flag, later⟩
              | (.ok (), later) =>
                  (readRun ending deadline room need false flag later rest).after
                    ⟨room, .failed e⟩ []
            else ⟨.error (.failed .read e), [], [⟨room, .failed e⟩], rest, flag, now⟩

@[simp] theorem ReadRun.after_reply (run : ReadRun) (call : ReadCall) (bytes : Bytes) :
    (run.after call bytes).reply = run.reply := rfl

@[simp] theorem ReadRun.after_taken (run : ReadRun) (call : ReadCall) (bytes : Bytes) :
    (run.after call bytes).taken = bytes ++ run.taken := rfl

@[simp] theorem ReadRun.after_calls (run : ReadRun) (call : ReadCall) (bytes : Bytes) :
    (run.after call bytes).calls = call :: run.calls := rfl

@[simp] theorem ReadRun.after_events (run : ReadRun) (call : ReadCall) (bytes : Bytes) :
    (run.after call bytes).events = run.events := rfl

@[simp] theorem ReadRun.after_flag (run : ReadRun) (call : ReadCall) (bytes : Bytes) :
    (run.after call bytes).flag = run.flag := rfl

@[simp] theorem ReadRun.after_now (run : ReadRun) (call : ReadCall) (bytes : Bytes) :
    (run.after call bytes).now = run.now := rfl

/-- What is taken, followed by what is still to come, is what was to come before. -/
theorem readRun_arrivals (ending : Ending) (deadline : Deadline) (room need : Nat) (retry : Bool)
    (flag : CancelFlag) (now : Instant) (events : List ReadEvent) :
    (readRun ending deadline room need retry flag now events).taken ++
        arrivals (readRun ending deadline room need retry flag now events).events =
      arrivals events := by
  fun_induction readRun ending deadline room need retry flag now events <;>
    simp_all [ReadReply.bytes]
  all_goals (rw [← List.append_assoc, List.take_append_drop])

/-- No more is taken than there is room for. -/
theorem length_taken_le (ending : Ending) (deadline : Deadline) (room need : Nat) (retry : Bool)
    (flag : CancelFlag) (now : Instant) (events : List ReadEvent) :
    (readRun ending deadline room need retry flag now events).taken.length ≤ room := by
  fun_induction readRun ending deadline room need retry flag now events with
  | case6 => exact List.length_take_le ..
  | case7 _ _ _ _ _ _ _ _ _ _ _ _ _ fits ih =>
    rw [ReadRun.after_taken, List.length_append]
    omega
  | _ => simp_all

/-- A run that succeeds took at least what was needed. -/
theorem need_le_of_ok (ending : Ending) (deadline : Deadline) (room need : Nat) (retry : Bool)
    (flag : CancelFlag) (now : Instant) (events : List ReadEvent) (fits : need ≤ room)
    (h : (readRun ending deadline room need retry flag now events).reply = .ok ()) :
    need ≤ (readRun ending deadline room need retry flag now events).taken.length := by
  fun_induction readRun ending deadline room need retry flag now events with
  | case4 => exact absurd h (awaitNothing_ne_ok _ _ _)
  | case6 => simp; omega
  | case7 _ _ _ _ _ _ _ _ _ _ _ _ _ _ ih =>
    have := ih (by omega) h
    simp; omega
  | _ => simp_all

/-- A run never fails with an interruption. -/
theorem readRun_error_kind (ending : Ending) (deadline : Deadline) (room need : Nat)
    (retry : Bool) (flag : CancelFlag) (now : Instant) (events : List ReadEvent)
    (failure : SocketError)
    (h : (readRun ending deadline room need retry flag now events).reply = .error failure) :
    failure.kind ≠ .interrupted := by
  fun_induction readRun ending deadline room need retry flag now events with
  | case2 => cases h; simp [SocketError.kind]
  | case3 => cases h; simp [SocketError.kind]
  | case4 => exact awaitNothing_error_kind h
  | case5 => cases h; simp [SocketError.kind]
  | case7 _ _ _ _ _ _ _ _ _ _ _ _ _ _ ih => exact ih h
  | case8 _ _ _ _ _ _ _ _ _ _ _ _ _ ih => exact ih h
  | case9 _ _ _ _ _ _ _ _ _ _ _ _ _ _ _ _ awaited =>
    cases h
    exact awaitReady_error_kind (by rw [awaited])
  | case10 _ _ _ _ _ _ _ _ _ _ _ _ _ _ _ _ ih => exact ih h
  | case11 _ _ _ _ _ _ _ _ _ _ _ _ interrupted _ =>
    cases h
    simpa [SocketError.kind, IoError.isInterrupted] using interrupted
  | _ => simp_all

end SocketDemux
