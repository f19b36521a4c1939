import SocketDemux.Transport
/-!
# SocketDemux.Endpoint.WriteRun

The **write loop** of an endpoint: a bounded number of transport writes.

Every attempt looks at the cancellation flag and offers the transport all that it
has not accepted yet. An attempt that would block, or that is accepted with no
byte, is used up all the same; one that a signal interrupts is repeated at once and
costs nothing. The loop stops early when everything is out. If the attempts run out
first, the failure says how many bytes were written.

`writeRun` recurses on the planned answers. Behind the plan, the next attempt either
completes the data or finds the pipe broken.

Statements: `sent_append` — what was sent is a first part of the data — and
`sent_of_ok`, `sent_of_partial` — how the reply measures it. No failure is an
interruption (`writeRun_error_kind`).
-/

namespace SocketDemux

/-- One call on the transport: the bytes offered, and the answer. -/
structure WriteCall where
  offered : Bytes
  reply : WriteReply
  deriving Repr, DecidableEq

/-- A run of the write loop: how it ended, what the transport accepted, the calls it
made, and the state it left. -/
structure WriteRun where
  reply : Except SocketError Unit
  sent : Bytes
  calls : List WriteCall
  plan : List WriteEvent
  flag : CancelFlag

/-- The run with one more call in front in which `bytes` went out. -/
def WriteRun.after (run : WriteRun) (call : WriteCall) (bytes : Bytes) : WriteRun :=
  { run with
    sent := bytes ++ run.sent
    calls := call :: run.calls }

/-- The error of a write to a stream that nobody reads. -/
def brokenPipe : IoError := .os OsCode.brokenPipe

/-- Writes `data` in at most `attempts` attempts, after `written` bytes are out.
`retry` says that the last transport write was interrupted. -/
def writeRun (sink : Sink) (attempts written : Nat) (retry : Bool) (flag : CancelFlag)
    (data : Bytes) (plan : List WriteEvent) : WriteRun :=
  if data = [] then ⟨.ok (), [], [], plan, flag⟩
  else if attempts = 0 then ⟨.error (.partialWrite written), [], [], plan, flag⟩
  else if flag.raised && !retry then ⟨.error .terminationRequested, [], [], plan, flag⟩
  else
    match plan with
    | [] =>
        match sink with
        | .accepting => ⟨.ok (), data, [⟨data, .accept data.length⟩], [], flag⟩
        | .broken =>
            ⟨.error (.failed .write brokenPipe), [], [⟨data, .failed brokenPipe⟩], [], flag⟩
    | event :: rest =>
        let flag := flag.raiseIf event.cancels
        match event.reply with
        | .accept limit =>
            (writeRun sink (attempts - 1) (written + min limit data.length) false flag
              (data.drop limit) rest).after ⟨data, event.reply⟩ (data.take limit)
        | .failed e =>
            if e.isInterrupted then
              (writeRun sink attempts written true flag data rest).after ⟨data, event.reply⟩ []
            else if e.isWouldBlock then
              (writeRun sink (attempts - 1) written false flag data rest).after
                ⟨data, event.reply⟩ []
            else ⟨.error (.failed .write e), [], [⟨data, event.reply⟩], rest, flag⟩

@[simp] theorem WriteRun.after_reply (run : WriteRun) (call : WriteCall) (bytes : Bytes) :
    (run.after call bytes).reply = run.reply := rfl

@[simp] theorem WriteRun.after_sent (run : WriteRun) (call : WriteCall) (bytes : Bytes) :
    (run.after call bytes).sent = bytes ++ run.sent := rfl

@[simp] theorem WriteRun.after_calls (run : WriteRun) (call : WriteCall) (bytes : Bytes) :
    (run.after call bytes).calls = call :: run.calls := rfl

@[simp] theorem WriteRun.after_plan (run : WriteRun) (call : WriteCall) (bytes : Bytes) :
    (run.after call bytes).plan = run.plan := rfl

@[simp] theorem WriteRun.after_flag (run : WriteRun) (call : WriteCall) (bytes : Bytes) :
    (run.after call bytes).flag = run.flag := rfl

/-- What was sent is a first part of the data. -/
theorem sent_append (sink : Sink) (attempts written : Nat) (retry : Bool) (flag : CancelFlag)
    (data : Bytes) (plan : List WriteEvent) :
    ∃ unsent, (writeRun sink attempts written retry flag data plan).sent ++ unsent = data := by
  fun_induction writeRun sink attempts written retry flag data plan with
  | case6 attempts written retry flag data _ _ _ event rest _ limit _ ih =>
    obtain ⟨unsent, h⟩ := ih
    exact ⟨unsent, by simp [List.append_assoc, h]⟩
  | _ => simp_all

/-- A run that succeeds sent everything. -/
theorem sent_of_ok (sink : Sink) (attempts written : Nat) (retry : Bool) (flag : CancelFlag)
    (data : Bytes) (plan : List WriteEvent)
    (h : (writeRun sink attempts written retry flag data plan).reply = .ok ()) :
    (writeRun sink attempts written retry flag data plan).sent = data := by
  fun_induction writeRun sink attempts written retry flag data plan <;> simp_all

/-- A run whose attempts are used up says how many bytes are out, and they are not
all. -/
theorem sent_of_partial (sink : Sink) (attempts written total : Nat) (retry : Bool)
    (flag : CancelFlag) (data : Bytes) (plan : List WriteEvent)
    (h : (writeRun sink attempts written retry flag data plan).reply =
      .error (.partialWrite total)) :
    total = written + (writeRun sink attempts written retry flag data plan).sent.length ∧
      (writeRun sink attempts written retry flag data plan).sent.length < data.length := by
  fun_induction writeRun sink attempts written retry flag data plan with
  | case2 => simp_all [List.length_pos_iff]
  | case6 attempts written retry flag data _ _ _ event rest _ limit _ ih =>
    have := ih h
    simp at this ⊢
    omega
  | _ => simp_all

/-- A run never fails with an interruption. -/
theorem writeRun_error_kind (sink : Sink) (attempts written : Nat) (retry : Bool)
    (flag : CancelFlag) (data : Bytes) (plan : List WriteEvent) (failure : SocketError)
    (h : (writeRun sink attempts written retry flag data plan).reply = .error failure) :
    failure.kind ≠ .interrupted := by
  fun_induction writeRun sink attempts written retry flag data plan with
  | case2 => cases h; simp [SocketError.kind]
  | case3 => cases h; simp [SocketError.kind]
  | case5 => cases h; simp [SocketError.kind, brokenPipe]; decide
  | case9 _ _ _ _ _ _ _ _ _ _ _ _ _ interrupted _ =>
    cases h
    simpa [SocketError.kind, IoError.isInterrupted] using interrupted
  | _ => simp_all

end SocketDemux
