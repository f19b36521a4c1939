import SocketDemux.Bytes
import SocketDemux.CancelFlag
import SocketDemux.Duration
import SocketDemux.Error.Basic
import SocketDemux.Reply
/-!
# SocketDemux.Transport

The **transport** below an endpoint, as the endpoint sees it: a non-blocking byte
channel in each direction, whose answers are not up to the endpoint. It is
described by what it is going to answer.

* `ReadEvent`, `Inbound` — the answers to the coming reads: data, which a read takes
  in as far as it has room, or an error. Empty data is the end of the stream.
  Whatever is to come from elsewhere while a call runs is part of the event:
  cancellation (`cancels`), and how the wait goes after a read that would block
  (`wait`). Behind the last event, the stream has ended or stays quiet.
* `WriteEvent`, `Outbound` — the answers to the coming writes: how many bytes are
  accepted at most, or an error. Behind the last event everything is accepted, or
  nothing ever again. `accepted` collects what went out.
* `awaitReady` — one wait for readiness, with the clock, the deadline and the
  cancellation flag. A signal that cuts the wait short is no news. The flag is
  looked at before the deadline, so that a cancelled call says so even if its time
  is over; and time counts as over only if the socket did not become ready.
* `arrivals` — the bytes that are still to come: the view in which reading loses and
  reorders nothing.
-/

namespace SocketDemux

/-! ### Reading -/

/-- The transport's answer to one read. -/
inductive ReadReply
  /-- Bytes that have arrived; none at all is the end of the stream. -/
  | data (bytes : Bytes)
  | failed (error : IoError)
  deriving Repr, DecidableEq

/-- How a wait for readiness comes to its end by itself. -/
inductive WaitEnd
  /-- The socket is ready. -/
  | ready
  /-- Woken up, though nothing is ready. -/
  | idle
  | failed (error : IoError)
  deriving Repr, DecidableEq

/-- A wait for readiness, were there no deadline. -/
structure Wait where
  /-- How long it takes, in nanoseconds. -/
  lasts : Nat := 0
  ends : WaitEnd := .ready
  deriving Repr, DecidableEq

/-- One answer of the transport to a read, with what happens around it. -/
structure ReadEvent where
  reply : ReadReply
  /-- Is cancellation requested at this moment? -/
  cancels : Bool := false
  /-- The wait that follows if the read would block. -/
  wait : Wait := {}
  deriving Repr, DecidableEq

/-- What follows the last event of a stream. -/
inductive Ending
  /-- Nothing more arrives, but the stream stays open. -/
  | quiet
  /-- The stream has ended: every further read finds its end. -/
  | ended
  deriving Repr, DecidableEq

/-- All that a stream is going to answer to reads. -/
structure Inbound where
  events : List ReadEvent := []
  ending : Ending := .quiet
  deriving Repr, DecidableEq

/-- The bytes that one answer brings. -/
def ReadReply.bytes : ReadReply → Bytes
  | .data bytes => bytes
  | .failed _ => []

/-- The bytes that are still to come. -/
def arrivals (events : List ReadEvent) : Bytes := events.flatMap (·.reply.bytes)

@[simp] theorem arrivals_nil : arrivals [] = [] := rfl

@[simp] theorem arrivals_cons (event : ReadEvent) (rest : List ReadEvent) :
    arrivals (event :: rest) = event.reply.bytes ++ arrivals rest := rfl

@[simp] theorem arrivals_append (front back : List ReadEvent) :
    arrivals (front ++ back) = arrivals front ++ arrivals back := by
  simp [arrivals]

namespace Inbound

/-- The bytes that are still to come. -/
def arrivals (inbound : Inbound) : Bytes := SocketDemux.arrivals inbound.events

/-- Puts `bytes` behind what has arrived already. A stream has no seams: bytes that
wait to be read and bytes that join them are read as one. -/
def deliver (inbound : Inbound) (bytes : Bytes) : Inbound :=
  if bytes = [] then inbound
  else
    match inbound.events.getLast? with
    | some ⟨.data waiting, false, wait⟩ =>
        { inbound with
          events := inbound.events.dropLast ++ [⟨.data (waiting ++ bytes), false, wait⟩] }
    | _ => { inbound with events := inbound.events ++ [⟨.data bytes, false, {}⟩] }

/-- The stream ends behind what has arrived. -/
def finish (inbound : Inbound) : Inbound := { inbound with ending := .ended }

/-- More answers to come, behind the others. -/
def feed (inbound : Inbound) (events : List ReadEvent) : Inbound :=
  { inbound with events := inbound.events ++ events }

end Inbound

/-! ### Waiting -/

/-- The clock after a wait that must be over by the deadline, and how the wait
ended: by itself if there was time for it, else idle. -/
def Wait.run (wait : Wait) (deadline : Deadline) (now : Instant) : Instant × WaitEnd :=
  match (deadline : Option Instant) with
  | none => (now + wait.lasts, wait.ends)
  | some limit =>
      if wait.lasts ≤ limit - now then (now + wait.lasts, wait.ends)
      else (max now limit, .idle)

/-- One wait for readiness: the clock afterwards, and whether it makes sense to try
again. -/
def awaitReady (flag : CancelFlag) (deadline : Deadline) (now : Instant) (wait : Wait) :
    Except SocketError Unit × Instant :=
  let (later, ends) := wait.run deadline now
  let ready := decide (ends = .ready)
  let verdict : Except SocketError Unit :=
    if flag.raised then .error .terminationRequested
    else if !ready && deadline.expired later then .error .readTimeout
    else .ok ()
  match ends with
  | .failed e => if e.isInterrupted then (verdict, later) else (.error (.failed .poll e), later)
  | _ => (verdict, later)

/-- The wait of a call to which nothing is going to happen any more: it ends at
once if cancellation was requested, else at the deadline, else never. -/
def awaitNothing (flag : CancelFlag) (deadline : Deadline) (now : Instant) :
    Reply SocketError Unit × Instant :=
  if flag.raised then (.error .terminationRequested, now)
  else
    match (deadline : Option Instant) with
    | none => (.waiting, now)
    | some limit => (.error .readTimeout, max now limit)

/-- Nothing ever makes such a wait succeed. -/
theorem awaitNothing_ne_ok (flag : CancelFlag) (deadline : Deadline) (now : Instant) :
    (awaitNothing flag deadline now).1 ≠ .ok () := by
  unfold awaitNothing
  split
  · simp
  · split <;> simp

/-- The failure of such a wait is no interruption. -/
theorem awaitNothing_error_kind {flag : CancelFlag} {deadline : Deadline} {now : Instant}
    {failure : SocketError} (h : (awaitNothing flag deadline now).1 = .error failure) :
    failure.kind ≠ .interrupted := by
  unfold awaitNothing at h
  split at h
  · cases h; simp [SocketError.kind]
  · split at h <;> cases h
    simp [SocketError.kind]

/-- The failure of a wait is no interruption. -/
theorem awaitReady_error_kind {flag : CancelFlag} {deadline : Deadline} {now : Instant}
    {wait : Wait} {failure : SocketError}
    (h : (awaitReady flag deadline now wait).1 = .error failure) :
    failure.kind ≠ .interrupted := by
  have verdict : ∀ {ready : Bool} {later : Instant},
      (if flag.raised then Except.error SocketError.terminationRequested
        else if !ready && deadline.expired later then .error .readTimeout
        else Except.ok ()) = Except.error failure → failure.kind ≠ .interrupted := by
    intro ready later h
    split at h
    · cases h; simp [SocketError.kind]
    · split at h <;> cases h
      simp [SocketError.kind]
  unfold awaitReady at h
  dsimp only at h
  split at h
  · split at h
    · exact verdict h
    · next interrupted =>
      cases h
      simpa [SocketError.kind, IoError.isInterrupted] using interrupted
  · exact verdict h

/-! ### Writing -/

/-- The transport's answer to one write. -/
inductive WriteReply
  /-- It accepts that many bytes, or all that it is offered if they are fewer. -/
  | accept (limit : Nat)
  | failed (error : IoError)
  deriving Repr, DecidableEq

/-- One answer of the transport to a write, with what happens around it. -/
structure WriteEvent where
  reply : WriteReply
  /-- Is cancellation requested at this moment? -/
  cancels : Bool := false
  deriving Repr, DecidableEq

/-- What follows the last planned answer to a write. -/
inductive Sink
  /-- Everything is accepted. -/
  | accepting
  /-- Nobody is there to read: a broken pipe. -/
  | broken
  deriving Repr, DecidableEq

/-- All that a stream is going to answer to writes, and what it has accepted. -/
structure Outbound where
  plan : List WriteEvent := []
  sink : Sink := .accepting
  /-- The bytes that were accepted and not yet taken away, the oldest first. -/
  accepted : Bytes := []
  deriving Repr, DecidableEq

namespace Outbound

/-- More answers to come, behind the others. -/
def planMore (outbound : Outbound) (events : List WriteEvent) : Outbound :=
  { outbound with plan := outbound.plan ++ events }

/-- Nobody reads what is written from now on. -/
def breakOff (outbound : Outbound) : Outbound := { outbound with sink := .broken }

/-- Takes away what was accepted. -/
def take (outbound : Outbound) : Bytes × Outbound :=
  (outbound.accepted, { outbound with accepted := [] })

end Outbound

end SocketDemux
