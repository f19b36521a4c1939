import SocketDemux.Transport
/-!
# SocketDemux.Listener.Handshake

The **handshake** of a secure session, driven from outside.

A session does its handshake in steps that never wait. Between two steps that would
block, the driver pauses for at most the given interval, and no longer than the time
budget allows; a step that would block with no time left is the end. What the session
is going to answer is described by a `HandshakeScript`: the answers to the coming
steps, with what happens during each step and the pause after it, and whether further
steps are done at once or would block for ever.

A pause of a listener is a wait on its own readiness: it may end early, because
another connection arrives, and it looks at the listener's cancellation flag when it
is over. The pause of a connecting endpoint is the same with a flag that nobody
raises.
-/

namespace SocketDemux

/-- The answer of a session to one handshake step. -/
inductive HandshakeReply
  | done
  | wouldBlock
  | failed (error : IoError)
  deriving Repr, DecidableEq

/-- One answer of a session, with what happens around it. -/
structure HandshakeEvent where
  reply : HandshakeReply
  /-- Is the listener cancelled at this moment? -/
  cancels : Bool := false
  /-- The pause that follows if the step would block, were there no interval. -/
  pause : Wait := ⟨wordMax, .idle⟩
  deriving Repr, DecidableEq

/-- What steps behind the last planned one answer. -/
inductive HandshakeEnding
  | done
  /-- They would block, every time. -/
  | stalled
  deriving Repr, DecidableEq

/-- All that a session is going to answer. -/
structure HandshakeScript where
  steps : List HandshakeEvent := []
  ending : HandshakeEnding := .done
  deriving Repr, DecidableEq

/-- The script with one more step in front. -/
def HandshakeScript.cons (script : HandshakeScript) (step : HandshakeEvent) : HandshakeScript :=
  { script with steps := step :: script.steps }

/-- A handshake that did not complete within its budget. -/
def handshakeTimedOut : SocketError :=
  .failed .handshake (.message .timedOut "handshake did not complete in time")

/-- A run of the handshake: how it ended, the answers it got, the steps it did not
need, and the state it left. -/
structure HandshakeRun where
  reply : Reply SocketError Unit
  answers : List HandshakeReply
  rest : HandshakeScript
  flag : CancelFlag
  now : Instant

/-- The run with one more answer in front. -/
def HandshakeRun.after (run : HandshakeRun) (answer : HandshakeReply) : HandshakeRun :=
  { run with answers := answer :: run.answers }

/-- The instant at which a pause of at most `interval` is over. -/
def pauseEnd (deadline : Deadline) (interval : Duration) (now : Instant) : Instant :=
  match (deadline : Option Instant) with
  | none => now + interval.nanos
  | some limit => now + min (limit - now) interval.nanos

/-- A pause between two steps: the clock afterwards, and whether to go on. -/
def pauseHandshake (flag : CancelFlag) (deadline : Deadline) (interval : Duration)
    (now : Instant) (pause : Wait) : Except SocketError Unit × Instant :=
  let (later, ends) := pause.run (some (pauseEnd deadline interval now)) now
  let verdict : Except SocketError Unit :=
    if flag.raised then .error .terminationRequested else .ok ()
  match ends with
  | .failed e => if e.isInterrupted then (verdict, later) else (.error (.failed .poll e), later)
  | _ => (verdict, later)

/-- What becomes of a session whose steps block for ever: its time runs out, or
cancellation ends the pause, or it stays like this. -/
def stallHandshake (flag : CancelFlag) (deadline : Deadline) (now : Instant) :
    Reply SocketError Unit × Instant :=
  if deadline.expired now then (.error handshakeTimedOut, now)
  else if flag.raised then (.error .terminationRequested, now)
  else
    match (deadline : Option Instant) with
    | none => (.waiting, now)
    | some limit => (.error handshakeTimedOut, max now limit)

/-- Drives a handshake until it completes, fails, or may not go on. -/
def handshakeRun (ending : HandshakeEnding) (deadline : Deadline) (interval : Duration)
    (flag : CancelFlag) (now : Instant) (steps : List HandshakeEvent) : HandshakeRun :=
  match steps with
  | [] =>
      match ending with
      | .done => ⟨.ok (), [.done], ⟨[], ending⟩, flag, now⟩
      | .stalled =>
          ⟨(stallHandshake flag deadline now).1, [.wouldBlock], ⟨[], ending⟩, flag,
            (stallHandshake flag deadline now).2⟩
  | step :: rest =>
      let flag := flag.raiseIf step.cancels
      match step.reply with
      | .done => ⟨.ok (), [.done], ⟨rest, ending⟩, flag, now⟩
      | .failed e => ⟨.error (.failed .handshake e), [.failed e], ⟨rest, ending⟩, flag, now⟩
      | .wouldBlock =>
          if deadline.expired now then
            ⟨.error handshakeTimedOut, [.wouldBlock], ⟨rest, ending⟩, flag, now⟩
          else
            match pauseHandshake flag deadline interval now step.pause with
            | (.error failure, later) =>
                ⟨.error failure, [.wouldBlock], ⟨rest, ending⟩, flag, later⟩
            | (.ok (), later) =>
                (handshakeRun ending deadline interval flag later rest).after .wouldBlock

end SocketDemux
