import SocketDemux.Listener.Handshake
import SocketDemux.Options
/-!
# SocketDemux.Listener.Basic

A **listener**: accepts connections, with timeouts and cancellation.

`Listener.accept` takes the oldest connection that waits. If the listener makes secure
sessions, the connection completes its handshake first, within the same time budget; a
connection whose session cannot be made, or whose handshake fails, is gone. What the
session of a connection answers is a parameter: `session` gives, for the connection
that was taken, the script of its handshake, or why no session could be made for it.

What is going to arrive is described by `AcceptEvent`s, as for the transport of an
endpoint. Behind the last one, no connection comes.

That the socket of a connection can be watched for readiness, once it is taken, is taken
for granted, as it is for every endpoint that is made.
-/

namespace SocketDemux

/-- The answer to one look for a connection. -/
inductive AcceptReply (γ : Type)
  | connection (connection : γ)
  | failed (error : IoError)
  deriving Repr, DecidableEq

/-- One answer, with what happens around it. -/
structure AcceptEvent (γ : Type) where
  reply : AcceptReply γ
  /-- Is the listener cancelled at this moment? -/
  cancels : Bool := false
  /-- The wait that follows if there is no connection. -/
  wait : Wait := {}
  deriving Repr, DecidableEq

/-- A listening socket, for connections of type `γ`. -/
structure Listener (γ : Type) where
  options : ListenerOptions := {}
  /-- Does every connection get a secure session? -/
  secure : Bool := false
  incoming : List (AcceptEvent γ) := []
  flag : CancelFlag := {}
  now : Instant := 0

/-- A run of the loop that looks for a connection. -/
structure AcceptRun (γ : Type) where
  reply : Reply SocketError γ
  incoming : List (AcceptEvent γ)
  flag : CancelFlag
  now : Instant

/-- Looks for a connection until there is one. `retry` says that the last look was
interrupted. -/
def acceptRun {γ : Type} (deadline : Deadline) (retry : Bool) (flag : CancelFlag)
    (now : Instant) (incoming : List (AcceptEvent γ)) : AcceptRun γ :=
  if flag.raised && !retry then ⟨.error .terminationRequested, incoming, flag, now⟩
  else
    match incoming with
    | [] =>
        match awaitNothing flag deadline now with
        | (.error failure, later) => ⟨.error failure, [], flag, later⟩
        | (_, later) => ⟨.waiting, [], flag, later⟩
    | event :: rest =>
        let flag := flag.raiseIf event.cancels
        match event.reply with
        | .connection connection => ⟨.ok connection, rest, flag, now⟩
        | .failed e =>
            if e.isInterrupted then acceptRun deadline true flag now rest
            else if e.isWouldBlock then
              match awaitReady flag deadline now event.wait with
              | (.error failure, later) => ⟨.error failure, rest, flag, later⟩
              | (.ok (), later) => acceptRun deadline false flag later rest
            else ⟨.error (.failed .accept e), rest, flag, now⟩

/-- What accepting comes back with. -/
structure AcceptOutcome (γ : Type) where
  reply : Reply SocketError γ
  /-- The connection that was taken, whatever became of it. -/
  taken : Option γ := none
  /-- What its session answered. -/
  answers : List HandshakeReply := []
  /-- The handshake steps that were not needed, if there was a session. -/
  rest : Option HandshakeScript := none
  listener : Listener γ

namespace Listener

variable {γ : Type}

/-- Aborts pending and future calls of `accept`; `true` for the request that raised
the flag. -/
def stopAccepting (l : Listener γ) : Bool × Listener γ :=
  (l.flag.raise.1, { l with flag := l.flag.raise.2 })

/-- Has cancellation been requested? -/
def isCancelled (l : Listener γ) : Bool := l.flag.raised

/-- A connection arrives behind the others. -/
def arrive (l : Listener γ) (connection : γ) : Listener γ :=
  { l with incoming := l.incoming ++ [{ reply := .connection connection }] }

/-- Waits for the next connection and completes its handshake. -/
def accept (l : Listener γ) (session : γ → Except IoError HandshakeScript) (timeout : Timeout) :
    AcceptOutcome γ :=
  let deadline := timeout.deadline l.now
  let run := acceptRun deadline false l.flag l.now l.incoming
  let after := { l with incoming := run.incoming, flag := run.flag, now := run.now }
  match run.reply with
  | .error failure => { reply := .error failure, listener := after }
  | .waiting => { reply := .waiting, listener := after }
  | .ok connection =>
      if l.secure then
        match session connection with
        | .error e =>
            { reply := .error (.failed .handshake e), taken := some connection, listener := after }
        | .ok script =>
            let shake := handshakeRun script.ending deadline l.options.handshakeInterval
              run.flag run.now script.steps
            { reply := shake.reply.map fun _ => connection
              taken := some connection
              answers := shake.answers
              rest := some shake.rest
              listener := { after with flag := shake.flag, now := shake.now } }
      else { reply := .ok connection, taken := some connection, listener := after }

/-- The last fields of a listener's diagnostic text. -/
def debugTail (l : Listener γ) : String :=
  "secure: " ++ toString l.secure ++ ", cancelled: " ++ toString l.isCancelled ++ " \x7d"

end Listener

end SocketDemux
