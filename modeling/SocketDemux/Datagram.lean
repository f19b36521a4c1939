import SocketDemux.Host
import SocketDemux.Options
import SocketDemux.Transport
/-!
# SocketDemux.Datagram

A **datagram socket** with timeouts and cancellation.

Every read returns exactly one datagram with its sender, or refuses it if it is larger
than the socket's buffer size. To tell a datagram that just fits from one that the
network cut short, the receive buffer has one byte more than that; it is used for
every read, so behind the bytes of a datagram there may be bytes of an earlier one.

The network is described by what it is going to answer: `ReceiveEvent`s on one side,
`SendEvent`s on the other, where it takes a datagram whole or not at all. Behind the
planned answers, sending is up to the host, and nothing more arrives. `Exchange` is a
group of sockets that send each other datagrams: what one sends arrives behind what
has arrived already.
-/

namespace SocketDemux

/-- A datagram on its way, and who sent it. -/
structure Packet where
  payload : Bytes
  sender : Nat
  deriving Repr, DecidableEq

/-- The network's answer to one receive. -/
inductive ReceiveReply
  | packet (packet : Packet)
  | failed (error : IoError)
  deriving Repr, DecidableEq

/-- One answer of the network to a receive, with what happens around it. -/
structure ReceiveEvent where
  reply : ReceiveReply
  /-- Is cancellation requested at this moment? -/
  cancels : Bool := false
  /-- The wait that follows if the receive would block. -/
  wait : Wait := {}
  deriving Repr, DecidableEq

/-- The network's answer to one send. -/
inductive SendReply
  /-- The whole datagram is on its way. -/
  | accepted
  | failed (error : IoError)
  deriving Repr, DecidableEq

/-- One answer of the network to a send, with what happens around it. -/
structure SendEvent where
  reply : SendReply
  /-- Is cancellation requested at this moment? -/
  cancels : Bool := false
  deriving Repr, DecidableEq

/-- A datagram socket. -/
structure Datagram where
  /-- The largest datagram that a read returns. -/
  bufferSize : Nat
  /-- The receive buffer. -/
  cells : Bytes
  host : Host := .connected
  /-- The datagrams that wait, and what else receives are answered. -/
  inbox : List ReceiveEvent := []
  /-- What the coming sends are answered. -/
  plan : List SendEvent := []
  flag : CancelFlag := {}
  now : Instant := 0
  options : EndpointOptions := {}
  bufferSize_pos : 0 < bufferSize
  /-- There is one byte more than a datagram may have. -/
  length_cells : cells.length = bufferSize + 1

/-! ### Receiving -/

/-- A run of the receive loop: how it ended, what was received into the buffer, and
the state it left. -/
structure ReceiveRun where
  reply : Reply SocketError Packet
  events : List ReceiveEvent
  flag : CancelFlag
  now : Instant

/-- Receives one datagram. `retry` says that the last receive was interrupted. -/
def receiveRun (deadline : Deadline) (retry : Bool) (flag : CancelFlag) (now : Instant)
    (events : List ReceiveEvent) : ReceiveRun :=
  if flag.raised && !retry then ⟨.error .terminationRequested, events, flag, now⟩
  else
    match events with
    | [] =>
        match awaitNothing flag deadline now with
        | (.error failure, later) => ⟨.error failure, [], flag, later⟩
        | (_, later) => ⟨.waiting, [], flag, later⟩
    | event :: rest =>
        let flag := flag.raiseIf event.cancels
        match event.reply with
        | .packet packet => ⟨.ok packet, rest, flag, now⟩
        | .failed e =>
            if e.isInterrupted then receiveRun deadline true flag now rest
            else if e.isWouldBlock then
              match awaitReady flag deadline now event.wait with
              | (.error failure, later) => ⟨.error failure, rest, flag, later⟩
              | (.ok (), later) => receiveRun deadline false flag later rest
            else ⟨.error (.failed .read e), rest, flag, now⟩

/-! ### Sending -/

/-- A run of the send loop: how it ended, and the state it left. -/
structure SendRun where
  reply : Except SocketError Unit
  plan : List SendEvent
  flag : CancelFlag

/-- Sends one datagram in at most `attempts` attempts. Behind the plan, the host says
whether it can be sent. An attempt that is interrupted or would block is used up. -/
def sendRun (fault? : Option IoError) (attempts : Nat) (flag : CancelFlag)
    (plan : List SendEvent) : SendRun :=
  if attempts = 0 then ⟨.error (.partialWrite 0), plan, flag⟩
  else if flag.raised then ⟨.error .terminationRequested, plan, flag⟩
  else
    match plan with
    | [] =>
        match fault? with
        | none => ⟨.ok (), [], flag⟩
        | some e => ⟨.error (.failed .write e), [], flag⟩
    | event :: rest =>
        let flag := flag.raiseIf event.cancels
        match event.reply with
        | .accepted => ⟨.ok (), rest, flag⟩
        | .failed e =>
            if e.isWouldBlock || e.isInterrupted then sendRun fault? (attempts - 1) flag rest
            else ⟨.error (.failed .write e), rest, flag⟩

namespace Datagram

/-- A socket that takes datagrams of up to `bufferSize` bytes; a buffer for none is
raised to one for a single byte. -/
def bind (host : Host) (bufferSize : Nat) (options : EndpointOptions) : Datagram where
  bufferSize := max bufferSize 1
  cells := List.replicate (max bufferSize 1 + 1) 0
  host := host
  options := options
  bufferSize_pos := max_one_pos bufferSize
  length_cells := by simp

/-- Requests cancellation; `true` for the request that raised the flag. -/
def requestCancellation (s : Datagram) : Bool × Datagram :=
  (s.flag.raise.1, { s with flag := s.flag.raise.2 })

/-- Has cancellation been requested? -/
def isCancelled (s : Datagram) : Bool := s.flag.raised

/-- What a datagram leaves in the receive buffer: as much of it as fits, and behind
it what was there before. -/
def receiveInto (cells payload : Bytes) : Bytes :=
  overwrite cells (payload.take cells.length)

theorem length_receiveInto (cells payload : Bytes) :
    (receiveInto cells payload).length = cells.length := by
  apply length_overwrite
  exact List.length_take_le ..

/-- Waits for the next datagram. -/
def read (s : Datagram) (timeout : Timeout) : Reply SocketError Packet × Datagram :=
  let run := receiveRun (timeout.deadline s.now) false s.flag s.now s.inbox
  let after := { s with inbox := run.events, flag := run.flag, now := run.now }
  match run.reply with
  | .ok packet =>
      let count := min packet.payload.length s.cells.length
      let received :=
        { after with
          cells := receiveInto s.cells packet.payload
          length_cells := by rw [length_receiveInto]; exact s.length_cells }
      if s.bufferSize < count then (.error (.receiveBufferTooSmall s.bufferSize), received)
      else (.ok ⟨received.cells.take count, packet.sender⟩, received)
  | .error failure => (.error failure, after)
  | .waiting => (.waiting, after)

/-- Sends `data` as one datagram. -/
def write (s : Datagram) (data : Bytes) : Except SocketError Unit × Datagram :=
  let run := sendRun (s.host.sendFault? data.length) s.options.writeAttempts s.flag s.plan
  (run.reply, { s with plan := run.plan, flag := run.flag })

/-- A reader calls `read` without a deadline; if it has to wait, cancellation is
requested while it does. Gives the reader's reply, and what the request answered. -/
def readAcrossCancellation (s : Datagram) : Reply SocketError Packet × Bool × Datagram :=
  let (first, waited) := s.read none
  let (raised, cancelled) := waited.requestCancellation
  match first with
  | .waiting =>
      let (second, after) := cancelled.read none
      (second, raised, after)
  | _ => (first, raised, cancelled)

/-- Joins a group of receivers; the address has to be that of a group. -/
def joinMulticast (group : IpAddress) : Except SocketError Unit :=
  if group.isMulticast then .ok ()
  else
    .error (.failed .joinMulticast
      (.message .invalidInput (group.text ++ " is not a multicast address")))

/-- The last fields of a socket's diagnostic text. -/
def debugTail (s : Datagram) : String :=
  "buffer_size: " ++ toString s.bufferSize ++ ", cancelled: " ++ toString s.isCancelled ++
    " \x7d"

end Datagram

/-! ### Sockets that send each other datagrams -/

/-- A group of sockets, numbered from zero. -/
structure Exchange where
  sockets : List Datagram

namespace Exchange

/-- The socket of that number. -/
def socket? (x : Exchange) (number : Nat) : Option Datagram := x.sockets[number]?

/-- Puts a datagram behind those that wait at a socket. -/
def deliver (x : Exchange) (number : Nat) (packet : Packet) : Exchange :=
  ⟨x.sockets.modify number fun s => { s with inbox := s.inbox ++ [{ reply := .packet packet }] }⟩

/-- Runs an operation of one socket, if there is such a socket. -/
def on {α : Type} (x : Exchange) (number : Nat) (operation : Datagram → α × Datagram) :
    Option (α × Exchange) := do
  let s ← x.socket? number
  let (answer, s) := operation s
  some (answer, ⟨x.sockets.set number s⟩)

/-- One socket sends a datagram to another, if there are such sockets. -/
def send (x : Exchange) (source destination : Nat) (data : Bytes) :
    Option (Except SocketError Unit × Exchange) := do
  let _ ← x.socket? destination
  let (reply, x) ← x.on source (·.write data)
  match reply with
  | .ok () => some (reply, x.deliver destination ⟨data, source⟩)
  | .error _ => some (reply, x)

end Exchange

end SocketDemux
