import SocketDemux.Error.Basic
/-!
# SocketDemux.Host

The **host** that sockets live on: can they reach the loopback interface?

Sockets can be created and bound on any host. On an isolated host nothing leads to the
loopback interface, so opening a connection to it, and sending a datagram through it,
fails at once with "network is unreachable". Local pairs need no interface.
-/

namespace SocketDemux

/-- Where sockets live. -/
inductive Host
  /-- The loopback interface is up. -/
  | connected
  /-- No interface is up. -/
  | isolated
  deriving Repr, DecidableEq

namespace Host

/-- What sets in when nothing leads to an address. -/
def unreachable : IoError := .os OsCode.networkUnreachable

/-- Opening a connection to a listening socket over the loopback interface. -/
def dial : Host → Except IoError Unit
  | connected => .ok ()
  | isolated => .error unreachable

/-- Opening a connection to a port that nobody listens on. -/
def dialNobody : Host → IoError
  | connected => .os OsCode.connectionRefused
  | isolated => unreachable

/-- Why a datagram of that many bytes cannot be sent, if it cannot. What no datagram
can hold is refused before the route is looked up; what this protocol's header
leaves no room for, afterwards. -/
def sendFault? (host : Host) (length : Nat) : Option IoError :=
  if 65535 < length then some (.os OsCode.messageTooLong)
  else
    match host with
    | isolated => some unreachable
    | connected => if 65507 < length then some (.os OsCode.messageTooLong) else none

end Host

end SocketDemux
