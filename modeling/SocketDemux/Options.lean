import SocketDemux.Duration
import SocketDemux.Error.Basic
import SocketDemux.Ip.Address
/-!
# SocketDemux.Options

The **tunables** of endpoints, datagram sockets and listeners.

An options value starts as the default and is changed by setters; the later of two
setters of one field wins. Two setters raise what would make no sense: a call that
writes needs at least one attempt, and a listener a backlog of at least one. Both
bounds are part of the types.
-/

namespace SocketDemux

/-- The tunables of an endpoint. -/
structure EndpointOptions where
  /-- How many readiness events one poll may collect. -/
  eventsCapacity : Nat := 128
  /-- How many transport writes a convenience write may make. -/
  writeAttempts : Nat := 2
  /-- The pause between two of them. -/
  retryInterval : Duration := Duration.ofMillis 50
  /-- The time budget of a read through the stream interface. -/
  readTimeout : Timeout := none
  /-- A convenience write tries at least once. -/
  writeAttempts_pos : 0 < writeAttempts := by decide
  deriving Repr, DecidableEq

/-- A count that is raised to one is positive. -/
theorem max_one_pos (count : Nat) : 0 < max count 1 := by omega

namespace EndpointOptions

instance : Inhabited EndpointOptions := ⟨{}⟩

/-- Sets how many readiness events one poll may collect. -/
def setEventsCapacity (o : EndpointOptions) (capacity : Nat) : EndpointOptions :=
  { o with eventsCapacity := capacity }

/-- Sets the number of write attempts; none at all is raised to one. -/
def setWriteAttempts (o : EndpointOptions) (attempts : Nat) : EndpointOptions :=
  { o with
    writeAttempts := max attempts 1
    writeAttempts_pos := max_one_pos attempts }

/-- Sets the pause between two write attempts. -/
def setRetryInterval (o : EndpointOptions) (interval : Duration) : EndpointOptions :=
  { o with retryInterval := interval }

/-- Sets the time budget of a read through the stream interface. -/
def setReadTimeout (o : EndpointOptions) (timeout : Timeout) : EndpointOptions :=
  { o with readTimeout := timeout }

/-- A time budget in diagnostic text. -/
def timeoutText (timeout : Timeout) : String :=
  match (timeout : Option Duration) with
  | none => "None"
  | some d => "Some(" ++ d.text ++ ")"

/-- The options in diagnostic text. -/
def debugText (o : EndpointOptions) : String :=
  record "EndpointOptions"
    [("events_capacity", toString o.eventsCapacity), ("write_attempts", toString o.writeAttempts),
     ("retry_interval", o.retryInterval.text), ("read_timeout", timeoutText o.readTimeout)]

end EndpointOptions

/-- The tunables of a listener. -/
structure ListenerOptions where
  /-- The protocol version of a listener that is bound to a port only. -/
  ipVersion : IpVersion := .v4
  /-- May other listeners that allow it too bind the same address? -/
  reuseAddress : Bool := true
  /-- How many connections may wait to be accepted. -/
  backlog : Int := 5
  /-- The longest pause between two steps of a handshake. -/
  handshakeInterval : Duration := Duration.ofMillis 5
  /-- The options of every accepted endpoint. -/
  endpoint : EndpointOptions := {}
  /-- At least one connection may wait. -/
  backlog_pos : 1 ≤ backlog := by decide
  deriving Repr, DecidableEq

namespace ListenerOptions

instance : Inhabited ListenerOptions := ⟨{}⟩

/-- Sets the protocol version of a listener that is bound to a port only. -/
def setIpVersion (o : ListenerOptions) (version : IpVersion) : ListenerOptions :=
  { o with ipVersion := version }

/-- Sets whether the address may be shared. -/
def setReuseAddress (o : ListenerOptions) (reuse : Bool) : ListenerOptions :=
  { o with reuseAddress := reuse }

/-- Sets how many connections may wait; anything below one is raised to one. -/
def setBacklog (o : ListenerOptions) (backlog : Int) : ListenerOptions :=
  { o with
    backlog := max backlog 1
    backlog_pos := by omega }

/-- Sets the longest pause between two steps of a handshake. -/
def setHandshakeInterval (o : ListenerOptions) (interval : Duration) : ListenerOptions :=
  { o with handshakeInterval := interval }

/-- Sets the options of every accepted endpoint. -/
def setEndpoint (o : ListenerOptions) (options : EndpointOptions) : ListenerOptions :=
  { o with endpoint := options }

/-- The options in diagnostic text. -/
def debugText (o : ListenerOptions) : String :=
  record "ListenerOptions"
    [("ip_version", o.ipVersion.debugText), ("reuse_address", toString o.reuseAddress),
     ("backlog", toString o.backlog), ("handshake_interval", o.handshakeInterval.text),
     ("endpoint", o.endpoint.debugText)]

end ListenerOptions

end SocketDemux
