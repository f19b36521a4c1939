import SocketDemux.Host
import SocketDemux.Link
import SocketDemux.Listener.Basic
/-!
# SocketDemux.Network.Basic

A **network** of listeners and connections on one host.

Listeners and connections are numbered in the order in which they are made. Every
connection is a `Link` whose left end belongs to the side that connected, and whose
right end is handed out by the listener. A connection waits in its listener until it
is accepted; until then its left end can be used already.

Secure sessions are made by a `SessionMaker`, on either side:

* `masked` — both sides exchange one key each, as the first byte in either direction,
  and every byte afterwards is combined with the key of its sender;
* `scripted` — the handshake steps answer from one queue that all sessions of the maker
  share, and the bytes travel as they are;
* `failing` — no session is ever made.
-/

namespace SocketDemux

/-- A planned answer to one handshake step. -/
inductive PlannedStep
  | done
  | wouldBlock
  /-- It would block, now and for ever. -/
  | stall
  /-- The listener is cancelled, and the step would block. -/
  | cancel
  | failed (error : IoError)
  deriving Repr, DecidableEq

/-- How secure sessions are made. -/
inductive SessionMaker
  | failing (error : IoError)
  | masked (key : UInt8)
  | scripted (steps : List PlannedStep)
  deriving Repr, DecidableEq

/-- The script of a queue of planned steps: it stalls where the queue does. -/
def HandshakeScript.ofPlan : List PlannedStep → HandshakeScript
  | [] => ⟨[], .done⟩
  | .stall :: _ => ⟨[], .stalled⟩
  | .done :: rest => (ofPlan rest).cons { reply := .done }
  | .wouldBlock :: rest => (ofPlan rest).cons { reply := .wouldBlock }
  | .cancel :: rest => (ofPlan rest).cons { reply := .wouldBlock, cancels := true }
  | .failed e :: rest => (ofPlan rest).cons { reply := .failed e }

/-- The maker after a session that left `rest` of its script. -/
def SessionMaker.afterSession (maker : SessionMaker) (rest : HandshakeScript) : SessionMaker :=
  match maker with
  | .scripted steps =>
      .scripted (steps.drop ((HandshakeScript.ofPlan steps).steps.length - rest.steps.length))
  | maker => maker

/-- A listener with its address and its maker of sessions. -/
structure Binding where
  listener : Listener Nat
  address : SocketAddress
  maker : Option SessionMaker := none

/-- Listeners and connections of one host. -/
structure Network where
  host : Host := .connected
  /-- The next free port. -/
  nextPort : Nat := 49152
  /-- The listeners made so far; `none` where one was closed. -/
  bindings : List (Option Binding) := []
  connections : List Link := []

namespace Network

/-- The listener of that number. -/
def binding? (n : Network) (number : Nat) : Option Binding := (n.bindings[number]?).join

/-- Puts a listener in its place. -/
def setBinding (n : Network) (number : Nat) (binding : Option Binding) : Network :=
  { n with bindings := n.bindings.set number binding }

/-- Changes the connection of that number. -/
def modifyLink (n : Network) (number : Nat) (change : Link → Link) : Network :=
  { n with connections := n.connections.modify number change }

/-! ### Binding -/

/-- Do two addresses stand in each other's way? -/
def overlap (a b : SocketAddress) : Bool :=
  a.port = b.port && (a.ip = b.ip || a.ip.isUnspecified || b.ip.isUnspecified)

/-- May the address be bound? Not if somebody holds it, unless everybody shares. -/
def mayBind (n : Network) (address : SocketAddress) (options : ListenerOptions) : Bool :=
  n.bindings.all fun held =>
    match held with
    | none => true
    | some held =>
        !overlap held.address address ||
          (held.listener.options.reuseAddress && options.reuseAddress)

/-- Binds a listener; at port zero, it gets a port of its own. -/
def bind (n : Network) (address : SocketAddress) (options : ListenerOptions)
    (maker : Option SessionMaker) : Except SocketError Nat × Network :=
  let fresh := address.port = 0
  let address := if fresh then { address with port := n.nextPort } else address
  if n.mayBind address options then
    let listener : Listener Nat := { options := options, secure := maker.isSome }
    (.ok n.bindings.length,
      { n with
        nextPort := if fresh then n.nextPort + 1 else n.nextPort
        bindings := n.bindings ++ [some ⟨listener, address, maker⟩] })
  else (.error (.failed .bind (.os OsCode.addrInUse)), n)

/-! ### Connecting -/

/-- Opens a connection to a listener, where it waits to be accepted. -/
def connect (n : Network) (number : Nat) (binding : Binding) (options : EndpointOptions) :
    Except SocketError Nat × Network :=
  match n.host.dial with
  | .error e => (.error (.failed .connect e), n)
  | .ok () =>
      let link : Link :=
        { left := { options := options, addressed := true }
          right := { options := binding.listener.options.endpoint, addressed := true } }
      let connection := n.connections.length
      (.ok connection,
        { n with
          bindings := n.bindings.set number
            (some { binding with listener := binding.listener.arrive connection })
          connections := n.connections ++ [link] })

/-- Connecting to a port that nobody listens on. -/
def connectToNobody (n : Network) : SocketError := .failed .connect n.host.dialNobody

/-! ### Handshakes -/

/-- The first byte that has arrived at an end, and the end without it. -/
def takeByte? (e : Endpoint) : Option (UInt8 × Endpoint) :=
  match e.inbound.events with
  | ⟨.data (byte :: bytes), cancels, wait⟩ :: rest =>
      let events := if bytes = [] then rest else ⟨.data bytes, cancels, wait⟩ :: rest
      some (byte, { e with inbound := { e.inbound with events := events } })
  | _ => none

/-- What the exchange of keys answers at `side`, after the own key was sent. -/
def keyScript (link : Link) (side : Side) : HandshakeScript :=
  match takeByte? (link.get side) with
  | some _ => ⟨[], .done⟩
  | none =>
      match (link.get side).inbound.ending with
      | .ended => ⟨[{ reply := .failed (.plain .unexpectedEof) }], .done⟩
      | .quiet => ⟨[], .stalled⟩

/-- Sends the own key to the other end. -/
def sendKey (link : Link) (side : Side) (key : UInt8) : Link := link.arrive side.opposite [key]

/-- Takes the other end's key, and wears the mask of both. -/
def wearMask (link : Link) (side : Side) (key : UInt8) : Link :=
  match takeByte? (link.get side) with
  | some (peer, e) => (link.set side e).wear side ⟨key, peer⟩
  | none => link

/-- What a session of this maker is going to answer at `side`. -/
def script (maker : SessionMaker) (link : Link) (side : Side) :
    Except IoError HandshakeScript :=
  match maker with
  | .failing e => .error e
  | .masked _ => .ok (keyScript link side)
  | .scripted steps => .ok (.ofPlan steps)

/-- What a session does when its handshake begins. -/
def beginSession (maker : SessionMaker) (link : Link) (side : Side) : Link :=
  match maker with
  | .masked key => sendKey link side key
  | _ => link

/-- What a session does when its handshake is done. -/
def completeSession (maker : SessionMaker) (link : Link) (side : Side) : Link :=
  match maker with
  | .masked key => wearMask link side key
  | _ =>
      let e := link.get side
      link.set side { e with secure := true }

/-! ### Accepting -/

/-- Waits for the next connection of a listener and completes its handshake. A
connection that is not handed out is closed. -/
def accept (n : Network) (number : Nat) (binding : Binding) (timeout : Timeout) :
    Reply SocketError Nat × Network :=
  let session : Nat → Except IoError HandshakeScript := fun connection =>
    match binding.maker, n.connections[connection]? with
    | some maker, some link => script maker link .right
    | _, _ => .ok {}
  let outcome := binding.listener.accept session timeout
  let begun : Network :=
    match outcome.taken, outcome.rest, binding.maker with
    | some connection, some _, some maker => n.modifyLink connection (beginSession maker · .right)
    | _, _, _ => n
  let maker :=
    match outcome.rest, binding.maker with
    | some rest, some maker => some (maker.afterSession rest)
    | _, maker => maker
  let ended : Network :=
    match outcome.taken, outcome.reply, binding.maker with
    | some connection, .ok _, some maker =>
        begun.modifyLink connection (completeSession maker · .right)
    | some connection, .error _, _ => begun.modifyLink connection (·.close .right)
    | _, _, _ => begun
  (outcome.reply,
    ended.setBinding number (some { binding with listener := outcome.listener, maker := maker }))

/-- Somebody waits for a connection without a deadline while the listener is
cancelled. Gives the reply of the one who waits, and what the request answered. -/
def acceptAcrossCancellation (n : Network) (number : Nat) (binding : Binding) :
    Reply SocketError Nat × Bool × Network :=
  let (first, n) := n.accept number binding none
  let waited := (n.binding? number).getD binding
  let (raised, listener) := waited.listener.stopAccepting
  let cancelled := { waited with listener := listener }
  let n := n.setBinding number (some cancelled)
  match first with
  | .waiting =>
      let (second, n) := n.accept number cancelled none
      (second, raised, n)
  | _ => (first, raised, n)

/-! ### Secure connections -/

/-- The pause between two handshake steps of an endpoint that connects. -/
def connectInterval : Duration := Duration.ofMillis 5

/-- Completes the handshake at the left end of a connection. One that fails closes
it. -/
def finishConnect (n : Network) (number connection : Nat) (maker : SessionMaker)
    (timeout : Timeout) : Reply SocketError Nat × Network :=
  match n.connections[connection]? with
  | none => (.waiting, n)
  | some link =>
      match script maker link .left with
      | .error e => (.error (.failed .handshake e), n)
      | .ok script =>
          let run := handshakeRun script.ending (timeout.deadline link.left.now) connectInterval {}
            link.left.now (script.steps.map fun step => { step with cancels := false })
          let used := script.steps.take (run.answers.length)
          let n : Network :=
            match n.binding? number with
            | some binding =>
                n.setBinding number
                  (some
                    { binding with
                      listener :=
                        { binding.listener with
                          flag := binding.listener.flag.raiseIf (used.any (·.cancels)) } })
            | none => n
          match run.reply with
          | .ok () =>
              (.ok connection, n.modifyLink connection (completeSession maker · .left))
          | .error failure => (.error failure, n.modifyLink connection (·.close .left))
          | .waiting => (.waiting, n)

/-- Makes a session, opens a connection, and begins the handshake at its left end. -/
def beginConnect (n : Network) (number : Nat) (binding : Binding) (maker : SessionMaker)
    (options : EndpointOptions) : Except SocketError Nat × Network :=
  match maker with
  | .failing e => (.error (.failed .handshake e), n)
  | maker =>
      match n.connect number binding options with
      | (.error failure, n) => (.error failure, n)
      | (.ok connection, n) =>
          (.ok connection, n.modifyLink connection (beginSession maker · .left))

/-- Opens a secure connection. -/
def connectSecure (n : Network) (number : Nat) (binding : Binding) (maker : SessionMaker)
    (options : EndpointOptions) (timeout : Timeout) : Reply SocketError Nat × Network :=
  match n.beginConnect number binding maker options with
  | (.error failure, n) => (.error failure, n)
  | (.ok connection, n) => n.finishConnect number connection maker timeout

/-- Opens a secure connection in one thread while another accepts it. Gives the
replies of both. -/
def securePair (n : Network) (number : Nat) (binding : Binding) (maker : SessionMaker)
    (options : EndpointOptions) (timeout : Timeout) :
    Reply SocketError Nat × Reply SocketError Nat × Network :=
  match n.beginConnect number binding maker options with
  | (.error failure, n) =>
      let (server, n) := n.accept number ((n.binding? number).getD binding) timeout
      (.error failure, server, n)
  | (.ok connection, n) =>
      let (server, n) := n.accept number ((n.binding? number).getD binding) timeout
      let (client, n) := n.finishConnect number connection maker timeout
      (client, server, n)

end Network

end SocketDemux
