import SocketDemux.Endpoint.Basic
/-!
# SocketDemux.Link

A **link**: two endpoints connected to each other, with one byte queue in each
direction.

Whatever one end's transport accepts arrives at the other end (`Link.settle`), where
it waits behind the bytes that are there already. A direction can be shut: bytes
that have arrived are still delivered, then its reader finds the end of the stream,
while its writer finds a broken pipe at once.

A direction is shut when its writer shuts down writing or closes, and when its reader
shuts down reading or closes. An end that closes without having read all that had arrived
resets the connection: behind what has arrived there, the other end is told so once
(`Link.reset`), and only then finds the end of the stream.

An end may wear a `Mask`, as one that talks through a secure session does: it disguises
what it sends, and undoes the disguise of what it receives. Two ends that wear each
other's mask understand each other (`Mask.reveal_conceal`); an end without a mask sees
the bytes as they travel.
-/

namespace SocketDemux

/-- One of the two ends. -/
inductive Side
  | left
  | right
  deriving Repr, DecidableEq

/-- The other end. -/
def Side.opposite : Side → Side
  | left => right
  | right => left

/-- What a shutdown is about. -/
inductive Shutdown
  | read
  | write
  | both
  deriving Repr, DecidableEq

/-- A disguise for bytes: each direction has a key that every byte is combined with. -/
structure Mask where
  /-- The key of what is sent. -/
  own : UInt8
  /-- The key of what is received. -/
  peer : UInt8
  deriving Repr, DecidableEq

namespace Mask

/-- Bytes as they travel. -/
def conceal (mask : Option Mask) (bytes : Bytes) : Bytes :=
  match mask with
  | none => bytes
  | some mask => bytes.map (· ^^^ mask.own)

/-- Bytes that have travelled, as they were meant. -/
def reveal (mask : Option Mask) (bytes : Bytes) : Bytes :=
  match mask with
  | none => bytes
  | some mask => bytes.map (· ^^^ mask.peer)

/-- What was sent under a key is understood under the same key. -/
theorem reveal_conceal (sender receiver : Mask) (agree : receiver.peer = sender.own)
    (bytes : Bytes) : reveal (some receiver) (conceal (some sender) bytes) = bytes := by
  have undone : (· ^^^ receiver.peer) ∘ (· ^^^ sender.own) = (id : UInt8 → UInt8) := by
    funext byte
    rw [Function.comp_apply, agree, UInt8.xor_assoc, UInt8.xor_self, UInt8.xor_zero]
    rfl
  rw [reveal, conceal, List.map_map, undone, List.map_id]

end Mask

/-- Two connected endpoints, the masks they wear, and which of them are still open. -/
structure Link where
  left : Endpoint
  right : Endpoint
  leftMask : Option Mask := none
  rightMask : Option Mask := none
  leftOpen : Bool := true
  rightOpen : Bool := true

namespace Link

/-- Two local endpoints that are connected to each other. -/
def pair (options : EndpointOptions) : Link :=
  { left := { options := options }, right := { options := options } }

/-- The endpoint at one end. -/
def get (link : Link) : Side → Endpoint
  | .left => link.left
  | .right => link.right

/-- Puts an endpoint at one end. -/
def set (link : Link) (side : Side) (e : Endpoint) : Link :=
  match side with
  | .left => { link with left := e }
  | .right => { link with right := e }

/-- Is that end open? -/
def isOpen (link : Link) : Side → Bool
  | .left => link.leftOpen
  | .right => link.rightOpen

/-- The mask of one end. -/
def mask (link : Link) : Side → Option Mask
  | .left => link.leftMask
  | .right => link.rightMask

/-- Bytes that have travelled arrive at `side`. -/
def arrive (link : Link) (side : Side) (bytes : Bytes) : Link :=
  let e := link.get side
  link.set side { e with inbound := e.inbound.deliver (Mask.reveal (link.mask side) bytes) }

/-- Hands the bytes that went out at `side` to the other end. -/
def settle (link : Link) (side : Side) : Link :=
  let (bytes, outbound) := (link.get side).outbound.take
  (link.set side { link.get side with outbound := outbound }).arrive side.opposite
    (Mask.conceal (link.mask side) bytes)

/-- Puts a mask on one end; what has arrived there already is seen through it. -/
def wear (link : Link) (side : Side) (mask : Mask) : Link :=
  let e := link.get side
  let unmask : ReadEvent → ReadEvent := fun event =>
    match event.reply with
    | .data bytes => { event with reply := .data (Mask.reveal (some mask) bytes) }
    | .failed _ => event
  let seen := link.set side
    { e with
      secure := true
      inbound := { e.inbound with events := e.inbound.events.map unmask } }
  match side with
  | .left => { seen with leftMask := some mask }
  | .right => { seen with rightMask := some mask }

/-- Runs an operation at one end. -/
def on {α : Type} (link : Link) (side : Side) (operation : Endpoint → α × Endpoint) : α × Link :=
  let (answer, e) := operation (link.get side)
  (answer, (link.set side e).settle side)

/-- Exchanges bytes with an endpoint that is kept elsewhere: it takes its place at
`side`, and what it has sent goes to the other end. -/
def exchange (link : Link) (side : Side) (e : Endpoint) : Endpoint × Link :=
  let link := (link.set side e).settle side
  (link.get side, link)

/-- Shuts the direction that leads away from `side`. -/
def shutFrom (link : Link) (side : Side) : Link :=
  let here := link.get side
  let there := link.get side.opposite
  (link.set side { here with outbound := here.outbound.breakOff }).set side.opposite
    { there with inbound := there.inbound.finish }

/-- Shuts down reading, writing or both at one end. -/
def shutdown (link : Link) (side : Side) : Shutdown → Link
  | .read => link.shutFrom side.opposite
  | .write => link.shutFrom side
  | .both => (link.shutFrom side.opposite).shutFrom side

/-- The next read at `side`, behind what has arrived, fails once: the connection was
reset. -/
def reset (link : Link) (side : Side) : Link :=
  let e := link.get side
  link.set side
    { e with inbound := e.inbound.feed [⟨.failed (.os OsCode.connectionReset), false, {}⟩] }

/-- Closes one end: cancellation is requested for whoever still uses it, then its
endpoint is gone and both directions are shut. Bytes that had arrived there and were not
read make it a reset. -/
def close (link : Link) (side : Side) : Link :=
  let e := link.get side
  let shut := (link.set side e.requestCancellation.2).shutdown side .both
  let shut := if e.inbound.arrivals = [] then shut else shut.reset side.opposite
  match side with
  | .left => { shut with leftOpen := false }
  | .right => { shut with rightOpen := false }

/-- Writes chunks at one end, one after the other. -/
def writeAll (link : Link) (side : Side) (attempts : Nat) :
    List Bytes → List (Except SocketError Unit) × Link
  | [] => ([], link)
  | chunk :: rest =>
      let (reply, link) := link.on side fun e =>
        let outcome := e.write chunk attempts
        (outcome.reply, outcome.endpoint)
      let (replies, link) := link.writeAll side attempts rest
      (reply :: replies, link)

/-- One end reads while chunks are written at the other: a reader that needs them
all sees them all, whichever of the two is ahead. -/
def readWhileWritten (link : Link) (side : Side) (chunks : List Bytes) (attempts : Nat)
    (target : Bytes) (need : Nat) (timeout : Timeout) :
    ReadOutcome × List (Except SocketError Unit) × Link :=
  let (replies, link) := link.writeAll side.opposite attempts chunks
  let (outcome, link) := link.on side fun e =>
    let outcome := e.read target need timeout
    (outcome, outcome.endpoint)
  (outcome, replies, link)

end Link

end SocketDemux
