import SocketDemux.Demux.Worker
import SocketDemux.Text.Utf8
/-!
# SocketDemux.Demux.Basic

What one thread after the other can do with a **demultiplexer**.

* `Demux.register`, `Demux.start` — conditions are registered until the worker is
  started, and it is started once. `Demux.start` only spawns the worker;
  `Demux.settle` lets it run.
* `Demux.readNonBlocking`, `Demux.readBlocking`, `Demux.wait`, `Demux.drain` — readers,
  while nothing else happens.
* `Demux.stop` — requests cancellation, waits for the worker to end, and reports how
  it ended, unless an earlier stop has. The four parts of a stop are functions of
  their own, because other threads may act between them. `Demux.close` is a stop whose
  answer nobody wants.
* `Demux.stopWhileReading` — readers wait for fragments while somebody stops the
  demultiplexer.
-/

namespace SocketDemux

/-- What stopping a demultiplexer comes back with. -/
inductive StopReply
  | ok
  /-- The failure that had ended the worker. -/
  | error (failure : SocketError)
  /-- The panic of a condition goes on in the thread that stops. -/
  | panicked (message : String)
  /-- The worker has not ended. -/
  | waiting
  deriving Repr, DecidableEq

/-- What a thread that joins the worker is told. -/
def WorkerEnd.reply : WorkerEnd → StopReply
  | .cancelled => .ok
  | .failed failure => .error failure
  | .panicked message => .panicked message

namespace Demux

variable {κ : Type}

/-! ### Life -/

/-- Registers a condition behind the others. -/
def register (d : Demux κ) (condition : κ) : Except SocketError Handle × Demux κ :=
  match d.lifecycle with
  | .registering conditions =>
      let (handle, queues) := d.queues.addSlot
      (.ok handle,
        { d with
          queues := queues
          lifecycle := .registering (conditions ++ [condition]) })
  | _ => (.error .alreadyStarted, d)

/-- Spawns the worker with the conditions registered so far. -/
def start (d : Demux κ) : Except SocketError Unit × Demux κ :=
  match d.lifecycle with
  | .registering conditions =>
      (.ok (),
        { d with
          lifecycle := .running
          worker := some { conditions := conditions } })
  | _ => (.error .alreadyStarted, d)

/-- Is the worker joinable by a stop to come? -/
def isJoinable (d : Demux κ) : Bool :=
  match d.lifecycle with
  | .running => true
  | _ => false

/-- Does the worker run, as far as anybody knows? -/
def isRunning (d : Demux κ) : Bool := d.isJoinable && d.queues.terminal.isNone

/-- A copy of the failure that ended the worker, if it has ended. -/
def terminalError (d : Demux κ) : Option SocketError := d.queues.terminal.map SocketError.copy

/-- Requests cancellation; `true` for the request that raised the flag. -/
def requestCancellation (d : Demux κ) : Bool × Demux κ :=
  let (raised, buffer) := d.buffer.requestCancellation
  (raised, { d with buffer := buffer })

/-- Has cancellation been requested? -/
def isCancelled (d : Demux κ) : Bool := d.buffer.endpoint.isCancelled

/-! ### Reading -/

/-- Changes the queues only. -/
def onQueues {α : Type} (d : Demux κ) (operation : Queues → α × Queues) : α × Demux κ :=
  let (answer, queues) := operation d.queues
  (answer, { d with queues := queues })

/-- The oldest fragment, if there is one. -/
def readNonBlocking (d : Demux κ) (handle : Handle) : Except SocketError Bytes × Demux κ :=
  d.onQueues (·.pop handle)

/-- Waits for the next fragment. -/
def readBlocking (d : Demux κ) (handle : Handle) (timeout : Timeout) :
    Reply SocketError Bytes × Demux κ :=
  d.onQueues (·.readBlocking handle timeout)

/-- Waits for the next fragment, and reads it as text. -/
def readText (d : Demux κ) (handle : Handle) (timeout : Timeout) :
    Reply SocketError String × Demux κ :=
  let (reply, d) := d.readBlocking handle timeout
  (reply.map Text.decodeLossy, d)

/-- Waits until there is something to read; `false` if the time ran out first. -/
def wait (d : Demux κ) (handle : Handle) (timeout : Timeout) : Reply SocketError Bool × Demux κ :=
  d.onQueues (·.wait handle timeout)

/-- Reads until that fails. -/
def drain (d : Demux κ) (handle : Handle) : (List Bytes × SocketError) × Demux κ :=
  d.onQueues fun queues =>
    let (fragments, failure, queues) := queues.drain handle
    ((fragments, failure), queues)

/-! ### Writing -/

/-- Writes to the endpoint. -/
def write (d : Demux κ) (data : Bytes) : Except SocketError Unit × Demux κ :=
  let (reply, buffer) := d.buffer.write data
  (reply, { d with buffer := buffer })

/-- Writes the encoding of a text to the endpoint. -/
def writeText (d : Demux κ) (text : String) : Except SocketError Unit × Demux κ :=
  d.write text.toUTF8.toList

/-! ### Stopping -/

/-- First part of a stop: the worker, if it runs and nobody has taken it, is taken to
be joined; from now on the demultiplexer is stopped. -/
def takeWorker (d : Demux κ) : Bool × Demux κ :=
  (d.isJoinable, { d with lifecycle := .stopped })

/-- How the worker ended, if it has. -/
def workerEnd? (d : Demux κ) : Option WorkerEnd :=
  match d.worker with
  | some ⟨_, .ended result, _⟩ => some result
  | _ => none

/-- What a stop answers that has `taken` the worker, or has not. -/
def joinReply (d : Demux κ) (taken : Bool) : StopReply :=
  if taken then
    match d.workerEnd? with
    | some result => result.reply
    | none => .waiting
  else .ok

/-- Last part of a stop: unless a failure is recorded, the stop itself is. -/
def recordStop (d : Demux κ) : Demux κ :=
  { d with queues := d.queues.terminate .terminationRequested }

/-- Requests cancellation, lets the worker come to its end, and reports that end if
this stop has taken the worker. -/
def stop [Condition κ] (d : Demux κ) : StopReply × Demux κ :=
  let (taken, d) := d.takeWorker
  let d := d.requestCancellation.2
  let d := if taken then d.settle else d
  (d.joinReply taken, d.recordStop)

/-- Whoever gives a demultiplexer up stops it, and is told nothing. -/
def close [Condition κ] (d : Demux κ) : Demux κ := d.stop.2

/-- So many readers wait for fragments, without a deadline. -/
def readRepeatedly (d : Demux κ) (handle : Handle) :
    Nat → List (Reply SocketError Bytes) × Demux κ
  | 0 => ([], d)
  | readers + 1 =>
      let (reply, d) := d.readBlocking handle none
      let (replies, d) := readRepeatedly d handle readers
      (reply :: replies, d)

/-- Every reader that still waits calls once more. -/
def readAgain (d : Demux κ) (handle : Handle) :
    List (Reply SocketError Bytes) → List (Reply SocketError Bytes) × Demux κ
  | [] => ([], d)
  | .waiting :: rest =>
      let (reply, d) := d.readBlocking handle none
      let (replies, d) := readAgain d handle rest
      (reply :: replies, d)
  | reply :: rest =>
      let (replies, d) := readAgain d handle rest
      (reply :: replies, d)

/-- So many readers wait for fragments, then the demultiplexer is stopped. Gives what
the stop and the readers come back with. -/
def stopWhileReading [Condition κ] (d : Demux κ) (handle : Handle) (readers : Nat) :
    StopReply × List (Reply SocketError Bytes) × Demux κ :=
  let (first, d) := d.readRepeatedly handle readers
  let (reply, d) := d.stop
  let (replies, d) := d.readAgain handle first
  (reply, replies, d)

/-! ### Diagnostic text -/

/-- The last fields of a demultiplexer's diagnostic text. -/
def debugTail (d : Demux κ) : String :=
  let terminal :=
    match d.queues.terminal with
    | none => "None"
    | some failure => "Some(" ++ failure.debugText ++ ")"
  "conditions: " ++ toString d.queues.slots.length ++ ", terminal: " ++ terminal ++ " \x7d"

end Demux

end SocketDemux
