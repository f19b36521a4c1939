import SocketDemux.Demux.Basic
/-!
# SocketDemux.Demux.Interleaving

A demultiplexer **shared by threads**: the worker, any number of readers, any number
of threads that stop it, whoever registers conditions and starts it, and whoever requests
cancellation.

A `System` is the demultiplexer together with the calls that are under way. Every
`Action` is one atomic step of one thread, taken under the lock that the thread holds
while it makes it:

* registering and starting are one step each;
* the worker makes one step (`Demux.step`), also one that only finds that it has to
  wait;
* a stop takes the worker out of the lifecycle, raises the flag, joins the worker if it
  took it — which it cannot before the worker has ended — and records that it was
  stopped;
* a reader takes a unit or passes a closed signal, then pops; a blocking reader that
  pops nothing waits again. Its time runs out only while no unit is left.

`System.Reachable` are the states that some order of such steps leads to.
-/

namespace SocketDemux

/-- How far a call that stops the demultiplexer has come. -/
inductive StopPhase
  | called
  /-- The worker is taken, or was not there to take. -/
  | took (taken : Bool)
  /-- The flag is raised as well. -/
  | raised (taken : Bool)
  /-- The worker, if it was taken, has been joined. -/
  | joined (reply : StopReply)
  | returned (reply : StopReply)
  deriving Repr, DecidableEq

/-- What a reader does. -/
inductive ReadMode
  /-- It waits until it gets a fragment or a failure. -/
  | blocking
  /-- It waits for the signal, then pops once. -/
  | afterWait
  /-- It pops at once. -/
  | immediate
  deriving Repr, DecidableEq

/-- How far a reader has come. -/
inductive ReaderPhase
  | waiting
  /-- Its wait is over; it pops next. -/
  | claimed
  | returned (reply : Except SocketError Bytes)

/-- A reader of one handle. -/
structure Reader where
  handle : Handle
  mode : ReadMode
  phase : ReaderPhase

/-- A reader that has just called. -/
def Reader.called (handle : Handle) (mode : ReadMode) : Reader :=
  ⟨handle, mode, match mode with
    | .immediate => .claimed
    | _ => .waiting⟩

/-- A demultiplexer and the calls under way. -/
structure System (κ : Type) where
  demux : Demux κ
  stops : List StopPhase := []
  readers : List Reader := []

/-- One atomic step of one thread. -/
inductive Action (κ : Type)
  /-- Somebody registers a condition, or is refused. -/
  | register (condition : κ)
  /-- Somebody starts the worker, or is refused. -/
  | start
  /-- The worker goes on. -/
  | work
  /-- Somebody requests cancellation. -/
  | cancel
  /-- A thread calls stop. -/
  | callStop
  /-- A stop goes on. -/
  | goOnStop (index : Nat)
  /-- A thread calls a read. -/
  | callRead (handle : Handle) (mode : ReadMode)
  /-- A reader goes on. -/
  | goOnRead (index : Nat)
  /-- The time of a waiting reader runs out. -/
  | expire (index : Nat)
  deriving Repr, DecidableEq

namespace System

variable {κ : Type}

/-- A stop goes on; it cannot join a worker that has not ended. -/
def stopStep (d : Demux κ) : StopPhase → Option (StopPhase × Demux κ)
  | .called =>
      let (taken, d) := d.takeWorker
      some (.took taken, d)
  | .took taken => some (.raised taken, d.requestCancellation.2)
  | .raised taken =>
      match d.joinReply taken with
      | .waiting => none
      | reply => some (.joined reply, d)
  | .joined reply => some (.returned reply, d.recordStop)
  | .returned _ => none

/-- A reader goes on; it cannot while its signal holds it back. -/
def readStep (q : Queues) (reader : Reader) : Option (Reader × Queues) :=
  match reader.phase with
  | .waiting =>
      match q.slot? reader.handle with
      | none => some ({ reader with phase := .returned (.error .invalidHandle) }, q)
      | some slot =>
          match slot.signal.pass? with
          | some signal =>
              some ({ reader with phase := .claimed }, q.setSignal reader.handle signal)
          | none => none
  | .claimed =>
      match reader.mode, q.pop reader.handle with
      | .blocking, (.error .noData, q) => some ({ reader with phase := .waiting }, q)
      | _, (reply, q) => some ({ reader with phase := .returned reply }, q)
  | .returned _ => none

/-- The time of a reader runs out, if its signal holds it back. -/
def expireStep (q : Queues) (reader : Reader) : Option Reader :=
  match reader.phase, (q.slot? reader.handle).map (·.signal.pass?) with
  | .waiting, some none => some { reader with phase := .returned (.error .readTimeout) }
  | _, _ => none

/-- What an action does, if it is possible. -/
def act [Condition κ] (s : System κ) : Action κ → Option (System κ)
  | .register condition => some { s with demux := (s.demux.register condition).2 }
  | .start => some { s with demux := s.demux.start.2 }
  | .work => some { s with demux := s.demux.step.2 }
  | .cancel => some { s with demux := s.demux.requestCancellation.2 }
  | .callStop => some { s with stops := s.stops ++ [.called] }
  | .goOnStop index => do
      let phase ← s.stops[index]?
      let (phase, d) ← stopStep s.demux phase
      some { s with demux := d, stops := s.stops.set index phase }
  | .callRead handle mode => some { s with readers := s.readers ++ [Reader.called handle mode] }
  | .goOnRead index => do
      let reader ← s.readers[index]?
      let (reader, q) ← readStep s.demux.queues reader
      some
        { s with
          demux := { s.demux with queues := q }
          readers := s.readers.set index reader }
  | .expire index => do
      let reader ← s.readers[index]?
      let reader ← expireStep s.demux.queues reader
      some { s with readers := s.readers.set index reader }

/-- The state after a sequence of actions, if each of them is possible. -/
def run [Condition κ] (s : System κ) : List (Action κ) → Option (System κ)
  | [] => some s
  | action :: rest => do
      let s ← s.act action
      s.run rest

/-- Some sequence of actions leads from one state to the other. -/
inductive Reachable [Condition κ] (start : System κ) : System κ → Prop
  | refl : Reachable start start
  | step {s next : System κ} {action : Action κ} (reached : Reachable start s)
      (possible : s.act action = some next) : Reachable start next

/-- Following a sequence of actions reaches what it leads to. -/
theorem reachable_of_run [Condition κ] {start s next : System κ} {actions : List (Action κ)}
    (reached : Reachable start s) (h : s.run actions = some next) : Reachable start next := by
  induction actions generalizing s with
  | nil => cases h; exact reached
  | cons action rest ih =>
    cases possible : s.act action with
    | none => simp [run, possible] at h
    | some middle =>
      exact ih (reached.step possible) (by simpa [run, possible] using h)

end System

end SocketDemux
