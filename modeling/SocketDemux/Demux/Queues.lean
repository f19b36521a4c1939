import SocketDemux.Bytes
import SocketDemux.Duration
import SocketDemux.Error.Basic
import SocketDemux.Reply
/-!
# SocketDemux.Demux.Queues

The **fragment queues** of a demultiplexer: one slot per condition, and the terminal
failure that is common to them all.

* `Signal` — how readers of a slot are woken up. Every fragment leaves one unit, and
  every wait takes one; once the signal is closed, no wait blocks any more. A reader
  that does not wait takes a fragment without its unit, so there may be units
  without a fragment.
* `Queues.deliver` — appends a fragment to a slot and leaves a unit.
* `Queues.terminate` — records the failure that ended the worker, unless one is
  recorded already, and closes all signals.
* `Queues.pop` — the oldest fragment of a slot; behind the last one, the recorded
  failure, or that there is no data yet.
* `Queues.wait`, `Queues.readBlocking` — what a waiting reader gets if nothing else
  happens while it waits.
-/

namespace SocketDemux

/-! ### Signals -/

/-- How readers are woken up. -/
structure Signal where
  /-- Units that no wait has taken yet. -/
  units : Nat := 0
  /-- Does every wait return at once? -/
  closed : Bool := false
  deriving Repr, DecidableEq

namespace Signal

/-- Leaves one unit. -/
def notify (s : Signal) : Signal := { s with units := saturatingAdd s.units 1 }

/-- Releases every present and future wait. -/
def close (s : Signal) : Signal := { s with closed := true }

/-- A wait that need not block: it takes a unit if there is one, and passes a closed
signal. -/
def pass? (s : Signal) : Option Signal :=
  if 0 < s.units then some { s with units := s.units - 1 }
  else if s.closed then some s
  else none

end Signal

/-! ### Slots -/

/-- The fragments of one condition. -/
structure Slot where
  /-- The oldest one first. -/
  fragments : List Bytes := []
  signal : Signal := {}
  deriving Repr, DecidableEq

/-- Names a condition of a demultiplexer, and its slot. -/
structure Handle where
  index : Nat
  deriving Repr, DecidableEq

/-- All slots, and the failure that ended the worker. -/
structure Queues where
  slots : List Slot := []
  terminal : Option SocketError := none
  deriving Repr, DecidableEq

namespace Queues

/-- One more slot, and its handle. -/
def addSlot (q : Queues) : Handle × Queues :=
  (⟨q.slots.length⟩, { q with slots := q.slots ++ [{}] })

/-- The slot of a handle. -/
def slot? (q : Queues) (handle : Handle) : Option Slot := q.slots[handle.index]?

/-- Changes one slot. -/
def modifySlot (q : Queues) (index : Nat) (change : Slot → Slot) : Queues :=
  { q with slots := q.slots.modify index change }

/-- Appends a fragment to a slot and wakes up one reader. -/
def deliver (q : Queues) (index : Nat) (fragment : Bytes) : Queues :=
  q.modifySlot index fun slot =>
    { fragments := slot.fragments ++ [fragment]
      signal := slot.signal.notify }

/-- Records the first terminal failure, and releases every waiting reader. -/
def terminate (q : Queues) (failure : SocketError) : Queues :=
  { slots := q.slots.map fun slot => { slot with signal := slot.signal.close }
    terminal := q.terminal.or (some failure) }

/-- Takes the oldest fragment of a slot. Behind the last one, gives a copy of the
recorded failure, or says that there is no data. -/
def pop (q : Queues) (handle : Handle) : Except SocketError Bytes × Queues :=
  match q.slot? handle with
  | none => (.error .invalidHandle, q)
  | some slot =>
      match slot.fragments with
      | fragment :: rest =>
          (.ok fragment, q.modifySlot handle.index fun slot => { slot with fragments := rest })
      | [] =>
          match q.terminal with
          | some failure => (.error failure.copy, q)
          | none => (.error .noData, q)

/-- Pops until that fails. Gives the fragments and the failure. -/
def drain (q : Queues) (handle : Handle) : List Bytes × SocketError × Queues :=
  match q.slot? handle with
  | none => ([], .invalidHandle, q)
  | some slot =>
      let failure :=
        match q.terminal with
        | some failure => failure.copy
        | none => .noData
      (slot.fragments, failure,
        q.modifySlot handle.index fun slot => { slot with fragments := [] })

/-! ### Waiting -/

/-- Puts a signal into a slot. -/
def setSignal (q : Queues) (handle : Handle) (signal : Signal) : Queues :=
  q.modifySlot handle.index fun slot => { slot with signal := signal }

/-- What a wait without a unit answers: a closed signal lets it pass, else its time
runs out, if it has a limit. -/
def waitInVain (timeout : Timeout) : Reply SocketError Bool :=
  match (timeout : Option Duration) with
  | none => .waiting
  | some _ => .ok false

/-- Waits for a slot to be signalled; `false` if the time ran out first. -/
def wait (q : Queues) (handle : Handle) (timeout : Timeout) :
    Reply SocketError Bool × Queues :=
  match q.slot? handle with
  | none => (.error .invalidHandle, q)
  | some slot =>
      match slot.signal.pass? with
      | some signal => (.ok true, q.setSignal handle signal)
      | none => (waitInVain timeout, q)

/-- Waits and pops, over and over, until a pop finds something: every round that
finds nothing has used up one of the `units` there are. A reader that passes a
closed signal and finds nothing would go on for ever. -/
def popSignalled (q : Queues) (handle : Handle) (timeout : Timeout) :
    Nat → Reply SocketError Bytes × Queues
  | 0 =>
      match q.slot? handle with
      | none => (.error .invalidHandle, q)
      | some slot =>
          if slot.signal.closed then
            match q.pop handle with
            | (.error .noData, q) => (.waiting, q)
            | (reply, q) => (.ofExcept reply, q)
          else
            match waitInVain timeout with
            | .waiting => (.waiting, q)
            | _ => (.error .readTimeout, q)
  | units + 1 =>
      let q := q.modifySlot handle.index fun slot =>
        { slot with signal := { slot.signal with units := units } }
      match q.pop handle with
      | (.error .noData, q) => q.popSignalled handle timeout units
      | (reply, q) => (.ofExcept reply, q)

/-- Waits for the next fragment of a slot. A reader whose time runs out leaves the
queue as it is. -/
def readBlocking (q : Queues) (handle : Handle) (timeout : Timeout) :
    Reply SocketError Bytes × Queues :=
  match q.slot? handle with
  | none => (.error .invalidHandle, q)
  | some slot => q.popSignalled handle timeout slot.signal.units

/-! ### Lookup after an update -/

@[simp] theorem terminal_modifySlot (q : Queues) (index : Nat) (change : Slot → Slot) :
    (q.modifySlot index change).terminal = q.terminal := rfl

@[simp] theorem length_slots_modifySlot (q : Queues) (index : Nat) (change : Slot → Slot) :
    (q.modifySlot index change).slots.length = q.slots.length := by
  simp [modifySlot]

@[simp] theorem length_slots_deliver (q : Queues) (index : Nat) (fragment : Bytes) :
    (q.deliver index fragment).slots.length = q.slots.length := by
  simp [deliver]

@[simp] theorem terminal_deliver (q : Queues) (index : Nat) (fragment : Bytes) :
    (q.deliver index fragment).terminal = q.terminal := rfl

@[simp] theorem length_slots_terminate (q : Queues) (failure : SocketError) :
    (q.terminate failure).slots.length = q.slots.length := by
  simp [terminate]

end Queues

end SocketDemux
