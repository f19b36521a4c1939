import SocketDemux.Endpoint.ReadRun
import SocketDemux.Endpoint.WriteRun
import SocketDemux.Options
/-!
# SocketDemux.Endpoint.Basic

An **endpoint**: one end of a connected byte stream, with timeouts and cancellation.

An endpoint owns its transport in both directions, its cancellation flag, its clock
and its options. Its operations are functions from one endpoint to the next.

* `Endpoint.read` fills a target with at least `need` bytes; with as many as the
  last transport read happened to bring beyond that. A request that exceeds the
  target is refused, and a request for nothing succeeds, both without a look at
  anything. Bytes that were read before a failure are lost to the caller.
* `Endpoint.write` sends data in a bounded number of attempts.
* `Endpoint.requestCancellation` — from then on, both fail.
* `Endpoint.readAcrossCancellation` — a reader waits while somebody else requests
  cancellation.
-/

namespace SocketDemux

/-- One end of a connected byte stream. -/
structure Endpoint where
  inbound : Inbound := {}
  outbound : Outbound := {}
  flag : CancelFlag := {}
  now : Instant := 0
  /-- Does everything go through a secure session? -/
  secure : Bool := false
  /-- Does the connection run between socket addresses? -/
  addressed : Bool := false
  options : EndpointOptions := default

/-- What a read comes back with. -/
structure ReadOutcome where
  reply : Reply SocketError Nat
  /-- The target after the read. -/
  target : Bytes
  /-- The bytes taken from the transport. -/
  taken : Bytes
  /-- The transport reads that were made. -/
  calls : List ReadCall
  endpoint : Endpoint

/-- What a write comes back with. -/
structure WriteOutcome where
  reply : Except SocketError Unit
  /-- The bytes that the transport accepted. -/
  sent : Bytes
  /-- The transport writes that were made. -/
  calls : List WriteCall
  endpoint : Endpoint

namespace Endpoint

/-! ### Cancellation -/

/-- Requests cancellation; `true` for the request that raised the flag. -/
def requestCancellation (e : Endpoint) : Bool × Endpoint :=
  (e.flag.raise.1, { e with flag := e.flag.raise.2 })

/-- Has cancellation been requested? -/
def isCancelled (e : Endpoint) : Bool := e.flag.raised

/-! ### Reading -/

/-- The refusal of a read that needs more bytes than its target holds. -/
def needExceedsTarget : SocketError :=
  .failed .read (.message .invalidInput "min_bytes exceeds the buffer length")

/-- Reads at least `need` bytes into `target` before the deadline. -/
def readBy (e : Endpoint) (target : Bytes) (need : Nat) (deadline : Deadline) : ReadOutcome :=
  if target.length < need then ⟨.error needExceedsTarget, target, [], [], e⟩
  else
    let run := readRun e.inbound.ending deadline target.length need false e.flag e.now
      e.inbound.events
    { reply := run.reply.map fun _ => run.taken.length
      target := overwrite target run.taken
      taken := run.taken
      calls := run.calls
      endpoint :=
        { e with
          inbound := { e.inbound with events := run.events }
          flag := run.flag
          now := run.now } }

/-- Reads at least `need` bytes into `target`, within a time budget. -/
def read (e : Endpoint) (target : Bytes) (need : Nat) (timeout : Timeout) : ReadOutcome :=
  e.readBy target need (timeout.deadline e.now)

/-- The bytes still to come. -/
def arrivals (e : Endpoint) : Bytes := e.inbound.arrivals

/-- A read loses nothing: what it took, followed by what is still to come, is what
was to come before. -/
theorem readBy_arrivals (e : Endpoint) (target : Bytes) (need : Nat) (deadline : Deadline) :
    (e.readBy target need deadline).taken ++ (e.readBy target need deadline).endpoint.arrivals =
      e.arrivals := by
  unfold readBy
  split
  · rfl
  · exact readRun_arrivals ..

/-- A read takes no more than fits its target. -/
theorem length_taken_readBy_le (e : Endpoint) (target : Bytes) (need : Nat)
    (deadline : Deadline) : (e.readBy target need deadline).taken.length ≤ target.length := by
  unfold readBy
  split
  · simp
  · exact length_taken_le ..

/-- The target keeps its length. -/
@[simp] theorem length_target_readBy (e : Endpoint) (target : Bytes) (need : Nat)
    (deadline : Deadline) : (e.readBy target need deadline).target.length = target.length := by
  unfold readBy
  split
  · rfl
  · exact length_overwrite (length_taken_le ..)

/-- A read that succeeds reports the number of bytes it took, and they are enough. -/
theorem readBy_ok {e : Endpoint} {target : Bytes} {need : Nat} {deadline : Deadline} {count : Nat}
    (h : (e.readBy target need deadline).reply = .ok count) :
    count = (e.readBy target need deadline).taken.length ∧ need ≤ count := by
  unfold readBy at h ⊢
  split at h
  · cases h
  · next fits =>
    rw [if_neg fits]
    dsimp only at h ⊢
    cases run : (readRun e.inbound.ending deadline target.length need false e.flag e.now
        e.inbound.events).reply with
    | ok _ =>
      rw [run] at h
      cases h
      exact ⟨rfl, need_le_of_ok _ _ _ _ _ _ _ _ (by omega) run⟩
    | error _ => rw [run] at h; cases h
    | waiting => rw [run] at h; cases h

/-- A read never fails with an interruption. -/
theorem readBy_error_kind {e : Endpoint} {target : Bytes} {need : Nat} {deadline : Deadline}
    {failure : SocketError} (h : (e.readBy target need deadline).reply = .error failure) :
    failure.kind ≠ .interrupted := by
  unfold readBy at h
  split at h
  · cases h; simp [needExceedsTarget, SocketError.kind]
  · dsimp only at h
    cases run : (readRun e.inbound.ending deadline target.length need false e.flag e.now
        e.inbound.events).reply with
    | ok _ => rw [run] at h; cases h
    | error _ =>
      rw [run] at h
      cases h
      exact readRun_error_kind _ _ _ _ _ _ _ _ _ run
    | waiting => rw [run] at h; cases h

/-- A reader calls `read` without a deadline; if it has to wait, cancellation is
requested while it does. Gives the reader's outcome, and what the request
answered. -/
def readAcrossCancellation (e : Endpoint) (target : Bytes) (need : Nat) : ReadOutcome × Bool :=
  let first := e.read target need none
  let (raised, cancelled) := first.endpoint.requestCancellation
  match first.reply with
  | .waiting => (cancelled.read target need none, raised)
  | _ => ({ first with endpoint := cancelled }, raised)

/-! ### Writing -/

/-- Writes `data` in at most `attempts` transport writes. -/
def write (e : Endpoint) (data : Bytes) (attempts : Nat) : WriteOutcome :=
  let run := writeRun e.outbound.sink attempts 0 false e.flag data e.outbound.plan
  { reply := run.reply
    sent := run.sent
    calls := run.calls
    endpoint :=
      { e with
        outbound :=
          { e.outbound with
            plan := run.plan
            accepted := e.outbound.accepted ++ run.sent }
        flag := run.flag } }

/-! ### Diagnostic text -/

/-- The last fields of an endpoint's diagnostic text. -/
def debugTail (e : Endpoint) : String :=
  "secure: " ++ toString e.secure ++ ", cancelled: " ++ toString e.isCancelled ++ " \x7d"

end Endpoint

end SocketDemux
