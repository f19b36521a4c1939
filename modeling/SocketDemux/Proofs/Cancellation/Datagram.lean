import SocketDemux.Datagram
import SocketDemux.Proofs.Cancellation.Alone
/-!
# SocketDemux.Proofs.Cancellation.Datagram

**Cancellation of a datagram socket.** Threads receive datagrams on one socket, send others,
and cancel the socket.

* `DatagramFrame` — what a read or a write remembers between two attempts.
* `Datagram.tryReceive`, `Datagram.trySend` — one attempt; `SocketKind.datagram` is the kind of
  socket that they make. A send that is interrupted is no different from one that would block:
  it uses its attempt up, and the flag is looked at before the next.
* `leads_receiveRun`, `leads_sendRun` — the loops of the program are sequences of such attempts;
  `performs_read` and `performs_write` say so of whole calls.
* `read_of_raised`, `write_of_raised` — what a call on a cancelled socket comes back with;
  `raised_of_read`, `raised_of_write` — no other socket gives this answer.
-/

namespace SocketDemux

/-! ### Reads and writes in steps -/

/-- What a call on a datagram socket remembers. -/
inductive DatagramFrame
  /-- A read, and the datagram that it has got. -/
  | receiving (deadline : Deadline) (got : Option Packet)
  /-- A write, with the attempts that are left. -/
  | sending (attempts : Nat) (data : Bytes)

/-- A call on a datagram socket. -/
inductive DatagramCall
  | read (timeout : Timeout)
  | write (data : Bytes)

/-- The datagram that a read has got. -/
def DatagramFrame.got : DatagramFrame → Option Packet
  | receiving _ got => got
  | sending _ _ => none

/-- The turn of the loop: is there an attempt left? -/
def DatagramFrame.turn (attempts : Nat) (data : Bytes) : CallPhase DatagramFrame :=
  if attempts = 0 then .returned (.error (.partialWrite 0)) (.sending attempts data)
  else .looking (.sending attempts data)

namespace Datagram

/-- What a call remembers at first. -/
def frame (s : Datagram) : DatagramCall → DatagramFrame
  | .read timeout => .receiving (timeout.deadline s.now) none
  | .write data => .sending s.options.writeAttempts data

/-- The socket with another inbox, flag and clock. -/
def facing (s : Datagram) (inbox : List ReceiveEvent) (flag : CancelFlag) (now : Instant) :
    Datagram :=
  { s with
    inbox := inbox
    flag := flag
    now := now }

/-- The socket with another plan and flag. -/
def planning (s : Datagram) (plan : List SendEvent) (flag : CancelFlag) : Datagram :=
  { s with
    plan := plan
    flag := flag }

/-- The socket with a datagram in its receive buffer. -/
def filled (s : Datagram) (packet : Packet) : Datagram :=
  { s with
    cells := receiveInto s.cells packet.payload
    length_cells := by rw [length_receiveInto]; exact s.length_cells }

/-- How many of a datagram's bytes the receive buffer takes. -/
def fitting (s : Datagram) (packet : Packet) : Nat := min packet.payload.length s.cells.length

/-- The end of a read that receives a datagram. -/
def received (s : Datagram) (deadline : Deadline) (packet : Packet) : CallPhase DatagramFrame :=
  if s.bufferSize < s.fitting packet then
    .returned (.error (.receiveBufferTooSmall s.bufferSize)) (.receiving deadline none)
  else
    .returned (.ok ())
      (.receiving deadline
        (some ⟨(s.filled packet).cells.take (s.fitting packet), packet.sender⟩))

/-- One attempt to receive. -/
def tryReceive (s : Datagram) (deadline : Deadline) : CallPhase DatagramFrame × Datagram :=
  match s.inbox with
  | [] => (.pausing (.receiving deadline none) (.silence deadline), s)
  | event :: rest =>
      match event.reply with
      | .packet packet => (s.received deadline packet, { s.filled packet with inbox := rest })
      | .failed error =>
          (.afterFailure .read deadline event.wait error (.receiving deadline none),
            { s with inbox := rest })

/-- One attempt to send. -/
def trySend (s : Datagram) (attempts : Nat) (data : Bytes) : CallPhase DatagramFrame × Datagram :=
  match s.plan with
  | [] =>
      (.returned (match s.host.sendFault? data.length with
        | none => .ok ()
        | some error => .error (.failed .write error)) (.sending attempts data), s)
  | event :: rest =>
      (match event.reply with
        | .accepted => .returned (.ok ()) (.sending attempts data)
        | .failed error =>
            if error.isWouldBlock || error.isInterrupted then
              DatagramFrame.turn (attempts - 1) data
            else .returned (.error (.failed .write error)) (.sending attempts data),
        { s with plan := rest })

/-- One attempt. -/
def attempt (s : Datagram) : DatagramFrame → CallPhase DatagramFrame × Datagram
  | .receiving deadline _ => s.tryReceive deadline
  | .sending attempts data => s.trySend attempts data

/-- No attempt has to do with the flag. -/
theorem flag_attempt (s : Datagram) (frame : DatagramFrame) :
    (s.attempt frame).2.flag = s.flag := by
  cases frame with
  | receiving deadline got =>
    simp only [attempt, tryReceive]
    split
    · rfl
    · split <;> rfl
  | sending attempts data =>
    simp only [attempt, trySend]
    split <;> rfl

theorem turn_unasked (attempts : Nat) (data : Bytes) (frame' : DatagramFrame) :
    DatagramFrame.turn attempts data ≠ .returned (.error .terminationRequested) frame' := by
  unfold DatagramFrame.turn
  split <;> simp

/-- No attempt ends a call because of cancellation. -/
theorem attempt_unasked (s : Datagram) (frame frame' : DatagramFrame) :
    (s.attempt frame).1 ≠ .returned (.error .terminationRequested) frame' := by
  cases frame with
  | receiving deadline got =>
    simp only [attempt, tryReceive]
    split
    · simp
    · split
      · unfold received
        split <;> simp
      · apply CallPhase.afterFailure_unasked
  | sending attempts data =>
    simp only [attempt, trySend]
    split
    · split <;> simp
    · dsimp only
      split
      · simp
      · split
        · apply turn_unasked
        · simp

end Datagram

/-- Datagram sockets, with reads and writes. -/
def SocketKind.datagram : SocketKind Datagram DatagramCall DatagramFrame where
  flag := Datagram.flag
  request := Datagram.requestCancellation
  clock := Datagram.now
  setClock s now := { s with now := now }
  frame := Datagram.frame
  enter s call := .looking (s.frame call)
  attempt := Datagram.attempt
  Asks _ := True
  request_fst _ := rfl
  flag_request _ := rfl
  flag_setClock _ _ := rfl
  setClock_clock _ := rfl
  flag_attempt := Datagram.flag_attempt
  enter_of_asks _ _ _ := rfl
  enter_unasked _ _ _ := by simp
  attempt_unasked := Datagram.attempt_unasked

/-! ### Reads and writes of the program -/

theorem Datagram.requestIf_eq (s : Datagram) (requested : Bool) :
    SocketKind.datagram.requestIf s requested = { s with flag := s.flag.raiseIf requested } := by
  cases requested with
  | true =>
    simp [SocketKind.requestIf, SocketKind.datagram, requestCancellation, CancelFlag.raiseIf_true]
  | false => simp [SocketKind.requestIf, CancelFlag.raiseIf_false]

open Datagram SocketKind

/-- How a read ends, from the end of its receive loop. -/
def Datagram.EndsWith (s : Datagram) (deadline : Deadline) (last : Datagram)
    (frame : DatagramFrame) (reply : Reply SocketError Unit) :
    Reply SocketError Packet → Prop
  | .ok packet =>
      last = s.filled packet ∧ datagram.Tells last (s.received deadline packet) frame reply
  | .error failure => last = s ∧ frame = .receiving deadline none ∧ reply = .error failure
  | .waiting => last = s ∧ frame = .receiving deadline none ∧ reply = .waiting

theorem tryReceive_of_failed {s : Datagram} {event : ReceiveEvent} {rest : List ReceiveEvent}
    {flag : CancelFlag} {now : Instant} {error : IoError} (failed : event.reply = .failed error)
    {deadline : Deadline} :
    (s.facing (event :: rest) flag now).tryReceive deadline =
      (.afterFailure .read deadline event.wait error (.receiving deadline none),
        s.facing rest flag now) := by
  simp only [tryReceive, facing, failed]

/-- Between two attempts to receive, cancellation may be requested. -/
theorem leads_receive {s : Datagram} {deadline : Deadline} {retry : Bool} {flag : CancelFlag}
    {now : Instant} {inbox : List ReceiveEvent} {phase : CallPhase DatagramFrame}
    {next last : Datagram} {frame : DatagramFrame} {reply : Reply SocketError Unit}
    (requested : Bool) (unnoticed : ¬(flag.raised && !retry) = true)
    (tried : (s.facing inbox (flag.raiseIf requested) now).tryReceive deadline = (phase, next))
    (rest : Leads .datagram next phase last frame reply) :
    Leads .datagram (s.facing inbox flag now)
      (if retry then .attempting (.receiving deadline none)
        else .looking (.receiving deadline none)) last frame reply := by
  refine Leads.attempt requested unnoticed ?_ rest
  rw [requestIf_eq]
  exact tried

/-- The receive loop is a sequence of attempts, looks at the flag and pauses. -/
theorem leads_receiveRun (s : Datagram) (deadline : Deadline) (retry : Bool) (flag : CancelFlag)
    (now : Instant) (inbox : List ReceiveEvent) {last : Datagram} {frame : DatagramFrame}
    {reply : Reply SocketError Unit} :
    (s.facing (receiveRun deadline retry flag now inbox).events
        (receiveRun deadline retry flag now inbox).flag
        (receiveRun deadline retry flag now inbox).now).EndsWith deadline last frame reply
      (receiveRun deadline retry flag now inbox).reply →
    Leads .datagram (s.facing inbox flag now)
      (if retry then .attempting (.receiving deadline none)
        else .looking (.receiving deadline none)) last frame reply := by
  fun_induction receiveRun deadline retry flag now inbox with
  | case1 inbox retry flag now noticed =>
    rintro ⟨rfl, rfl, rfl⟩
    exact .noticed noticed
  | case2 retry flag now unnoticed failure later waited =>
    rintro ⟨rfl, rfl, rfl⟩
    refine leads_receive false unnoticed rfl ?_
    rw [CancelFlag.raiseIf_false]
    exact .silent (s := s.facing [] flag now) waited
  | case3 retry flag now unnoticed nothing later lasts waited =>
    rintro ⟨rfl, rfl, rfl⟩
    rw [waiting_of_awaitNothing waited lasts] at waited
    refine leads_receive false unnoticed rfl ?_
    rw [CancelFlag.raiseIf_false]
    exact .silent (s := s.facing [] flag now) waited
  | case4 retry flag now unnoticed event rest raised packet found =>
    rintro ⟨rfl, tells⟩
    refine leads_receive event.cancels unnoticed ?_ (.done tells)
    simp only [tryReceive, facing, found]
    rfl
  | case5 retry flag now unnoticed event rest raised error failed interrupted ih =>
    intro ends
    exact leads_receive event.cancels unnoticed (tryReceive_of_failed failed)
      (.afterInterruption interrupted (ih ends))
  | case6 retry flag now unnoticed event rest raised error failed interrupted blocked failure later
      waited =>
    rintro ⟨rfl, rfl, rfl⟩
    exact leads_receive event.cancels unnoticed (tryReceive_of_failed failed)
      (.afterFailedWait interrupted blocked waited)
  | case7 retry flag now unnoticed event rest raised error failed interrupted blocked later waited
      ih =>
    intro ends
    exact leads_receive event.cancels unnoticed (tryReceive_of_failed failed)
      (.afterWait interrupted blocked waited (ih ends))
  | case8 retry flag now unnoticed event rest raised error failed interrupted blocked =>
    rintro ⟨rfl, rfl, rfl⟩
    exact leads_receive event.cancels unnoticed (tryReceive_of_failed failed)
      (.afterFinalFailure interrupted blocked)

/-- Between two attempts to send, cancellation may be requested. -/
theorem leads_send {s : Datagram} {attempts : Nat} {flag : CancelFlag} {data : Bytes}
    {plan : List SendEvent} {phase : CallPhase DatagramFrame} {next last : Datagram}
    {frame : DatagramFrame} {reply : Reply SocketError Unit} (requested : Bool)
    (left : attempts ≠ 0) (lowered : ¬flag.raised = true)
    (tried : (s.planning plan (flag.raiseIf requested)).trySend attempts data = (phase, next))
    (rest : Leads .datagram next phase last frame reply) :
    Leads .datagram (s.planning plan flag) (DatagramFrame.turn attempts data) last frame
      reply := by
  rw [DatagramFrame.turn, if_neg left]
  refine Leads.looks requested lowered ?_ rest
  rw [requestIf_eq]
  exact tried

/-- The send loop is a sequence of attempts and looks at the flag. -/
theorem leads_sendRun (s : Datagram) (fault? : Option IoError) (attempts : Nat) (flag : CancelFlag)
    (data : Bytes) (plan : List SendEvent) (fault : s.host.sendFault? data.length = fault?) :
    ∃ frame,
      Leads .datagram (s.planning plan flag) (DatagramFrame.turn attempts data)
        (s.planning (sendRun fault? attempts flag plan).plan
          (sendRun fault? attempts flag plan).flag)
        frame (.ofExcept (sendRun fault? attempts flag plan).reply) := by
  fun_induction sendRun fault? attempts flag plan with
  | case1 plan flag => exact ⟨_, .done rfl⟩
  | case2 plan attempts flag left raised =>
    refine ⟨.sending attempts data, ?_⟩
    rw [DatagramFrame.turn, if_neg left]
    exact Leads.refused raised
  | case3 attempts flag left lowered reachable =>
    refine ⟨.sending attempts data, leads_send false left lowered rfl ?_⟩
    rw [CancelFlag.raiseIf_false]
    refine .done ?_
    simp only [planning, fault, reachable]
    rfl
  | case4 attempts flag left lowered error unreachable =>
    refine ⟨.sending attempts data, leads_send false left lowered rfl ?_⟩
    rw [CancelFlag.raiseIf_false]
    refine .done ?_
    simp only [planning, fault, unreachable]
    rfl
  | case5 attempts flag left lowered event rest raised accepted =>
    refine ⟨.sending attempts data, leads_send event.cancels left lowered ?_ (.done rfl)⟩
    simp only [trySend, planning, accepted]
    rfl
  | case6 attempts flag left lowered event rest raised error failed again ih =>
    obtain ⟨frame, led⟩ := ih
    refine ⟨frame, leads_send event.cancels left lowered ?_ led⟩
    simp only [trySend, planning, failed, if_pos again]
    rfl
  | case7 attempts flag left lowered event rest raised error failed final =>
    refine ⟨.sending attempts data, leads_send event.cancels left lowered ?_ (.done rfl)⟩
    simp only [trySend, planning, failed, if_neg final]
    rfl

namespace Datagram

variable (s : Datagram) (timeout : Timeout)

/-- The receive loop of a read. -/
def hear : ReceiveRun := receiveRun (timeout.deadline s.now) false s.flag s.now s.inbox

/-- The socket behind it. -/
def heard : Datagram :=
  s.facing (s.hear timeout).events (s.hear timeout).flag (s.hear timeout).now

/-- A read of the program is its receive loop, and what follows it. -/
theorem performs_of_endsWith {last : Datagram} {frame : DatagramFrame}
    {reply : Reply SocketError Unit} {outcome : Reply SocketError Packet}
    (found : (s.hear timeout).reply = outcome)
    (ends : (s.heard timeout).EndsWith (timeout.deadline s.now) last frame reply outcome) :
    SocketKind.datagram.Performs s (.read timeout) last frame reply := by
  subst found
  exact Leads.performs (leads_receiveRun s (timeout.deadline s.now) false s.flag s.now s.inbox ends)

theorem read_of_packet {packet : Packet} (found : (s.hear timeout).reply = .ok packet) :
    s.read timeout =
      if s.bufferSize < s.fitting packet then
        (.error (.receiveBufferTooSmall s.bufferSize), (s.heard timeout).filled packet)
      else
        (.ok ⟨(s.filled packet).cells.take (s.fitting packet), packet.sender⟩,
          (s.heard timeout).filled packet) := by
  unfold hear at found
  unfold read
  simp only [found]
  rfl

theorem read_of_error {failure : SocketError} (found : (s.hear timeout).reply = .error failure) :
    s.read timeout = (.error failure, s.heard timeout) := by
  unfold hear at found
  unfold read
  simp only [found]
  rfl

theorem read_of_waiting (found : (s.hear timeout).reply = .waiting) :
    s.read timeout = (.waiting, s.heard timeout) := by
  unfold hear at found
  unfold read
  simp only [found]
  rfl

/-- So a read is such a sequence, and has got the datagram that it hands over. -/
theorem performs_read :
    ∃ frame, SocketKind.datagram.Performs s (.read timeout) (s.read timeout).2 frame
        ((s.read timeout).1.map fun _ => ()) ∧
      ∀ packet, (s.read timeout).1 = .ok packet ↔ frame.got = some packet := by
  cases found : (s.hear timeout).reply with
  | error failure =>
    rw [s.read_of_error timeout found]
    exact ⟨_, s.performs_of_endsWith timeout found ⟨rfl, rfl, rfl⟩, by simp [DatagramFrame.got]⟩
  | waiting =>
    rw [s.read_of_waiting timeout found]
    exact ⟨_, s.performs_of_endsWith timeout found ⟨rfl, rfl, rfl⟩, by simp [DatagramFrame.got]⟩
  | ok packet =>
    rw [s.read_of_packet timeout found]
    by_cases large : s.bufferSize < s.fitting packet
    · rw [if_pos large]
      refine ⟨.receiving (timeout.deadline s.now) none,
        s.performs_of_endsWith timeout found ⟨rfl, ?_⟩, by simp [DatagramFrame.got]⟩
      exact if_pos large
    · rw [if_neg large]
      refine ⟨.receiving (timeout.deadline s.now)
          (some ⟨(s.filled packet).cells.take (s.fitting packet), packet.sender⟩),
        s.performs_of_endsWith timeout found ⟨rfl, ?_⟩, by simp [DatagramFrame.got]⟩
      exact if_neg large

/-- A write of the program is such a sequence. -/
theorem performs_write (data : Bytes) :
    ∃ frame, SocketKind.datagram.Performs s (.write data) (s.write data).2 frame
      (.ofExcept (s.write data).1) := by
  obtain ⟨frame, led⟩ := leads_sendRun s _ s.options.writeAttempts s.flag data s.plan rfl
  refine ⟨frame, Leads.performs ?_⟩
  rw [DatagramFrame.turn, if_neg (Nat.pos_iff_ne_zero.mp s.options.writeAttempts_pos)] at led
  exact led

variable {s}

/-- A read that comes back because of cancellation leaves a cancelled socket. -/
theorem raised_of_read {timeout : Timeout}
    (told : (s.read timeout).1 = .error .terminationRequested) :
    (s.read timeout).2.flag.raised = true := by
  obtain ⟨frame, performed, -⟩ := s.performs_read timeout
  rw [told] at performed
  exact performed.raised

/-- So does a write. -/
theorem raised_of_write {data : Bytes}
    (told : (s.write data).1 = .error .terminationRequested) :
    (s.write data).2.flag.raised = true := by
  obtain ⟨frame, performed⟩ := s.performs_write data
  rw [told] at performed
  exact performed.raised

/-! ### Calls on a cancelled socket -/

section Cancelled

variable (raised : s.flag.raised = true)

include raised

/-- A read fails on the spot, and takes no datagram. -/
theorem read_of_raised (timeout : Timeout) :
    s.read timeout = (.error .terminationRequested, s) := by
  have nothing : s.hear timeout = ⟨.error .terminationRequested, s.inbox, s.flag, s.now⟩ := by
    unfold hear receiveRun
    rw [if_pos (by simp [raised])]
  rw [s.read_of_error timeout (congrArg ReceiveRun.reply nothing), heard, nothing]
  rfl

/-- A write fails on the spot, and sends no datagram. -/
theorem write_of_raised (data : Bytes) :
    s.write data = (.error .terminationRequested, s) := by
  have nothing : sendRun (s.host.sendFault? data.length) s.options.writeAttempts s.flag s.plan =
      ⟨.error .terminationRequested, s.plan, s.flag⟩ := by
    unfold sendRun
    rw [if_neg (Nat.pos_iff_ne_zero.mp s.options.writeAttempts_pos), if_pos raised]
  simp only [write, nothing]

end Cancelled

end Datagram

end SocketDemux
