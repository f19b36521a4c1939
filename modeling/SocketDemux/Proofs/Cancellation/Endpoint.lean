import SocketDemux.Endpoint.Basic
import SocketDemux.Proofs.Cancellation.Alone
/-!
# SocketDemux.Proofs.Cancellation.Endpoint

**Cancellation of an endpoint.** Threads read from one endpoint, write to it, and cancel it.

* `EndpointFrame` — what a read or a write remembers between two attempts.
* `Endpoint.tryRead`, `Endpoint.tryWrite` — one attempt; `SocketKind.endpoint` is the kind of
  socket that they make.
* `leads_readRun`, `leads_writeRun` — the loops of the program are sequences of such attempts,
  looks at the flag and pauses, with cancellation requested wherever an answer of the transport
  says so; `performs_read` and `performs_write` say so of whole calls.
* `read_of_raised`, `write_of_raised` — what a call on a cancelled endpoint comes back with;
  `raised_of_read`, `raised_of_write` — no other endpoint gives this answer.
-/

namespace SocketDemux

/-! ### Reads and writes in steps -/

/-- What a call on an endpoint remembers. -/
inductive EndpointFrame
  /-- A read: the room that is left, the bytes still needed, and those taken. -/
  | reading (deadline : Deadline) (room need : Nat) (taken : Bytes)
  /-- A write: the attempts that are left, the number of bytes written, and the others. -/
  | writing (attempts written : Nat) (data : Bytes)

/-- A call on an endpoint. -/
inductive EndpointCall
  | read (target : Bytes) (need : Nat) (timeout : Timeout)
  | write (data : Bytes) (attempts : Nat)

/-- The calls that read or write at least one byte, if they can. -/
def EndpointCall.Asks : EndpointCall → Prop
  | .read target need _ => 1 ≤ need ∧ need ≤ target.length
  | .write data attempts => data ≠ [] ∧ 1 ≤ attempts

/-- The bytes that a read has taken. -/
def EndpointFrame.taken : EndpointFrame → Bytes
  | reading _ _ _ taken => taken
  | writing .. => []

/-- The turn of the loop: is there something left to do? -/
def EndpointFrame.turn : EndpointFrame → CallPhase EndpointFrame
  | reading deadline room need taken =>
      if need = 0 then .returned (.ok ()) (reading deadline room need taken)
      else .looking (reading deadline room need taken)
  | writing attempts written data =>
      if data = [] then .returned (.ok ()) (writing attempts written data)
      else if attempts = 0 then
        .returned (.error (.partialWrite written)) (writing attempts written data)
      else .looking (writing attempts written data)

namespace Endpoint

/-- What a call remembers at first. -/
def frame (e : Endpoint) : EndpointCall → EndpointFrame
  | .read target need timeout => .reading (timeout.deadline e.now) target.length need []
  | .write data attempts => .writing attempts 0 data

/-- Where a call begins. -/
def enter (e : Endpoint) : EndpointCall → CallPhase EndpointFrame
  | .read target need timeout =>
      if target.length < need then
        .returned (.error needExceedsTarget) (e.frame (.read target need timeout))
      else (e.frame (.read target need timeout)).turn
  | .write data attempts => (e.frame (.write data attempts)).turn

/-- One attempt to read. -/
def tryRead (e : Endpoint) (deadline : Deadline) (room need : Nat) (taken : Bytes) :
    CallPhase EndpointFrame × Endpoint :=
  match e.inbound.events with
  | [] =>
      match e.inbound.ending with
      | .ended => (.returned (.error .closed) (.reading deadline room need taken), e)
      | .quiet => (.pausing (.reading deadline room need taken) (.silence deadline), e)
  | event :: rest =>
      match event.reply with
      | .data bytes =>
          if bytes = [] then
            (.returned (.error .closed) (.reading deadline room need taken),
              { e with inbound := ⟨rest, e.inbound.ending⟩ })
          else if room < bytes.length then
            (.returned (.ok ()) (.reading deadline 0 0 (taken ++ bytes.take room)),
              { e with
                inbound :=
                  ⟨{ event with reply := .data (bytes.drop room) } :: rest, e.inbound.ending⟩ })
          else
            ((EndpointFrame.reading deadline (room - bytes.length) (need - bytes.length)
              (taken ++ bytes)).turn, { e with inbound := ⟨rest, e.inbound.ending⟩ })
      | .failed error =>
          (.afterFailure .read deadline event.wait error (.reading deadline room need taken),
            { e with inbound := ⟨rest, e.inbound.ending⟩ })

/-- One attempt to write. -/
def tryWrite (e : Endpoint) (attempts written : Nat) (data : Bytes) :
    CallPhase EndpointFrame × Endpoint :=
  match e.outbound.plan with
  | [] =>
      match e.outbound.sink with
      | .accepting =>
          (.returned (.ok ()) (.writing attempts written []),
            { e with outbound := ⟨[], e.outbound.sink, e.outbound.accepted ++ data⟩ })
      | .broken =>
          (.returned (.error (.failed .write brokenPipe)) (.writing attempts written data), e)
  | event :: rest =>
      match event.reply with
      | .accept limit =>
          ((EndpointFrame.writing (attempts - 1) (written + min limit data.length)
              (data.drop limit)).turn,
            { e with
              outbound := ⟨rest, e.outbound.sink, e.outbound.accepted ++ data.take limit⟩ })
      | .failed error =>
          (if error.isInterrupted then .attempting (.writing attempts written data)
            else if error.isWouldBlock then
              (EndpointFrame.writing (attempts - 1) written data).turn
            else .returned (.error (.failed .write error)) (.writing attempts written data),
            { e with outbound := ⟨rest, e.outbound.sink, e.outbound.accepted⟩ })

/-- One attempt. -/
def attempt (e : Endpoint) : EndpointFrame → CallPhase EndpointFrame × Endpoint
  | .reading deadline room need taken => e.tryRead deadline room need taken
  | .writing attempts written data => e.tryWrite attempts written data

/-- No attempt has to do with the flag. -/
theorem flag_attempt (e : Endpoint) (frame : EndpointFrame) :
    (e.attempt frame).2.flag = e.flag := by
  cases frame with
  | reading deadline room need taken =>
    simp only [attempt, tryRead]
    split
    · split <;> rfl
    · split
      · split
        · rfl
        · split <;> rfl
      · rfl
  | writing attempts written data =>
    simp only [attempt, tryWrite]
    split
    · split <;> rfl
    · split <;> rfl

end Endpoint

/-- No turn of a loop ends a call because of cancellation. -/
theorem EndpointFrame.turn_unasked (frame frame' : EndpointFrame) :
    frame.turn ≠ .returned (.error .terminationRequested) frame' := by
  cases frame with
  | reading deadline room need taken =>
    simp only [turn]
    split <;> simp
  | writing attempts written data =>
    simp only [turn]
    split
    · simp
    · split <;> simp

namespace Endpoint

theorem enter_unasked (e : Endpoint) (call : EndpointCall) (frame' : EndpointFrame) :
    e.enter call ≠ .returned (.error .terminationRequested) frame' := by
  cases call with
  | read target need timeout =>
    simp only [enter]
    split
    · simp [needExceedsTarget]
    · apply EndpointFrame.turn_unasked
  | write data attempts => exact (e.frame (.write data attempts)).turn_unasked frame'

/-- Nor does an attempt. -/
theorem attempt_unasked (e : Endpoint) (frame frame' : EndpointFrame) :
    (e.attempt frame).1 ≠ .returned (.error .terminationRequested) frame' := by
  cases frame with
  | reading deadline room need taken =>
    simp only [attempt, tryRead]
    split
    · split <;> simp
    · split
      · split
        · simp
        · split
          · simp
          · dsimp only
            apply EndpointFrame.turn_unasked
      · apply CallPhase.afterFailure_unasked
  | writing attempts written data =>
    simp only [attempt, tryWrite]
    split
    · split <;> simp
    · split
      · dsimp only
        apply EndpointFrame.turn_unasked
      · dsimp only
        split
        · simp
        · split
          · apply EndpointFrame.turn_unasked
          · simp

/-- A call that has something to do looks at the flag first. -/
theorem enter_of_asks (e : Endpoint) (call : EndpointCall) (asks : call.Asks) :
    e.enter call = .looking (e.frame call) := by
  cases call with
  | read target need timeout =>
    obtain ⟨some, fits⟩ := asks
    simp only [enter, if_neg (Nat.not_lt.mpr fits), frame, EndpointFrame.turn]
    exact if_neg (Nat.pos_iff_ne_zero.mp some)
  | write data attempts =>
    obtain ⟨present, some⟩ := asks
    simp only [enter, frame, EndpointFrame.turn, if_neg present]
    exact if_neg (Nat.pos_iff_ne_zero.mp some)

end Endpoint

/-- Endpoints, with reads and writes. -/
def SocketKind.endpoint : SocketKind Endpoint EndpointCall EndpointFrame where
  flag := Endpoint.flag
  request := Endpoint.requestCancellation
  clock := Endpoint.now
  setClock e now := { e with now := now }
  frame := Endpoint.frame
  enter := Endpoint.enter
  attempt := Endpoint.attempt
  Asks := EndpointCall.Asks
  request_fst _ := rfl
  flag_request _ := rfl
  flag_setClock _ _ := rfl
  setClock_clock _ := rfl
  flag_attempt := Endpoint.flag_attempt
  enter_of_asks := Endpoint.enter_of_asks
  enter_unasked := Endpoint.enter_unasked
  attempt_unasked := Endpoint.attempt_unasked

/-! ### Reads and writes of the program -/

namespace Endpoint

/-- The endpoint with another stream to come, flag and clock. -/
def facing (e : Endpoint) (ending : Ending) (events : List ReadEvent) (flag : CancelFlag)
    (now : Instant) : Endpoint :=
  { e with
    inbound := ⟨events, ending⟩
    flag := flag
    now := now }

/-- The endpoint with another plan, flag and bytes that are out. -/
def planning (e : Endpoint) (sink : Sink) (plan : List WriteEvent) (accepted : Bytes)
    (flag : CancelFlag) : Endpoint :=
  { e with
    outbound := ⟨plan, sink, accepted⟩
    flag := flag }

theorem requestIf_eq (e : Endpoint) (requested : Bool) :
    SocketKind.endpoint.requestIf e requested = { e with flag := e.flag.raiseIf requested } := by
  cases requested with
  | true =>
    simp [SocketKind.requestIf, SocketKind.endpoint, requestCancellation, CancelFlag.raiseIf_true]
  | false => simp [SocketKind.requestIf, CancelFlag.raiseIf_false]

end Endpoint

open Endpoint SocketKind

theorem tryRead_of_failed {e : Endpoint} {ending : Ending} {event : ReadEvent}
    {rest : List ReadEvent} {flag : CancelFlag} {now : Instant} {error : IoError}
    (failed : event.reply = .failed error) {deadline : Deadline} {room need : Nat}
    {taken : Bytes} :
    (e.facing ending (event :: rest) flag now).tryRead deadline room need taken =
      (.afterFailure .read deadline event.wait error (.reading deadline room need taken),
        e.facing ending rest flag now) := by
  simp only [tryRead, facing, failed]

/-- Between two attempts of a read, cancellation may be requested. -/
theorem leads_readAttempt {e : Endpoint} {ending : Ending} {deadline : Deadline}
    {room need : Nat} {retry : Bool} {flag : CancelFlag} {now : Instant} {events : List ReadEvent}
    {taken : Bytes} {phase : CallPhase EndpointFrame} {next last : Endpoint} {frame : EndpointFrame}
    {reply : Reply SocketError Unit} (requested : Bool) (some : need ≠ 0)
    (unnoticed : ¬(flag.raised && !retry) = true)
    (tried : (e.facing ending events (flag.raiseIf requested) now).tryRead deadline room need
      taken = (phase, next))
    (rest : Leads .endpoint next phase last frame reply) :
    Leads .endpoint (e.facing ending events flag now)
      (if retry then .attempting (.reading deadline room need taken)
        else (EndpointFrame.reading deadline room need taken).turn) last frame reply := by
  rw [EndpointFrame.turn, if_neg some]
  refine Leads.attempt requested unnoticed ?_ rest
  rw [requestIf_eq]
  exact tried

/-- A run of the read loop is a sequence of attempts, looks at the flag and pauses. -/
theorem leads_readRun (e : Endpoint) (ending : Ending) (deadline : Deadline) (room need : Nat)
    (retry : Bool) (flag : CancelFlag) (now : Instant) (events : List ReadEvent)
    (pending : retry = true → need ≠ 0) :
    ∀ taken, ∃ frame,
      Leads .endpoint (e.facing ending events flag now)
        (if retry then .attempting (.reading deadline room need taken)
          else (EndpointFrame.reading deadline room need taken).turn)
        (e.facing ending (readRun ending deadline room need retry flag now events).events
          (readRun ending deadline room need retry flag now events).flag
          (readRun ending deadline room need retry flag now events).now)
        frame (readRun ending deadline room need retry flag now events).reply ∧
      frame.taken =
        taken ++ (readRun ending deadline room need retry flag now events).taken := by
  fun_induction readRun ending deadline room need retry flag now events with
  | case1 events room retry flag now =>
    intro taken
    cases retry with
    | true => exact absurd rfl (pending rfl)
    | false => exact ⟨_, .done rfl, (List.append_nil taken).symm⟩
  | case2 events room need retry flag now some noticed =>
    intro taken
    refine ⟨.reading deadline room need taken, ?_, (List.append_nil taken).symm⟩
    rw [EndpointFrame.turn, if_neg some]
    exact .noticed noticed
  | case3 room need retry flag now some unnoticed ended =>
    intro taken
    subst ended
    refine ⟨.reading deadline room need taken,
      leads_readAttempt false some unnoticed rfl ?_, (List.append_nil taken).symm⟩
    rw [CancelFlag.raiseIf_false]
    exact .done rfl
  | case4 room need retry flag now some unnoticed quiet =>
    intro taken
    subst quiet
    refine ⟨.reading deadline room need taken,
      leads_readAttempt false some unnoticed rfl ?_, (List.append_nil taken).symm⟩
    rw [CancelFlag.raiseIf_false]
    exact .silent (s := e.facing .quiet [] flag now) rfl
  | case5 room need retry flag now some unnoticed event rest raised empty =>
    intro taken
    refine ⟨.reading deadline room need taken,
      leads_readAttempt event.cancels some unnoticed ?_ (.done rfl), (List.append_nil taken).symm⟩
    simp only [facing, tryRead, empty, if_true]
    rfl
  | case6 room need retry flag now some unnoticed event rest raised bytes data present full =>
    intro taken
    refine ⟨.reading deadline 0 0 (taken ++ bytes.take room),
      leads_readAttempt event.cancels some unnoticed ?_ (.done rfl), rfl⟩
    simp only [facing, tryRead, data, if_neg present, if_pos full]
    rfl
  | case7 room need retry flag now some unnoticed event rest raised bytes data present fits ih =>
    intro taken
    obtain ⟨frame, led, took⟩ := ih (by simp) (taken ++ bytes)
    refine ⟨frame, leads_readAttempt event.cancels some unnoticed ?_ led, ?_⟩
    · simp only [facing, tryRead, data, if_neg present, if_neg fits]
      rfl
    · rw [took, List.append_assoc]
      rfl
  | case8 room need retry flag now some unnoticed event rest raised error failed interrupted ih =>
    intro taken
    obtain ⟨frame, led, took⟩ := ih (fun _ => some) taken
    exact ⟨frame, leads_readAttempt event.cancels some unnoticed (tryRead_of_failed failed)
      (.afterInterruption interrupted led), took⟩
  | case9 room need retry flag now some unnoticed event rest raised error failed interrupted
      blocked failure later waited =>
    intro taken
    exact ⟨.reading deadline room need taken, leads_readAttempt event.cancels some unnoticed
      (tryRead_of_failed failed) (.afterFailedWait interrupted blocked waited),
      (List.append_nil taken).symm⟩
  | case10 room need retry flag now some unnoticed event rest raised error failed interrupted
      blocked later waited ih =>
    intro taken
    obtain ⟨frame, led, took⟩ := ih (by simp) taken
    rw [EndpointFrame.turn, if_neg some] at led
    exact ⟨frame, leads_readAttempt event.cancels some unnoticed (tryRead_of_failed failed)
      (.afterWait interrupted blocked waited led), took⟩
  | case11 room need retry flag now some unnoticed event rest raised error failed interrupted
      blocked =>
    intro taken
    exact ⟨.reading deadline room need taken, leads_readAttempt event.cancels some unnoticed
      (tryRead_of_failed failed) (.afterFinalFailure interrupted blocked),
      (List.append_nil taken).symm⟩

/-- Between two attempts of a write, cancellation may be requested. -/
theorem leads_writeAttempt {e : Endpoint} {sink : Sink} {attempts written : Nat}
    {retry : Bool} {flag : CancelFlag} {data : Bytes} {plan : List WriteEvent}
    {accepted : Bytes} {phase : CallPhase EndpointFrame} {next last : Endpoint}
    {frame : EndpointFrame} {reply : Reply SocketError Unit} (requested : Bool) (some : data ≠ [])
    (left : attempts ≠ 0) (unnoticed : ¬(flag.raised && !retry) = true)
    (tried : (e.planning sink plan accepted (flag.raiseIf requested)).tryWrite attempts written
      data = (phase, next))
    (rest : Leads .endpoint next phase last frame reply) :
    Leads .endpoint (e.planning sink plan accepted flag)
      (if retry then .attempting (.writing attempts written data)
        else (EndpointFrame.writing attempts written data).turn) last frame reply := by
  rw [EndpointFrame.turn, if_neg some, if_neg left]
  refine Leads.attempt requested unnoticed ?_ rest
  rw [requestIf_eq]
  exact tried

/-- A run of the write loop is a sequence of attempts and looks at the flag. -/
theorem leads_writeRun (e : Endpoint) (sink : Sink) (attempts written : Nat) (retry : Bool)
    (flag : CancelFlag) (data : Bytes) (plan : List WriteEvent)
    (pending : retry = true → data ≠ [] ∧ attempts ≠ 0) :
    ∀ accepted, ∃ frame,
      Leads .endpoint (e.planning sink plan accepted flag)
        (if retry then .attempting (.writing attempts written data)
          else (EndpointFrame.writing attempts written data).turn)
        (e.planning sink (writeRun sink attempts written retry flag data plan).plan
          (accepted ++ (writeRun sink attempts written retry flag data plan).sent)
          (writeRun sink attempts written retry flag data plan).flag)
        frame (.ofExcept (writeRun sink attempts written retry flag data plan).reply) := by
  fun_induction writeRun sink attempts written retry flag data plan with
  | case1 plan attempts written retry flag =>
    intro accepted
    cases retry with
    | true => exact absurd rfl (pending rfl).1
    | false =>
      rw [List.append_nil]
      exact ⟨_, .done rfl⟩
  | case2 plan written retry flag data some =>
    intro accepted
    cases retry with
    | true => exact absurd rfl (pending rfl).2
    | false =>
      refine ⟨.writing 0 written data, ?_⟩
      rw [List.append_nil, EndpointFrame.turn, if_neg some]
      exact .done rfl
  | case3 plan attempts written retry flag data some left noticed =>
    intro accepted
    refine ⟨.writing attempts written data, ?_⟩
    rw [List.append_nil, EndpointFrame.turn, if_neg some, if_neg left]
    exact .noticed noticed
  | case4 attempts written retry flag data some left unnoticed accepting =>
    intro accepted
    subst accepting
    refine ⟨.writing attempts written [], leads_writeAttempt false some left unnoticed rfl ?_⟩
    rw [CancelFlag.raiseIf_false]
    exact .done rfl
  | case5 attempts written retry flag data some left unnoticed broken =>
    intro accepted
    subst broken
    refine ⟨.writing attempts written data, leads_writeAttempt false some left unnoticed rfl ?_⟩
    rw [CancelFlag.raiseIf_false, List.append_nil]
    exact .done rfl
  | case6 attempts written retry flag data some left unnoticed event rest raised limit accepts ih =>
    intro accepted
    obtain ⟨frame, led⟩ := ih (by simp) (accepted ++ data.take limit)
    rw [List.append_assoc] at led
    refine ⟨frame, leads_writeAttempt event.cancels some left unnoticed ?_ led⟩
    simp only [planning, tryWrite, accepts]
    rfl
  | case7 attempts written retry flag data some left unnoticed event rest raised error failed
      interrupted ih =>
    intro accepted
    obtain ⟨frame, led⟩ := ih (fun _ => ⟨some, left⟩) accepted
    refine ⟨frame, leads_writeAttempt event.cancels some left unnoticed ?_ led⟩
    simp only [planning, tryWrite, failed, if_pos interrupted]
    rfl
  | case8 attempts written retry flag data some left unnoticed event rest raised error failed
      interrupted blocked ih =>
    intro accepted
    obtain ⟨frame, led⟩ := ih (by simp) accepted
    refine ⟨frame, leads_writeAttempt event.cancels some left unnoticed ?_ led⟩
    simp only [planning, tryWrite, failed, if_neg interrupted, if_pos blocked]
    rfl
  | case9 attempts written retry flag data some left unnoticed event rest raised error failed
      interrupted blocked =>
    intro accepted
    refine ⟨.writing attempts written data,
      leads_writeAttempt event.cancels some left unnoticed ?_ (.done rfl)⟩
    rw [List.append_nil]
    simp only [planning, tryWrite, failed, if_neg interrupted, if_neg blocked]
    rfl

namespace Endpoint

variable (e : Endpoint)

/-- A read of the program is such a sequence. -/
theorem performs_read (target : Bytes) (need : Nat) (timeout : Timeout) :
    ∃ frame, SocketKind.endpoint.Performs e (.read target need timeout)
        (e.read target need timeout).endpoint frame
        ((e.read target need timeout).reply.map fun _ => ()) ∧
      frame.taken = (e.read target need timeout).taken := by
  by_cases short : target.length < need
  · refine ⟨e.frame (.read target need timeout), Leads.performs ?_, ?_⟩
    · simp only [SocketKind.endpoint, enter, read, readBy, if_pos short]
      exact .done rfl
    · simp only [read, readBy, if_pos short]
      rfl
  · obtain ⟨frame, led, took⟩ := leads_readRun e e.inbound.ending (timeout.deadline e.now)
      target.length need false e.flag e.now e.inbound.events (by simp) []
    refine ⟨frame, Leads.performs ?_, ?_⟩
    · simp only [SocketKind.endpoint, enter, read, readBy, if_neg short, Reply.map_const_unit]
      exact led
    · simp only [read, readBy, if_neg short]
      exact took

/-- So is a write. -/
theorem performs_write (data : Bytes) (attempts : Nat) :
    ∃ frame, SocketKind.endpoint.Performs e (.write data attempts)
      (e.write data attempts).endpoint frame (.ofExcept (e.write data attempts).reply) := by
  obtain ⟨frame, led⟩ := leads_writeRun e e.outbound.sink attempts 0 false e.flag data
    e.outbound.plan (by simp) e.outbound.accepted
  exact ⟨frame, Leads.performs led⟩

/-- A read that comes back because of cancellation leaves a cancelled endpoint. -/
theorem raised_of_read {e : Endpoint} {target : Bytes} {need : Nat} {timeout : Timeout}
    (told : (e.read target need timeout).reply = .error .terminationRequested) :
    (e.read target need timeout).endpoint.flag.raised = true := by
  obtain ⟨frame, performed, -⟩ := e.performs_read target need timeout
  rw [told] at performed
  exact performed.raised

/-- So does a write. -/
theorem raised_of_write {e : Endpoint} {data : Bytes} {attempts : Nat}
    (told : (e.write data attempts).reply = .error .terminationRequested) :
    (e.write data attempts).endpoint.flag.raised = true := by
  obtain ⟨frame, performed⟩ := e.performs_write data attempts
  rw [told] at performed
  exact performed.raised

/-! ### Calls on a cancelled endpoint -/

section Cancelled

variable {e} (raised : e.flag.raised = true)

include raised

/-- A read fails on the spot, and takes nothing. -/
theorem read_of_raised {target : Bytes} {need : Nat} (some : 1 ≤ need)
    (fits : need ≤ target.length) (timeout : Timeout) :
    e.read target need timeout = ⟨.error .terminationRequested, target, [], [], e⟩ := by
  have nothing : ∀ deadline, readRun e.inbound.ending deadline target.length need false e.flag e.now
      e.inbound.events =
        ⟨.error .terminationRequested, [], [], e.inbound.events, e.flag, e.now⟩ := by
    intro deadline
    unfold readRun
    rw [if_neg (Nat.pos_iff_ne_zero.mp some), if_pos (by simp [raised])]
  simp only [read, readBy, if_neg (Nat.not_lt.mpr fits), nothing, overwrite_nil]
  rfl

/-- A write fails on the spot, and sends nothing. -/
theorem write_of_raised {data : Bytes} {attempts : Nat} (some : data ≠ []) (left : 1 ≤ attempts) :
    e.write data attempts = ⟨.error .terminationRequested, [], [], e⟩ := by
  have nothing : writeRun e.outbound.sink attempts 0 false e.flag data e.outbound.plan =
      ⟨.error .terminationRequested, [], [], e.outbound.plan, e.flag⟩ := by
    unfold writeRun
    rw [if_neg some, if_neg (Nat.pos_iff_ne_zero.mp left), if_pos (by simp [raised])]
  simp only [write, nothing, List.append_nil]

end Cancelled

end Endpoint

end SocketDemux
