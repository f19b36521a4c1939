import SocketDemux.Proofs.Cancellation.Alone
import SocketDemux.Proofs.Listener.Accepting
/-!
# SocketDemux.Proofs.Cancellation.Listener

**Cancellation of a listener.** Threads wait for connections on one listener, drive the
handshakes of those that they take, and cancel the listener.

* `AcceptFrame` — what a call of `accept` remembers: it looks for a connection, or it holds one.
* `Listener.trySearch`, `Listener.tryShake` — one look for a connection, and one step of a
  handshake; `SocketKind.listener` is the kind of socket that they make.
* `leads_acceptRun`, `leads_handshakeRun` — the loops of the program are sequences of such
  attempts; `performs_accept` says so of a whole call.
* `accept_of_raised` — what a call on a cancelled listener comes back with; `raised_of_accept` —
  no other listener gives this answer.
-/

namespace SocketDemux

variable {γ : Type}

/-! ### Calls in steps -/

/-- A call of `accept`. -/
structure AcceptCall (γ : Type) where
  session : γ → Except IoError HandshakeScript
  timeout : Timeout

/-- What a call of `accept` remembers. -/
inductive AcceptFrame (γ : Type)
  /-- It has no connection yet. -/
  | searching (session : γ → Except IoError HandshakeScript) (deadline : Deadline)
  /-- It has taken a connection; these steps of its handshake are to come. -/
  | holding (connection : γ) (deadline : Deadline) (script : HandshakeScript)

/-- The connection that a call has taken. -/
def AcceptFrame.taken : AcceptFrame γ → Option γ
  | searching _ _ => none
  | holding connection _ _ => some connection

namespace Listener

/-- How a call goes on that has just taken a connection. -/
def received (l : Listener γ) (session : γ → Except IoError HandshakeScript)
    (deadline : Deadline) (connection : γ) : CallPhase (AcceptFrame γ) :=
  if l.secure then
    match session connection with
    | .error e => .returned (.error (.failed .handshake e)) (.holding connection deadline {})
    | .ok script => .attempting (.holding connection deadline script)
  else .returned (.ok ()) (.holding connection deadline {})

theorem received_of_error {l : Listener γ} {session : γ → Except IoError HandshakeScript}
    {connection : γ} {e : IoError} (secure : l.secure = true)
    (refuses : session connection = .error e) (deadline : Deadline) :
    l.received session deadline connection =
      .returned (.error (.failed .handshake e)) (.holding connection deadline {}) := by
  simp only [received, secure, if_true, refuses]

theorem received_of_ok {l : Listener γ} {session : γ → Except IoError HandshakeScript}
    {connection : γ} {script : HandshakeScript} (secure : l.secure = true)
    (made : session connection = .ok script) (deadline : Deadline) :
    l.received session deadline connection =
      .attempting (.holding connection deadline script) := by
  simp only [received, secure, if_true, made]

theorem received_of_plain {l : Listener γ} (plain : ¬l.secure = true)
    (session : γ → Except IoError HandshakeScript) (deadline : Deadline) (connection : γ) :
    l.received session deadline connection =
      .returned (.ok ()) (.holding connection deadline {}) :=
  if_neg plain

/-- One look for a connection. -/
def trySearch (l : Listener γ) (session : γ → Except IoError HandshakeScript)
    (deadline : Deadline) : CallPhase (AcceptFrame γ) × Listener γ :=
  match l.incoming with
  | [] => (.pausing (.searching session deadline) (.silence deadline), l)
  | event :: rest =>
      match event.reply with
      | .connection connection =>
          (l.received session deadline connection, { l with incoming := rest })
      | .failed error =>
          (.afterFailure .accept deadline event.wait error (.searching session deadline),
            { l with incoming := rest })

/-- One step of a handshake. -/
def tryShake (l : Listener γ) (connection : γ) (deadline : Deadline) (script : HandshakeScript) :
    CallPhase (AcceptFrame γ) :=
  match script.steps with
  | [] =>
      match script.ending with
      | .done => .returned (.ok ()) (.holding connection deadline script)
      | .stalled =>
          if deadline.expired l.now then
            .returned (.error handshakeTimedOut) (.holding connection deadline script)
          else .pausing (.holding connection deadline script) (.stall deadline)
  | step :: rest =>
      match step.reply with
      | .done => .returned (.ok ()) (.holding connection deadline ⟨rest, script.ending⟩)
      | .failed e =>
          .returned (.error (.failed .handshake e))
            (.holding connection deadline ⟨rest, script.ending⟩)
      | .wouldBlock =>
          if deadline.expired l.now then
            .returned (.error handshakeTimedOut)
              (.holding connection deadline ⟨rest, script.ending⟩)
          else
            .pausing (.holding connection deadline ⟨rest, script.ending⟩)
              (.between deadline l.options.handshakeInterval step.pause)

/-- One attempt. -/
def attempt (l : Listener γ) : AcceptFrame γ → CallPhase (AcceptFrame γ) × Listener γ
  | .searching session deadline => l.trySearch session deadline
  | .holding connection deadline script => (l.tryShake connection deadline script, l)

/-- What a call remembers at first. -/
def frame (l : Listener γ) (call : AcceptCall γ) : AcceptFrame γ :=
  .searching call.session (call.timeout.deadline l.now)

/-- No attempt has to do with the flag. -/
theorem flag_attempt (l : Listener γ) (frame : AcceptFrame γ) :
    (l.attempt frame).2.flag = l.flag := by
  cases frame with
  | searching session deadline =>
    simp only [attempt, trySearch]
    split
    · rfl
    · split <;> rfl
  | holding connection deadline script => rfl

theorem received_unasked (l : Listener γ) (session : γ → Except IoError HandshakeScript)
    (deadline : Deadline) (connection : γ) (frame' : AcceptFrame γ) :
    l.received session deadline connection ≠ .returned (.error .terminationRequested) frame' := by
  unfold received
  split
  · split <;> simp
  · simp

theorem tryShake_unasked (l : Listener γ) (connection : γ) (deadline : Deadline)
    (script : HandshakeScript) (frame' : AcceptFrame γ) :
    l.tryShake connection deadline script ≠ .returned (.error .terminationRequested) frame' := by
  unfold tryShake
  split
  · split
    · simp
    · split <;> simp [handshakeTimedOut]
  · split
    · simp
    · simp
    · split <;> simp [handshakeTimedOut]

/-- No attempt ends a call because of cancellation. -/
theorem attempt_unasked (l : Listener γ) (frame frame' : AcceptFrame γ) :
    (l.attempt frame).1 ≠ .returned (.error .terminationRequested) frame' := by
  cases frame with
  | searching session deadline =>
    simp only [attempt, trySearch]
    split
    · simp
    · split
      · apply received_unasked
      · apply CallPhase.afterFailure_unasked
  | holding connection deadline script => exact l.tryShake_unasked connection deadline script frame'

end Listener

/-- Listeners, with calls of `accept`. -/
def SocketKind.listener (γ : Type) : SocketKind (Listener γ) (AcceptCall γ) (AcceptFrame γ) where
  flag := Listener.flag
  request := Listener.stopAccepting
  clock := Listener.now
  setClock l now := { l with now := now }
  frame := Listener.frame
  enter l call := .looking (l.frame call)
  attempt := Listener.attempt
  Asks _ := True
  request_fst _ := rfl
  flag_request _ := rfl
  flag_setClock _ _ := rfl
  setClock_clock _ := rfl
  flag_attempt := Listener.flag_attempt
  enter_of_asks _ _ _ := rfl
  enter_unasked _ _ _ := by simp
  attempt_unasked := Listener.attempt_unasked

/-! ### Calls of the program -/

namespace Listener

/-- The listener with other connections to come, flag and clock. -/
def facing (l : Listener γ) (incoming : List (AcceptEvent γ)) (flag : CancelFlag)
    (now : Instant) : Listener γ :=
  { l with
    incoming := incoming
    flag := flag
    now := now }

theorem requestIf_eq (l : Listener γ) (requested : Bool) :
    (SocketKind.listener γ).requestIf l requested =
      { l with flag := l.flag.raiseIf requested } := by
  cases requested with
  | true => simp [SocketKind.requestIf, SocketKind.listener, stopAccepting, CancelFlag.raiseIf_true]
  | false => simp [SocketKind.requestIf, CancelFlag.raiseIf_false]

end Listener

open Listener SocketKind

/-- During a step of a handshake, cancellation may be requested. -/
theorem leads_step {l last : Listener γ} {incoming : List (AcceptEvent γ)} {flag : CancelFlag}
    {now : Instant} {connection : γ} {deadline : Deadline} {script : HandshakeScript}
    {phase : CallPhase (AcceptFrame γ)} {frame : AcceptFrame γ} {reply : Reply SocketError Unit}
    (requested : Bool)
    (tried : (l.facing incoming (flag.raiseIf requested) now).tryShake connection deadline script =
      phase)
    (rest : (listener γ).Leads (l.facing incoming (flag.raiseIf requested) now) phase last frame
      reply) :
    (listener γ).Leads (l.facing incoming flag now)
      (.attempting (.holding connection deadline script)) last frame reply := by
  refine Leads.tries requested ?_ rest
  rw [requestIf_eq, ← tried]
  rfl

/-- A handshake is a sequence of steps and pauses. -/
theorem leads_handshakeRun (l : Listener γ) (incoming : List (AcceptEvent γ)) (connection : γ)
    (ending : HandshakeEnding) (deadline : Deadline) (flag : CancelFlag) (now : Instant)
    (steps : List HandshakeEvent) :
    (listener γ).Leads (l.facing incoming flag now)
      (.attempting (.holding connection deadline ⟨steps, ending⟩))
      (l.facing incoming
        (handshakeRun ending deadline l.options.handshakeInterval flag now steps).flag
        (handshakeRun ending deadline l.options.handshakeInterval flag now steps).now)
      (.holding connection deadline
        (handshakeRun ending deadline l.options.handshakeInterval flag now steps).rest)
      (handshakeRun ending deadline l.options.handshakeInterval flag now steps).reply := by
  fun_induction handshakeRun ending deadline l.options.handshakeInterval flag now steps with
  | case1 flag now done =>
    subst done
    refine leads_step false rfl ?_
    rw [CancelFlag.raiseIf_false]
    exact .done rfl
  | case2 flag now stalled =>
    subst stalled
    cases expired : deadline.expired now with
    | true =>
      have tried : (l.facing incoming (flag.raiseIf false) now).tryShake connection deadline
          ⟨[], .stalled⟩ =
            .returned (.error handshakeTimedOut) (.holding connection deadline ⟨[], .stalled⟩) := by
        simp [tryShake, facing, expired]
      refine leads_step false tried ?_
      rw [CancelFlag.raiseIf_false]
      simp only [stallHandshake, expired, if_true]
      exact .done rfl
    | false =>
      have tried : (l.facing incoming (flag.raiseIf false) now).tryShake connection deadline
          ⟨[], .stalled⟩ =
            .pausing (.holding connection deadline ⟨[], .stalled⟩) (.stall deadline) := by
        simp [tryShake, facing, expired]
      have ends : (Pause.stall deadline).finish flag now = stallHandshake flag deadline now := by
        unfold stallHandshake
        rw [expired]
        rfl
      refine leads_step false tried ?_
      rw [CancelFlag.raiseIf_false]
      exact Leads.unfinished (s := l.facing incoming flag now) _ ends (stallHandshake_ne_ok _ _ _)
  | case3 flag now step rest raised done =>
    refine leads_step step.cancels ?_ (.done rfl)
    simp only [tryShake, done]
  | case4 flag now step rest raised error failed =>
    refine leads_step step.cancels ?_ (.done rfl)
    simp only [tryShake, failed]
  | case5 flag now step rest raised blocked expired =>
    refine leads_step step.cancels ?_ (.done rfl)
    simp [tryShake, facing, blocked, expired]
  | case6 flag now step rest raised blocked inTime failure later paused =>
    have tried : (l.facing incoming raised now).tryShake connection deadline
        ⟨step :: rest, ending⟩ =
          .pausing (.holding connection deadline ⟨rest, ending⟩)
            (.between deadline l.options.handshakeInterval step.pause) := by
      simp [tryShake, facing, blocked, inTime]
    refine leads_step step.cancels tried ?_
    exact Leads.unfinished (s := l.facing incoming raised now) _ (Pause.finish_between paused)
      (by simp)
  | case7 flag now step rest raised blocked inTime later paused ih =>
    have tried : (l.facing incoming raised now).tryShake connection deadline
        ⟨step :: rest, ending⟩ =
          .pausing (.holding connection deadline ⟨rest, ending⟩)
            (.between deadline l.options.handshakeInterval step.pause) := by
      simp [tryShake, facing, blocked, inTime]
    refine leads_step step.cancels tried ?_
    exact Leads.resumed (s := l.facing incoming raised now) (Pause.finish_between paused) ih

/-- Where a call goes on from the end of its search. -/
def Listener.GoesOn (l : Listener γ) (session : γ → Except IoError HandshakeScript)
    (deadline : Deadline) (last : Listener γ) (frame : AcceptFrame γ)
    (reply : Reply SocketError Unit) (found : Reply SocketError γ) : Prop :=
  match found with
  | .ok connection =>
      (listener γ).Leads l (l.received session deadline connection) last frame reply
  | .error failure => last = l ∧ frame = .searching session deadline ∧ reply = .error failure
  | .waiting => last = l ∧ frame = .searching session deadline ∧ reply = .waiting

theorem trySearch_of_failed {l : Listener γ} {event : AcceptEvent γ} {rest : List (AcceptEvent γ)}
    {flag : CancelFlag} {now : Instant} {error : IoError} (failed : event.reply = .failed error)
    {session : γ → Except IoError HandshakeScript} {deadline : Deadline} :
    (l.facing (event :: rest) flag now).trySearch session deadline =
      (.afterFailure .accept deadline event.wait error (.searching session deadline),
        l.facing rest flag now) := by
  simp only [trySearch, facing, failed]

/-- Between two looks for a connection, cancellation may be requested. -/
theorem leads_look {l : Listener γ} {session : γ → Except IoError HandshakeScript}
    {deadline : Deadline} {retry : Bool} {flag : CancelFlag} {now : Instant}
    {incoming : List (AcceptEvent γ)} {phase : CallPhase (AcceptFrame γ)} {next last : Listener γ}
    {frame : AcceptFrame γ} {reply : Reply SocketError Unit} (requested : Bool)
    (unnoticed : ¬(flag.raised && !retry) = true)
    (tried : (l.facing incoming (flag.raiseIf requested) now).trySearch session deadline =
      (phase, next))
    (rest : (listener γ).Leads next phase last frame reply) :
    (listener γ).Leads (l.facing incoming flag now)
      (if retry then .attempting (.searching session deadline)
        else .looking (.searching session deadline)) last frame reply := by
  refine Leads.attempt requested unnoticed ?_ rest
  rw [requestIf_eq]
  exact tried

/-- The search for a connection is a sequence of looks for it, looks at the flag and pauses. -/
theorem leads_acceptRun (l : Listener γ) (session : γ → Except IoError HandshakeScript)
    (deadline : Deadline) (retry : Bool) (flag : CancelFlag) (now : Instant)
    (incoming : List (AcceptEvent γ)) {last : Listener γ} {frame : AcceptFrame γ}
    {reply : Reply SocketError Unit} :
    (l.facing (acceptRun deadline retry flag now incoming).incoming
        (acceptRun deadline retry flag now incoming).flag
        (acceptRun deadline retry flag now incoming).now).GoesOn session deadline last frame reply
      (acceptRun deadline retry flag now incoming).reply →
    (listener γ).Leads (l.facing incoming flag now)
      (if retry then .attempting (.searching session deadline)
        else .looking (.searching session deadline)) last frame reply := by
  fun_induction acceptRun deadline retry flag now incoming with
  | case1 incoming retry flag now noticed =>
    rintro ⟨rfl, rfl, rfl⟩
    exact .noticed noticed
  | case2 retry flag now unnoticed failure later waited =>
    rintro ⟨rfl, rfl, rfl⟩
    refine leads_look false unnoticed rfl ?_
    rw [CancelFlag.raiseIf_false]
    exact .silent (s := l.facing [] flag now) waited
  | case3 retry flag now unnoticed nothing later lasts waited =>
    rintro ⟨rfl, rfl, rfl⟩
    rw [waiting_of_awaitNothing waited lasts] at waited
    refine leads_look false unnoticed rfl ?_
    rw [CancelFlag.raiseIf_false]
    exact .silent (s := l.facing [] flag now) waited
  | case4 retry flag now unnoticed event rest raised connection found =>
    intro goes
    refine leads_look event.cancels unnoticed ?_ goes
    simp only [trySearch, facing, found]
    rfl
  | case5 retry flag now unnoticed event rest raised error failed interrupted ih =>
    intro goes
    exact leads_look event.cancels unnoticed (trySearch_of_failed failed)
      (.afterInterruption interrupted (ih goes))
  | case6 retry flag now unnoticed event rest raised error failed interrupted blocked failure later
      waited =>
    rintro ⟨rfl, rfl, rfl⟩
    exact leads_look event.cancels unnoticed (trySearch_of_failed failed)
      (.afterFailedWait interrupted blocked waited)
  | case7 retry flag now unnoticed event rest raised error failed interrupted blocked later waited
      ih =>
    intro goes
    exact leads_look event.cancels unnoticed (trySearch_of_failed failed)
      (.afterWait interrupted blocked waited (ih goes))
  | case8 retry flag now unnoticed event rest raised error failed interrupted blocked =>
    rintro ⟨rfl, rfl, rfl⟩
    exact leads_look event.cancels unnoticed (trySearch_of_failed failed)
      (.afterFinalFailure interrupted blocked)

namespace Listener

variable (l : Listener γ) (session : γ → Except IoError HandshakeScript) (timeout : Timeout)

/-- A call of the program is a search, and what follows it. -/
theorem performs_of_goesOn {last : Listener γ} {frame : AcceptFrame γ}
    {reply : Reply SocketError Unit} {found : Reply SocketError γ}
    (searched : (l.search timeout).reply = found)
    (goes : (l.searched timeout).GoesOn session (timeout.deadline l.now) last frame reply found) :
    (SocketKind.listener γ).Performs l ⟨session, timeout⟩ last frame reply := by
  subst searched
  exact Leads.performs (leads_acceptRun l session (timeout.deadline l.now) false l.flag l.now
    l.incoming goes)

/-- So a call of the program is a sequence of attempts, looks at the flag and pauses. -/
theorem performs_accept :
    ∃ frame, (SocketKind.listener γ).Performs l ⟨session, timeout⟩
        (l.accept session timeout).listener frame
        ((l.accept session timeout).reply.map fun _ => ()) ∧
      frame.taken = (l.accept session timeout).taken := by
  cases found : (l.search timeout).reply with
  | error failure =>
    rw [l.accept_of_error session timeout found]
    exact ⟨_, l.performs_of_goesOn session timeout found ⟨rfl, rfl, rfl⟩, rfl⟩
  | waiting =>
    rw [l.accept_of_waiting session timeout found]
    exact ⟨_, l.performs_of_goesOn session timeout found ⟨rfl, rfl, rfl⟩, rfl⟩
  | ok connection =>
    rw [l.accept_of_ok session timeout found]
    by_cases secure : l.secure = true
    · rw [if_pos secure]
      cases made : session connection with
      | error e =>
        refine ⟨.holding connection (timeout.deadline l.now) {},
          l.performs_of_goesOn session timeout found (.done ?_), rfl⟩
        rw [received_of_error (l := l.searched timeout) secure made]
        rfl
      | ok script =>
        refine ⟨.holding connection (timeout.deadline l.now) (l.shake timeout script).rest,
          l.performs_of_goesOn session timeout found ?_, rfl⟩
        have shaken := leads_handshakeRun l (l.search timeout).incoming connection script.ending
          (timeout.deadline l.now) (l.search timeout).flag (l.search timeout).now script.steps
        simp only [GoesOn, Reply.map_const_unit]
        rw [received_of_ok (l := l.searched timeout) secure made]
        exact shaken
    · rw [if_neg secure]
      refine ⟨.holding connection (timeout.deadline l.now) {},
        l.performs_of_goesOn session timeout found (.done ?_), rfl⟩
      rw [received_of_plain (l := l.searched timeout) secure]
      rfl

/-- Once the flag is up, a call fails on the spot, and takes nothing. -/
theorem accept_of_raised (raised : l.flag.raised = true) :
    l.accept session timeout = { reply := .error .terminationRequested, listener := l } := by
  unfold accept
  simp only [acceptRun_of_raised raised]

/-- A call that comes back because of cancellation leaves a cancelled listener. -/
theorem raised_of_accept
    (told : (l.accept session timeout).reply = .error .terminationRequested) :
    (l.accept session timeout).listener.flag.raised = true := by
  obtain ⟨frame, performed, -⟩ := l.performs_accept session timeout
  rw [told] at performed
  exact performed.raised

end Listener

end SocketDemux
