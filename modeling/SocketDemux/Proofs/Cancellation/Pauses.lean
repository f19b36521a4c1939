import SocketDemux.Proofs.Listener.Handshake
/-!
# SocketDemux.Proofs.Cancellation.Pauses

The **pauses** of a call: how it waits, and how a wait ends.

* `Pause`, `Pause.finish` — the ways to wait, and what a wait comes back with.
* `finish_of_raised`, `finish_of_lowered` — what the flag has to do with it: once it is up, every
  pause ends, and unless its poll fails, it ends because of the flag; as long as the flag is
  down, no pause ends because of it.
* `Pause.woken`, `failure?_woken` — a poll that is woken up does not fail.
-/

namespace SocketDemux

/-- A wait takes the time it takes, whatever comes of it. -/
theorem awaitReady_snd (flag : CancelFlag) (deadline : Deadline) (now : Instant) (wait : Wait) :
    (awaitReady flag deadline now wait).2 = (wait.run deadline now).1 := by
  unfold awaitReady
  generalize wait.run deadline now = run
  obtain ⟨later, ends⟩ := run
  cases ends with
  | failed e =>
    dsimp only
    split
    · rfl
    · rfl
  | ready => rfl
  | idle => rfl

/-- How a call waits. -/
inductive Pause
  /-- Until the socket is ready, or the time is up. -/
  | readiness (deadline : Deadline) (wait : Wait)
  /-- The same, and nothing is going to happen. -/
  | silence (deadline : Deadline)
  /-- Until the next step of a handshake. -/
  | between (deadline : Deadline) (interval : Duration) (pause : Wait)
  /-- The same, and no step is going to bring it further. -/
  | stall (deadline : Deadline)

namespace Pause

/-- How a pause ends, and the clock afterwards. -/
def finish (flag : CancelFlag) (now : Instant) : Pause → Reply SocketError Unit × Instant
  | readiness deadline wait =>
      let (reply, later) := awaitReady flag deadline now wait
      (.ofExcept reply, later)
  | silence deadline => awaitNothing flag deadline now
  | between deadline interval pause =>
      let (reply, later) := pauseHandshake flag deadline interval now pause
      (.ofExcept reply, later)
  | stall deadline =>
      if flag.raised then (.error .terminationRequested, now)
      else
        match (deadline : Option Instant) with
        | none => (.waiting, now)
        | some limit => (.error handshakeTimedOut, max now limit)

/-- What the poll of a pause fails with. -/
def failure? (now : Instant) : Pause → Option IoError
  | readiness deadline wait => (wait.run deadline now).2.failure?
  | between deadline interval pause => pauseFailure? deadline interval now pause
  | silence _ | stall _ => none

/-- The pause when the poll is woken up, though nothing is ready. -/
def woken : Pause → Pause
  | readiness deadline _ => readiness deadline ⟨0, .idle⟩
  | between deadline interval _ => between deadline interval ⟨0, .idle⟩
  | pause => pause

theorem finish_readiness {flag : CancelFlag} {deadline : Deadline} {now later : Instant}
    {wait : Wait} {reply : Except SocketError Unit}
    (waited : awaitReady flag deadline now wait = (reply, later)) :
    (readiness deadline wait).finish flag now = (.ofExcept reply, later) := by
  simp only [finish, waited]

theorem finish_between {flag : CancelFlag} {deadline : Deadline} {interval : Duration}
    {now later : Instant} {pause : Wait} {reply : Except SocketError Unit}
    (paused : pauseHandshake flag deadline interval now pause = (reply, later)) :
    (between deadline interval pause).finish flag now = (.ofExcept reply, later) := by
  simp only [finish, paused]

/-- Of a readiness wait, the poll, the flag and the clock are looked at in this order. -/
theorem awaitReady_fst (flag : CancelFlag) (deadline : Deadline) (now : Instant) (wait : Wait) :
    (awaitReady flag deadline now wait).1 =
      match (wait.run deadline now).2.failure? with
      | some e => .error (.failed .poll e)
      | none =>
          if flag.raised then .error .terminationRequested
          else if !decide ((wait.run deadline now).2 = .ready) &&
              deadline.expired (wait.run deadline now).1 then .error .readTimeout
          else .ok () := by
  unfold awaitReady
  generalize wait.run deadline now = run
  obtain ⟨later, ends⟩ := run
  cases ends with
  | failed e =>
    by_cases interrupted : e.isInterrupted = true
    · simp only [WaitEnd.failure?, interrupted, if_true]
    · simp only [WaitEnd.failure?, interrupted, if_false, Bool.false_eq_true]
  | ready => rfl
  | idle => rfl

/-- Once the flag is up, every pause ends: with a failure of its poll, or because of the
flag. -/
theorem finish_of_raised {flag : CancelFlag} (raised : flag.raised = true) (now : Instant)
    (pause : Pause) :
    (pause.finish flag now).1 =
      match pause.failure? now with
      | some e => .error (.failed .poll e)
      | none => .error .terminationRequested := by
  cases pause with
  | readiness deadline wait =>
    simp only [finish, failure?, awaitReady_fst, raised, if_true]
    cases (wait.run deadline now).2.failure? with
    | some e => rfl
    | none => rfl
  | silence deadline => simp only [finish, failure?, awaitNothing, raised, if_true]
  | between deadline interval wait =>
    simp only [finish, failure?, pauseHandshake_eq, raised, if_true]
    cases pauseFailure? deadline interval now wait with
    | some e => rfl
    | none => rfl
  | stall deadline => simp only [finish, failure?, raised, if_true]

/-- As long as the flag is down, no pause ends because of it. -/
theorem finish_of_lowered {flag : CancelFlag} (lowered : flag.raised = false) (now : Instant)
    (pause : Pause) : (pause.finish flag now).1 ≠ .error .terminationRequested := by
  cases pause with
  | readiness deadline wait =>
    simp only [finish, awaitReady_fst, lowered, if_false, Bool.false_eq_true]
    cases (wait.run deadline now).2.failure? with
    | some e => simp [Reply.ofExcept]
    | none =>
      dsimp only
      split
      · simp [Reply.ofExcept]
      · simp [Reply.ofExcept]
  | silence deadline =>
    simp only [finish, awaitNothing, lowered, if_false, Bool.false_eq_true]
    split
    · simp
    · simp
  | between deadline interval wait =>
    simp only [finish, pauseHandshake_eq, lowered, if_false, Bool.false_eq_true]
    cases pauseFailure? deadline interval now wait with
    | some e => simp [Reply.ofExcept]
    | none => simp [Reply.ofExcept]
  | stall deadline =>
    simp only [finish, lowered, if_false, Bool.false_eq_true]
    split
    · simp
    · simp [handshakeTimedOut]

/-- A pause that does not end takes no time. -/
theorem finish_of_waiting {flag : CancelFlag} {now : Instant} {pause : Pause}
    (waits : (pause.finish flag now).1 = .waiting) : (pause.finish flag now).2 = now := by
  cases pause with
  | readiness deadline wait =>
    simp only [finish] at waits
    cases reply : (awaitReady flag deadline now wait).1 with
    | ok value =>
      rw [reply] at waits
      cases waits
    | error failure =>
      rw [reply] at waits
      cases waits
  | between deadline interval wait =>
    simp only [finish] at waits
    cases reply : (pauseHandshake flag deadline interval now wait).1 with
    | ok value =>
      rw [reply] at waits
      cases waits
    | error failure =>
      rw [reply] at waits
      cases waits
  | silence deadline =>
    simp only [finish, awaitNothing] at waits ⊢
    split
    · rfl
    · next lowered =>
      rw [if_neg lowered] at waits
      cases deadline with
      | none => rfl
      | some limit => cases waits
  | stall deadline =>
    simp only [finish] at waits ⊢
    split
    · rfl
    · next lowered =>
      rw [if_neg lowered] at waits
      cases deadline with
      | none => rfl
      | some limit => cases waits

/-- A poll that is woken up does not fail. -/
theorem failure?_woken (now : Instant) (pause : Pause) : pause.woken.failure? now = none := by
  cases pause with
  | readiness deadline wait =>
    cases deadline with
    | none => rfl
    | some limit => simp [woken, failure?, Wait.run, WaitEnd.failure?]
  | between deadline interval wait =>
    simp [woken, failure?, pauseFailure?, Wait.run, WaitEnd.failure?]
  | silence deadline => rfl
  | stall deadline => rfl

end Pause

/-- A wait for nothing that does not fail goes on. -/
theorem waiting_of_awaitNothing {flag : CancelFlag} {deadline : Deadline} {now later : Instant}
    {reply : Reply SocketError Unit} (waited : awaitNothing flag deadline now = (reply, later))
    (lasts : ∀ failure, reply = .error failure → False) : reply = .waiting := by
  cases reply with
  | ok value => exact absurd (congrArg Prod.fst waited) (awaitNothing_ne_ok _ _ _)
  | error failure => exact absurd rfl (lasts failure)
  | waiting => rfl

end SocketDemux
