import SocketDemux.Listener.Handshake
/-!
# SocketDemux.Proofs.Listener.Handshake

What a driven **handshake** does with the answers of a session.

The run of a handshake goes through the planned steps of a script. Where it stands at a step
is said without the run: `flagAt` is the cancellation flag behind the step and its pause, and
`clockAt` the clock at the step, after all pauses before it.

* `pauseHandshake_eq` — a pause fails if its poll does, and then if the flag is up.
* `FollowUp`, `FollowUp.Happens` — the four things that may come after a step that would
  block, each with its reason. No two of them happen (`Happens.unique`).
* `HandshakeLaw` — what is true of the answers and of the reply of a handshake.
* `handshakeRun_law` — every run keeps it.
-/

namespace SocketDemux

/-- What a session answers, step by step, to the first step behind the planned ones. -/
def handshakeReplies (ending : HandshakeEnding) (steps : List HandshakeEvent) :
    List HandshakeReply :=
  steps.map (·.reply) ++
    [match ending with
      | .done => .done
      | .stalled => .wouldBlock]

/-! ### Pauses -/

/-- What a poll fails with. An interruption is no failure. -/
def WaitEnd.failure? : WaitEnd → Option IoError
  | .failed e => if e.isInterrupted then none else some e
  | _ => none

section Pauses

variable (deadline : Deadline) (interval : Duration)

/-- The clock after a pause that starts now. -/
def pauseOver (now : Instant) (pause : Wait) : Instant :=
  (pause.run (some (pauseEnd deadline interval now)) now).1

/-- What the poll of a pause fails with. -/
def pauseFailure? (now : Instant) (pause : Wait) : Option IoError :=
  (pause.run (some (pauseEnd deadline interval now)) now).2.failure?

/-- A pause fails if its poll does; if not, it looks at the flag. -/
theorem pauseHandshake_eq (flag : CancelFlag) (now : Instant) (pause : Wait) :
    pauseHandshake flag deadline interval now pause =
      (match pauseFailure? deadline interval now pause with
        | some e => .error (.failed .poll e)
        | none => if flag.raised then .error .terminationRequested else .ok (),
        pauseOver deadline interval now pause) := by
  unfold pauseHandshake pauseFailure? pauseOver
  generalize pause.run (some (pauseEnd deadline interval now)) now = run
  obtain ⟨later, ends⟩ := run
  cases ends with
  | failed e =>
    by_cases interrupted : e.isInterrupted = true
    · simp only [WaitEnd.failure?, interrupted, if_true]
    · simp only [WaitEnd.failure?, interrupted, if_false, Bool.false_eq_true]
  | ready => rfl
  | idle => rfl

/-- The clock at a step, after the pauses of all steps before it. -/
def clockAt (now : Instant) (steps : List HandshakeEvent) (index : Nat) : Instant :=
  (steps.take index).foldl (fun now step => pauseOver deadline interval now step.pause) now

/-- Is the flag up when a step, and the pause behind it, are over? -/
def flagAt (flag : CancelFlag) (steps : List HandshakeEvent) (index : Nat) : Bool :=
  flag.raised || (steps.take (index + 1)).any (·.cancels)

@[simp] theorem clockAt_zero (now : Instant) (steps : List HandshakeEvent) :
    clockAt deadline interval now steps 0 = now := rfl

theorem clockAt_succ (now : Instant) (step : HandshakeEvent) (rest : List HandshakeEvent)
    (index : Nat) :
    clockAt deadline interval now (step :: rest) (index + 1) =
      clockAt deadline interval (pauseOver deadline interval now step.pause) rest index := rfl

theorem flagAt_zero (flag : CancelFlag) (step : HandshakeEvent) (rest : List HandshakeEvent) :
    flagAt flag (step :: rest) 0 = (flag.raiseIf step.cancels).raised := by
  simp [flagAt]

theorem flagAt_succ (flag : CancelFlag) (step : HandshakeEvent) (rest : List HandshakeEvent)
    (index : Nat) :
    flagAt flag (step :: rest) (index + 1) = flagAt (flag.raiseIf step.cancels) rest index := by
  simp [flagAt, Bool.or_assoc]

end Pauses

/-! ### What follows a step that would block -/

/-- What comes after a step that would block. -/
inductive FollowUp
  /-- There is no time left. -/
  | timedOut
  /-- The poll of the pause fails. -/
  | broken (error : IoError)
  /-- The pause finds the flag up. -/
  | cancelled
  /-- Another step is made. -/
  | another
  deriving Repr, DecidableEq

/-- A follow-up, with its reason and with what becomes of the handshake: it ends with this
step, or there is one more answer. -/
def FollowUp.Happens (deadline : Deadline) (interval : Duration) (flag : CancelFlag)
    (now : Instant) (steps : List HandshakeEvent) (index : Nat) (pause : Wait)
    (answers : List HandshakeReply) (reply : Reply SocketError Unit) : FollowUp → Prop
  | timedOut =>
      deadline.expired (clockAt deadline interval now steps index) = true ∧
        answers.length = index + 1 ∧ reply = .error handshakeTimedOut
  | broken e =>
      deadline.expired (clockAt deadline interval now steps index) = false ∧
        pauseFailure? deadline interval (clockAt deadline interval now steps index) pause =
          some e ∧
        answers.length = index + 1 ∧ reply = .error (.failed .poll e)
  | cancelled =>
      deadline.expired (clockAt deadline interval now steps index) = false ∧
        pauseFailure? deadline interval (clockAt deadline interval now steps index) pause =
          none ∧
        flagAt flag steps index = true ∧
        answers.length = index + 1 ∧ reply = .error .terminationRequested
  | another =>
      deadline.expired (clockAt deadline interval now steps index) = false ∧
        pauseFailure? deadline interval (clockAt deadline interval now steps index) pause =
          none ∧
        flagAt flag steps index = false ∧ index + 1 < answers.length

namespace FollowUp

variable {deadline : Deadline} {interval : Duration} {flag : CancelFlag} {now : Instant}
  {steps : List HandshakeEvent} {index : Nat} {pause : Wait} {answers : List HandshakeReply}
  {reply : Reply SocketError Unit} {first second : FollowUp}

/-- The reasons exclude each other. -/
theorem Happens.unique
    (h : first.Happens deadline interval flag now steps index pause answers reply)
    (h' : second.Happens deadline interval flag now steps index pause answers reply) :
    first = second := by
  cases first with
  | timedOut =>
    obtain ⟨expired, -⟩ := h
    cases second with
    | timedOut => rfl
    | broken | cancelled | another => simp [Happens, expired] at h'
  | broken e =>
    obtain ⟨inTime, failed, -⟩ := h
    cases second with
    | timedOut => simp [Happens, inTime] at h'
    | broken e' =>
      obtain ⟨-, failed', -⟩ := h'
      rw [failed] at failed'
      cases failed'
      rfl
    | cancelled | another => simp [Happens, failed] at h'
  | cancelled =>
    obtain ⟨inTime, fine, up, -⟩ := h
    cases second with
    | timedOut => simp [Happens, inTime] at h'
    | broken => simp [Happens, fine] at h'
    | cancelled => rfl
    | another => simp [Happens, up] at h'
  | another =>
    obtain ⟨inTime, fine, down, -⟩ := h
    cases second with
    | timedOut => simp [Happens, inTime] at h'
    | broken => simp [Happens, fine] at h'
    | cancelled => simp [Happens, down] at h'
    | another => rfl

/-- One more step in front, with its pause: every other step comes one later. -/
theorem Happens.cons {step : HandshakeEvent}
    (h : first.Happens deadline interval (flag.raiseIf step.cancels)
      (pauseOver deadline interval now step.pause) steps index pause answers reply) :
    first.Happens deadline interval flag now (step :: steps) (index + 1) pause
      (.wouldBlock :: answers) reply := by
  cases first with
  | timedOut =>
    simp only [Happens, clockAt_succ, List.length_cons, Nat.add_right_cancel_iff] at h ⊢
    exact h
  | broken e =>
    simp only [Happens, clockAt_succ, List.length_cons, Nat.add_right_cancel_iff] at h ⊢
    exact h
  | cancelled =>
    simp only [Happens, clockAt_succ, flagAt_succ, List.length_cons,
      Nat.add_right_cancel_iff] at h ⊢
    exact h
  | another =>
    simp only [Happens, clockAt_succ, flagAt_succ, List.length_cons,
      Nat.add_lt_add_iff_right] at h ⊢
    exact h

end FollowUp

/-! ### The law of a handshake -/

/-- What is true of a handshake that is driven from a given moment on. -/
structure HandshakeLaw (script : HandshakeScript) (deadline : Deadline) (interval : Duration)
    (flag : CancelFlag) (now : Instant) (answers : List HandshakeReply)
    (reply : Reply SocketError Unit) : Prop where
  /-- The answers are those of the session, from its first step on. -/
  asked : answers <+: handshakeReplies script.ending script.steps
  /-- At least one step is made. -/
  made : answers ≠ []
  /-- Another step is made only after one that would block. -/
  blocked : ∀ answer ∈ answers.dropLast, answer = .wouldBlock
  /-- The handshake is complete if its last step is, and only then. -/
  done : reply = .ok () ↔ answers.getLast? = some .done
  failed : ∀ e, answers.getLast? = some (.failed e) → reply = .error (.failed .handshake e)
  /-- After a planned step that would block, exactly one of four things comes. -/
  followed : ∀ index step, script.steps[index]? = some step →
    answers[index]? = some .wouldBlock →
    ∃ follow : FollowUp,
      follow.Happens deadline interval flag now script.steps index step.pause answers reply ∧
        ∀ other : FollowUp,
          other.Happens deadline interval flag now script.steps index step.pause answers reply →
          other = follow

section Run

variable (ending : HandshakeEnding) (deadline : Deadline) (interval : Duration)
  (flag : CancelFlag) (now : Instant) (steps : List HandshakeEvent)

@[simp] theorem HandshakeRun.after_answers (run : HandshakeRun) (answer : HandshakeReply) :
    (run.after answer).answers = answer :: run.answers := rfl

@[simp] theorem HandshakeRun.after_reply (run : HandshakeRun) (answer : HandshakeReply) :
    (run.after answer).reply = run.reply := rfl

theorem answers_ne_nil :
    (handshakeRun ending deadline interval flag now steps).answers ≠ [] := by
  fun_induction handshakeRun ending deadline interval flag now steps with
  | _ => simp

/-- A session that stalls does not complete the handshake. -/
theorem stallHandshake_ne_ok : (stallHandshake flag deadline now).1 ≠ .ok () := by
  unfold stallHandshake
  split
  · simp
  · split
    · simp
    · split
      · simp
      · simp

theorem answers_prefix :
    (handshakeRun ending deadline interval flag now steps).answers <+:
      handshakeReplies ending steps := by
  fun_induction handshakeRun ending deadline interval flag now steps with
  | case7 flag now step rest _ blocks _ later _ ih =>
    simp only [HandshakeRun.after_answers, handshakeReplies, List.map_cons, List.cons_append,
      blocks]
    exact (List.prefix_cons_inj _).mpr ih
  | _ => simp_all [handshakeReplies]

theorem answers_blocked :
    ∀ answer ∈ (handshakeRun ending deadline interval flag now steps).answers.dropLast,
      answer = .wouldBlock := by
  fun_induction handshakeRun ending deadline interval flag now steps with
  | case7 flag now step rest _ _ _ later _ ih =>
    have more := answers_ne_nil ending deadline interval (flag.raiseIf step.cancels) later rest
    rw [HandshakeRun.after_answers, List.dropLast_cons_of_ne_nil more]
    intro answer member
    rcases List.mem_cons.mp member with rfl | earlier
    · rfl
    · exact ih answer earlier
  | _ => simp

/-- The last answer does not change with more steps in front. -/
theorem getLast?_answers_after {run : HandshakeRun} (more : run.answers ≠ [])
    (answer : HandshakeReply) :
    (run.after answer).answers.getLast? = run.answers.getLast? := by
  obtain ⟨first, others, same⟩ := List.exists_cons_of_ne_nil more
  rw [HandshakeRun.after_answers, same, List.getLast?_cons_cons]

theorem reply_eq_ok_iff :
    (handshakeRun ending deadline interval flag now steps).reply = .ok () ↔
      (handshakeRun ending deadline interval flag now steps).answers.getLast? = some .done := by
  fun_induction handshakeRun ending deadline interval flag now steps with
  | case2 flag now => simp [stallHandshake_ne_ok]
  | case7 flag now step rest _ _ _ later _ ih =>
    have more := answers_ne_nil ending deadline interval (flag.raiseIf step.cancels) later rest
    rw [getLast?_answers_after more]
    exact ih
  | _ => simp

theorem reply_of_failed {e : IoError}
    (failed : (handshakeRun ending deadline interval flag now steps).answers.getLast? =
      some (.failed e)) :
    (handshakeRun ending deadline interval flag now steps).reply =
      .error (.failed .handshake e) := by
  fun_induction handshakeRun ending deadline interval flag now steps with
  | case4 flag now step rest _ error reply =>
    cases failed
    rfl
  | case7 flag now step rest _ _ _ later _ ih =>
    have more := answers_ne_nil ending deadline interval (flag.raiseIf step.cancels) later rest
    rw [getLast?_answers_after more] at failed
    exact ih failed
  | _ => simp at failed

/-- After a planned step that would block, one of four things comes. -/
theorem exists_followUp (step : HandshakeEvent) : ∀ index, steps[index]? = some step →
    (handshakeRun ending deadline interval flag now steps).answers[index]? = some .wouldBlock →
    ∃ follow : FollowUp, follow.Happens deadline interval flag now steps index step.pause
      (handshakeRun ending deadline interval flag now steps).answers
      (handshakeRun ending deadline interval flag now steps).reply := by
  fun_induction handshakeRun ending deadline interval flag now steps with
  | case1 | case2 =>
    intro index planned
    simp at planned
  | case3 | case4 =>
    intro index planned blocks
    cases index with
    | zero => simp at blocks
    | succ index => simp at blocks
  | case5 flag now first rest _ _ expired =>
    intro index planned blocks
    cases index with
    | zero => exact ⟨.timedOut, expired, rfl, rfl⟩
    | succ index => simp at blocks
  | case6 flag now first rest _ _ inTime failure later paused =>
    intro index planned blocks
    cases index with
    | succ index => simp at blocks
    | zero =>
      cases planned
      rw [pauseHandshake_eq] at paused
      obtain ⟨verdict, -⟩ := Prod.mk.inj paused
      cases poll : pauseFailure? deadline interval now step.pause with
      | some e =>
        rw [poll] at verdict
        cases verdict
        exact ⟨.broken e, Bool.eq_false_iff.mpr inTime, poll, rfl, rfl⟩
      | none =>
        rw [poll] at verdict
        dsimp only at verdict
        split at verdict
        · next up =>
          cases verdict
          refine ⟨.cancelled, Bool.eq_false_iff.mpr inTime, poll, ?_, rfl, rfl⟩
          rw [flagAt_zero]
          exact up
        · cases verdict
  | case7 flag now first rest _ _ inTime later paused ih =>
    intro index planned blocks
    rw [pauseHandshake_eq] at paused
    obtain ⟨verdict, rfl⟩ := Prod.mk.inj paused
    cases index with
    | succ index =>
      obtain ⟨follow, happens⟩ := ih index planned blocks
      exact ⟨follow, happens.cons⟩
    | zero =>
      cases planned
      have more := answers_ne_nil ending deadline interval (flag.raiseIf step.cancels)
        (pauseOver deadline interval now step.pause) rest
      cases poll : pauseFailure? deadline interval now step.pause with
      | some e =>
        rw [poll] at verdict
        cases verdict
      | none =>
        rw [poll] at verdict
        dsimp only at verdict
        split at verdict
        · cases verdict
        · next down =>
          refine ⟨.another, Bool.eq_false_iff.mpr inTime, poll, ?_, ?_⟩
          · rw [flagAt_zero]
            exact Bool.eq_false_iff.mpr down
          · rw [HandshakeRun.after_answers, List.length_cons]
            exact Nat.succ_lt_succ (List.length_pos_iff.mpr more)

/-- Every handshake that is driven keeps the law. -/
theorem handshakeRun_law :
    HandshakeLaw ⟨steps, ending⟩ deadline interval flag now
      (handshakeRun ending deadline interval flag now steps).answers
      (handshakeRun ending deadline interval flag now steps).reply where
  asked := answers_prefix ending deadline interval flag now steps
  made := answers_ne_nil ending deadline interval flag now steps
  blocked := answers_blocked ending deadline interval flag now steps
  done := reply_eq_ok_iff ending deadline interval flag now steps
  failed _ last := reply_of_failed ending deadline interval flag now steps last
  followed index step planned blocks := by
    obtain ⟨follow, happens⟩ := exists_followUp ending deadline interval flag now steps step
      index planned blocks
    exact ⟨follow, happens, fun _ other => other.unique happens⟩

end Run

end SocketDemux
