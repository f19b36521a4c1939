import SocketDemux.Proofs.Cancellation.Pauses
/-!
# SocketDemux.Proofs.Cancellation.Shared

**Cancellation of a socket that threads share**: any number of calls are under way on one
socket, and any number of threads request cancellation, through the socket or through a
canceller of it.

What the sockets have in common is how their calls go on. A call looks at the cancellation
flag; then it makes an attempt; then it is over, looks at the flag again, or pauses until the
socket is ready, and looks at the flag when the pause is over. `SocketKind` says what is
particular to a kind of socket: where its flag is, and what an attempt does.

The steps of different calls may alternate in any way. That some of them keep each other out,
as two reads of one endpoint do, only rules some of these runs out.

* `CallPhase`, `Shared` — how far a call has come, and a socket with the calls under way and
  the answers that requests for cancellation have got.
* `SocketKind.act`, `SocketKind.run` — one atomic step of one thread, and any number of them.
* `Honest`, `act_calls`, `act_flag` — what one step does to a call, and to the flag.
* `SocketKind.Cancellable` — cancellation is one-shot and sticky, it ends what waits and
  refuses what comes later, and nothing else makes a call fail like that.
* `SocketKind.cancellable` — it is so for every kind of socket.
-/

namespace SocketDemux

/-! ### Calls under way -/

/-- How far a call has come; `frame` is what it remembers. -/
inductive CallPhase (φ : Type)
  /-- It is going to look at the flag. -/
  | looking (frame : φ)
  /-- It is going to make an attempt. -/
  | attempting (frame : φ)
  | pausing (frame : φ) (pause : Pause)
  | returned (reply : Except SocketError Unit) (frame : φ)

/-- Behind a pause for readiness, a call looks at the flag once more; behind one of a
handshake, it makes the next step. -/
def Pause.resume {φ : Type} (frame : φ) : Pause → CallPhase φ
  | readiness .. | silence _ => .looking frame
  | between .. | stall _ => .attempting frame

/-- Behind an attempt that fails, because nothing was there or for another reason. -/
def CallPhase.afterFailure {φ : Type} (operation : Operation) (deadline : Deadline) (wait : Wait)
    (error : IoError) (frame : φ) : CallPhase φ :=
  if error.isInterrupted then .attempting frame
  else if error.isWouldBlock then .pausing frame (.readiness deadline wait)
  else .returned (.error (.failed operation error)) frame

section AfterFailure

variable {φ : Type} (operation : Operation) (deadline : Deadline) (wait : Wait) {error : IoError}
  (frame : φ)

theorem CallPhase.afterFailure_interrupted (interrupted : error.isInterrupted = true) :
    afterFailure operation deadline wait error frame = .attempting frame :=
  if_pos interrupted

theorem CallPhase.afterFailure_blocked (interrupted : ¬error.isInterrupted = true)
    (blocked : error.isWouldBlock = true) :
    afterFailure operation deadline wait error frame =
      .pausing frame (.readiness deadline wait) := by
  rw [afterFailure, if_neg interrupted, if_pos blocked]

theorem CallPhase.afterFailure_final (interrupted : ¬error.isInterrupted = true)
    (blocked : ¬error.isWouldBlock = true) :
    afterFailure operation deadline wait error frame =
      .returned (.error (.failed operation error)) frame := by
  rw [afterFailure, if_neg interrupted, if_neg blocked]

/-- No such failure is that of cancellation. -/
theorem CallPhase.afterFailure_unasked (error : IoError) (frame' : φ) :
    afterFailure operation deadline wait error frame ≠
      .returned (.error .terminationRequested) frame' := by
  unfold afterFailure
  split
  · simp
  · split <;> simp

end AfterFailure

/-- A kind of socket: its state `σ`, its calls `ι`, and what a call remembers. -/
structure SocketKind (σ ι φ : Type) where
  flag : σ → CancelFlag
  /-- Requests cancellation. -/
  request : σ → Bool × σ
  clock : σ → Instant
  setClock : σ → Instant → σ
  /-- What a call remembers at first. -/
  frame : σ → ι → φ
  /-- Where a call begins. -/
  enter : σ → ι → CallPhase φ
  /-- One attempt, and where the call goes from there. -/
  attempt : σ → φ → CallPhase φ × σ
  /-- The calls that have something to do. -/
  Asks : ι → Prop
  request_fst : ∀ s, (request s).1 = (flag s).raise.1
  flag_request : ∀ s, flag (request s).2 = (flag s).raise.2
  flag_setClock : ∀ s now, flag (setClock s now) = flag s
  setClock_clock : ∀ s, setClock s (clock s) = s
  flag_attempt : ∀ s f, flag (attempt s f).2 = flag s
  /-- A call that has something to do looks at the flag before anything else. -/
  enter_of_asks : ∀ s call, Asks call → enter s call = .looking (frame s call)
  /-- Only a look at the flag, or the end of a pause, tells a call about cancellation. -/
  enter_unasked : ∀ s call f, enter s call ≠ .returned (.error .terminationRequested) f
  attempt_unasked : ∀ s f f', (attempt s f).1 ≠ .returned (.error .terminationRequested) f'

/-- A socket, the calls under way, and what requests for cancellation have come back with,
the oldest first. -/
structure Shared (σ φ : Type) where
  socket : σ
  calls : List (CallPhase φ) := []
  answers : List Bool := []

/-- One atomic step of one thread. -/
inductive SharedAction (ι : Type)
  /-- Somebody requests cancellation. -/
  | request
  /-- Somebody calls. -/
  | call (call : ι)
  /-- A call goes on. -/
  | goOn (index : Nat)
  /-- The flag is up, and the poll of a pausing call is woken up. -/
  | wake (index : Nat)
  /-- Time passes. -/
  | tick (now : Instant)

namespace SocketKind

variable {σ ι φ : Type} (K : SocketKind σ ι φ)

/-- The end of a pause. A pause that nothing ends goes on. -/
def endPause (s : σ) (frame : φ) (pause : Pause) (next : CallPhase φ) :
    Option (CallPhase φ × σ) :=
  match pause.finish (K.flag s) (K.clock s) with
  | (.ok (), later) => some (next, K.setClock s later)
  | (.error failure, later) => some (.returned (.error failure) frame, K.setClock s later)
  | (.waiting, _) => none

/-- A call goes on, if it can. -/
def goOn (s : σ) : CallPhase φ → Option (CallPhase φ × σ)
  | .looking frame =>
      if (K.flag s).raised then some (.returned (.error .terminationRequested) frame, s)
      else some (.attempting frame, s)
  | .attempting frame => some (K.attempt s frame)
  | .pausing frame pause => K.endPause s frame pause (pause.resume frame)
  | .returned _ _ => none

/-- A pausing call is woken up, if the flag is up. -/
def wake (s : σ) : CallPhase φ → Option (CallPhase φ × σ)
  | .pausing frame pause =>
      if (K.flag s).raised then K.endPause s frame pause.woken (pause.resume frame) else none
  | _ => none

/-- A call makes a step, if it can. -/
def stepAt (x : Shared σ φ) (index : Nat) (step : σ → CallPhase φ → Option (CallPhase φ × σ)) :
    Option (Shared σ φ) := do
  let phase ← x.calls[index]?
  let (phase, s) ← step x.socket phase
  some { x with socket := s, calls := x.calls.set index phase }

/-- What an action does, if it is possible. -/
def act (x : Shared σ φ) : SharedAction ι → Option (Shared σ φ)
  | .request =>
      some
        { x with
          socket := (K.request x.socket).2
          answers := x.answers ++ [(K.request x.socket).1] }
  | .call call => some { x with calls := x.calls ++ [K.enter x.socket call] }
  | .goOn index => stepAt x index K.goOn
  | .wake index => stepAt x index K.wake
  | .tick now => some { x with socket := K.setClock x.socket now }

/-- The state after a sequence of actions, if each of them is possible. -/
def run (x : Shared σ φ) : List (SharedAction ι) → Option (Shared σ φ)
  | [] => some x
  | action :: rest => do
      let x ← K.act x action
      run x rest

variable {K} {x y : Shared σ φ} {s s' : σ} {phase phase' : CallPhase φ} {frame : φ}
  {pause : Pause} {action : SharedAction ι} {actions : List (SharedAction ι)} {index : Nat}

/-! ### One step of a call -/

/-- The end of a pause leaves the flag as it is. -/
theorem endPause_inv {next : CallPhase φ}
    (h : K.endPause s frame pause next = some (phase', s')) :
    K.flag s' = K.flag s ∧
      ((phase' = next ∧ (pause.finish (K.flag s) (K.clock s)).1 = .ok ()) ∨
        ∃ failure, phase' = .returned (.error failure) frame ∧
          (pause.finish (K.flag s) (K.clock s)).1 = .error failure) := by
  unfold endPause at h
  split at h
  · next later finished =>
    cases h
    exact ⟨K.flag_setClock _ _, .inl ⟨rfl, by rw [finished]⟩⟩
  · next failure later finished =>
    cases h
    exact ⟨K.flag_setClock _ _, .inr ⟨failure, rfl, by rw [finished]⟩⟩
  · cases h

/-- Once the flag is up, the end of a pause is the end of the call. -/
theorem endPause_of_raised (raised : (K.flag s).raised = true) (frame : φ) (pause : Pause)
    (next : CallPhase φ) :
    ∃ later, K.endPause s frame pause next =
      some (.returned (.error (match pause.failure? (K.clock s) with
        | some e => .failed .poll e
        | none => .terminationRequested)) frame, K.setClock s later) := by
  have ends := Pause.finish_of_raised raised (K.clock s) pause
  refine ⟨(pause.finish (K.flag s) (K.clock s)).2, ?_⟩
  unfold endPause
  rcases finished : pause.finish (K.flag s) (K.clock s) with ⟨reply, later⟩
  rw [finished] at ends
  cases failed : pause.failure? (K.clock s) with
  | some e =>
    rw [failed] at ends
    dsimp only at ends ⊢
    rw [ends]
  | none =>
    rw [failed] at ends
    dsimp only at ends ⊢
    rw [ends]

/-- What a call does when it makes a step. -/
theorem stepAt_inv {step : σ → CallPhase φ → Option (CallPhase φ × σ)}
    (h : stepAt x index step = some y) :
    ∃ phase phase' s', x.calls[index]? = some phase ∧ step x.socket phase = some (phase', s') ∧
      y = { x with socket := s', calls := x.calls.set index phase' } := by
  simp only [stepAt, Option.bind_eq_bind, Option.bind_eq_some_iff] at h
  obtain ⟨phase, there, ⟨phase', s'⟩, stepped, result⟩ := h
  cases result
  exact ⟨phase, phase', s', there, stepped, rfl⟩

/-- A call makes a step if it can. -/
theorem stepAt_eq {step : σ → CallPhase φ → Option (CallPhase φ × σ)}
    (there : x.calls[index]? = some phase) (stepped : step x.socket phase = some (phase', s')) :
    stepAt x index step =
      some { x with socket := s', calls := x.calls.set index phase' } := by
  simp only [stepAt, there, stepped, Option.bind_eq_bind, Option.bind_some]

/-- What a step of a call does with the flag, and what it has to be told of cancellation. -/
structure Honest (K : SocketKind σ ι φ) (s : σ) (phase phase' : CallPhase φ) (s' : σ) : Prop where
  flag : K.flag s' = K.flag s
  /-- A call that has returned makes no step. -/
  running : ∀ reply frame, phase ≠ .returned reply frame
  asked : ∀ frame, phase' = .returned (.error .terminationRequested) frame →
    (K.flag s).raised = true
  /-- A call that looks at the flag when it is up is refused on the spot. -/
  refused : ∀ frame, (K.flag s).raised = true → phase = .looking frame →
    phase' = .returned (.error .terminationRequested) frame ∧ s' = s
  /-- A call that pauses when the flag is up ends with the pause. -/
  ended : ∀ frame pause, (K.flag s).raised = true → phase = .pausing frame pause →
    ∃ failure, phase' = .returned (.error failure) frame ∧
      (failure = .terminationRequested ∨
        ∃ e, pause.failure? (K.clock s) = some e ∧ failure = .failed .poll e)

theorem honest_goOn (h : K.goOn s phase = some (phase', s')) : Honest K s phase phase' s' := by
  cases phase with
  | looking frame =>
    simp only [goOn] at h
    split at h
    · next raised =>
      cases h
      refine ⟨rfl, fun _ _ => by simp, fun _ _ => raised, ?_, ?_⟩
      · rintro frame - ⟨⟩
        exact ⟨rfl, rfl⟩
      · rintro frame pause - ⟨⟩
    · next lowered =>
      cases h
      refine ⟨rfl, fun _ _ => by simp, ?_, ?_, ?_⟩
      · rintro frame ⟨⟩
      · rintro frame raised -
        exact absurd raised lowered
      · rintro frame pause - ⟨⟩
  | attempting frame =>
    have flag := K.flag_attempt s frame
    have unasked := K.attempt_unasked s frame
    rw [show K.attempt s frame = (phase', s') from Option.some.inj h] at flag unasked
    refine ⟨flag, fun _ _ => by simp, ?_, ?_, ?_⟩
    · intro frame' told
      exact absurd told (unasked frame')
    · rintro frame - ⟨⟩
    · rintro frame pause - ⟨⟩
  | pausing frame pause =>
    obtain ⟨flag, next⟩ := endPause_inv h
    refine ⟨flag, fun _ _ => by simp, ?_, ?_, ?_⟩
    · intro frame' told
      cases raised : (K.flag s).raised with
      | true => rfl
      | false =>
        rcases next with ⟨same, -⟩ | ⟨failure, same, failed⟩
        · rw [told] at same
          cases pause with
          | _ => cases same
        · rw [told] at same
          cases same
          exact absurd failed (Pause.finish_of_lowered raised _ _)
    · rintro frame - ⟨⟩
    · rintro frame pause raised ⟨⟩
      obtain ⟨later, ends⟩ := endPause_of_raised raised frame pause (pause.resume frame)
      replace h : K.endPause s frame pause (pause.resume frame) = some (phase', s') := h
      rw [ends] at h
      cases h
      refine ⟨_, rfl, ?_⟩
      cases failed : pause.failure? (K.clock s) with
      | some e => exact .inr ⟨e, rfl, rfl⟩
      | none => exact .inl rfl
  | returned reply frame => cases h

theorem honest_wake (h : K.wake s phase = some (phase', s')) : Honest K s phase phase' s' := by
  cases phase with
  | pausing frame pause =>
    simp only [wake] at h
    split at h
    · next raised =>
      obtain ⟨flag, -⟩ := endPause_inv h
      obtain ⟨later, ends⟩ := endPause_of_raised raised frame pause.woken (pause.resume frame)
      rw [Pause.failure?_woken] at ends
      rw [ends] at h
      cases h
      refine ⟨flag, fun _ _ => by simp, fun _ _ => raised, ?_, ?_⟩
      · rintro frame - ⟨⟩
      · rintro frame pause - ⟨⟩
        exact ⟨_, rfl, .inl rfl⟩
    · cases h
  | _ => cases h

/-! ### One action -/

/-- What an action does to a call that is under way: nothing, unless it is this call's own
step. -/
theorem act_calls (acted : K.act x action = some y) (there : x.calls[index]? = some phase) :
    y.calls[index]? = some phase ∨
      ∃ phase', y.calls[index]? = some phase' ∧ Honest K x.socket phase phase' y.socket := by
  have inside : index < x.calls.length := (List.getElem?_eq_some_iff.mp there).1
  have own : ∀ {step : σ → CallPhase φ → Option (CallPhase φ × σ)} {target : Nat},
      (∀ {p p' : CallPhase φ} {s' : σ}, step x.socket p = some (p', s') →
        Honest K x.socket p p' s') →
      stepAt x target step = some y →
      y.calls[index]? = some phase ∨
        ∃ phase', y.calls[index]? = some phase' ∧ Honest K x.socket phase phase' y.socket := by
    intro step target honest stepped
    obtain ⟨before, after, s', was, made, rfl⟩ := stepAt_inv stepped
    by_cases same : target = index
    · subst same
      rw [there] at was
      cases was
      exact .inr ⟨after, List.getElem?_set_self inside, honest made⟩
    · refine .inl ?_
      rw [List.getElem?_set_ne same]
      exact there
  cases action with
  | request =>
    cases acted
    exact .inl there
  | call call =>
    cases acted
    refine .inl ?_
    rw [List.getElem?_append_left inside]
    exact there
  | goOn target => exact own (fun made => honest_goOn made) acted
  | wake target => exact own (fun made => honest_wake made) acted
  | tick now =>
    cases acted
    exact .inl there

/-- Where a call comes from that is under way: it was under way before, it has just been
called, or it has just made a step. -/
theorem calls_inv (acted : K.act x action = some y) (member : phase ∈ y.calls) :
    phase ∈ x.calls ∨ (∃ call, phase = K.enter x.socket call) ∨
      ∃ before, Honest K x.socket before phase y.socket := by
  cases action with
  | request | tick =>
    cases acted
    exact .inl member
  | call call =>
    cases acted
    rcases List.mem_append.mp member with old | new
    · exact .inl old
    · exact .inr (.inl ⟨call, List.mem_singleton.mp new⟩)
  | goOn target =>
    obtain ⟨before, after, s', -, made, rfl⟩ := stepAt_inv acted
    rcases List.mem_or_eq_of_mem_set member with old | rfl
    · exact .inl old
    · exact .inr (.inr ⟨before, honest_goOn made⟩)
  | wake target =>
    obtain ⟨before, after, s', -, made, rfl⟩ := stepAt_inv acted
    rcases List.mem_or_eq_of_mem_set member with old | rfl
    · exact .inl old
    · exact .inr (.inr ⟨before, honest_wake made⟩)

/-- Is it a request for cancellation? -/
def asksToCancel : SharedAction ι → Bool
  | .request => true
  | _ => false

/-- Nothing but a request for cancellation has to do with the flag, or gets an answer. -/
theorem act_flag (acted : K.act x action = some y) :
    if asksToCancel action then
      K.flag y.socket = (K.flag x.socket).raise.2 ∧
        y.answers = x.answers ++ [(K.flag x.socket).raise.1]
    else K.flag y.socket = K.flag x.socket ∧ y.answers = x.answers := by
  cases action with
  | request =>
    cases acted
    exact ⟨K.flag_request _, by rw [K.request_fst]⟩
  | call call =>
    cases acted
    exact ⟨rfl, rfl⟩
  | goOn target =>
    obtain ⟨before, after, s', -, made, rfl⟩ := stepAt_inv acted
    exact ⟨(honest_goOn made).flag, rfl⟩
  | wake target =>
    obtain ⟨before, after, s', -, made, rfl⟩ := stepAt_inv acted
    exact ⟨(honest_wake made).flag, rfl⟩
  | tick now =>
    cases acted
    exact ⟨K.flag_setClock _ _, rfl⟩

/-- No action takes the flag down. -/
theorem act_raised (acted : K.act x action = some y) (raised : (K.flag x.socket).raised = true) :
    (K.flag y.socket).raised = true := by
  have flag := act_flag acted
  split at flag
  · rw [flag.1]
    exact CancelFlag.raised_raise _
  · rw [flag.1]
    exact raised

/-! ### Runs -/

theorem run_cons (ran : K.run x (action :: actions) = some y) :
    ∃ z, K.act x action = some z ∧ K.run z actions = some y := by
  simpa only [run, Option.bind_eq_bind, Option.bind_eq_some_iff] using ran

/-- What an action keeps, a run keeps. -/
theorem run_invariant {I : Shared σ φ → Prop}
    (keeps : ∀ {x y : Shared σ φ} {action : SharedAction ι}, K.act x action = some y → I x → I y)
    (ran : K.run x actions = some y) (start : I x) : I y := by
  induction actions generalizing x with
  | nil =>
    cases ran
    exact start
  | cons action rest ih =>
    obtain ⟨z, acted, ran⟩ := run_cons ran
    exact ih ran (keeps acted start)

/-- The answers to so many requests for cancellation: the first one is told that it has raised
the flag, unless the flag was up already. -/
def requestAnswers (up : Bool) : Nat → List Bool
  | 0 => []
  | more + 1 => (!up) :: List.replicate more false

theorem requestAnswers_succ (up : Bool) (count : Nat) :
    requestAnswers up (count + 1) = (!up) :: requestAnswers true count := by
  cases count with
  | zero => rfl
  | succ more => rfl

/-- What a run does to the flag, and what requests are told. -/
theorem run_flag (ran : K.run x actions = some y) :
    (K.flag y.socket).raised =
        ((K.flag x.socket).raised || decide (0 < actions.countP asksToCancel)) ∧
      y.answers = x.answers ++
        requestAnswers (K.flag x.socket).raised (actions.countP asksToCancel) := by
  induction actions generalizing x with
  | nil =>
    cases ran
    simp [requestAnswers]
  | cons action rest ih =>
    obtain ⟨z, acted, ran⟩ := run_cons ran
    obtain ⟨up, answers⟩ := ih ran
    have flag := act_flag acted
    cases asks : asksToCancel action with
    | true =>
      rw [asks, if_pos rfl] at flag
      obtain ⟨raises, answer⟩ := flag
      rw [List.countP_cons_of_pos asks, up, answers, raises, answer, requestAnswers_succ]
      simp
    | false =>
      rw [asks, if_neg Bool.false_ne_true] at flag
      obtain ⟨same, silent⟩ := flag
      rw [List.countP_cons_of_neg (by simp [asks]), up, answers, same, silent]
      exact ⟨rfl, rfl⟩

/-- A phase that a call can only stay in, or be turned away from, once the flag is up. -/
theorem run_settled {P Q : CallPhase φ → Prop} {index : Nat}
    (settles : ∀ {s s' : σ} {phase phase' : CallPhase φ}, (K.flag s).raised = true →
      Honest K s phase phase' s' → P phase → Q phase')
    (stays : ∀ {s s' : σ} {phase phase' : CallPhase φ}, Honest K s phase phase' s' →
      Q phase → Q phase')
    (ran : K.run x actions = some y) (raised : (K.flag x.socket).raised = true)
    (there : ∃ phase, x.calls[index]? = some phase ∧ (P phase ∨ Q phase)) :
    ∃ phase, y.calls[index]? = some phase ∧ (P phase ∨ Q phase) := by
  refine (run_invariant (I := fun z => (K.flag z.socket).raised = true ∧
    ∃ phase, z.calls[index]? = some phase ∧ (P phase ∨ Q phase)) ?_ ran ⟨raised, there⟩).2
  rintro x y action acted ⟨raised, phase, there, holds⟩
  refine ⟨act_raised acted raised, ?_⟩
  rcases act_calls acted there with same | ⟨phase', there', honest⟩
  · exact ⟨phase, same, holds⟩
  · refine ⟨phase', there', .inr ?_⟩
    rcases holds with waits | settled
    · exact settles raised honest waits
    · exact stays honest settled

/-! ### Cancellation -/

/-- A call has returned because of cancellation. -/
def Refused (frame : φ) (phase : CallPhase φ) : Prop :=
  phase = .returned (.error .terminationRequested) frame

/-- A pausing call has returned because of cancellation, or because its poll has failed. -/
def Ended (frame : φ) (pause : Pause) (phase : CallPhase φ) : Prop :=
  Refused frame phase ∨
    ∃ now e, pause.failure? now = some e ∧ phase = .returned (.error (.failed .poll e)) frame

/-- What cancellation of a kind of socket is. -/
structure Cancellable (K : SocketKind σ ι φ) : Prop where
  /-- The flag never goes down. -/
  sticky : ∀ {x y : Shared σ φ} {actions : List (SharedAction ι)}, K.run x actions = some y →
    (K.flag x.socket).raised = true → (K.flag y.socket).raised = true
  /-- The flag goes up with the first request, which is the only one to be told so. -/
  oneShot : ∀ {x y : Shared σ φ} {actions : List (SharedAction ι)}, K.run x actions = some y →
    (K.flag y.socket).raised =
        ((K.flag x.socket).raised || decide (0 < actions.countP asksToCancel)) ∧
      y.answers = x.answers ++
        requestAnswers (K.flag x.socket).raised (actions.countP asksToCancel)
  /-- A call that has something to do begins with a look at the flag. -/
  begins : ∀ {x : Shared σ φ} {call : ι}, K.Asks call →
    K.act x (.call call) =
      some { x with calls := x.calls ++ [.looking (K.frame x.socket call)] }
  /-- A call that looks at the flag when it is up has not made a step yet, or was refused;
  either way it remembers no more than before. -/
  refused : ∀ {x y : Shared σ φ} {actions : List (SharedAction ι)} {index : Nat} {frame : φ},
    (K.flag x.socket).raised = true → x.calls[index]? = some (.looking frame) →
    K.run x actions = some y →
    ∃ phase, y.calls[index]? = some phase ∧ (phase = .looking frame ∨ Refused frame phase)
  /-- It can make this step at once, and the refusal leaves the socket as it is. -/
  refuses : ∀ {x : Shared σ φ} {index : Nat} {frame : φ}, (K.flag x.socket).raised = true →
    x.calls[index]? = some (.looking frame) →
    K.act x (.goOn index) =
      some { x with calls := x.calls.set index (.returned (.error .terminationRequested) frame) }
  /-- A call that pauses when the flag is up, or goes up, ends with this pause. -/
  ended : ∀ {x y : Shared σ φ} {actions : List (SharedAction ι)} {index : Nat} {frame : φ}
    {pause : Pause}, (K.flag x.socket).raised = true →
    x.calls[index]? = some (.pausing frame pause) → K.run x actions = some y →
    ∃ phase, y.calls[index]? = some phase ∧
      (phase = .pausing frame pause ∨ Ended frame pause phase)
  /-- It can be woken up at once, and is then told why. -/
  woken : ∀ {x : Shared σ φ} {index : Nat} {frame : φ} {pause : Pause},
    (K.flag x.socket).raised = true → x.calls[index]? = some (.pausing frame pause) →
    ∃ later, K.act x (.wake index) =
      some
        { x with
          socket := K.setClock x.socket later
          calls := x.calls.set index (.returned (.error .terminationRequested) frame) }
  /-- As long as the flag is down, no call has returned because of cancellation. -/
  unasked : ∀ {s : σ} {y : Shared σ φ} {actions : List (SharedAction ι)},
    K.run ⟨s, [], []⟩ actions = some y → ∀ frame phase, phase ∈ y.calls →
    Refused frame phase → (K.flag y.socket).raised = true

/-- A call that looks at the flag when it is up goes no further. -/
theorem run_refused (ran : K.run x actions = some y) (raised : (K.flag x.socket).raised = true)
    (there : x.calls[index]? = some (.looking frame)) :
    ∃ phase, y.calls[index]? = some phase ∧
      (phase = .looking frame ∨ Refused frame phase) := by
  refine run_settled ?_ ?_ ran raised ⟨_, there, .inl rfl⟩
  · rintro s s' phase phase' raised honest rfl
    exact (honest.refused frame raised rfl).1
  · rintro s s' phase phase' honest rfl
    exact absurd rfl (honest.running _ _)

/-- A call that pauses when the flag is up ends with this pause. -/
theorem run_ended (ran : K.run x actions = some y) (raised : (K.flag x.socket).raised = true)
    (there : x.calls[index]? = some (.pausing frame pause)) :
    ∃ phase, y.calls[index]? = some phase ∧
      (phase = .pausing frame pause ∨ Ended frame pause phase) := by
  refine run_settled ?_ ?_ ran raised ⟨_, there, .inl rfl⟩
  · rintro s s' phase phase' raised honest rfl
    obtain ⟨failure, rfl, told | ⟨e, failed, told⟩⟩ := honest.ended frame pause raised rfl
    · rw [told]
      exact .inl rfl
    · rw [told]
      exact .inr ⟨_, e, failed, rfl⟩
  · rintro s s' phase phase' honest (rfl | ⟨now, e, -, rfl⟩)
    · exact absurd rfl (honest.running _ _)
    · exact absurd rfl (honest.running _ _)

/-- If the flag is down, no call has returned because of cancellation, and so it stays as long
as the flag is down. -/
theorem run_unasked (ran : K.run x actions = some y)
    (start : ∀ frame phase, phase ∈ x.calls → Refused frame phase →
      (K.flag x.socket).raised = true) :
    ∀ frame phase, phase ∈ y.calls → Refused frame phase →
      (K.flag y.socket).raised = true := by
  refine run_invariant (I := fun z => ∀ frame phase, phase ∈ z.calls → Refused frame phase →
    (K.flag z.socket).raised = true) ?_ ran start
  intro x y action acted before frame phase member refused
  rcases calls_inv acted member with old | ⟨call, entered⟩ | ⟨previous, honest⟩
  · exact act_raised acted (before frame phase old refused)
  · exact absurd (entered.symm.trans refused) (K.enter_unasked _ call frame)
  · rw [honest.flag]
    exact honest.asked frame refused

/-- A pausing call can be woken up as soon as the flag is up. -/
theorem act_wake (raised : (K.flag x.socket).raised = true)
    (there : x.calls[index]? = some (.pausing frame pause)) :
    ∃ later, K.act x (.wake index) =
      some
        { x with
          socket := K.setClock x.socket later
          calls := x.calls.set index (.returned (.error .terminationRequested) frame) } := by
  obtain ⟨later, ends⟩ := endPause_of_raised raised frame pause.woken (pause.resume frame)
  rw [Pause.failure?_woken] at ends
  refine ⟨later, stepAt_eq there ?_⟩
  simp only [wake, raised, if_true]
  exact ends

/-- **Every kind of socket can be cancelled.** -/
theorem cancellable (K : SocketKind σ ι φ) : K.Cancellable where
  sticky ran raised :=
    run_invariant (I := fun z => (K.flag z.socket).raised = true) act_raised ran raised
  oneShot := run_flag
  begins := by
    intro x call asks
    rw [act, K.enter_of_asks _ _ asks]
  refused raised there ran := run_refused ran raised there
  refuses raised there := stepAt_eq there (by simp only [goOn, raised, if_true])
  ended raised there ran := run_ended ran raised there
  woken := act_wake
  unasked ran := run_unasked ran (by
    intro frame phase member
    cases member)

end SocketKind

end SocketDemux
