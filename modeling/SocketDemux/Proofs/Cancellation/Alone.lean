import SocketDemux.Proofs.Cancellation.Shared
/-!
# SocketDemux.Proofs.Cancellation.Alone

**One call alone** on a socket, while others do no more than request cancellation. That is what
a call of the program is, which finds such requests among the answers of its transport.

* `Leads` — a call goes on to its end; one lemma for each kind of step.
* `Performs` — a call of the program is a run of the shared socket, so what is true of every run
  is true of it (`Performs.raised`).
-/

namespace SocketDemux

namespace SocketKind

variable {σ ι φ : Type} {K : SocketKind σ ι φ} {s s' : σ} {phase phase' : CallPhase φ} {frame : φ}
  {pause : Pause}

/-- What a call comes back with, and what it then remembers. A call that is not back pauses,
and nothing ends the pause. -/
def Tells (K : SocketKind σ ι φ) (s : σ) (phase : CallPhase φ) (frame : φ) :
    Reply SocketError Unit → Prop
  | .ok () => phase = .returned (.ok ()) frame
  | .error failure => phase = .returned (.error failure) frame
  | .waiting => (∃ pause, phase = .pausing frame pause) ∧ K.goOn s phase = none

/-- The socket when cancellation may have been requested. -/
def requestIf (K : SocketKind σ ι φ) (s : σ) (requested : Bool) : σ :=
  if requested then (K.request s).2 else s

/-- A call goes on to its end, while nobody but those who request cancellation does
anything. -/
inductive Leads (K : SocketKind σ ι φ) :
    σ → CallPhase φ → σ → φ → Reply SocketError Unit → Prop
  | done {s : σ} {phase : CallPhase φ} {frame : φ} {reply : Reply SocketError Unit}
      (tells : K.Tells s phase frame reply) : Leads K s phase s frame reply
  | goOn {s s' last : σ} {phase phase' : CallPhase φ} {frame : φ}
      {reply : Reply SocketError Unit} (step : K.goOn s phase = some (phase', s'))
      (rest : Leads K s' phase' last frame reply) : Leads K s phase last frame reply
  | request {s last : σ} {phase : CallPhase φ} {frame : φ} {reply : Reply SocketError Unit}
      (rest : Leads K (K.request s).2 phase last frame reply) : Leads K s phase last frame reply

namespace Leads

variable {last : σ} {frame' : φ} {reply : Reply SocketError Unit}

theorem requestIf {requested : Bool}
    (rest : Leads K (K.requestIf s requested) phase last frame reply) :
    Leads K s phase last frame reply := by
  cases requested with
  | true => exact .request rest
  | false => exact rest

/-- A call that looks at the flag when it is up. -/
theorem refused (raised : (K.flag s).raised = true) :
    Leads K s (.looking frame) s frame (.error .terminationRequested) := by
  refine .goOn ?_ (.done rfl)
  simp only [SocketKind.goOn, raised, if_true]

/-- The same, where a call that was interrupted does not look. -/
theorem noticed {retry : Bool} (noticed : ((K.flag s).raised && !retry) = true) :
    Leads K s (if retry then .attempting frame else .looking frame) s frame
      (.error .terminationRequested) := by
  simp only [Bool.and_eq_true, Bool.not_eq_true'] at noticed
  obtain ⟨raised, rfl⟩ := noticed
  exact refused raised

/-- A call makes an attempt, and cancellation may be requested just then. -/
theorem tries (requested : Bool)
    (tried : K.attempt (K.requestIf s requested) frame = (phase', s'))
    (rest : Leads K s' phase' last frame' reply) :
    Leads K s (.attempting frame) last frame' reply :=
  requestIf (.goOn (congrArg some tried) rest)

/-- A call looks at the flag, finds it down, and makes an attempt. -/
theorem looks (requested : Bool) (lowered : ¬(K.flag s).raised = true)
    (tried : K.attempt (K.requestIf s requested) frame = (phase', s'))
    (rest : Leads K s' phase' last frame' reply) :
    Leads K s (.looking frame) last frame' reply := by
  refine .goOn ?_ (tries requested tried rest)
  simp only [SocketKind.goOn, lowered]
  rfl

/-- A call comes to its next attempt, with a look at the flag or without. -/
theorem attempt (requested : Bool) {retry : Bool}
    (unnoticed : ¬((K.flag s).raised && !retry) = true)
    (tried : K.attempt (K.requestIf s requested) frame = (phase', s'))
    (rest : Leads K s' phase' last frame' reply) :
    Leads K s (if retry then .attempting frame else .looking frame) last frame' reply := by
  cases retry with
  | true => exact tries requested tried rest
  | false =>
    rw [Bool.not_false, Bool.and_true] at unnoticed
    exact looks requested unnoticed tried rest

/-- The end of a pause. -/
theorem resumed {later : Instant}
    (ends : pause.finish (K.flag s) (K.clock s) = (.ok (), later))
    (rest : Leads K (K.setClock s later) (pause.resume frame) last frame' reply) :
    Leads K s (.pausing frame pause) last frame' reply := by
  refine .goOn ?_ rest
  simp only [SocketKind.goOn, endPause, ends]

/-- A pause that the call does not survive, or that does not end. -/
theorem unfinished (frame : φ) {later : Instant}
    (ends : pause.finish (K.flag s) (K.clock s) = (reply, later)) (ended : reply ≠ .ok ()) :
    Leads K s (.pausing frame pause) (K.setClock s later) frame reply := by
  cases reply with
  | ok value => exact absurd rfl ended
  | error failure =>
    refine .goOn ?_ (.done rfl)
    simp only [SocketKind.goOn, endPause, ends]
  | waiting =>
    have now : later = K.clock s := by
      have same := Pause.finish_of_waiting (congrArg Prod.fst ends)
      rw [ends] at same
      exact same
    subst now
    rw [K.setClock_clock]
    refine .done ⟨⟨pause, rfl⟩, ?_⟩
    simp only [SocketKind.goOn, endPause, ends]

/-- A pause in which nothing is going to happen. -/
theorem silent {deadline : Deadline} {later : Instant}
    (waited : awaitNothing (K.flag s) deadline (K.clock s) = (reply, later)) :
    Leads K s (.pausing frame (.silence deadline)) (K.setClock s later) frame reply := by
  refine unfinished frame waited ?_
  rintro rfl
  exact awaitNothing_ne_ok _ _ _ (congrArg Prod.fst waited)

/-! ### Behind a failed attempt -/

section AfterFailure

variable {operation : Operation} {deadline : Deadline} {wait : Wait} {error : IoError}
  {later : Instant}

/-- An interrupted attempt is repeated at once. -/
theorem afterInterruption (interrupted : error.isInterrupted = true)
    (rest : Leads K s (.attempting frame) last frame' reply) :
    Leads K s (.afterFailure operation deadline wait error frame) last frame' reply := by
  rw [CallPhase.afterFailure_interrupted _ _ _ _ interrupted]
  exact rest

/-- An attempt that would block is followed by a wait. -/
theorem afterWait (interrupted : ¬error.isInterrupted = true) (blocked : error.isWouldBlock = true)
    (waited : awaitReady (K.flag s) deadline (K.clock s) wait = (.ok (), later))
    (rest : Leads K (K.setClock s later) (.looking frame) last frame' reply) :
    Leads K s (.afterFailure operation deadline wait error frame) last frame' reply := by
  rw [CallPhase.afterFailure_blocked _ _ _ _ interrupted blocked]
  exact resumed (Pause.finish_readiness waited) rest

/-- The wait may be the end. -/
theorem afterFailedWait (interrupted : ¬error.isInterrupted = true)
    (blocked : error.isWouldBlock = true) {failure : SocketError}
    (waited : awaitReady (K.flag s) deadline (K.clock s) wait = (.error failure, later)) :
    Leads K s (.afterFailure operation deadline wait error frame) (K.setClock s later) frame
      (.error failure) := by
  rw [CallPhase.afterFailure_blocked _ _ _ _ interrupted blocked]
  exact unfinished frame (Pause.finish_readiness waited) (by simp)

/-- Any other failure is the end. -/
theorem afterFinalFailure (interrupted : ¬error.isInterrupted = true)
    (blocked : ¬error.isWouldBlock = true) :
    Leads K s (.afterFailure operation deadline wait error frame) s frame
      (.error (.failed operation error)) := by
  rw [CallPhase.afterFailure_final _ _ _ _ interrupted blocked]
  exact .done rfl

end AfterFailure

/-- A call alone is a run of the shared socket. -/
theorem exists_run (h : Leads K s phase last frame reply) (answers : List Bool) :
    ∃ (actions : List (SharedAction ι)) (end_ : CallPhase φ) (answers' : List Bool),
      K.run ⟨s, [phase], answers⟩ actions = some ⟨last, [end_], answers'⟩ ∧
        K.Tells last end_ frame reply := by
  induction h generalizing answers with
  | @done s phase frame reply tells => exact ⟨[], phase, answers, rfl, tells⟩
  | @goOn s s' last phase phase' frame reply step rest ih =>
    obtain ⟨actions, end_, answers', ran, tells⟩ := ih answers
    refine ⟨.goOn 0 :: actions, end_, answers', ?_, tells⟩
    have acted : K.act ⟨s, [phase], answers⟩ (.goOn 0) = some ⟨s', [phase'], answers⟩ :=
      stepAt_eq rfl step
    simp only [run, acted, Option.bind_eq_bind, Option.bind_some]
    exact ran
  | @request s last phase frame reply rest ih =>
    obtain ⟨actions, end_, answers', ran, tells⟩ := ih (answers ++ [(K.request s).1])
    exact ⟨.request :: actions, end_, answers', ran, tells⟩

end Leads

/-- What a call of the program does is a run of the shared socket: the call begins, and goes
on to where the program says it ends. -/
def Performs (K : SocketKind σ ι φ) (s : σ) (call : ι) (last : σ) (frame : φ)
    (reply : Reply SocketError Unit) : Prop :=
  ∃ actions phase answers,
    K.run ⟨s, [], []⟩ (.call call :: actions) = some ⟨last, [phase], answers⟩ ∧
      K.Tells last phase frame reply

theorem Leads.performs {call : ι} {last : σ} {reply : Reply SocketError Unit}
    (h : Leads K s (K.enter s call) last frame reply) : K.Performs s call last frame reply := by
  obtain ⟨actions, end_, answers, ran, tells⟩ := h.exists_run []
  exact ⟨actions, end_, answers, ran, tells⟩

/-- A call that comes back because of cancellation has found the flag up. -/
theorem Performs.raised {call : ι} {last : σ}
    (h : K.Performs s call last frame (.error .terminationRequested)) :
    (K.flag last).raised = true := by
  obtain ⟨actions, phase, answers, ran, tells⟩ := h
  exact K.cancellable.unasked ran frame phase (List.mem_singleton_self _) tells

end SocketKind

end SocketDemux
