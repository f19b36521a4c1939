import SocketDemux.Proofs.Demux.History
/-!
# SocketDemux.Proofs.Demux.Termination

Which **terminal failure** is recorded, and by whom.

There are two that record: the worker, as it ends, and every stop, as its last act. The
first one wins. `Recorded` is the invariant: what is recorded is what the worker has
ended with, or a stop has recorded that termination was requested, and then the flag is
up; and a worker that has ended has left a record.
-/

namespace SocketDemux

variable {κ : Type}

/-- What a worker records that ends like this. -/
def WorkerEnd.recorded : WorkerEnd → SocketError
  | .cancelled => .terminationRequested
  | .failed failure => failure.copy
  | .panicked _ => .workerPanicked

/-- The end that a failure makes is recorded as a copy of the failure. -/
theorem WorkerEnd.recorded_ofFailure (failure : SocketError) :
    (ofFailure failure).recorded = failure.copy := by
  cases failure <;> rfl

/-- An answer does not end the worker yet. -/
theorem Phase.afterVerdict_ne_ended (index buffered : Nat) (verdict : Except String Decision)
    (result : WorkerEnd) : afterVerdict index buffered verdict ≠ .ended result := by
  unfold afterVerdict
  cases verdict with
  | error message => simp
  | ok decision =>
    dsimp only
    cases decision.span? with
    | none => simp
    | some span =>
      dsimp only
      split <;> simp

/-- A step of a worker that has not ended either does not end it and records nothing, or
it ends it and records how, unless a failure is recorded already. -/
theorem Demux.step_records [Condition κ] {d : Demux κ} {w : Worker κ} (worker : d.worker = some w)
    (going : d.workerEnd? = none) :
    (d.step.2.workerEnd? = none ∧ d.step.2.queues.terminal = d.queues.terminal) ∨
      ∃ result, d.step.2.workerEnd? = some result ∧
        d.step.2.queues.terminal = d.queues.terminal.or (some result.recorded) := by
  have step := step_cases worker
  generalize d.step.2 = next at step ⊢
  cases step with
  | refilled | refused | passed | overdrawn => exact .inl ⟨rfl, rfl⟩
  | waited => exact .inl ⟨by rw [workerEnd?, worker] at going ⊢; exact going, rfl⟩
  | @asked index condition phase =>
    refine .inl ⟨?_, rfl⟩
    cases ended : Demux.workerEnd? { d with
        worker := some (w.asked index condition d.buffer.storage.data) } with
    | none => rfl
    | some result =>
      have wrong := phase_of_workerEnd? rfl ended
      exact absurd wrong (Phase.afterVerdict_ne_ended _ _ _ _)
  | @removed index span =>
    refine .inl ⟨rfl, ?_⟩
    show (if span.delivered then d.queues.deliver index _ else d.queues).terminal =
      d.queues.terminal
    split
    · exact Queues.terminal_deliver _ _ _
    · rfl
  | @concluded failure phase =>
    refine .inr ⟨_, rfl, ?_⟩
    rw [WorkerEnd.recorded_ofFailure]
    rfl
  | panicked phase => exact .inr ⟨_, rfl, rfl⟩
  | rested phase =>
    rw [workerEnd?_of_ended worker phase] at going
    cases going

/-- Has a stop that has come so far raised the flag? -/
def StopPhase.HasRaised : StopPhase → Prop
  | .called | .took _ => False
  | _ => True

namespace Bystands

variable {d next : Demux κ}

/-- Nobody lowers the flag. -/
theorem raised (h : Bystands d next) (raised : d.buffer.endpoint.flag.raised = true) :
    next.buffer.endpoint.flag.raised = true := by
  rw [h.buffer_of_raised raised]
  exact raised

theorem exists_worker (h : Bystands d next) (worker : ∃ w, d.worker = some w) :
    ∃ w, next.worker = some w := by
  rw [h.worker]
  exact worker

end Bystands

namespace System

variable [Condition κ]

/-- The only one but the worker that records a failure is a stop that has raised the
flag and joined. -/
theorem act_terminal {s next : System κ} {action : Action κ} (launched : s.demux.Launched)
    (other : action ≠ .work) (h : s.act action = some next) :
    next.demux.queues.terminal = s.demux.queues.terminal ∨
      ∃ reply, StopPhase.joined reply ∈ s.stops ∧
        next.demux.queues.terminal =
          s.demux.queues.terminal.or (some .terminationRequested) := by
  by_cases quiet : action.Quiet
  · rcases act_quiet launched quiet h with ⟨wrong, -⟩ | ⟨-, -, terminal⟩
    · exact absurd wrong other
    · exact .inl terminal
  · cases action with
    | cancel => cases h; exact .inl rfl
    | callStop => cases h; exact .inl rfl
    | goOnStop index =>
      obtain ⟨phase, after, d, there, stepped, rfl⟩ := act_goOnStop h
      cases stopStep_inv stepped with
      | returned reply => exact .inr ⟨reply, List.mem_of_getElem? there, rfl⟩
      | _ => exact .inl rfl
    | _ => exact absurd trivial quiet

/-- A stop that has raised the flag had raised it before, or the flag is up now. -/
theorem act_stops {s next : System κ} {action : Action κ} (h : s.act action = some next)
    {phase : StopPhase} (member : phase ∈ next.stops) (hasRaised : phase.HasRaised) :
    (∃ earlier ∈ s.stops, earlier.HasRaised) ∨
      next.demux.buffer.endpoint.flag.raised = true := by
  rcases stops_inv h member with old | rfl | ⟨before, was, step⟩
  · exact .inl ⟨phase, old, hasRaised⟩
  · cases hasRaised
  · -- the one that went on: what it had done before, or has done just now
    generalize next.demux = d at step ⊢
    cases step with
    | took => cases hasRaised
    | raised => exact .inr rfl
    | joined => exact .inl ⟨_, was, trivial⟩
    | returned => exact .inl ⟨_, was, trivial⟩

end System

/-- The failure that is recorded, if any, and who has recorded it. -/
structure Recorded (s : System κ) : Prop where
  launched : s.demux.Launched
  worker : ∃ w, s.demux.worker = some w
  raised : ∀ phase ∈ s.stops, phase.HasRaised → s.demux.buffer.endpoint.flag.raised = true
  recorded : ∀ failure, s.demux.queues.terminal = some failure →
    (s.demux.buffer.endpoint.flag.raised = true ∧ failure = .terminationRequested) ∨
      ∃ result, s.demux.workerEnd? = some result ∧ failure = result.recorded
  ended : ∀ result, s.demux.workerEnd? = some result → s.demux.queues.terminal ≠ none

namespace Recorded

theorem launch (buffer : StreamBuffer) (conditions : List κ) (readers : List Reader) :
    Recorded (System.mk (Demux.launch buffer conditions) [] readers) where
  launched := Demux.launched_launch buffer conditions
  worker := ⟨_, Demux.launch_worker ..⟩
  raised phase member := by cases member
  recorded failure wrong := by
    rw [Demux.launch_terminal] at wrong
    cases wrong
  ended result wrong := by
    rw [Demux.workerEnd?, Demux.launch_worker] at wrong
    cases wrong

variable [Condition κ]

/-- The worker leaves a record when it ends, and never else. -/
theorem work {s : System κ} (inv : Recorded s) :
    Recorded { s with demux := s.demux.step.2 } := by
  obtain ⟨w, worker⟩ := inv.worker
  cases going : s.demux.workerEnd? with
  | some result =>
    rw [Demux.step_of_ended going]
    exact inv
  | none =>
    -- nothing that was known before the step is lost by it
    have stays : s.demux.buffer.endpoint.flag.raised = true →
        s.demux.step.2.buffer.endpoint.flag.raised = true := by
      intro raised
      rw [Demux.endpoint_step_of_raised worker raised]
      exact raised
    have before : ∀ failure, s.demux.queues.terminal = some failure →
        s.demux.step.2.buffer.endpoint.flag.raised = true ∧
          failure = .terminationRequested := by
      intro failure there
      rcases inv.recorded failure there with ⟨raised, requested⟩ | ⟨result, wrong, -⟩
      · exact ⟨stays raised, requested⟩
      · rw [going] at wrong
        cases wrong
    refine ⟨Demux.launched_step worker inv.launched, Demux.worker_step worker,
      fun phase member hasRaised => stays (inv.raised phase member hasRaised), ?_, ?_⟩
    · intro failure there
      rcases Demux.step_records worker going with ⟨-, terminal⟩ | ⟨result, ended, terminal⟩
      · rw [terminal] at there
        exact .inl (before failure there)
      · rw [terminal, Option.or_eq_some_iff] at there
        rcases there with earlier | ⟨-, new⟩
        · exact .inl (before failure earlier)
        · cases new
          exact .inr ⟨result, ended, rfl⟩
    · intro result ended
      rcases Demux.step_records worker going with ⟨wrong, -⟩ | ⟨_, -, terminal⟩
      · rw [wrong] at ended
        cases ended
      · rw [terminal, Ne, Option.or_eq_none_iff]
        rintro ⟨-, none⟩
        cases none

/-- So does every other action. -/
theorem act {s next : System κ} {action : Action κ} (inv : Recorded s)
    (acted : s.act action = some next) : Recorded next := by
  rcases System.act_cases inv.launched acted with ⟨rfl, rfl⟩ | ⟨other, bystands, -⟩
  · exact inv.work
  · refine ⟨bystands.launched, bystands.exists_worker inv.worker, ?_, ?_, ?_⟩
    · intro phase member hasRaised
      rcases System.act_stops acted member hasRaised with ⟨earlier, was, had⟩ | raised
      · exact bystands.raised (inv.raised earlier was had)
      · exact raised
    · intro failure there
      rw [bystands.workerEnd?]
      have old : s.demux.queues.terminal = some failure →
          (next.demux.buffer.endpoint.flag.raised = true ∧ failure = .terminationRequested) ∨
            ∃ result, s.demux.workerEnd? = some result ∧ failure = result.recorded := by
        intro there
        rcases inv.recorded failure there with ⟨raised, requested⟩ | ended
        · exact .inl ⟨bystands.raised raised, requested⟩
        · exact .inr ended
      rcases System.act_terminal inv.launched other acted with same | ⟨reply, was, terminal⟩
      · rw [same] at there
        exact old there
      · rw [terminal, Option.or_eq_some_iff] at there
        rcases there with earlier | ⟨-, new⟩
        · exact old earlier
        · -- the stop that records has raised the flag before it joined
          cases new
          exact .inl ⟨bystands.raised (inv.raised _ was trivial), rfl⟩
    · intro result ended
      rw [bystands.workerEnd?] at ended
      have present := inv.ended result ended
      rcases bystands.terminal with same | again
      · rw [same]
        exact present
      · rw [again, Ne, Option.or_eq_none_iff]
        rintro ⟨earlier, -⟩
        exact present earlier

/-- In every run, what is recorded is the worker's end, or a stop. -/
theorem trace {s t : System κ} {h h' : History} {actions : List (Action κ)} (inv : Recorded s)
    (ran : s.trace h actions = some (t, h')) : Recorded t :=
  System.trace_invariant (I := fun s _ => Recorded s)
    (fun _ _ _ _ inv acted => inv.act acted) inv ran

end Recorded

end SocketDemux
