import SocketDemux.Proofs.Demux.Conservation
import SocketDemux.Proofs.Demux.Orderly
/-!
# SocketDemux.Proofs.Demux.Finality

Is a **recorded failure final**?

It should be: once it is recorded, no fragment is delivered any more, and the worker
ends, or has ended, with that very failure (`System.Final`).

As long as calls of stop do not overlap, it is. Among overlapping calls only one joins
the worker; another one may record that termination was requested while the worker is
still busy with what it has buffered. Then it depends on the worker. The flag is up, so
from there on the worker is its own master: no other thread has any influence on its
steps (`worker_after`, `exists_steps_of_trace`), and letting it go on shows what it is going to do.
`final_iff` says that the failure is final exactly if the worker, let go on, delivers
nothing more and ends with what is recorded.
-/

namespace SocketDemux

variable {κ : Type} [Condition κ]

/-- Whatever happens from here on, no fragment is delivered, the recorded failure stays,
and it is the one that the worker ends with. -/
def System.Final (s : System κ) : Prop :=
  ∀ actions t h, s.trace {} actions = some (t, h) →
    (∀ handle, h.givenTo handle ++ t.demux.queues.queued handle =
      s.demux.queues.queued handle) ∧
      t.demux.queues.terminal = s.demux.queues.terminal ∧
      ∀ result, t.demux.workerEnd? = some result →
        s.demux.queues.terminal = some result.recorded

namespace Demux

variable {d : Demux κ} {w : Worker κ}

/-- A step of the worker only ever adds to a queue. -/
theorem queued_step (worker : d.worker = some w) (handle : Handle) :
    d.queues.queued handle <+: d.step.2.queues.queued handle := by
  have step := step_cases worker
  generalize d.step.2 = next at step ⊢
  cases step with
  | @removed index span =>
    show d.queues.queued handle <+:
      (if span.delivered then d.queues.deliver index _ else d.queues).queued handle
    split
    · exact Queues.queued_prefix_deliver _ _ _ _
    · exact List.prefix_rfl
  | concluded | panicked =>
    show d.queues.queued handle <+: (d.queues.terminate _).queued handle
    simp only [Queues.queued_terminate, List.prefix_rfl]
  | _ => exact List.prefix_rfl

theorem queued_steps (worker : d.worker = some w) (count : Nat) (handle : Handle) :
    d.queues.queued handle <+: (d.steps count).queues.queued handle := by
  induction count generalizing d w with
  | zero => exact List.prefix_rfl
  | succ count ih =>
    obtain ⟨w', worker'⟩ := worker_step worker
    exact (queued_step worker handle).trans (ih worker')

theorem worker_steps (worker : d.worker = some w) (count : Nat) :
    ∃ w', (d.steps count).worker = some w' := by
  induction count generalizing d w with
  | zero => exact ⟨w, worker⟩
  | succ count ih =>
    obtain ⟨w', worker'⟩ := worker_step worker
    exact ih worker'

/-- A worker that settles at its end passes through all its steps on the way. -/
theorem settle_eq_steps_after {result : WorkerEnd} (ended : d.settle.workerEnd? = some result)
    (count : Nat) : ∃ more, d.settle = (d.steps count).steps more := by
  obtain ⟨total, settled⟩ := d.settle_eq_steps
  rcases Nat.le_total count total with before | after
  · refine ⟨total - count, ?_⟩
    rw [settled, ← steps_add]
    congr 1
    omega
  · refine ⟨0, ?_⟩
    have beyond : d.steps count = (d.steps total).steps (count - total) := by
      rw [← steps_add]
      congr 1
      omega
    rw [settled] at ended
    rw [beyond, steps_of_ended ended, settled]
    rfl

end Demux

/-- Is it a step of the worker? -/
def Action.isWork : Action κ → Bool
  | .work => true
  | _ => false

namespace System

/-- Nobody takes a recorded failure back. -/
theorem terminal_trace {s t : System κ} {h h' : History} {actions : List (Action κ)}
    {failure : SocketError} (inv : Recorded s)
    (recorded : s.demux.queues.terminal = some failure)
    (ran : s.trace h actions = some (t, h')) : t.demux.queues.terminal = some failure := by
  have kept := trace_invariant
    (I := fun s _ => Recorded s ∧ s.demux.queues.terminal = some failure) ?_ ⟨inv, recorded⟩ ran
  · exact kept.2
  · intro s h action next ⟨inv, recorded⟩ acted
    refine ⟨inv.act acted, ?_⟩
    rcases act_cases inv.launched acted with ⟨rfl, rfl⟩ | ⟨other, bystands, -⟩
    · obtain ⟨w, worker⟩ := inv.worker
      cases going : s.demux.workerEnd? with
      | some result =>
        rw [Demux.step_of_ended going]
        exact recorded
      | none =>
        rcases Demux.step_records worker going with ⟨-, same⟩ | ⟨_, -, later⟩
        · exact same.trans recorded
        · show s.demux.step.2.queues.terminal = some failure
          rw [later, recorded]
          rfl
    · rcases bystands.terminal with same | later
      · exact same.trans recorded
      · rw [later, recorded]
        rfl

/-- With the flag up, nobody has any influence on the worker: in every run it is as far as the
number of its steps says. -/
theorem worker_after {s next : System κ} {actions : List (Action κ)}
    (launched : s.demux.Launched) {w : Worker κ} (worker : s.demux.worker = some w)
    (raised : s.demux.buffer.endpoint.flag.raised = true) (ran : s.run actions = some next) :
    next.demux.worker = (s.demux.steps (actions.countP Action.isWork)).worker := by
  induction actions generalizing s w with
  | nil =>
    cases ran
    rfl
  | cons action rest ih =>
    simp only [System.run, Option.bind_eq_bind, Option.bind_eq_some_iff] at ran
    obtain ⟨middle, acted, ran⟩ := ran
    rcases act_cases launched acted with ⟨rfl, rfl⟩ | ⟨other, bystands, -⟩
    · obtain ⟨w', worker'⟩ := Demux.worker_step worker
      rw [List.countP_cons_of_pos rfl]
      refine ih (Demux.launched_step worker launched) worker' ?_ ran
      show s.demux.step.2.buffer.endpoint.flag.raised = true
      rw [Demux.endpoint_step_of_raised worker raised]
      exact raised
    · have bystander : action.isWork = false := by
        cases action with
        | work => exact absurd rfl other
        | _ => rfl
      rw [List.countP_cons_of_neg (by simp [bystander])]
      rw [ih bystands.launched (bystands.worker.trans worker) (bystands.raised raised) ran]
      exact Demux.steps_congr bystands.worker (bystands.buffer_of_raised raised) _

/-- With the flag up, or after its end, the worker is its own master: in every run it
makes the steps that it would make alone. -/
theorem exists_steps_of_trace {s t : System κ} {h h' : History} {actions : List (Action κ)}
    (inv : Recorded s)
    (independent : s.demux.buffer.endpoint.flag.raised = true ∨
      ∃ result, s.demux.workerEnd? = some result)
    (ran : s.trace h actions = some (t, h')) :
    ∃ count, t.demux.worker = (s.demux.steps count).worker := by
  rcases independent with raised | ⟨result, ended⟩
  · obtain ⟨w, worker⟩ := inv.worker
    have followed : s.run actions = some t := by rw [← map_trace s h, ran, Option.map_some]
    exact ⟨_, worker_after inv.launched worker raised followed⟩
  · have kept := trace_invariant
      (I := fun t _ => Recorded t ∧ t.demux.worker = s.demux.worker) ?_ ⟨inv, rfl⟩ ran
    · exact ⟨0, kept.2⟩
    · intro t h action next ⟨inv, worker⟩ acted
      rcases act_cases inv.launched acted with ⟨rfl, rfl⟩ | ⟨other, bystands, -⟩
      · have still : t.demux.workerEnd? = some result := by
          rw [Demux.workerEnd?, worker]
          exact ended
        refine ⟨inv.work, ?_⟩
        show t.demux.step.2.worker = s.demux.worker
        rw [Demux.step_of_ended still]
        exact worker
      · exact ⟨inv.act acted, bystands.worker.trans worker⟩

/-- The worker makes its steps while everybody else rests. -/
theorem trace_replicate_work (s : System κ) (h : History) (count : Nat) :
    ∃ received, s.trace h (List.replicate count .work) =
      some ({ s with demux := s.demux.steps count }, ⟨received, h.given⟩) := by
  induction count generalizing s h with
  | zero => exact ⟨h.received, rfl⟩
  | succ count ih =>
    obtain ⟨received, ran⟩ := ih { s with demux := s.demux.step.2 }
      ⟨h.received ++ s.demux.receipt, h.given⟩
    refine ⟨received, ?_⟩
    rw [List.replicate_succ, trace]
    simp only [act, extend, brings, gives, List.append_nil]
    exact ran

end System

omit [Condition κ] in
/-- A recorded failure leaves the worker to itself. -/
theorem Recorded.independent {s : System κ} {failure : SocketError} (inv : Recorded s)
    (recorded : s.demux.queues.terminal = some failure) :
    s.demux.buffer.endpoint.flag.raised = true ∨ ∃ result, s.demux.workerEnd? = some result := by
  rcases inv.recorded failure recorded with ⟨raised, -⟩ | ⟨result, ended, -⟩
  · exact .inl raised
  · exact .inr ⟨result, ended⟩

/-- **When a recorded failure is final.** If calls of stop have not overlapped, it is. In
any case it is final exactly if the worker, when it is let go on, delivers nothing more
and ends with what is recorded. -/
theorem recorded_failure_final_iff {buffer : StreamBuffer} {conditions : List κ}
    {readers : List Reader} {actions : List (Action κ)} {s : System κ} {h : History}
    {failure : SocketError}
    (ran : (System.mk (Demux.launch buffer conditions) [] readers).trace {} actions =
      some (s, h)) (recorded : s.demux.queues.terminal = some failure) :
    ((System.mk (Demux.launch buffer conditions) [] readers).Orderly actions → s.Final) ∧
      (s.Final ↔ ∃ result, s.demux.settle.workerEnd? = some result ∧
        failure = result.recorded ∧
        ∀ handle, s.demux.settle.queues.queued handle = s.demux.queues.queued handle) := by
  have inv := (Recorded.launch buffer conditions readers).trace ran
  obtain ⟨w, acc⟩ := (Accounts.launch buffer conditions).trace ran
  have exact_condition : s.Final ↔ ∃ result, s.demux.settle.workerEnd? = some result ∧
      failure = result.recorded ∧
      ∀ handle, s.demux.settle.queues.queued handle = s.demux.queues.queued handle := by
    constructor
    · intro final
      -- the run in which the worker goes on alone
      obtain ⟨count, settled⟩ := s.demux.settle_eq_steps
      obtain ⟨received, alone⟩ := s.trace_replicate_work {} count
      obtain ⟨delivered, -, ends⟩ := final _ _ _ alone
      rw [← settled] at delivered ends
      have ended : ∃ result, s.demux.settle.workerEnd? = some result := by
        rcases inv.independent recorded with raised | ⟨result, ended⟩
        · exact Demux.settle_of_raised acc.worker raised
        · rw [Demux.settle_of_ended ended]
          exact ⟨result, ended⟩
      obtain ⟨result, ended⟩ := ended
      refine ⟨result, ended, ?_, delivered⟩
      exact Option.some.inj (recorded.symm.trans (ends result ended))
    · rintro ⟨result, ended, same, delivered⟩ actions' t h' ran'
      obtain ⟨count, worker⟩ := s.exists_steps_of_trace inv (inv.independent recorded) ran'
      obtain ⟨more, settled⟩ := Demux.settle_eq_steps_after ended count
      refine ⟨fun handle => ?_, ?_, fun result' ended' => ?_⟩
      · -- what the worker has delivered by then lies between now and its end
        obtain ⟨w₁, worker₁⟩ := Demux.worker_steps acc.worker count
        have before := Demux.queued_steps acc.worker count handle
        have after := Demux.queued_steps worker₁ more handle
        rw [← settled, delivered handle] at after
        have nothing := before.eq_of_length_le after.length_le
        -- and what it has delivered is the same whoever else was there
        obtain ⟨received, w₂, alone⟩ := acc.steps count
        have onward := System.trace_history ran' h
        simp only [List.append_nil] at onward
        obtain ⟨w₃, among⟩ := acc.trace onward
        have same : w₃ = w₂ := by
          have := among.worker.symm.trans (worker.trans alone.worker)
          exact Option.some.inj this
        have routed := among.routed handle
        rw [same, ← alone.routed handle, ← nothing] at routed
        simpa [History.givenTo] using routed
      · rw [recorded]
        exact s.terminal_trace inv recorded ran'
      · have there : (s.demux.steps count).workerEnd? = some result' := by
          rw [Demux.workerEnd?, ← worker]
          exact ended'
        rw [settled, Demux.steps_of_ended there, there] at ended
        cases ended
        rw [recorded, same]
  refine ⟨fun orderly => exact_condition.mpr ?_, exact_condition⟩
  obtain ⟨result, ended, same⟩ :=
    ((Solo.launch buffer conditions readers).trace orderly ran).own failure recorded
  rw [Demux.settle_of_ended ended]
  exact ⟨result, ended, same, fun _ => rfl⟩

/-- One line on its way, and then silence. -/
def oneLine : StreamBuffer :=
  .wrap { inbound := { events := [⟨.data [97, 10], false, {}⟩] } } 4

/-- A stop that comes between the arrival of the line and its delivery lets the worker
deliver it, and then records finally. -/
theorem oneLine_stopped_finally :
    ∃ s h,
      (System.mk (Demux.launch oneLine [Delimiter.mk 10]) [] []).trace {}
        [.work, .callStop, .goOnStop 0, .goOnStop 0, .work, .work, .work, .work, .work,
          .goOnStop 0, .goOnStop 0] = some (s, h) ∧
        s.demux.queues.terminal = some .terminationRequested ∧
        s.demux.queues.queued ⟨0⟩ = [[97, 10]] ∧ s.Final := by
  have possible : ((System.mk (Demux.launch oneLine [Delimiter.mk 10]) [] []).trace {}
      [.work, .callStop, .goOnStop 0, .goOnStop 0, .work, .work, .work, .work, .work,
        .goOnStop 0, .goOnStop 0]).map
        (fun last => (last.1.demux.queues.terminal, last.1.demux.queues.queued ⟨0⟩,
          last.1.demux.workerEnd?)) =
          some (some .terminationRequested, [[97, 10]], some .cancelled) := by decide
  obtain ⟨⟨s, h⟩, ran, facts⟩ := Option.map_eq_some_iff.mp possible
  obtain ⟨recorded, more⟩ := Prod.mk.inj facts
  obtain ⟨queued, ended⟩ := Prod.mk.inj more
  refine ⟨s, h, ran, recorded, queued, (recorded_failure_final_iff ran recorded).2.mpr ?_⟩
  rw [Demux.settle_of_ended ended]
  exact ⟨.cancelled, ended, rfl, fun _ => rfl⟩

/-- Two stops overlap while a line is about to be delivered. The second one does not
join, and records; a reader is told that termination was requested; and after that the
line is delivered, and read. If the line is still to be shown to a condition that claims
too much, the worker ends with another failure than the recorded one. -/
theorem overlapping_stops_record_too_early :
    (∃ s h t h',
      (System.mk (Demux.launch oneLine [Delimiter.mk 10]) [] []).trace {}
        [.work, .work, .callStop, .callStop, .goOnStop 0, .goOnStop 0, .goOnStop 1, .goOnStop 1,
          .goOnStop 1, .goOnStop 1] = some (s, h) ∧
        s.demux.queues.terminal = some .terminationRequested ∧
        s.demux.queues.pop ⟨0⟩ = (.error .terminationRequested, s.demux.queues) ∧
        s.trace h [.work, .callRead ⟨0⟩ .blocking, .goOnRead 0, .goOnRead 0] = some (t, h') ∧
        h.givenTo ⟨0⟩ = [] ∧ h'.givenTo ⟨0⟩ = [[97, 10]]) ∧
      ∃ s h,
        (System.mk (Demux.launch oneLine
            [((fun data => .cut (data.length + 1)) : Bytes → Decision)]) [] []).trace {}
          [.work, .callStop, .callStop, .goOnStop 0, .goOnStop 0, .goOnStop 1, .goOnStop 1,
            .goOnStop 1, .goOnStop 1, .work, .work] = some (s, h) ∧
          s.demux.queues.terminal = some .terminationRequested ∧
          s.demux.workerEnd? = some (.failed (.invalidCondition 3 2)) := by
  constructor
  · have possible : ((System.mk (Demux.launch oneLine [Delimiter.mk 10]) [] []).trace {}
        [.work, .work, .callStop, .callStop, .goOnStop 0, .goOnStop 0, .goOnStop 1, .goOnStop 1,
          .goOnStop 1, .goOnStop 1]).map
          (fun last => (last.1.demux.queues, last.2.givenTo ⟨0⟩,
            (last.1.trace last.2 [.work, .callRead ⟨0⟩ .blocking, .goOnRead 0, .goOnRead 0]).map
              (fun later => later.2.givenTo ⟨0⟩))) =
            some (⟨[⟨[], ⟨0, true⟩⟩], some .terminationRequested⟩, [], some [[97, 10]]) := by
      decide
    obtain ⟨⟨s, h⟩, ran, facts⟩ := Option.map_eq_some_iff.mp possible
    obtain ⟨queues, more⟩ := Prod.mk.inj facts
    obtain ⟨nothing, later⟩ := Prod.mk.inj more
    obtain ⟨⟨t, h'⟩, ran', given⟩ := Option.map_eq_some_iff.mp later
    refine ⟨s, h, t, h', ran, ?_, ?_, ran', nothing, given⟩
    · rw [queues]
    · rw [queues]
      rfl
  · have possible : ((System.mk (Demux.launch oneLine
        [((fun data => .cut (data.length + 1)) : Bytes → Decision)]) [] []).trace {}
          [.work, .callStop, .callStop, .goOnStop 0, .goOnStop 0, .goOnStop 1, .goOnStop 1,
            .goOnStop 1, .goOnStop 1, .work, .work]).map
          (fun last => (last.1.demux.queues.terminal, last.1.demux.workerEnd?)) =
            some (some .terminationRequested, some (.failed (.invalidCondition 3 2))) := by
      decide +kernel
    obtain ⟨⟨s, h⟩, ran, facts⟩ := Option.map_eq_some_iff.mp possible
    obtain ⟨recorded, ended⟩ := Prod.mk.inj facts
    exact ⟨s, h, ran, recorded, ended⟩

end SocketDemux
