import SocketDemux.Demux.Interleaving
import SocketDemux.Proofs.Buffer.Refill
/-!
# SocketDemux.Proofs.Demux.Step

Everything that **one step of the worker** can do, said once.

`WorkerStep d w next` lists the steps of a worker `w` of the demultiplexer `d`, each
with the guard under which it is made and with what it does to the buffered bytes and
to the stream; `step_cases` says that there are no others. Whatever the worker keeps
is read off this list, and not off the definition of the step.

`Demux.steps` makes a number of steps, and `settle_eq_steps` says that letting the
worker go on until it waits or has ended is no more than that.
-/

namespace SocketDemux

variable {κ : Type} [Condition κ]

/-- The question about `data` to the condition at `index`, with its answer. -/
def Condition.question (condition : κ) (index : Nat) (data : Bytes) : Evaluation :=
  ⟨index, data, (evaluate condition data).1⟩

/-- The worker after it has asked the condition at `index` about `data`. -/
def Worker.asked (w : Worker κ) (index : Nat) (condition : κ) (data : Bytes) : Worker κ where
  conditions := w.conditions.set index (Condition.evaluate condition data).2
  phase := .afterVerdict index data.length (Condition.evaluate condition data).1
  journal := w.journal ++ [Condition.question condition index data]

/-- The steps of a worker. -/
inductive WorkerStep (d : Demux κ) (w : Worker κ) : Demux κ → Prop
  /-- A refill has brought bytes. -/
  | refilled {buffer : StreamBuffer} (phase : w.phase = .refilling)
      (call : ∃ count, d.buffer.fillBy none = (.ok count, buffer))
      (news : d.buffer.incoming none ≠ [])
      (data : buffer.storage.data = d.buffer.storage.data ++ d.buffer.incoming none)
      (capacity : buffer.storage.capacity = d.buffer.storage.capacity)
      (stream : d.buffer.incoming none ++ buffer.endpoint.arrivals =
        d.buffer.endpoint.arrivals) :
      WorkerStep d w { d with buffer := buffer, worker := some { w with phase := .asking 0 } }
  /-- A refill has failed. -/
  | refused {buffer : StreamBuffer} {failure : SocketError} (phase : w.phase = .refilling)
      (call : d.buffer.fillBy none = (.error failure, buffer))
      (nothing : d.buffer.incoming none = [])
      (data : buffer.storage.data = d.buffer.storage.data)
      (capacity : buffer.storage.capacity = d.buffer.storage.capacity)
      (stream : buffer.endpoint.arrivals = d.buffer.endpoint.arrivals) :
      WorkerStep d w
        { d with buffer := buffer, worker := some { w with phase := .failing failure } }
  /-- A refill waits for bytes. -/
  | waited {buffer : StreamBuffer} (phase : w.phase = .refilling)
      (call : d.buffer.fillBy none = (.waiting, buffer))
      (nothing : d.buffer.incoming none = [])
      (data : buffer.storage.data = d.buffer.storage.data)
      (capacity : buffer.storage.capacity = d.buffer.storage.capacity)
      (stream : buffer.endpoint.arrivals = d.buffer.endpoint.arrivals) :
      WorkerStep d w { d with buffer := buffer }
  /-- There is nothing to ask about, or nobody left to ask. -/
  | passed {index : Nat} (phase : w.phase = .asking index)
      (done : d.buffer.storage.data = [] ∨ w.conditions[index]? = none) :
      WorkerStep d w { d with worker := some { w with phase := .refilling } }
  /-- A condition is asked. -/
  | asked {index : Nat} {condition : κ} (phase : w.phase = .asking index)
      (present : d.buffer.storage.data ≠ []) (there : w.conditions[index]? = some condition) :
      WorkerStep d w
        { d with worker := some (w.asked index condition d.buffer.storage.data) }
  /-- The bytes that a condition decided on are removed. -/
  | removed {index : Nat} {span : Span} {storage : Storage}
      (phase : w.phase = .removing index span)
      (enough : span.count ≤ d.buffer.storage.data.length)
      (data : storage.data = d.buffer.storage.data.drop span.count)
      (capacity : storage.capacity = d.buffer.storage.capacity) :
      WorkerStep d w
        { d with
          buffer := { d.buffer with storage := storage }
          queues := if span.delivered
            then d.queues.deliver index (d.buffer.storage.data.take span.count) else d.queues
          worker := some { w with phase := .asking 0 } }
  /-- There are not so many bytes to remove. -/
  | overdrawn {index : Nat} {span : Span} (phase : w.phase = .removing index span)
      (short : d.buffer.storage.data.length < span.count) :
      WorkerStep d w
        { d with
          worker := some
            { w with phase := .failing (.outOfRange span.count d.buffer.storage.data.length) } }
  /-- The failure that ends the worker is recorded. -/
  | concluded {failure : SocketError} (phase : w.phase = .failing failure) :
      WorkerStep d w (d.conclude w failure.copy (.ofFailure failure))
  /-- The panic that ends the worker is recorded. -/
  | panicked {message : String} (phase : w.phase = .panicking message) :
      WorkerStep d w (d.conclude w .workerPanicked (.panicked message))
  /-- There is nothing left to do. -/
  | rested {result : WorkerEnd} (phase : w.phase = .ended result) : WorkerStep d w d

namespace Demux

theorem refill_cases {d : Demux κ} {w : Worker κ} (phase : w.phase = .refilling) :
    WorkerStep d w (d.refill w).2 := by
  unfold refill
  split
  · next count buffer call =>
    obtain ⟨data, capacity, stream, news⟩ := StreamBuffer.fillBy_incoming call
    exact .refilled phase ⟨count, call⟩ (news.mpr ⟨count, rfl⟩) data capacity stream
  · next failure buffer call =>
    have nothing := StreamBuffer.incoming_eq_nil call (fun count => by simp)
    obtain ⟨data, capacity, stream, -⟩ := StreamBuffer.fillBy_incoming call
    rw [nothing] at data stream
    exact .refused phase call nothing (by rw [data, List.append_nil]) capacity stream
  · next buffer call =>
    have nothing := StreamBuffer.incoming_eq_nil call (fun count => by simp)
    obtain ⟨data, capacity, stream, -⟩ := StreamBuffer.fillBy_incoming call
    rw [nothing] at data stream
    exact .waited phase call nothing (by rw [data, List.append_nil]) capacity stream

theorem ask_cases {d : Demux κ} {w : Worker κ} {index : Nat} (phase : w.phase = .asking index) :
    WorkerStep d w (d.ask w index) := by
  unfold ask
  split
  · next empty => exact .passed phase (.inl ((Storage.isEmpty_iff _).mp empty))
  · next present =>
    split
    · next nobody => exact .passed phase (.inr nobody)
    · next condition there =>
      have length : d.buffer.storage.length = d.buffer.storage.data.length :=
        (Storage.length_data _).symm
      rw [length]
      exact .asked phase (fun empty => present ((Storage.isEmpty_iff _).mpr empty)) there

theorem remove_cases {d : Demux κ} {w : Worker κ} {index : Nat} {span : Span}
    (phase : w.phase = .removing index span) : WorkerStep d w (d.remove w index span) := by
  unfold remove
  by_cases enough : span.count ≤ d.buffer.storage.filled
  · rw [Storage.pop_of_le enough]
    exact .removed phase (by rw [Storage.length_data]; exact enough) (Storage.data_shift ..)
      (Storage.capacity_shift ..)
  · rw [Storage.pop_of_lt (by omega), ← Storage.length_data]
    exact .overdrawn phase (by rw [Storage.length_data]; omega)

/-- The worker makes no other steps than those. -/
theorem step_cases {d : Demux κ} {w : Worker κ} (worker : d.worker = some w) :
    WorkerStep d w d.step.2 := by
  unfold step
  rw [worker]
  dsimp only
  split
  · next phase => exact refill_cases phase
  · next phase => exact ask_cases phase
  · next phase => exact remove_cases phase
  · next phase => exact .concluded phase
  · next phase => exact .panicked phase
  · next phase => exact .rested phase

/-- A worker stays there. -/
theorem worker_step {d : Demux κ} {w : Worker κ} (worker : d.worker = some w) :
    ∃ w', d.step.2.worker = some w' := by
  have step := step_cases worker
  generalize d.step.2 = next at step ⊢
  cases step with
  | waited | rested => exact ⟨w, worker⟩
  | _ => exact ⟨_, rfl⟩

/-- What others can do with the demultiplexer is none of the worker's business. -/
theorem lifecycle_step {d : Demux κ} {w : Worker κ} (worker : d.worker = some w) :
    d.step.2.lifecycle = d.lifecycle := by
  have step := step_cases worker
  generalize d.step.2 = next at step ⊢
  cases step with
  | _ => rfl

/-- A step moves the worker on, unless it waits for bytes or has ended. -/
theorem step_fst {d : Demux κ} {w : Worker κ} (worker : d.worker = some w) :
    d.step.1 = .moved ∨ (w.phase = .refilling ∧ (d.buffer.fillBy none).1 = .waiting) ∨
      ∃ result, w.phase = .ended result := by
  unfold step
  rw [worker]
  dsimp only
  split
  · next phase =>
    unfold refill
    split
    · exact .inl rfl
    · exact .inl rfl
    · next call => exact .inr (.inl ⟨phase, by rw [call]⟩)
  · exact .inl rfl
  · exact .inl rfl
  · exact .inl rfl
  · exact .inl rfl
  · next result phase => exact .inr (.inr ⟨result, phase⟩)

/-! ### Several steps -/

/-- The demultiplexer after so many steps of its worker. -/
def steps (d : Demux κ) : Nat → Demux κ
  | 0 => d
  | count + 1 => d.step.2.steps count

theorem steps_add (d : Demux κ) (first second : Nat) :
    d.steps (first + second) = (d.steps first).steps second := by
  induction first generalizing d with
  | zero => rw [Nat.zero_add, steps]
  | succ first ih =>
    rw [Nat.add_right_comm, steps, steps]
    exact ih _

omit [Condition κ] in
/-- How a worker has ended can be seen from outside. -/
theorem workerEnd?_of_ended {d : Demux κ} {w : Worker κ} {result : WorkerEnd}
    (worker : d.worker = some w) (phase : w.phase = .ended result) :
    d.workerEnd? = some result := by
  obtain ⟨conditions, _, journal⟩ := w
  cases phase
  rw [workerEnd?, worker]

omit [Condition κ] in
theorem phase_of_workerEnd? {d : Demux κ} {w : Worker κ} {result : WorkerEnd}
    (worker : d.worker = some w) (ended : d.workerEnd? = some result) :
    w.phase = .ended result := by
  obtain ⟨conditions, phase, journal⟩ := w
  rw [workerEnd?, worker] at ended
  cases phase with
  | ended => cases ended; rfl
  | _ => cases ended

/-- A worker that has ended makes no step. -/
theorem step_of_ended {d : Demux κ} {result : WorkerEnd} (ended : d.workerEnd? = some result) :
    d.step = (.idle, d) := by
  unfold workerEnd? at ended
  split at ended
  · next worker => simp [step, worker]
  · cases ended

theorem steps_of_ended {d : Demux κ} {result : WorkerEnd} (ended : d.workerEnd? = some result)
    (count : Nat) : d.steps count = d := by
  induction count with
  | zero => rfl
  | succ count ih => rw [steps, step_of_ended ended]; exact ih

/-- Settling is making a number of steps. -/
theorem settle_eq_steps (d : Demux κ) : ∃ count, d.settle = d.steps count := by
  fun_induction settle d with
  | case1 d next call ih =>
    obtain ⟨count, settled⟩ := ih
    refine ⟨count + 1, ?_⟩
    rw [steps, call]
    exact settled
  | case2 d progress next _ call => exact ⟨1, by rw [steps, call]; rfl⟩

/-- What the worker is found at once it has settled: it waits, or has ended. -/
theorem settle_of_moved {d next : Demux κ} (call : d.step = (.moved, next)) :
    d.settle = next.settle := by
  rw [settle]
  split
  · next h => rw [call] at h; cases h; rfl
  · next h => rw [call] at h; cases h; simp_all

theorem settle_of_ended {d : Demux κ} {result : WorkerEnd} (ended : d.workerEnd? = some result) :
    d.settle = d := by
  rw [settle]
  split
  · next h => rw [step_of_ended ended] at h; cases h
  · next h => rw [step_of_ended ended] at h; cases h; rfl

/-- A worker that never has to wait comes to its end, and what its steps keep holds there. -/
theorem settle_invariant {I : Demux κ → Prop} (worker : ∀ d, I d → ∃ w, d.worker = some w)
    (keeps : ∀ d, I d → I d.step.2)
    (goesOn : ∀ d w, I d → d.worker = some w → w.phase = .refilling →
      (d.buffer.fillBy none).1 ≠ .waiting)
    {d : Demux κ} (start : I d) :
    I d.settle ∧ ∃ result, d.settle.workerEnd? = some result := by
  -- along the steps that are made; the last one that is tried is not a move any more
  induction d using settle.induct with
  | case1 d next call ih =>
    have kept := keeps d start
    rw [call] at kept
    rw [settle_of_moved call]
    exact ih kept
  | case2 d progress next still call =>
    obtain ⟨w, there⟩ := worker d start
    rcases step_fst there with moved | ⟨phase, waiting⟩ | ⟨result, phase⟩
    · rw [call] at moved
      exact absurd moved still
    · exact absurd waiting (goesOn d w start there phase)
    · have ended := workerEnd?_of_ended there phase
      rw [settle_of_ended ended]
      exact ⟨start, result, ended⟩

/-- What the worker does is decided by itself and the buffer, not by the queues. -/
theorem step_congr {d d' : Demux κ} (worker : d'.worker = d.worker)
    (buffer : d'.buffer = d.buffer) :
    d'.step.2.worker = d.step.2.worker ∧ d'.step.2.buffer = d.step.2.buffer := by
  obtain ⟨buffer', queues', lifecycle', worker'⟩ := d'
  obtain ⟨buffer'', queues, lifecycle, worker''⟩ := d
  dsimp only at worker buffer
  subst worker buffer
  unfold step
  -- in every phase, the branch that is taken depends on the two that agree
  cases worker' with
  | none => exact ⟨rfl, rfl⟩
  | some w =>
    dsimp only
    cases w.phase with
    | refilling =>
      unfold refill
      dsimp only
      split <;> exact ⟨rfl, rfl⟩
    | asking index =>
      unfold ask
      dsimp only
      split
      · exact ⟨rfl, rfl⟩
      · split <;> exact ⟨rfl, rfl⟩
    | removing index span =>
      unfold remove
      dsimp only
      split <;> exact ⟨rfl, rfl⟩
    | failing failure => exact ⟨rfl, rfl⟩
    | panicking message => exact ⟨rfl, rfl⟩
    | ended result => exact ⟨rfl, rfl⟩

/-- Nor do several steps depend on anything else. -/
theorem steps_congr {d d' : Demux κ} (worker : d'.worker = d.worker)
    (buffer : d'.buffer = d.buffer) (count : Nat) :
    (d'.steps count).worker = (d.steps count).worker := by
  induction count generalizing d d' with
  | zero => exact worker
  | succ count ih =>
    obtain ⟨worker, buffer⟩ := step_congr worker buffer
    exact ih worker buffer

/-! ### With the flag up -/

/-- Once cancellation is requested, the worker does not touch the endpoint any more. -/
theorem endpoint_step_of_raised {d : Demux κ} {w : Worker κ} (worker : d.worker = some w)
    (raised : d.buffer.endpoint.flag.raised = true) :
    d.step.2.buffer.endpoint = d.buffer.endpoint := by
  have refill := StreamBuffer.fillBy_of_raised raised none
  have step := step_cases worker
  generalize d.step.2 = next at step ⊢
  cases step with
  | refilled phase call =>
    obtain ⟨count, call⟩ := call
    rw [refill] at call
    cases call
  | refused phase call =>
    rw [refill] at call
    cases call
    rfl
  | waited phase call =>
    rw [refill] at call
    cases call
  | _ => rfl

/-- Once cancellation is requested, the worker comes to its end. -/
theorem settle_of_raised {d : Demux κ} {w : Worker κ} (worker : d.worker = some w)
    (raised : d.buffer.endpoint.flag.raised = true) :
    ∃ result, d.settle.workerEnd? = some result := by
  have settled := settle_invariant
    (I := fun d => (∃ w, d.worker = some w) ∧ d.buffer.endpoint.flag.raised = true)
    (fun d start => start.1) ?_ ?_ ⟨⟨w, worker⟩, raised⟩
  · exact settled.2
  · intro d ⟨⟨w, worker⟩, raised⟩
    refine ⟨worker_step worker, ?_⟩
    rw [endpoint_step_of_raised worker raised]
    exact raised
  · intro d w ⟨_, raised⟩ _ _ waiting
    rw [StreamBuffer.fillBy_of_raised raised] at waiting
    cases waiting

end Demux

end SocketDemux
