import SocketDemux.Buffer.Basic
import SocketDemux.Demux.Condition
import SocketDemux.Demux.Queues
/-!
# SocketDemux.Demux.Worker

The **demultiplexer** and the steps of its **worker**.

The worker refills the buffer, then asks the conditions, in the order of their
registration, about the buffered bytes. The first one that removes anything gets its
way: its fragment joins its queue, or its bytes are dropped, and the questions start
over with the first condition. When the buffer is empty or every condition has
declined, the worker refills again. It ends with the failure of a refill, with a
condition that claims more than there is, or with one that panics; its end is
recorded as the terminal failure of the queues.

`Demux.step` is one atomic step of the worker: a refill, a question, the removal that
follows from the answer, or the record of its end. Between two steps other threads
may do what they like with the queues and the cancellation flag.

`Demux.settle` lets the worker go on until it waits for data or has ended. That it
gets there is a matter of the `load` (the bytes still to come, counted twice, and
those that are buffered) and, between two removals, of the `rank` of the phase:
`step_moved` says that every step lessens one and never adds to the other before.
-/

namespace SocketDemux

/-- One question to a condition: its index, the data it was shown, and what it
answered. -/
structure Evaluation where
  index : Nat
  data : Bytes
  verdict : Except String Decision

/-- How a worker ended. -/
inductive WorkerEnd
  /-- On request. -/
  | cancelled
  | failed (failure : SocketError)
  /-- A condition has panicked, with this message. -/
  | panicked (message : String)
  deriving Repr, DecidableEq

/-- What a worker does next. -/
inductive Phase
  /-- It refills the buffer. -/
  | refilling
  /-- It asks the condition at `index`, unless the buffer is empty or there is no
  such condition. -/
  | asking (index : Nat)
  /-- It removes what the condition at `index` decided to remove. -/
  | removing (index : Nat) (span : Span)
  /-- It records the failure that ends it. -/
  | failing (failure : SocketError)
  /-- It records that a condition has panicked. -/
  | panicking (message : String)
  | ended (result : WorkerEnd)
  deriving Repr, DecidableEq

/-- A worker: its conditions in their present states, what it does next, and all the
questions it has asked. -/
structure Worker (κ : Type) where
  conditions : List κ
  phase : Phase := .refilling
  journal : List Evaluation := []

/-- Where a demultiplexer is in its life. -/
inductive Lifecycle (κ : Type)
  /-- Conditions are being registered. -/
  | registering (conditions : List κ)
  /-- The worker was started, and nobody has asked to join it. -/
  | running
  | stopped

/-- A demultiplexer: turns the byte stream of a buffer into fragments, one queue for
each condition. The worker stays here after somebody has stopped the
demultiplexer, and after it has ended. -/
structure Demux (κ : Type) where
  buffer : StreamBuffer
  queues : Queues := {}
  lifecycle : Lifecycle κ := .registering []
  worker : Option (Worker κ) := none

/-- What a step has achieved. -/
inductive Progress
  | moved
  /-- The worker waits for data. -/
  | waiting
  /-- There is no worker, or it has ended. -/
  | idle
  deriving Repr, DecidableEq

/-- The end that a failure makes: being cancelled is no failure. -/
def WorkerEnd.ofFailure (failure : SocketError) : WorkerEnd :=
  match failure with
  | .terminationRequested => .cancelled
  | failure => .failed failure

/-- A decision that removes more than there is ends the worker; else its removal is
next, or the next condition if it removes nothing. -/
def Phase.afterVerdict (index buffered : Nat) : Except String Decision → Phase
  | .error message => .panicking message
  | .ok decision =>
      match decision.span? with
      | none => .asking (index + 1)
      | some span =>
          if span.count ≤ buffered then .removing index span
          else .failing (.invalidCondition span.count buffered)

/-- How far a phase is from the next refill, or from the end, with so many
conditions. -/
def Phase.rank (total : Nat) : Phase → Nat
  | .ended _ => 0
  | .failing _ => 1
  | .panicking _ => 1
  | .refilling => 2
  | .removing _ _ => 3
  | .asking index => 4 + (total - index)

/-- An answer leads on. -/
theorem Phase.rank_afterVerdict_lt {index total : Nat} (inside : index < total)
    (buffered : Nat) (verdict : Except String Decision) :
    (Phase.afterVerdict index buffered verdict).rank total < (Phase.asking index).rank total := by
  unfold Phase.afterVerdict
  split
  · simp only [rank]; omega
  · split
    · simp only [rank]; omega
    · split <;> simp only [rank] <;> omega

namespace Demux

variable {κ : Type}

/-- A demultiplexer without conditions. -/
def ofBuffer (buffer : StreamBuffer) : Demux κ := { buffer := buffer }

/-- Puts another endpoint underneath. -/
def setEndpoint (d : Demux κ) (e : Endpoint) : Demux κ :=
  { d with buffer := d.buffer.setEndpoint e }

/-! ### Steps -/

/-- One refill. -/
def refill (d : Demux κ) (w : Worker κ) : Progress × Demux κ :=
  match d.buffer.fillBy none with
  | (.ok _, buffer) =>
      (.moved, { d with buffer := buffer, worker := some { w with phase := .asking 0 } })
  | (.error failure, buffer) =>
      (.moved, { d with buffer := buffer, worker := some { w with phase := .failing failure } })
  | (.waiting, buffer) => (.waiting, { d with buffer := buffer })

/-- One question. -/
def ask [Condition κ] (d : Demux κ) (w : Worker κ) (index : Nat) : Demux κ :=
  if d.buffer.storage.isEmpty then { d with worker := some { w with phase := .refilling } }
  else
    match w.conditions[index]? with
    | none => { d with worker := some { w with phase := .refilling } }
    | some condition =>
        let data := d.buffer.storage.data
        let (verdict, next) := Condition.evaluate condition data
        { d with
          worker := some
            { conditions := w.conditions.set index next
              phase := .afterVerdict index d.buffer.storage.length verdict
              journal := w.journal ++ [⟨index, data, verdict⟩] } }

/-- One removal: the bytes leave the buffer, as a fragment or for good. -/
def remove (d : Demux κ) (w : Worker κ) (index : Nat) (span : Span) : Demux κ :=
  match d.buffer.storage.pop span.count with
  | (.error failure, _) => { d with worker := some { w with phase := .failing failure } }
  | (.ok bytes, storage) =>
      { d with
        buffer := { d.buffer with storage := storage }
        queues := if span.delivered then d.queues.deliver index bytes else d.queues
        worker := some { w with phase := .asking 0 } }

/-- Records the end of the worker. -/
def conclude (d : Demux κ) (w : Worker κ) (failure : SocketError) (result : WorkerEnd) :
    Demux κ :=
  { d with
    queues := d.queues.terminate failure
    worker := some { w with phase := .ended result } }

/-- One step of the worker. -/
def step [Condition κ] (d : Demux κ) : Progress × Demux κ :=
  match d.worker with
  | none => (.idle, d)
  | some w =>
      match w.phase with
      | .refilling => d.refill w
      | .asking index => (.moved, d.ask w index)
      | .removing index span => (.moved, d.remove w index span)
      | .failing failure => (.moved, d.conclude w failure.copy (.ofFailure failure))
      | .panicking message => (.moved, d.conclude w .workerPanicked (.panicked message))
      | .ended _ => (.idle, d)

/-! ### Running until the worker waits or has ended -/

/-- The bytes that the worker may still have to move: those to come must first be
buffered, and those that are buffered must be removed. -/
def load (d : Demux κ) : Nat :=
  2 * d.buffer.endpoint.arrivals.length + d.buffer.storage.filled

/-- The rank of the worker's phase. -/
def rank (d : Demux κ) : Nat :=
  match d.worker with
  | none => 0
  | some w => w.phase.rank w.conditions.length

/-- What a refill does to the bytes there are. -/
theorem load_fillBy {b next : StreamBuffer} {deadline : Deadline}
    {reply : Reply SocketError Nat} (h : b.fillBy deadline = (reply, next)) :
    next.endpoint.arrivals.length ≤ b.endpoint.arrivals.length ∧
      ((∀ count, reply ≠ .ok count) → next.storage.filled = b.storage.filled) := by
  have conserved := congrArg List.length
    (Endpoint.readBy_arrivals b.endpoint b.storage.spare 1 deadline)
  simp only [List.length_append] at conserved
  unfold StreamBuffer.fillBy at h
  split at h
  · cases h; exact ⟨Nat.le_refl _, fun _ => rfl⟩
  · dsimp only at h
    split at h <;> cases h <;> exact ⟨by dsimp only; omega, fun other => by simp_all⟩

theorem refill_moved {d next : Demux κ} {w : Worker κ} (phase : w.phase = .refilling)
    (worker : d.worker = some w) (h : d.refill w = (.moved, next)) :
    next.load < d.load ∨ (next.load ≤ d.load ∧ next.rank < d.rank) := by
  unfold refill at h
  split at h
  · next filled =>
    cases h
    obtain ⟨bytes, length, some, data, _, rest⟩ := StreamBuffer.fillBy_ok filled
    have rest := congrArg List.length rest
    have data := congrArg List.length data
    simp at rest data
    left
    simp only [load]
    omega
  · next refused =>
    cases h
    have := load_fillBy refused
    right
    simp only [load, rank, Phase.rank, worker, phase]
    have := this.2 (by simp)
    omega
  · cases h

theorem ask_moved [Condition κ] {d : Demux κ} {w : Worker κ} {index : Nat}
    (phase : w.phase = .asking index) (worker : d.worker = some w) :
    (d.ask w index).load ≤ d.load ∧ (d.ask w index).rank < d.rank := by
  unfold ask
  split
  · simp only [load, rank, Phase.rank, worker, phase]; omega
  · split
    · simp only [load, rank, Phase.rank, worker, phase]; omega
    · next condition there =>
      have inside : index < w.conditions.length := (List.getElem?_eq_some_iff.mp there).1
      refine ⟨by simp [load], ?_⟩
      simp only [rank, worker, phase, List.length_set]
      exact Phase.rank_afterVerdict_lt inside _ _

theorem remove_moved {d : Demux κ} {w : Worker κ} {index : Nat} {span : Span}
    (phase : w.phase = .removing index span) (worker : d.worker = some w) :
    (d.remove w index span).load < d.load ∨
      ((d.remove w index span).load ≤ d.load ∧ (d.remove w index span).rank < d.rank) := by
  have some := span.count_pos
  unfold remove
  by_cases enough : span.count ≤ d.buffer.storage.filled
  · left
    rw [Storage.pop_of_le enough]
    simp only [load, Storage.filled_shift]
    omega
  · right
    rw [Storage.pop_of_lt (by omega)]
    simp [load, rank, Phase.rank, worker, phase]

/-- Every step lessens the load, or the rank without adding to the load. -/
theorem step_moved [Condition κ] {d next : Demux κ} (h : d.step = (.moved, next)) :
    next.load < d.load ∨ (next.load ≤ d.load ∧ next.rank < d.rank) := by
  unfold step at h
  split at h
  · cases h
  · next w worker =>
    split at h
    · next phase => exact refill_moved phase worker h
    · next phase => cases h; exact .inr (ask_moved phase worker)
    · next phase => cases h; exact remove_moved phase worker
    · next phase =>
      cases h
      right
      simp [load, rank, Phase.rank, worker, phase, conclude]
    · next phase =>
      cases h
      right
      simp [load, rank, Phase.rank, worker, phase, conclude]
    · cases h

/-- Lets the worker go on until it waits for data or has ended. -/
def settle [Condition κ] (d : Demux κ) : Demux κ :=
  match _call : d.step with
  | (.moved, next) => settle next
  | (_, next) => next
termination_by (d.load, d.rank)
decreasing_by
  rcases step_moved _call with less | ⟨same, less⟩
  · exact Prod.Lex.left _ _ less
  · rcases Nat.lt_or_eq_of_le same with less' | equal
    · exact Prod.Lex.left _ _ less'
    · rw [equal]
      exact Prod.Lex.right _ less

end Demux

end SocketDemux
