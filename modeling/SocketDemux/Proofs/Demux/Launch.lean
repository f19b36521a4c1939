import SocketDemux.Demux.Basic
/-!
# SocketDemux.Proofs.Demux.Launch

A demultiplexer **from its buffer to its start**: conditions are registered one after
the other, then the worker is started.

* `Demux.registerAll` — registers a list of conditions; the answers are the handles.
* `Demux.launch` — registers them, and starts the worker.
* `registerAll_handles` — the handle of a condition is its place in the list, as is the
  slot that is made for it; so conditions and slots cannot get out of step.
* `Demux.Launched` — from then on registering and starting are refused, and change
  nothing.
-/

namespace SocketDemux

variable {κ : Type}

namespace Demux

/-- Registers conditions one after the other. Gives the answers. -/
def registerAll (d : Demux κ) : List κ → List (Except SocketError Handle) × Demux κ
  | [] => ([], d)
  | condition :: rest =>
      let (answer, d) := d.register condition
      let (answers, d) := d.registerAll rest
      (answer :: answers, d)

/-- Registers conditions on top of a buffer, and starts the worker. -/
def launch (buffer : StreamBuffer) (conditions : List κ) : Demux κ :=
  ((ofBuffer buffer).registerAll conditions).2.start.2

/-- While conditions can be registered, each one gets the next slot and its number. -/
theorem registerAll_of_registering {d : Demux κ} {before : List κ}
    (registering : d.lifecycle = .registering before) (conditions : List κ) :
    d.registerAll conditions =
      ((List.range' d.queues.slots.length conditions.length).map fun index => .ok ⟨index⟩,
        { d with
          queues := { d.queues with
            slots := d.queues.slots ++ List.replicate conditions.length {} }
          lifecycle := .registering (before ++ conditions) }) := by
  induction conditions generalizing d before with
  | nil =>
    obtain ⟨buffer, queues, lifecycle, worker⟩ := d
    cases registering
    simp [registerAll]
  | cons condition rest ih =>
    have first : d.register condition =
        (.ok ⟨d.queues.slots.length⟩,
          { d with
            queues := { d.queues with slots := d.queues.slots ++ [{}] }
            lifecycle := .registering (before ++ [condition]) }) := by
      simp [register, registering, Queues.addSlot]
    -- the others find one slot and one condition more
    rw [registerAll, first]
    dsimp only
    rw [ih rfl]
    simp [List.range'_succ, List.replicate_succ]

/-- The handle of a condition is its place in the order of registration. -/
theorem registerAll_handles (buffer : StreamBuffer) (conditions : List κ) (index : Nat) :
    ((ofBuffer buffer).registerAll conditions).1[index]? =
      if index < conditions.length then some (.ok ⟨index⟩) else none := by
  rw [registerAll_of_registering (d := ofBuffer buffer) rfl]
  by_cases inside : index < conditions.length
  · rw [if_pos inside]
    simp [ofBuffer, inside]
  · rw [if_neg inside]
    simp [ofBuffer]
    omega

/-- What a launched demultiplexer looks like. -/
theorem launch_eq (buffer : StreamBuffer) (conditions : List κ) :
    launch buffer conditions =
      { buffer := buffer
        queues := { slots := List.replicate conditions.length {} }
        lifecycle := .running
        worker := some { conditions := conditions } } := by
  rw [launch, registerAll_of_registering (d := ofBuffer buffer) rfl]
  simp [start, ofBuffer]

@[simp] theorem launch_buffer (buffer : StreamBuffer) (conditions : List κ) :
    (launch buffer conditions).buffer = buffer := by
  rw [launch_eq]

@[simp] theorem launch_worker (buffer : StreamBuffer) (conditions : List κ) :
    (launch buffer conditions).worker = some { conditions := conditions } := by
  rw [launch_eq]

@[simp] theorem launch_terminal (buffer : StreamBuffer) (conditions : List κ) :
    (launch buffer conditions).queues.terminal = none := by
  rw [launch_eq]

@[simp] theorem launch_lifecycle (buffer : StreamBuffer) (conditions : List κ) :
    (launch buffer conditions).lifecycle = .running := by
  rw [launch_eq]

/-! ### From then on -/

/-- The demultiplexer is started or stopped: registering and starting are refused. -/
def Launched (d : Demux κ) : Prop := ∀ conditions, d.lifecycle ≠ .registering conditions

theorem launched_launch (buffer : StreamBuffer) (conditions : List κ) :
    (launch buffer conditions).Launched := by
  intro registered wrong
  rw [launch_lifecycle] at wrong
  cases wrong

/-- Nobody can register a condition any more. -/
theorem Launched.register_eq {d : Demux κ} (launched : d.Launched) (condition : κ) :
    (d.register condition).2 = d := by
  unfold register
  split
  · next registering => exact absurd registering (launched _)
  · rfl

/-- Nobody can start it any more. -/
theorem Launched.start_eq {d : Demux κ} (launched : d.Launched) : d.start.2 = d := by
  unfold start
  split
  · next registering => exact absurd registering (launched _)
  · rfl

end Demux

end SocketDemux
