import SocketDemux.Proofs.Demux.History
/-!
# SocketDemux.Proofs.Demux.Regular

What holds of a demultiplexer **from the moment it is made**, whatever any thread does
with it: while conditions are being registered, while the worker runs, and after its end.

* `Fatal` — the failures that can be recorded as the end of a demultiplexer.
* `Queues.Uniform` — the signals and the recorded failure agree: all signals are closed if
  a failure is recorded, and none is if not (`Queues.AllClosed`).
* `Demux.Regular`, `System.Regular` — the invariant. The number of slots is the number of
  conditions, so that no fragment is delivered past the slots; a worker that has ended,
  and a stop that has returned, leave a record.
* `System.regular_of_reachable` — it holds in every state that a fresh demultiplexer can
  come to.
-/

namespace SocketDemux

/-- The failures that end a demultiplexer. -/
inductive Fatal : SocketError → Prop
  | exhausted (capacity : Nat) : Fatal (.bufferExhausted capacity)
  | refused {failure : SocketError} (read : ReadFailure failure) : Fatal failure
  | overclaimed (requested buffered : Nat) : Fatal (.invalidCondition requested buffered)
  | panicked : Fatal .workerPanicked

namespace Fatal

variable {failure : SocketError}

theorem copy (fatal : Fatal failure) : Fatal failure.copy := by
  cases fatal with
  | exhausted capacity => exact .exhausted capacity
  | overclaimed requested buffered => exact .overclaimed requested buffered
  | panicked => exact .panicked
  | refused read =>
    cases read with
    | closed => exact .refused .closed
    | cancelled => exact .refused .cancelled
    | read error => exact .refused (.read _)
    | poll error => exact .refused (.poll _)

/-- Nobody is told that his time has run out when the demultiplexer has ended. -/
theorem ne_readTimeout (fatal : Fatal failure) : failure ≠ .readTimeout := by
  rintro rfl
  cases fatal with
  | refused read => cases read

/-- Nor that there is no data. -/
theorem ne_noData (fatal : Fatal failure) : failure ≠ .noData := by
  rintro rfl
  cases fatal with
  | refused read => cases read

end Fatal

/-! ### The signals -/

namespace Queues

/-- Every signal is closed, or no signal is. -/
def AllClosed (q : Queues) (closed : Bool) : Prop :=
  ∀ handle slot, q.slot? handle = some slot → slot.signal.closed = closed

/-- Every signal is closed if a failure is recorded, and no signal is if not. -/
def Uniform (q : Queues) : Prop := q.AllClosed q.terminal.isSome

variable {q : Queues} {closed : Bool}

/-- A change of a slot that leaves its signal as closed as it was. -/
theorem AllClosed.modifySlot (all : q.AllClosed closed) {handle : Handle} {change : Slot → Slot}
    (keeps : ∀ slot, q.slot? handle = some slot → slot.signal.closed = closed →
      (change slot).signal.closed = closed) :
    (q.modifySlot handle.index change).AllClosed closed := by
  intro target slot found
  rw [slot?_modifySlot] at found
  by_cases same : handle.index = target.index
  · rw [if_pos same, Option.map_eq_some_iff] at found
    obtain ⟨before, found, rfl⟩ := found
    have here : q.slot? handle = some before := by
      rw [slot?, same]
      exact found
    exact keeps before here (all target before found)
  · rw [if_neg same] at found
    exact all target slot found

theorem Uniform.deliver (uniform : q.Uniform) (index : Nat) (fragment : Bytes) :
    (q.deliver index fragment).Uniform :=
  @AllClosed.modifySlot q _ uniform ⟨index⟩ _ fun _ _ same => same

/-- Whoever records a failure closes all signals. -/
theorem uniform_terminate (q : Queues) (failure : SocketError) : (q.terminate failure).Uniform := by
  intro handle slot found
  simp only [slot?, terminate, List.getElem?_map, Option.map_eq_some_iff] at found
  obtain ⟨before, -, rfl⟩ := found
  rw [terminal_terminate]
  cases q.terminal <;> rfl

/-- A new slot is open, so it comes before any record. -/
theorem Uniform.addSlot (uniform : q.Uniform) (unrecorded : q.terminal = none) :
    q.addSlot.2.Uniform := by
  intro handle slot found
  have before := uniform handle slot
  simp only [Queues.addSlot, slot?, List.getElem?_append] at found
  split at found
  · exact before found
  · rw [List.getElem?_singleton] at found
    split at found
    · cases found
      simp [Queues.addSlot, unrecorded]
    · cases found

end Queues

/-- What a reader does leaves the queues uniform. -/
theorem Queues.Uniform.readStep {q next : Queues} {reader after : Reader} (uniform : q.Uniform)
    (step : ReadStep q reader after next) : next.Uniform := by
  cases step with
  | unknown => exact uniform
  | again => exact uniform
  | @passed slot signal phase found passed =>
    refine AllClosed.modifySlot uniform fun there same closed => ?_
    rw [found] at same
    cases same
    rcases Signal.pass?_cases passed with ⟨-, rfl⟩ | ⟨-, -, rfl⟩
    · exact closed
    · exact closed
  | returned phase pop =>
    rcases Queues.pop_inv pop with rfl | ⟨rest, rfl⟩
    · exact uniform
    · exact AllClosed.modifySlot uniform fun _ _ closed => closed

/-! ### The invariant -/

variable {κ : Type}

/-- What the phase of a worker says about its demultiplexer. -/
def Demux.Admits (d : Demux κ) : Phase → Prop
  | .removing index span =>
      index < d.queues.slots.length ∧ span.count ≤ d.buffer.storage.data.length
  | .failing failure => Fatal failure
  | .ended _ => d.queues.terminal ≠ none
  | _ => True

/-- What holds of a demultiplexer at any time. -/
structure Demux.Regular (d : Demux κ) : Prop where
  uniform : d.queues.Uniform
  fatal : ∀ failure, d.queues.terminal = some failure → Fatal failure
  /-- Nothing can be recorded as long as conditions can be registered. -/
  registering : ∀ conditions, d.lifecycle = .registering conditions →
    d.worker = none ∧ d.queues.terminal = none ∧ d.queues.slots.length = conditions.length
  working : ∀ w, d.worker = some w →
    d.Launched ∧ d.queues.slots.length = w.conditions.length ∧ d.Admits w.phase

/-- Without a worker, nobody makes its steps. -/
theorem Demux.step_of_idle [Condition κ] {d : Demux κ} (idle : d.worker = none) :
    d.step = (.idle, d) := by
  unfold Demux.step
  rw [idle]

/-- What a phase says does not depend on more than that. -/
theorem Demux.Admits.congr {d next : Demux κ} {phase : Phase} (admits : d.Admits phase)
    (slots : next.queues.slots.length = d.queues.slots.length)
    (storage : next.buffer.storage = d.buffer.storage)
    (kept : d.queues.terminal ≠ none → next.queues.terminal ≠ none) : next.Admits phase := by
  cases phase with
  | removing index span =>
    obtain ⟨inside, enough⟩ := admits
    refine ⟨?_, ?_⟩
    · rw [slots]
      exact inside
    · rw [storage]
      exact enough
  | failing failure => exact admits
  | ended result => exact kept admits
  | _ => trivial

/-- Whatever a condition answers, the worker will not remove more than there is. -/
theorem Demux.admits_afterVerdict {d : Demux κ} {index : Nat}
    (inside : index < d.queues.slots.length) (verdict : Except String Decision) :
    d.Admits (.afterVerdict index d.buffer.storage.data.length verdict) := by
  unfold Phase.afterVerdict
  split
  · trivial
  · split
    · trivial
    · next span _ =>
      by_cases enough : span.count ≤ d.buffer.storage.data.length
      · rw [if_pos enough]
        exact ⟨inside, enough⟩
      · rw [if_neg enough]
        exact .overclaimed _ _

namespace Demux.Regular

variable {d next : Demux κ}

theorem ofBuffer (buffer : StreamBuffer) : (Demux.ofBuffer buffer : Demux κ).Regular where
  uniform := by
    intro handle slot found
    cases found
  fatal failure wrong := by cases wrong
  registering conditions same := by
    cases same
    exact ⟨rfl, rfl, rfl⟩
  working w wrong := by cases wrong

/-- A thread that touches neither the worker nor the bytes, and leaves as many slots. -/
theorem bystand (regular : d.Regular) (worker : next.worker = d.worker)
    (lifecycle : next.lifecycle = d.lifecycle ∨ next.lifecycle = .stopped)
    (storage : next.buffer.storage = d.buffer.storage)
    (slots : next.queues.slots.length = d.queues.slots.length)
    (uniform : next.queues.Uniform)
    (terminal : next.queues.terminal = d.queues.terminal ∨
      (d.Launched ∧ next.queues.terminal = d.queues.terminal.or (some .terminationRequested))) :
    next.Regular where
  uniform := uniform
  fatal failure there := by
    rcases terminal with same | ⟨-, recorded⟩
    · rw [same] at there
      exact regular.fatal failure there
    · rw [recorded, Option.or_eq_some_iff] at there
      rcases there with earlier | ⟨-, new⟩
      · exact regular.fatal failure earlier
      · cases new
        exact .refused .cancelled
  registering conditions there := by
    rcases lifecycle with same | stopped
    · rw [same] at there
      obtain ⟨idle, unrecorded, length⟩ := regular.registering conditions there
      refine ⟨worker.trans idle, ?_, slots.trans length⟩
      rcases terminal with same | ⟨launched, -⟩
      · exact same.trans unrecorded
      · exact absurd there (launched conditions)
    · rw [stopped] at there
      cases there
  working w there := by
    rw [worker] at there
    obtain ⟨launched, length, admits⟩ := regular.working w there
    refine ⟨?_, slots.trans length, admits.congr slots storage ?_⟩
    · intro conditions wrong
      rcases lifecycle with same | stopped
      · rw [same] at wrong
        exact launched conditions wrong
      · rw [stopped] at wrong
        cases wrong
    · intro recorded
      rcases terminal with same | ⟨-, again⟩
      · rw [same]
        exact recorded
      · rw [again, Ne, Option.or_eq_none_iff]
        exact fun wrong => recorded wrong.1

/-- Registering adds a condition and a slot, or is refused. -/
theorem register (regular : d.Regular) (condition : κ) : (d.register condition).2.Regular := by
  unfold Demux.register
  split
  · next conditions registering =>
    obtain ⟨idle, unrecorded, length⟩ := regular.registering conditions registering
    refine ⟨regular.uniform.addSlot unrecorded, regular.fatal, ?_, ?_⟩
    · intro others same
      cases same
      refine ⟨idle, unrecorded, ?_⟩
      simp [Queues.addSlot, length]
    · intro w wrong
      rw [show d.worker = none from idle] at wrong
      cases wrong
  · exact regular

/-- The worker starts with a condition for every slot. -/
theorem start (regular : d.Regular) : d.start.2.Regular := by
  unfold Demux.start
  split
  · next conditions registering =>
    obtain ⟨-, -, length⟩ := regular.registering conditions registering
    refine ⟨regular.uniform, regular.fatal, ?_, ?_⟩
    · intro others wrong
      cases wrong
    · intro w same
      cases same
      exact ⟨(fun _ wrong => nomatch wrong), length, trivial⟩
  · exact regular

/-- A worker makes a launched demultiplexer. -/
theorem of_working {w : Worker κ} (worker : next.worker = some w) (launched : next.Launched)
    (uniform : next.queues.Uniform)
    (fatal : ∀ failure, next.queues.terminal = some failure → Fatal failure)
    (length : next.queues.slots.length = w.conditions.length) (admits : next.Admits w.phase) :
    next.Regular where
  uniform := uniform
  fatal := fatal
  registering conditions wrong := absurd wrong (launched conditions)
  working w' there := by
    rw [worker] at there
    cases there
    exact ⟨launched, length, admits⟩

/-- The worker records why it ends. -/
theorem conclude (regular : d.Regular) {w : Worker κ} (worker : d.worker = some w)
    {failure : SocketError} (fatal : Fatal failure) (result : WorkerEnd) :
    (d.conclude w failure result).Regular := by
  obtain ⟨launched, length, -⟩ := regular.working w worker
  refine of_working rfl launched (Queues.uniform_terminate _ _) ?_ ?_ ?_
  · intro recorded there
    rw [Demux.conclude, Queues.terminal_terminate, Option.or_eq_some_iff] at there
    rcases there with earlier | ⟨-, new⟩
    · exact regular.fatal recorded earlier
    · cases new
      exact fatal
  · exact (Queues.length_slots_terminate _ _).trans length
  · show (d.queues.terminate failure).terminal ≠ none
    rw [Queues.terminal_terminate]
    cases d.queues.terminal <;> simp

/-- So does every other step of the worker. -/
theorem step [Condition κ] (regular : d.Regular) : d.step.2.Regular := by
  cases worker : d.worker with
  | none =>
    rw [Demux.step_of_idle worker]
    exact regular
  | some w =>
    obtain ⟨launched, length, admits⟩ := regular.working w worker
    have step := Demux.step_cases worker
    generalize d.step.2 = next at step ⊢
    cases step with
    | refilled => exact of_working rfl launched regular.uniform regular.fatal length trivial
    | @refused buffer failure phase call =>
      refine of_working rfl launched regular.uniform regular.fatal length ?_
      rcases StreamBuffer.fillBy_failure call with ⟨-, rfl⟩ | read
      · exact .exhausted _
      · exact .refused read
    | waited phase =>
      refine of_working worker launched regular.uniform regular.fatal length ?_
      rw [phase]
      trivial
    | passed => exact of_working rfl launched regular.uniform regular.fatal length trivial
    | @asked index condition phase present there =>
      have inside : index < w.conditions.length := (List.getElem?_eq_some_iff.mp there).1
      refine of_working rfl launched regular.uniform regular.fatal ?_ ?_
      · exact length.trans (List.length_set ..).symm
      · exact Demux.admits_afterVerdict (by rw [length]; exact inside) _
    | @removed index span storage phase enough =>
      cases span.delivered with
      | false => exact of_working rfl launched regular.uniform regular.fatal length trivial
      | true =>
        refine of_working rfl launched (regular.uniform.deliver _ _) regular.fatal ?_ trivial
        exact (Queues.length_slots_deliver _ _ _).trans length
    | overdrawn phase short =>
      -- the removal was decided on for so many bytes
      rw [phase] at admits
      exact absurd admits.2 (by omega)
    | @concluded failure phase =>
      rw [phase] at admits
      exact regular.conclude worker (Fatal.copy admits) _
    | panicked phase => exact regular.conclude worker .panicked _
    | rested phase => exact regular

end Demux.Regular

/-! ### From the beginning on -/

/-- What holds of a demultiplexer and the stops under way at any time. -/
structure System.Regular (s : System κ) : Prop where
  demux : s.demux.Regular
  /-- The first thing that a stop does is to stop everybody from registering. -/
  launched : ∀ phase ∈ s.stops, phase ≠ .called → s.demux.Launched
  /-- The last thing is to leave a record. -/
  recorded : ∀ reply, StopPhase.returned reply ∈ s.stops → s.demux.queues.terminal ≠ none

variable [Condition κ]

/-- The worker does not take a recorded failure back. -/
theorem Demux.step_terminal_kept {d : Demux κ} {failure : SocketError}
    (recorded : d.queues.terminal = some failure) :
    d.step.2.queues.terminal = some failure := by
  cases worker : d.worker with
  | none =>
    rw [step_of_idle worker]
    exact recorded
  | some w =>
    have step := step_cases worker
    generalize d.step.2 = next at step ⊢
    cases step with
    | concluded => exact Queues.terminal_terminate_of_some recorded _
    | panicked => exact Queues.terminal_terminate_of_some recorded _
    | @removed index span =>
      cases span.delivered with
      | false => exact recorded
      | true => exact recorded
    | _ => exact recorded

namespace System

variable {s next : System κ} {action : Action κ}

/-- Nobody takes a recorded failure back. -/
theorem act_terminal_kept {failure : SocketError} (acted : s.act action = some next)
    (recorded : s.demux.queues.terminal = some failure) :
    next.demux.queues.terminal = some failure := by
  cases action with
  | register condition =>
    cases acted
    show (s.demux.register condition).2.queues.terminal = some failure
    unfold Demux.register
    split
    · exact recorded
    · exact recorded
  | start =>
    cases acted
    show s.demux.start.2.queues.terminal = some failure
    unfold Demux.start
    split
    · exact recorded
    · exact recorded
  | work =>
    cases acted
    exact Demux.step_terminal_kept recorded
  | cancel | callStop | callRead =>
    cases acted
    exact recorded
  | goOnStop index =>
    obtain ⟨phase, after, d, -, stepped, rfl⟩ := act_goOnStop acted
    cases stopStep_inv stepped with
    | returned => exact Queues.terminal_terminate_of_some recorded _
    | _ => exact recorded
  | goOnRead index =>
    obtain ⟨reader, after, q, -, stepped, rfl⟩ := act_goOnRead acted
    obtain ⟨-, -, terminal, -⟩ := readStep_cases stepped
    exact terminal.trans recorded
  | expire index =>
    obtain ⟨reader, after, -, -, rfl⟩ := act_expire acted
    exact recorded

/-- Nobody takes a demultiplexer back to where conditions are registered. -/
theorem act_launched (acted : s.act action = some next) (launched : s.demux.Launched) :
    next.demux.Launched := by
  rcases act_cases launched acted with ⟨rfl, rfl⟩ | ⟨-, bystands, -⟩
  · cases worker : s.demux.worker with
    | none =>
      rw [Demux.step_of_idle worker]
      exact launched
    | some w => exact Demux.launched_step worker launched
  · exact bystands.launched

/-- The demultiplexer stays regular. -/
theorem Regular.act_demux (regular : s.Regular) (acted : s.act action = some next) :
    next.demux.Regular := by
  cases action with
  | register condition =>
    cases acted
    exact regular.demux.register condition
  | start =>
    cases acted
    exact regular.demux.start
  | work =>
    cases acted
    exact regular.demux.step
  | cancel =>
    cases acted
    exact regular.demux.bystand rfl (.inl rfl) rfl rfl regular.demux.uniform (.inl rfl)
  | callStop | callRead =>
    cases acted
    exact regular.demux
  | goOnStop index =>
    obtain ⟨phase, after, d, there, stepped, rfl⟩ := act_goOnStop acted
    cases stopStep_inv stepped with
    | took => exact regular.demux.bystand rfl (.inr rfl) rfl rfl regular.demux.uniform (.inl rfl)
    | raised taken =>
      exact regular.demux.bystand rfl (.inl rfl) rfl rfl regular.demux.uniform (.inl rfl)
    | joined => exact regular.demux
    | returned reply =>
      have launched := regular.launched _ (List.mem_of_getElem? there) (by simp)
      exact regular.demux.bystand rfl (.inl rfl) rfl (Queues.length_slots_terminate _ _)
        (Queues.uniform_terminate _ _) (.inr ⟨launched, rfl⟩)
  | goOnRead index =>
    obtain ⟨reader, after, q, -, stepped, rfl⟩ := act_goOnRead acted
    obtain ⟨-, slots, terminal, -⟩ := readStep_cases stepped
    exact regular.demux.bystand rfl (.inl rfl) rfl slots
      (regular.demux.uniform.readStep (readStep_inv stepped)) (.inl terminal)
  | expire index =>
    obtain ⟨reader, after, -, -, rfl⟩ := act_expire acted
    exact regular.demux

/-- Every action keeps a demultiplexer, and the stops under way, regular. -/
theorem Regular.act (regular : s.Regular) (acted : s.act action = some next) : next.Regular where
  demux := regular.act_demux acted
  launched phase member later := by
    rcases stops_inv acted member with old | new | ⟨before, was, step⟩
    · exact act_launched acted (regular.launched phase old later)
    · exact absurd new later
    · by_cases first : before = .called
      · subst first
        generalize next.demux = d at step ⊢
        cases step with
        | took => exact fun _ wrong => nomatch wrong
      · exact act_launched acted (regular.launched before was first)
  recorded reply member := by
    rcases stops_inv acted member with old | new | ⟨before, was, step⟩
    · obtain ⟨failure, there⟩ := Option.ne_none_iff_exists'.mp (regular.recorded reply old)
      rw [act_terminal_kept acted there]
      exact Option.some_ne_none _
    · cases new
    · generalize next.demux = d at step ⊢
      cases step with
      | returned =>
        show (s.demux.queues.terminate .terminationRequested).terminal ≠ none
        rw [Queues.terminal_terminate]
        cases s.demux.queues.terminal <;> simp

/-- A demultiplexer that has just been made, and that nobody does anything with yet. -/
def fresh (buffer : StreamBuffer) : System κ := ⟨Demux.ofBuffer buffer, [], []⟩

omit [Condition κ] in
theorem regular_fresh (buffer : StreamBuffer) : (fresh buffer : System κ).Regular where
  demux := .ofBuffer buffer
  launched phase member := by cases member
  recorded reply member := by cases member

/-- Every state that a fresh demultiplexer can come to is regular. -/
theorem regular_of_reachable {buffer : StreamBuffer} (reachable : Reachable (fresh buffer) s) :
    s.Regular := by
  induction reachable with
  | refl => exact regular_fresh buffer
  | step _ acted ih => exact ih.act acted

/-- What is recorded in one state is recorded in all that follow it. -/
theorem terminal_of_reachable {start : System κ} {failure : SocketError}
    (reachable : Reachable start s) (recorded : start.demux.queues.terminal = some failure) :
    s.demux.queues.terminal = some failure := by
  induction reachable with
  | refl => exact recorded
  | step _ acted ih => exact act_terminal_kept acted ih

end System

end SocketDemux
