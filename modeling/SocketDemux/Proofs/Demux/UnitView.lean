import SocketDemux.Proofs.Demux.Regular
/-!
# SocketDemux.Proofs.Demux.UnitView

The **wake-up units of a handle**, beside its queue.

Fragments and units are counted apart: a delivery adds one of each, a wait takes a unit
and leaves the fragments alone, a pop takes a fragment and leaves the units alone.
`Queues.units` is the view; what an operation does to it is one lemma for each operation,
as for `Queues.queued`.

`Demux.step_supply` says what a step of the worker adds to both.
-/

namespace SocketDemux

namespace Queues

/-- The units that nobody has taken yet. -/
def units (q : Queues) (handle : Handle) : Nat :=
  match q.slot? handle with
  | some slot => slot.signal.units
  | none => 0

variable {q next : Queues} {handle target : Handle}

theorem units_of_slot {slot : Slot} (found : q.slot? handle = some slot) :
    q.units handle = slot.signal.units := by
  unfold units
  rw [found]

/-- A change of a slot that leaves its units alone does not show. -/
theorem units_modifySlot {index : Nat} {change : Slot → Slot}
    (keeps : ∀ slot, (change slot).signal.units = slot.signal.units) (handle : Handle) :
    (q.modifySlot index change).units handle = q.units handle := by
  unfold units
  rw [slot?_modifySlot]
  by_cases same : index = handle.index
  · rw [if_pos same]
    cases q.slot? handle with
    | none => rfl
    | some slot => exact keeps slot
  · rw [if_neg same]

/-- A delivery leaves a unit, unless the counter is at its maximum. -/
theorem units_deliver {index : Nat} (inside : index < q.slots.length) (fragment : Bytes)
    (handle : Handle) :
    (q.deliver index fragment).units handle =
      if index = handle.index then saturatingAdd (q.units handle) 1 else q.units handle := by
  unfold units deliver
  rw [slot?_modifySlot]
  by_cases same : index = handle.index
  · obtain ⟨slot, found⟩ := exists_slot (same ▸ inside)
    rw [if_pos same, if_pos same, found]
    rfl
  · rw [if_neg same, if_neg same]

theorem units_setSignal {slot : Slot} (found : q.slot? target = some slot) (signal : Signal)
    (handle : Handle) :
    (q.setSignal target signal).units handle =
      if target = handle then signal.units else q.units handle := by
  unfold units setSignal
  rw [slot?_modifySlot]
  by_cases same : target = handle
  · subst same
    rw [if_pos rfl, if_pos rfl, found]
    rfl
  · have apart : target.index ≠ handle.index := by
      intro wrong
      apply same
      cases target
      cases handle
      exact congrArg Handle.mk wrong
    rw [if_neg apart, if_neg same]

theorem units_terminate (q : Queues) (failure : SocketError) (handle : Handle) :
    (q.terminate failure).units handle = q.units handle := by
  simp only [units, slot?, terminate, List.getElem?_map]
  cases q.slots[handle.index]? <;> rfl

theorem units_pop {reply : Except SocketError Bytes} (pop : q.pop target = (reply, next))
    (handle : Handle) : next.units handle = q.units handle := by
  rcases pop_inv pop with rfl | ⟨rest, rfl⟩
  · rfl
  · apply units_modifySlot
    intro slot
    rfl

/-- A new slot is empty, and without a unit. -/
theorem view_addSlot (q : Queues) (handle : Handle) :
    q.addSlot.2.queued handle = q.queued handle ∧ q.addSlot.2.units handle = q.units handle := by
  by_cases inside : handle.index < q.slots.length
  · have same : q.addSlot.2.slot? handle = q.slot? handle := List.getElem?_append_left inside
    unfold queued units
    rw [same]
    exact ⟨rfl, rfl⟩
  · have absent := slot?_eq_none (Nat.not_lt.mp inside)
    have new : q.addSlot.2.slot? handle = none ∨ q.addSlot.2.slot? handle = some {} := by
      unfold slot? addSlot
      rw [List.getElem?_append_right (by omega), List.getElem?_singleton]
      split
      · exact .inr rfl
      · exact .inl rfl
    unfold queued units
    rw [absent]
    rcases new with new | new
    · rw [new]
      exact ⟨rfl, rfl⟩
    · rw [new]
      exact ⟨rfl, rfl⟩

end Queues

/-- A reader shows at no other handle than its own. -/
theorem ReadStep.elsewhere {q next : Queues} {reader after : Reader} {handle : Handle}
    (step : ReadStep q reader after next) (other : reader.handle ≠ handle) :
    after.handle = reader.handle ∧ next.queued handle = q.queued handle ∧
      next.units handle = q.units handle := by
  cases step with
  | unknown => exact ⟨rfl, rfl, rfl⟩
  | again => exact ⟨rfl, rfl, rfl⟩
  | @passed slot signal phase found =>
    have units := Queues.units_setSignal found signal handle
    rw [if_neg other] at units
    exact ⟨rfl, Queues.queued_setSignal q reader.handle handle signal, units⟩
  | @returned reply next phase pop =>
    refine ⟨rfl, ?_, Queues.units_pop pop handle⟩
    rcases q.pop_cases reader.handle with ⟨_, _, same, -, others, -⟩ | ⟨_, same, -⟩
    · rw [pop] at same
      cases same
      exact others handle (Ne.symm other)
    · rw [pop] at same
      cases same
      rfl

/-! ### What the worker supplies -/

variable {κ : Type}

namespace Demux

/-- The fragment that the next step of the worker delivers to a handle. -/
def delivery? (d : Demux κ) (handle : Handle) : Option Bytes :=
  match d.worker with
  | some ⟨_, .removing index span, _⟩ =>
      if index = handle.index ∧ span.delivered then
        some (d.buffer.storage.data.take span.count)
      else none
  | _ => none

theorem delivery?_of_removing {d : Demux κ} {w : Worker κ} {index : Nat} {span : Span}
    (worker : d.worker = some w) (phase : w.phase = .removing index span) (handle : Handle) :
    d.delivery? handle =
      if index = handle.index ∧ span.delivered then
        some (d.buffer.storage.data.take span.count)
      else none := by
  obtain ⟨conditions, _, journal⟩ := w
  cases phase
  rw [delivery?, worker]

theorem delivery?_eq_none {d : Demux κ} {w : Worker κ} (worker : d.worker = some w)
    (phase : ∀ index span, w.phase ≠ .removing index span) (handle : Handle) :
    d.delivery? handle = none := by
  obtain ⟨conditions, current, journal⟩ := w
  unfold delivery?
  rw [worker]
  split
  · next heq =>
    cases heq
    exact absurd rfl (phase _ _)
  · rfl

variable [Condition κ]

/-- A step of the worker delivers a fragment with its unit, or shows nowhere. -/
theorem Regular.step_supply {d : Demux κ} (regular : d.Regular) (handle : Handle) :
    (∃ fragment, d.delivery? handle = some fragment ∧
        d.step.2.queues.queued handle = d.queues.queued handle ++ [fragment] ∧
        d.step.2.queues.units handle = saturatingAdd (d.queues.units handle) 1) ∨
      (d.delivery? handle = none ∧
        d.step.2.queues.queued handle = d.queues.queued handle ∧
        d.step.2.queues.units handle = d.queues.units handle) := by
  cases worker : d.worker with
  | none =>
    rw [step_of_idle worker]
    refine .inr ⟨?_, rfl, rfl⟩
    unfold delivery?
    rw [worker]
  | some w =>
    obtain ⟨-, length, admits⟩ := regular.working w worker
    have step := step_cases worker
    have elsewhere : (∀ index span, w.phase ≠ .removing index span) → d.delivery? handle = none :=
      fun phase => delivery?_eq_none worker phase handle
    generalize d.step.2 = next at step ⊢
    cases step with
    | @removed index span storage phase enough =>
      rw [phase] at admits
      rw [delivery?_of_removing worker phase]
      cases span.delivered with
      | false => exact .inr ⟨if_neg (by simp), rfl, rfl⟩
      | true =>
        by_cases mine : index = handle.index
        · refine .inl ⟨d.buffer.storage.data.take span.count, if_pos ⟨mine, rfl⟩, ?_, ?_⟩
          · refine (Queues.queued_deliver admits.1 _ handle).trans ?_
            rw [if_pos mine]
          · refine (Queues.units_deliver admits.1 _ handle).trans ?_
            rw [if_pos mine]
        · refine .inr ⟨if_neg (by simp [mine]), ?_, ?_⟩
          · refine (Queues.queued_deliver admits.1 _ handle).trans ?_
            rw [if_neg mine, List.append_nil]
          · refine (Queues.units_deliver admits.1 _ handle).trans ?_
            rw [if_neg mine]
    | overdrawn phase short =>
      rw [phase] at admits
      exact absurd admits.2 (by omega)
    | concluded phase =>
      refine .inr ⟨elsewhere (by simp [phase]), ?_, ?_⟩
      · exact Queues.queued_terminate _ _ handle
      · exact Queues.units_terminate _ _ handle
    | panicked phase =>
      refine .inr ⟨elsewhere (by simp [phase]), ?_, ?_⟩
      · exact Queues.queued_terminate _ _ handle
      · exact Queues.units_terminate _ _ handle
    | refilled phase => exact .inr ⟨elsewhere (by simp [phase]), rfl, rfl⟩
    | refused phase => exact .inr ⟨elsewhere (by simp [phase]), rfl, rfl⟩
    | waited phase => exact .inr ⟨elsewhere (by simp [phase]), rfl, rfl⟩
    | passed phase => exact .inr ⟨elsewhere (by simp [phase]), rfl, rfl⟩
    | asked phase => exact .inr ⟨elsewhere (by simp [phase]), rfl, rfl⟩
    | rested phase => exact .inr ⟨elsewhere (by simp [phase]), rfl, rfl⟩

end Demux

end SocketDemux
