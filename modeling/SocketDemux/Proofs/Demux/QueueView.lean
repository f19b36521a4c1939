import SocketDemux.Demux.Queues
/-!
# SocketDemux.Proofs.Demux.QueueView

The **queue of a handle** as a list of fragments.

`Queues.queued` is the view; what an operation does to it, to the number of slots and
to the recorded failure is one lemma for each operation. Signals do not show in it.
-/

namespace SocketDemux

namespace Queues

/-- The fragments that wait behind a handle, the oldest first. -/
def queued (q : Queues) (handle : Handle) : List Bytes :=
  match q.slot? handle with
  | some slot => slot.fragments
  | none => []

/-- A handle of a registered condition has a slot. -/
theorem exists_slot {q : Queues} {handle : Handle} (inside : handle.index < q.slots.length) :
    ∃ slot, q.slot? handle = some slot := ⟨_, List.getElem?_eq_getElem inside⟩

/-- Any other handle has none. -/
theorem slot?_eq_none {q : Queues} {handle : Handle} (outside : q.slots.length ≤ handle.index) :
    q.slot? handle = none := List.getElem?_eq_none_iff.mpr outside

theorem queued_of_slot {q : Queues} {handle : Handle} {slot : Slot}
    (found : q.slot? handle = some slot) : q.queued handle = slot.fragments := by
  unfold queued
  rw [found]

theorem slot?_modifySlot (q : Queues) (index : Nat) (change : Slot → Slot) (handle : Handle) :
    (q.modifySlot index change).slot? handle =
      if index = handle.index then (q.slot? handle).map change else q.slot? handle := by
  simp only [slot?, modifySlot, List.getElem?_modify]
  by_cases same : index = handle.index
  · simp [same]
  · simp [same]

/-- A change of a slot that leaves its fragments alone does not show. -/
theorem queued_modifySlot {q : Queues} {index : Nat} {change : Slot → Slot}
    (keeps : ∀ slot, (change slot).fragments = slot.fragments) (handle : Handle) :
    (q.modifySlot index change).queued handle = q.queued handle := by
  unfold queued
  rw [slot?_modifySlot]
  by_cases same : index = handle.index
  · rw [if_pos same]
    cases q.slot? handle with
    | none => rfl
    | some slot => exact keeps slot
  · rw [if_neg same]

/-- A fragment is appended to the queue it is delivered to, if there is one. -/
theorem queued_deliver {q : Queues} {index : Nat} (inside : index < q.slots.length)
    (fragment : Bytes) (handle : Handle) :
    (q.deliver index fragment).queued handle =
      q.queued handle ++ if index = handle.index then [fragment] else [] := by
  unfold queued deliver
  rw [slot?_modifySlot]
  by_cases same : index = handle.index
  · obtain ⟨slot, found⟩ := exists_slot (same ▸ inside)
    rw [if_pos same, if_pos same, found]
    rfl
  · rw [if_neg same, if_neg same, List.append_nil]

/-- A delivery adds to one queue at most. -/
theorem queued_prefix_deliver (q : Queues) (index : Nat) (fragment : Bytes) (handle : Handle) :
    q.queued handle <+: (q.deliver index fragment).queued handle := by
  unfold queued deliver
  rw [slot?_modifySlot]
  by_cases same : index = handle.index
  · rw [if_pos same]
    cases q.slot? handle with
    | none => exact List.prefix_rfl
    | some slot => exact List.prefix_append _ _
  · simp only [if_neg same, List.prefix_rfl]

@[simp] theorem queued_setSignal (q : Queues) (target handle : Handle) (signal : Signal) :
    (q.setSignal target signal).queued handle = q.queued handle := by
  apply queued_modifySlot
  intro slot
  rfl

@[simp] theorem queued_terminate (q : Queues) (failure : SocketError) (handle : Handle) :
    (q.terminate failure).queued handle = q.queued handle := by
  simp only [queued, slot?, terminate, List.getElem?_map]
  cases q.slots[handle.index]? <;> rfl

@[simp] theorem terminal_setSignal (q : Queues) (handle : Handle) (signal : Signal) :
    (q.setSignal handle signal).terminal = q.terminal := rfl

@[simp] theorem length_slots_setSignal (q : Queues) (handle : Handle) (signal : Signal) :
    (q.setSignal handle signal).slots.length = q.slots.length := by
  simp [setSignal]

/-- The first recorded failure stays. -/
theorem terminal_terminate (q : Queues) (failure : SocketError) :
    (q.terminate failure).terminal = q.terminal.or (some failure) := rfl

theorem terminal_terminate_of_some {q : Queues} {recorded : SocketError}
    (h : q.terminal = some recorded) (failure : SocketError) :
    (q.terminate failure).terminal = some recorded := by
  rw [terminal_terminate, h]
  rfl

/-- What a pop can do: take the oldest fragment, or fail and change nothing. -/
theorem pop_cases (q : Queues) (handle : Handle) :
    (∃ fragment next, q.pop handle = (.ok fragment, next) ∧
        q.queued handle = fragment :: next.queued handle ∧
        (∀ other, other ≠ handle → next.queued other = q.queued other) ∧
        next.slots.length = q.slots.length ∧ next.terminal = q.terminal) ∨
      (∃ failure, q.pop handle = (.error failure, q) ∧ q.queued handle = []) := by
  unfold pop
  cases found : q.slot? handle with
  | none => exact .inr ⟨_, rfl, by unfold queued; rw [found]⟩
  | some slot =>
    dsimp only
    cases fragments : slot.fragments with
    | nil =>
      have empty : q.queued handle = [] := by rw [queued_of_slot found, fragments]
      cases q.terminal with
      | none => exact .inr ⟨_, rfl, empty⟩
      | some failure => exact .inr ⟨_, rfl, empty⟩
    | cons fragment rest =>
      refine .inl ⟨fragment, _, rfl, ?_, ?_, by simp, rfl⟩
      · have after : (q.modifySlot handle.index fun slot => { slot with fragments := rest }).slot?
            handle = some { slot with fragments := rest } := by
          rw [slot?_modifySlot, if_pos rfl, found]
          rfl
        rw [queued_of_slot found, queued_of_slot after, fragments]
      · -- another handle has another slot
        intro other different
        have apart : handle.index ≠ other.index := by
          intro same
          apply different
          cases handle
          cases other
          exact congrArg Handle.mk same.symm
        unfold queued
        rw [slot?_modifySlot, if_neg apart]

/-- What a pop fails with once a failure is recorded: a copy of it. -/
theorem pop_of_terminal {q : Queues} {handle : Handle} {recorded : SocketError}
    (inside : handle.index < q.slots.length) (h : q.terminal = some recorded)
    (empty : q.queued handle = []) : q.pop handle = (.error recorded.copy, q) := by
  obtain ⟨slot, found⟩ := exists_slot inside
  rw [queued_of_slot found] at empty
  unfold pop
  rw [found]
  dsimp only
  rw [empty, h]

end Queues

end SocketDemux
