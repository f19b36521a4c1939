import SocketDemux.Proofs.Demux.Draining
/-!
# SocketDemux.Proofs.Demux.Handles

**Whose handle is it?** A demultiplexer refuses the handles that it does not know. But a
handle is the number of a slot and nothing else, so a handle of one demultiplexer may be
known to another one, and then it reads what is meant for somebody else.

* `System.HasIssued` — on its way to a state, a demultiplexer has handed out a handle.
* `System.hasIssued_iff` — those are the handles below the number of its slots.
* `Queues.known_handle_accepted`, `Queues.refused_of_unknown` — a call with a handle is
  refused exactly if there is no such slot.
* `foreign_handle_refused_iff` — so the handle of another demultiplexer is refused exactly
  if there are no more conditions here than were registered there before it.
* `foreign_handle_steals` — where it is not refused, it takes a fragment and a wake-up unit
  that were meant for somebody else.
-/

namespace SocketDemux

/-- Nobody is told that his handle is unknown when the demultiplexer has ended. -/
theorem Fatal.ne_invalidHandle {failure : SocketError} (fatal : Fatal failure) :
    failure ≠ .invalidHandle := by
  rintro rfl
  cases fatal with
  | refused read => cases read

/-! ### Known handles -/

namespace Queues

variable {q : Queues} {handle : Handle}

/-- A pop from a slot does not fail because of the handle. -/
theorem pop_ne_invalidHandle (fatal : ∀ failure, q.terminal = some failure → Fatal failure)
    (inside : handle.index < q.slots.length) : (q.pop handle).1 ≠ .error .invalidHandle := by
  rcases q.pop_cases handle with ⟨fragment, next, pop, -⟩ | ⟨failure, pop, empty⟩
  · rw [pop]
    intro wrong
    cases wrong
  · cases recorded : q.terminal with
    | some failure =>
      rw [pop_of_terminal inside recorded empty]
      intro wrong
      exact (fatal failure recorded).copy.ne_invalidHandle (Except.error.inj wrong)
    | none =>
      obtain ⟨slot, found⟩ := exists_slot inside
      rw [queued_of_slot found] at empty
      unfold Queues.pop
      rw [found]
      dsimp only
      rw [empty, recorded]
      intro wrong
      cases wrong

/-- What a reader is told by a pop is not that its handle is unknown. -/
theorem ofExcept_ne_invalidHandle {reply : Except SocketError Bytes}
    (known : reply ≠ .error .invalidHandle) :
    Reply.ofExcept reply ≠ .error .invalidHandle := by
  intro wrong
  cases reply with
  | ok fragment => cases wrong
  | error failure =>
    apply known
    cases wrong
    rfl

/-- Nor does a blocking read, however many units are left to use up. -/
theorem popSignalled_ne_invalidHandle (timeout : Timeout) (units : Nat)
    (fatal : ∀ failure, q.terminal = some failure → Fatal failure)
    (inside : handle.index < q.slots.length) :
    (q.popSignalled handle timeout units).1 ≠ .error .invalidHandle := by
  induction units generalizing q with
  | zero =>
    obtain ⟨slot, found⟩ := exists_slot inside
    have known := pop_ne_invalidHandle fatal inside
    unfold popSignalled
    rw [found]
    dsimp only
    split
    · split
      · intro wrong
        cases wrong
      · next reply next _ pop =>
        rw [pop] at known
        exact ofExcept_ne_invalidHandle known
    · split
      · intro wrong
        cases wrong
      · intro wrong
        cases wrong
  | succ units ih =>
    unfold popSignalled
    have slots := length_slots_modifySlot q handle.index fun slot =>
      { slot with signal := { slot.signal with units := units } }
    have terminal := terminal_modifySlot q handle.index fun slot =>
      { slot with signal := { slot.signal with units := units } }
    generalize (q.modifySlot handle.index fun slot =>
      { slot with signal := { slot.signal with units := units } }) = taken at slots terminal ⊢
    rw [← slots] at inside
    rw [← terminal] at fatal
    have known := pop_ne_invalidHandle fatal inside
    dsimp only
    split
    · next next pop =>
      -- the unit was left behind by a reader that did not wait
      obtain rfl : next = taken := by
        rcases taken.pop_cases handle with ⟨fragment, other, popped, -⟩ | ⟨failure, popped, -⟩
        · rw [popped] at pop
          cases pop
        · rw [popped] at pop
          cases pop
          rfl
      exact ih fatal inside
    · next reply next _ pop =>
      rw [pop] at known
      exact ofExcept_ne_invalidHandle known

/-- No call that has a slot is told that its handle is unknown. -/
theorem known_handle_accepted (fatal : ∀ failure, q.terminal = some failure → Fatal failure)
    (inside : handle.index < q.slots.length) (timeout : Timeout) :
    (q.pop handle).1 ≠ .error .invalidHandle ∧
      (q.readBlocking handle timeout).1 ≠ .error .invalidHandle ∧
      (q.wait handle timeout).1 ≠ .error .invalidHandle := by
  obtain ⟨slot, found⟩ := exists_slot inside
  refine ⟨pop_ne_invalidHandle fatal inside, ?_, ?_⟩
  · unfold readBlocking
    rw [found]
    exact popSignalled_ne_invalidHandle timeout _ fatal inside
  · unfold wait
    rw [found]
    dsimp only
    split
    · intro wrong
      cases wrong
    · intro wrong
      unfold waitInVain at wrong
      split at wrong
      · cases wrong
      · cases wrong

end Queues

/-! ### Issued handles -/

variable {κ : Type}

/-- A condition gets the slot behind all others, if it gets one. -/
theorem Demux.register_ok {d next : Demux κ} {condition : κ} {handle : Handle}
    (registered : d.register condition = (.ok handle, next)) :
    handle = ⟨d.queues.slots.length⟩ ∧
      next.queues.slots.length = d.queues.slots.length + 1 := by
  unfold register at registered
  split at registered
  · cases registered
    exact ⟨rfl, List.length_append⟩
  · cases registered

variable [Condition κ]

/-- The worker makes no slots. -/
theorem Demux.length_slots_step (d : Demux κ) :
    d.step.2.queues.slots.length = d.queues.slots.length := by
  cases worker : d.worker with
  | none => rw [step_of_idle worker]
  | some w =>
    have step := step_cases worker
    generalize d.step.2 = next at step ⊢
    cases step with
    | concluded => exact Queues.length_slots_terminate _ _
    | panicked => exact Queues.length_slots_terminate _ _
    | @removed index span =>
      cases span.delivered with
      | false => rfl
      | true => exact Queues.length_slots_deliver _ _ _
    | _ => rfl

namespace System

variable {buffer : StreamBuffer} {s next : System κ} {action : Action κ} {handle : Handle}

/-- An action makes a slot if it registers a condition, and no slot if it does not. -/
theorem act_slots (acted : s.act action = some next) :
    next.demux.queues.slots.length = s.demux.queues.slots.length ∨
      ∃ condition d, s.demux.register condition = (.ok ⟨s.demux.queues.slots.length⟩, d) ∧
        next = { s with demux := d } ∧
        d.queues.slots.length = s.demux.queues.slots.length + 1 := by
  cases action with
  | register condition =>
    cases acted
    rcases registered : s.demux.register condition with ⟨reply, d⟩
    cases reply with
    | ok handle =>
      obtain ⟨rfl, length⟩ := Demux.register_ok registered
      exact .inr ⟨condition, d, registered, rfl, length⟩
    | error failure =>
      refine .inl ?_
      unfold Demux.register at registered
      split at registered
      · cases registered
      · cases registered
        rfl
  | start =>
    cases acted
    refine .inl ?_
    show s.demux.start.2.queues.slots.length = s.demux.queues.slots.length
    unfold Demux.start
    split
    · rfl
    · rfl
  | work =>
    cases acted
    exact .inl s.demux.length_slots_step
  | cancel | callStop | callRead =>
    cases acted
    exact .inl rfl
  | goOnStop index =>
    obtain ⟨phase, after, d, -, stepped, rfl⟩ := act_goOnStop acted
    refine .inl ?_
    cases stopStep_inv stepped with
    | returned => exact Queues.length_slots_terminate _ _
    | _ => rfl
  | goOnRead index =>
    obtain ⟨reader, after, q, -, stepped, rfl⟩ := act_goOnRead acted
    obtain ⟨-, slots, -⟩ := readStep_cases stepped
    exact .inl slots
  | expire index =>
    obtain ⟨reader, after, -, -, rfl⟩ := act_expire acted
    exact .inl rfl

/-- No action takes a slot away. -/
theorem slots_le_of_reachable (reachable : Reachable s next) :
    s.demux.queues.slots.length ≤ next.demux.queues.slots.length := by
  induction reachable with
  | refl => exact Nat.le_refl _
  | step _ acted ih =>
    rcases act_slots acted with same | ⟨condition, d, -, rfl, more⟩
    · rw [same]
      exact ih
    · show _ ≤ d.queues.slots.length
      rw [more]
      exact Nat.le_succ_of_le ih

/-- On its way from a fresh one to this state, the demultiplexer has handed out the handle,
to somebody who registered a condition. -/
def HasIssued (buffer : StreamBuffer) (s : System κ) (handle : Handle) : Prop :=
  ∃ before condition d, Reachable (fresh buffer) before ∧
    before.demux.register condition = (.ok handle, d) ∧
    Reachable { before with demux := d } s

/-- A handle that has been issued stays issued. -/
theorem HasIssued.act (issued : HasIssued buffer s handle) (acted : s.act action = some next) :
    HasIssued buffer next handle := by
  obtain ⟨before, condition, d, reachable, registered, onward⟩ := issued
  exact ⟨before, condition, d, reachable, registered, onward.step acted⟩

/-- The issued handles are those that have a slot. -/
theorem hasIssued_iff (reachable : Reachable (fresh buffer) s) :
    HasIssued buffer s handle ↔ handle.index < s.demux.queues.slots.length := by
  constructor
  · rintro ⟨before, condition, d, -, registered, onward⟩
    obtain ⟨rfl, more⟩ := Demux.register_ok registered
    have kept := slots_le_of_reachable onward
    rw [more] at kept
    exact kept
  · intro inside
    induction reachable with
    | refl => cases inside
    | @step s next action reached acted ih =>
      rcases act_slots acted with same | ⟨condition, d, registered, rfl, more⟩
      · rw [same] at inside
        exact (ih inside).act acted
      · rw [more] at inside
        rcases Nat.lt_succ_iff_lt_or_eq.mp inside with old | new
        · exact (ih old).act acted
        · -- it is the handle of this very condition
          obtain rfl : handle = ⟨s.demux.queues.slots.length⟩ := by
            cases handle
            exact congrArg Handle.mk new
          exact ⟨s, condition, d, reached, registered, .refl⟩

end System

/-! ### Two demultiplexers -/

variable {κ' : Type} {buffer : StreamBuffer} {first : Demux κ'} {second : System κ}
  {condition : κ'} {handle : Handle} {d : Demux κ'}

/-- Two demultiplexers, whatever has been done with either of them. A condition that is
registered with the first one comes back with a handle. A call with it on the second one
is refused, and changes nothing there, exactly if the second one has not handed out the
same handle itself, because it has no more conditions than the first one had before. If it
has more, no call with the foreign handle is told so, and a read takes the oldest fragment
that is queued for the condition with this number. -/
theorem foreign_handle_refused_iff (registered : first.register condition = (.ok handle, d))
    (reachable : System.Reachable (System.fresh buffer) second) (timeout : Timeout) :
    (System.HasIssued buffer second handle ↔
        first.queues.slots.length < second.demux.queues.slots.length) ∧
      (¬System.HasIssued buffer second handle →
        second.demux.readNonBlocking handle = (.error .invalidHandle, second.demux) ∧
        second.demux.readBlocking handle timeout = (.error .invalidHandle, second.demux) ∧
        second.demux.wait handle timeout = (.error .invalidHandle, second.demux)) ∧
      (System.HasIssued buffer second handle →
        (second.demux.readNonBlocking handle).1 ≠ .error .invalidHandle ∧
        (second.demux.readBlocking handle timeout).1 ≠ .error .invalidHandle ∧
        (second.demux.wait handle timeout).1 ≠ .error .invalidHandle ∧
        ∀ fragment rest, second.demux.queues.queued handle = fragment :: rest →
          (second.demux.readNonBlocking handle).1 = .ok fragment ∧
          (second.demux.readNonBlocking handle).2.queues.queued handle = rest) := by
  obtain ⟨rfl, -⟩ := Demux.register_ok registered
  generalize number : first.queues.slots.length = index
  have issued : System.HasIssued buffer second ⟨index⟩ ↔
      index < second.demux.queues.slots.length := System.hasIssued_iff reachable
  refine ⟨issued, ?_, ?_⟩
  · intro unknown
    rw [issued] at unknown
    obtain ⟨popped, read, waited⟩ := Queues.refused_of_unknown unknown timeout
    refine ⟨?_, ?_, ?_⟩
    · simp only [Demux.readNonBlocking, Demux.onQueues, popped]
    · simp only [Demux.readBlocking, Demux.onQueues, read]
    · simp only [Demux.wait, Demux.onQueues, waited]
  · intro known
    have regular := System.regular_of_reachable reachable
    obtain ⟨popped, read, waited⟩ :=
      Queues.known_handle_accepted regular.demux.fatal (issued.mp known) timeout
    refine ⟨popped, read, waited, ?_⟩
    intro fragment rest queued
    rcases second.demux.queues.pop_cases ⟨index⟩ with
      ⟨oldest, next, pop, taken, -⟩ | ⟨failure, -, empty⟩
    · rw [queued] at taken
      cases taken
      simp only [Demux.readNonBlocking, Demux.onQueues, pop, true_and]
    · rw [queued] at empty
      cases empty

/-- A line is delivered to the only condition of a demultiplexer. The handle of the only
condition of another one takes it away. A demultiplexer without conditions refuses the
same handle. -/
theorem closingLine_taken_with_foreign_handle :
    ∃ d s,
      (Demux.ofBuffer closingLine).register (Delimiter.mk 32) = (.ok ⟨0⟩, d) ∧
      (System.fresh closingLine).run
        [.register (Delimiter.mk 10), .start, .work, .work, .work] = some s ∧
      s.demux.queues.queued ⟨0⟩ = [[97, 10]] ∧
      (s.demux.readNonBlocking ⟨0⟩).1 = .ok [97, 10] ∧
      (s.demux.readNonBlocking ⟨0⟩).2.queues.queued ⟨0⟩ = [] ∧
      (Demux.ofBuffer closingLine : Demux Delimiter).readNonBlocking ⟨0⟩ =
        (.error .invalidHandle, Demux.ofBuffer closingLine) := by
  have possible : ((System.fresh closingLine).run
      [.register (Delimiter.mk 10), .start, .work, .work, .work]).map
        (fun s => (s.demux.queues.queued ⟨0⟩, s.demux.queues.slots.length)) =
      some ([[97, 10]], 1) := by decide
  obtain ⟨s, ran, facts⟩ := Option.map_eq_some_iff.mp possible
  obtain ⟨queued, slots⟩ := Prod.mk.inj facts
  have registered : (Demux.ofBuffer closingLine).register (Delimiter.mk 32) =
      (.ok ⟨0⟩, ((Demux.ofBuffer closingLine).register (Delimiter.mk 32)).2) := rfl
  obtain ⟨issued, -, accepted⟩ :=
    foreign_handle_refused_iff registered (System.reachable_of_run .refl ran) none
  have unused : System.Reachable (System.fresh closingLine)
      (System.fresh closingLine : System Delimiter) := .refl
  obtain ⟨issuedFresh, refused, -⟩ := foreign_handle_refused_iff registered unused none
  obtain ⟨-, -, -, takes⟩ := accepted (issued.mpr (by rw [slots]; decide))
  obtain ⟨taken, left⟩ := takes _ _ queued
  exact ⟨_, s, registered, ran, queued, taken, left,
    (refused (fun wrong => nomatch issuedFresh.mp wrong)).1⟩

/-- Two demultiplexers with one condition each. The second one has delivered a line. With the
handle that the first one has handed out, a wait takes the wake-up unit of the line, and a
read takes the line; neither is refused. -/
theorem foreign_handle_steals :
    ∃ d s,
      (Demux.ofBuffer closingLine).register (Delimiter.mk 32) = (.ok ⟨0⟩, d) ∧
      (System.fresh closingLine).run
        [.register (Delimiter.mk 10), .start, .work, .work, .work] = some s ∧
      s.demux.queues.slots = [⟨[[97, 10]], ⟨1, false⟩⟩] ∧
      (s.demux.wait ⟨0⟩ none).1 = .ok true ∧
      (s.demux.wait ⟨0⟩ none).2.queues.slots = [⟨[[97, 10]], ⟨0, false⟩⟩] ∧
      (s.demux.readBlocking ⟨0⟩ none).1 = .ok [97, 10] ∧
      (s.demux.readNonBlocking ⟨0⟩).1 = .ok [97, 10] ∧
      (s.demux.readNonBlocking ⟨0⟩).2.queues.slots = [⟨[], ⟨1, false⟩⟩] := by
  have possible : ((System.fresh closingLine).run
      [.register (Delimiter.mk 10), .start, .work, .work, .work]).map
        (·.demux.queues) =
      some ⟨[⟨[[97, 10]], ⟨1, false⟩⟩], none⟩ := by decide
  obtain ⟨s, ran, queues⟩ := Option.map_eq_some_iff.mp possible
  refine ⟨_, s, rfl, ran, ?_⟩
  simp only [Demux.wait, Demux.readBlocking, Demux.readNonBlocking, Demux.onQueues, queues]
  exact ⟨trivial, rfl, rfl, rfl, rfl, rfl⟩

end SocketDemux
