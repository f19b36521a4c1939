import SocketDemux.Demux.Interleaving
import SocketDemux.Proofs.Demux.QueueView
/-!
# SocketDemux.Proofs.Demux.Threads

What **one step of a thread** can do, for every thread but the worker.

* `ReadStep`, `StopStep` — the steps of a reader and of a stop, with what they find and what
  they leave behind. `System.readStep_inv`, `System.expireStep_inv` and
  `System.stopStep_inv` say that there are no others.
* `System.act_goOnStop`, `System.act_goOnRead`, `System.act_expire` — whose step an action
  is.
* `System.stop_inv`, `System.stops_inv` — how a stop has come as far as it is.
-/

namespace SocketDemux

/-! ### Readers -/

/-- A pop touches the fragments of one slot at most. -/
theorem Queues.pop_inv {q next : Queues} {handle : Handle} {reply : Except SocketError Bytes}
    (pop : q.pop handle = (reply, next)) :
    next = q ∨ ∃ rest, next =
      q.modifySlot handle.index fun slot => { slot with fragments := rest } := by
  unfold Queues.pop at pop
  split at pop
  · cases pop
    exact .inl rfl
  · split at pop
    · next rest _ =>
      cases pop
      exact .inr ⟨rest, rfl⟩
    · split at pop
      · cases pop
        exact .inl rfl
      · cases pop
        exact .inl rfl

/-- A pop that succeeds takes the oldest fragment. -/
theorem Queues.queued_of_pop_ok {q next : Queues} {handle : Handle} {fragment : Bytes}
    (pop : q.pop handle = (.ok fragment, next)) :
    q.queued handle = fragment :: next.queued handle := by
  rcases q.pop_cases handle with ⟨_, _, same, taken, -⟩ | ⟨_, wrong, -⟩
  · rw [pop] at same
    cases same
    exact taken
  · rw [pop] at wrong
    cases wrong

/-- A pop that fails finds no fragment, and changes nothing. -/
theorem Queues.queued_of_pop_error {q next : Queues} {handle : Handle} {failure : SocketError}
    (pop : q.pop handle = (.error failure, next)) : next = q ∧ q.queued handle = [] := by
  rcases q.pop_cases handle with ⟨_, _, wrong, -⟩ | ⟨_, same, empty⟩
  · rw [pop] at wrong
    cases wrong
  · rw [pop] at same
    cases same
    exact ⟨rfl, empty⟩

/-- A wait takes a unit if there is one, else it finds the signal closed. -/
theorem Signal.pass?_cases {signal after : Signal} (passed : signal.pass? = some after) :
    (0 < signal.units ∧ after = { signal with units := signal.units - 1 }) ∨
      (signal.units = 0 ∧ signal.closed = true ∧ after = signal) := by
  unfold pass? at passed
  split at passed
  · next units =>
    cases passed
    exact .inl ⟨units, rfl⟩
  · next units =>
    split at passed
    · next closed =>
      cases passed
      exact .inr ⟨by omega, closed, rfl⟩
    · cases passed

/-- A wait that is held up finds no unit, and the signal open. -/
theorem Signal.pass?_eq_none {signal : Signal} (held : signal.pass? = none) :
    signal.units = 0 ∧ signal.closed = false := by
  unfold pass? at held
  split at held
  · cases held
  · next units =>
    split at held
    · cases held
    · next closed => exact ⟨by omega, by simpa using closed⟩

/-- The steps of a reader. -/
inductive ReadStep (q : Queues) (reader : Reader) : Reader → Queues → Prop
  /-- There is no such slot to wait for. -/
  | unknown (phase : reader.phase = .waiting) (absent : q.slot? reader.handle = none) :
      ReadStep q reader { reader with phase := .returned (.error .invalidHandle) } q
  /-- Its wait is over. -/
  | passed {slot : Slot} {signal : Signal} (phase : reader.phase = .waiting)
      (found : q.slot? reader.handle = some slot) (passed : slot.signal.pass? = some signal) :
      ReadStep q reader { reader with phase := .claimed } (q.setSignal reader.handle signal)
  /-- It pops nothing, and waits again. -/
  | again (phase : reader.phase = .claimed) (mode : reader.mode = .blocking)
      (pop : q.pop reader.handle = (.error .noData, q)) :
      ReadStep q reader { reader with phase := .waiting } q
  /-- It returns what it pops. -/
  | returned {reply : Except SocketError Bytes} {next : Queues} (phase : reader.phase = .claimed)
      (pop : q.pop reader.handle = (reply, next))
      (final : reader.mode = .blocking → reply ≠ .error .noData) :
      ReadStep q reader { reader with phase := .returned reply } next

/-- A reader makes no other steps than those. -/
theorem System.readStep_inv {q next : Queues} {reader after : Reader}
    (stepped : readStep q reader = some (after, next)) : ReadStep q reader after next := by
  unfold readStep at stepped
  split at stepped
  · next phase =>
    split at stepped
    · next absent =>
      cases stepped
      exact .unknown phase absent
    · next slot found =>
      split at stepped
      · next signal passed =>
        cases stepped
        exact .passed phase found passed
      · cases stepped
  · next phase =>
    split at stepped
    · next popped mode pop =>
      obtain ⟨rfl, -⟩ := Queues.queued_of_pop_error pop
      cases stepped
      exact .again phase mode pop
    · next reply popped pop blocking =>
      cases stepped
      refine .returned phase pop ?_
      exact fun mode nothing => blocking mode nothing
  · cases stepped

/-- The time of a reader runs out while it waits, and finds neither a unit nor the signal
closed. -/
theorem System.expireStep_inv {q : Queues} {reader after : Reader}
    (expired : expireStep q reader = some after) :
    reader.phase = .waiting ∧ after = { reader with phase := .returned (.error .readTimeout) } ∧
      ∃ slot, q.slot? reader.handle = some slot ∧ slot.signal.pass? = none := by
  unfold expireStep at expired
  split at expired
  · next phase held =>
    cases expired
    obtain ⟨slot, found, none⟩ := Option.map_eq_some_iff.mp held
    exact ⟨phase, rfl, slot, found, none⟩
  · cases expired

/-- A step of a reader gives it the oldest fragment of its handle, or changes no
queue. -/
theorem System.readStep_cases {q next : Queues} {reader after : Reader}
    (h : readStep q reader = some (after, next)) :
    after.handle = reader.handle ∧ next.slots.length = q.slots.length ∧
      next.terminal = q.terminal ∧
      ((∃ fragment, after.phase = .returned (.ok fragment) ∧
          q.queued reader.handle = fragment :: next.queued reader.handle ∧
          ∀ other, other ≠ reader.handle → next.queued other = q.queued other) ∨
        ((∀ fragment, after.phase ≠ .returned (.ok fragment)) ∧
          ∀ handle, next.queued handle = q.queued handle)) := by
  cases readStep_inv h with
  | unknown => exact ⟨rfl, rfl, rfl, .inr ⟨(fun _ wrong => nomatch wrong), fun _ => rfl⟩⟩
  | again => exact ⟨rfl, rfl, rfl, .inr ⟨(fun _ wrong => nomatch wrong), fun _ => rfl⟩⟩
  | passed =>
    -- it takes a unit or finds the signal closed, and no fragment is touched
    exact ⟨rfl, by simp, rfl, .inr ⟨(fun _ wrong => nomatch wrong), by simp⟩⟩
  | returned _ pop =>
    rcases q.pop_cases reader.handle with
      ⟨fragment, popped, same, taken, others, slots, terminal⟩ | ⟨failure, same, -⟩
    · rw [pop] at same
      cases same
      exact ⟨rfl, slots, terminal, .inl ⟨fragment, rfl, taken, others⟩⟩
    · rw [pop] at same
      cases same
      exact ⟨rfl, rfl, rfl, .inr ⟨(fun _ wrong => nomatch wrong), fun _ => rfl⟩⟩

/-! ### Stops -/

variable {κ : Type}

/-- The steps of a stop. -/
inductive StopStep (d : Demux κ) : StopPhase → StopPhase → Demux κ → Prop
  | took : StopStep d .called (.took d.isJoinable) { d with lifecycle := .stopped }
  | raised (taken : Bool) : StopStep d (.took taken) (.raised taken) d.requestCancellation.2
  | joined (taken : Bool) (ended : d.joinReply taken ≠ .waiting) :
      StopStep d (.raised taken) (.joined (d.joinReply taken)) d
  | returned (reply : StopReply) : StopStep d (.joined reply) (.returned reply) d.recordStop

/-- A stop makes no other steps than those. -/
theorem System.stopStep_inv {d next : Demux κ} {phase after : StopPhase}
    (stepped : stopStep d phase = some (after, next)) : StopStep d phase after next := by
  cases phase with
  | called =>
    cases stepped
    exact .took
  | took taken =>
    cases stepped
    exact .raised taken
  | raised taken =>
    simp only [stopStep] at stepped
    split at stepped
    · cases stepped
    · next going =>
      cases stepped
      exact .joined taken going
  | joined reply =>
    cases stepped
    exact .returned reply
  | returned reply => cases stepped

/-! ### Actions -/

namespace System

variable [Condition κ] {s next : System κ} {index : Nat}

/-- A stop that goes on makes its next step. -/
theorem act_goOnStop (h : s.act (.goOnStop index) = some next) :
    ∃ phase after d, s.stops[index]? = some phase ∧ stopStep s.demux phase = some (after, d) ∧
      next = { s with demux := d, stops := s.stops.set index after } := by
  simp only [act, Option.bind_eq_bind, Option.bind_eq_some_iff] at h
  obtain ⟨phase, there, ⟨after, d⟩, stepped, result⟩ := h
  cases result
  exact ⟨phase, after, d, there, stepped, rfl⟩

/-- A reader that goes on makes its next step. -/
theorem act_goOnRead (h : s.act (.goOnRead index) = some next) :
    ∃ reader after q, s.readers[index]? = some reader ∧
      readStep s.demux.queues reader = some (after, q) ∧
      next =
        { s with
          demux := { s.demux with queues := q }
          readers := s.readers.set index after } := by
  simp only [act, Option.bind_eq_bind, Option.bind_eq_some_iff] at h
  obtain ⟨reader, there, ⟨after, q⟩, stepped, result⟩ := h
  cases result
  exact ⟨reader, after, q, there, stepped, rfl⟩

/-- A reader whose time runs out is the only one to notice. -/
theorem act_expire (h : s.act (.expire index) = some next) :
    ∃ reader after, s.readers[index]? = some reader ∧
      expireStep s.demux.queues reader = some after ∧
      next = { s with readers := s.readers.set index after } := by
  simp only [act, Option.bind_eq_bind, Option.bind_eq_some_iff] at h
  obtain ⟨reader, there, after, stepped, result⟩ := h
  cases result
  exact ⟨reader, after, there, stepped, rfl⟩

/-- A reader goes on if it can. -/
theorem act_goOnRead_eq {reader after : Reader} {q : Queues}
    (there : s.readers[index]? = some reader)
    (stepped : readStep s.demux.queues reader = some (after, q)) :
    s.act (.goOnRead index) =
      some { s with
        demux := { s.demux with queues := q }
        readers := s.readers.set index after } := by
  simp only [act, there, Option.bind_eq_bind, Option.bind_some, stepped]

/-- The time of a reader runs out if it can. -/
theorem act_expire_eq {reader : Reader} (there : s.readers[index]? = some reader) :
    s.act (.expire index) = (expireStep s.demux.queues reader).map fun after =>
      { s with readers := s.readers.set index after } := by
  simp only [act, there, Option.bind_eq_bind, Option.bind_some]
  cases expireStep s.demux.queues reader <;> rfl

/-- How a call of stop that is under way has come as far as it is: it was there before, it
has just been called, or it has just gone on. -/
theorem stop_inv {action : Action κ} {phase : StopPhase} (acted : s.act action = some next)
    (found : next.stops[index]? = some phase) :
    s.stops[index]? = some phase ∨ phase = .called ∨
      (action = .goOnStop index ∧
        ∃ before, s.stops[index]? = some before ∧ StopStep s.demux before phase next.demux) := by
  cases action with
  | register | start | work | cancel | callRead =>
    cases acted
    exact .inl found
  | callStop =>
    cases acted
    rw [List.getElem?_append] at found
    split at found
    · exact .inl found
    · exact .inr (.inl (List.mem_singleton.mp (List.mem_of_getElem? found)))
  | goOnStop moved =>
    obtain ⟨before, after, d, there, stepped, rfl⟩ := act_goOnStop acted
    by_cases same : moved = index
    · subst same
      rw [List.getElem?_set_self (List.getElem?_eq_some_iff.mp there).1] at found
      cases found
      exact .inr (.inr ⟨rfl, before, there, stopStep_inv stepped⟩)
    · rw [List.getElem?_set_ne same] at found
      exact .inl found
  | goOnRead moved =>
    obtain ⟨reader, after, q, -, -, rfl⟩ := act_goOnRead acted
    exact .inl found
  | expire moved =>
    obtain ⟨reader, after, -, -, rfl⟩ := act_expire acted
    exact .inl found

/-- A stop that is under way was under way before, has just been called, or has just gone
on. -/
theorem stops_inv {action : Action κ} {phase : StopPhase} (acted : s.act action = some next)
    (member : phase ∈ next.stops) :
    phase ∈ s.stops ∨ phase = .called ∨
      ∃ before ∈ s.stops, StopStep s.demux before phase next.demux := by
  obtain ⟨index, found⟩ := List.getElem?_of_mem member
  rcases stop_inv acted found with old | new | ⟨-, before, there, step⟩
  · exact .inl (List.mem_of_getElem? old)
  · exact .inr (.inl new)
  · exact .inr (.inr ⟨before, List.mem_of_getElem? there, step⟩)

end System

end SocketDemux
