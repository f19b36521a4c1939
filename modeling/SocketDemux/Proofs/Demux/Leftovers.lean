import SocketDemux.Proofs.Demux.Termination
import SocketDemux.Proofs.Demux.Turns
/-!
# SocketDemux.Proofs.Demux.Leftovers

What a worker **leaves in the buffer** when it turns to the transport.

With conditions that keep no state, a worker that asks for a refill has been declined by
all of them, about the very bytes that are buffered then. So a refill that fails strands
nothing that anybody would cut.

There is one gap, and it comes first: a worker refills before it has asked anybody. What its
buffer holds when it is launched is shown to nobody before that refill has succeeded, and
is left behind if it fails: a full buffer is called exhausted though there is a match in
it. `refill_strands_nothing` says that this is the only gap, and so under which condition
there is none; `lines_left_behind` shows a line that falls into it.
-/

namespace SocketDemux

variable {κ : Type} [Condition κ]

/-- The failures that a refill without a deadline comes back with. -/
def RefillFailure (failure : SocketError) : Prop :=
  ReadFailure failure ∨ ∃ capacity, failure = .bufferExhausted capacity

/-- The worker asks for a refill, or a refill has ended it. -/
def Worker.AtRefill (w : Worker κ) : Prop :=
  w.phase = .refilling ∨ ∃ failure, RefillFailure failure ∧
    (w.phase = .failing failure ∨ w.phase = .ended (.ofFailure failure))

/-- A failure can be told from the end that it makes. -/
theorem WorkerEnd.ofFailure_injective {first second : SocketError}
    (same : ofFailure first = ofFailure second) : first = second := by
  unfold ofFailure at same
  split at same
  · split at same
    · rfl
    · cases same
  · split at same
    · cases same
    · cases same
      rfl

/-- An invalid condition is no failure of a refill. -/
theorem RefillFailure.ne_invalidCondition {failure : SocketError} (refill : RefillFailure failure)
    (requested buffered : Nat) : failure ≠ .invalidCondition requested buffered := by
  rcases refill with read | ⟨capacity, rfl⟩
  · cases read <;> simp
  · simp

namespace Justified

variable {early : Prop} {conditions : List κ} {data : Bytes} {capacity : Nat}

/-- A refill has failed with what refills fail with. -/
theorem refillFailure {failure : SocketError}
    (refused : (data.length = capacity ∧ failure = .bufferExhausted capacity) ∨
      ReadFailure failure) : RefillFailure failure := by
  rcases refused with ⟨-, full⟩ | read
  · exact .inr ⟨capacity, full⟩
  · exact .inl read

/-- At a refill, all have declined, or it is the first one. -/
theorem quiet {w : Worker κ} (justified : Justified early conditions data capacity w.phase)
    (atRefill : w.AtRefill) : early ∨ Unclaimed conditions data := by
  have failing : ∀ failure, RefillFailure failure →
      Justified early conditions data capacity (.failing failure) →
        early ∨ Unclaimed conditions data := by
    intro failure refill cause
    cases cause with
    | stalled quiet => exact quiet
    | overclaimed => exact absurd rfl (refill.ne_invalidCondition _ _)
  rcases atRefill with phase | ⟨failure, refill, phase | phase⟩
  · rw [phase] at justified
    cases justified with
    | refilling quiet => exact quiet
  · rw [phase] at justified
    exact failing failure refill justified
  · rw [phase] at justified
    cases justified with
    | failed recorded cause =>
      cases WorkerEnd.ofFailure_injective recorded
      exact failing failure refill cause
    | panicked recorded =>
      unfold WorkerEnd.ofFailure at recorded
      split at recorded
      · cases recorded
      · cases recorded

/-- A buffer that ends the worker for being exhausted is full. -/
theorem full {result : WorkerEnd} {size : Nat}
    (justified : Justified early conditions data capacity (.ended result))
    (exhausted : result = .failed (.bufferExhausted size)) :
    size = capacity ∧ data.length = capacity := by
  cases justified with
  | failed recorded cause =>
    have same : WorkerEnd.ofFailure (.bufferExhausted size) = .ofFailure _ :=
      exhausted.symm.trans recorded
    cases WorkerEnd.ofFailure_injective same
    cases cause with
    | stalled quiet refused =>
      rcases refused with ⟨full, size⟩ | read
      · cases size
        exact ⟨rfl, full⟩
      · cases read
  | panicked recorded =>
    rw [exhausted] at recorded
    cases recorded

/-- A worker is ended by a refill, by a condition that claims more than there is, or by
one that panics. -/
theorem end_cases {result : WorkerEnd}
    (justified : Justified early conditions data capacity (.ended result)) :
    (∃ failure, RefillFailure failure ∧ result = .ofFailure failure) ∨
      (data ≠ [] ∧ ∃ index span, firstTurn? conditions data = some (index, .ok span) ∧
        data.length < span.count ∧
        result = .failed (.invalidCondition span.count data.length)) ∨
      (data ≠ [] ∧ ∃ index message,
        firstTurn? conditions data = some (index, .error message) ∧
        result = .panicked message) := by
  cases justified with
  | failed recorded cause =>
    cases cause with
    | stalled quiet refused => exact .inl ⟨_, refillFailure refused, recorded⟩
    | overclaimed first present short =>
      exact .inr (.inl ⟨present, _, _, first, short, recorded⟩)
  | panicked recorded cause =>
    cases cause with
    | panicking first present => exact .inr (.inr ⟨present, _, _, first, recorded⟩)

end Justified

omit [Condition κ] in
/-- That the buffer is exhausted is recorded by the worker only, as it ends with that. -/
theorem Recorded.exhausted {s : System κ} {size : Nat} (inv : Recorded s)
    (there : s.demux.queues.terminal = some (.bufferExhausted size)) :
    s.demux.workerEnd? = some (.failed (.bufferExhausted size)) := by
  rcases inv.recorded _ there with ⟨-, wrong⟩ | ⟨result, ended, recorded⟩
  · cases wrong
  · cases result with
    | cancelled => cases recorded
    | panicked message => cases recorded
    | failed failure =>
      cases failure with
      | bufferExhausted => cases recorded; exact ended
      | _ => cases recorded

/-- **No stranded fragment.** Whenever the worker of stateless conditions asks for a
refill, and when it has been ended by one, all conditions decline the bytes that are
buffered; unless it has not asked anybody yet, and the buffer still holds what it held
when the worker was launched. That the buffer is exhausted is recorded for a full buffer
only, at a refill. A worker that is not ended by a refill is ended by a condition that
claims more than there is, or that panics, and by the first one that does not decline.

So no refill ever strands a fragment exactly if none waits in the buffer at launch. -/
theorem refill_strands_nothing [Stateless κ] (buffer : StreamBuffer) (conditions : List κ)
    (readers : List Reader) :
    (∀ actions s h,
      (System.mk (Demux.launch buffer conditions) [] readers).trace {} actions = some (s, h) →
        ∃ w, s.demux.worker = some w ∧
          (w.AtRefill →
            (w.journal = [] ∧ s.demux.buffer.storage.data = buffer.storage.data) ∨
              Unclaimed conditions s.demux.buffer.storage.data) ∧
          (∀ size, s.demux.queues.terminal = some (.bufferExhausted size) →
            w.AtRefill ∧ size = s.demux.buffer.storage.capacity ∧
              s.demux.buffer.storage.data.length = size) ∧
          (∀ result, w.phase = .ended result → w.AtRefill ∨
            (s.demux.buffer.storage.data ≠ [] ∧ ∃ index span,
              firstTurn? conditions s.demux.buffer.storage.data = some (index, .ok span) ∧
              s.demux.buffer.storage.data.length < span.count ∧
              result = .failed
                (.invalidCondition span.count s.demux.buffer.storage.data.length)) ∨
            (s.demux.buffer.storage.data ≠ [] ∧ ∃ index message,
              firstTurn? conditions s.demux.buffer.storage.data = some (index, .error message) ∧
              result = .panicked message))) ∧
    ((∀ actions s h w,
      (System.mk (Demux.launch buffer conditions) [] readers).trace {} actions = some (s, h) →
        s.demux.worker = some w → w.AtRefill →
          Unclaimed conditions s.demux.buffer.storage.data) ↔
      Unclaimed conditions buffer.storage.data) := by
  refine ⟨?_, ?_, ?_⟩
  · intro actions s h ran
    obtain ⟨w, turn⟩ := (InTurn.launch buffer conditions).trace ran
    have inv := (Recorded.launch buffer conditions readers).trace ran
    refine ⟨w, turn.worker, turn.justified.quiet, ?_, ?_⟩
    · intro size there
      have phase := Demux.phase_of_workerEnd? turn.worker (inv.exhausted there)
      have justified := turn.justified
      rw [phase] at justified
      obtain ⟨same, full⟩ := justified.full rfl
      exact ⟨.inr ⟨_, .inr ⟨size, rfl⟩, .inr phase⟩, same, full.trans same.symm⟩
    · intro result phase
      have justified := turn.justified
      rw [phase] at justified
      rcases justified.end_cases with ⟨failure, refill, same⟩ | other
      · exact .inl (.inr ⟨failure, refill, .inr (by rw [phase, same])⟩)
      · exact .inr other
  · -- the worker starts at a refill
    intro law
    have first := law [] _ _ _ rfl (Demux.launch_worker buffer conditions) (.inl rfl)
    dsimp only at first
    rw [Demux.launch_buffer] at first
    exact first
  · intro unclaimed actions s h w ran worker atRefill
    obtain ⟨w', turn⟩ := (InTurn.launch buffer conditions).trace ran
    cases worker.symm.trans turn.worker
    rcases turn.justified.quiet atRefill with ⟨-, same⟩ | declined
    · rw [same]
      exact unclaimed
    · exact declined

/-- The end of lines, as a condition without a state. -/
def lineEnd : Bytes → Decision := (Delimiter.mk 10).decision

/-- An empty buffer of four bytes, for a line, the front of another one, and the end of
the stream. -/
def lineAndMore : StreamBuffer :=
  .wrap { inbound := { events := [⟨.data [97, 10, 98], false, {}⟩], ending := .ended } } 4

/-- The end of the stream leaves no line behind, only the front of one. -/
theorem lineAndMore_strands_nothing :
    ∃ s h w,
      (System.mk (Demux.launch lineAndMore [lineEnd]) [] []).trace {}
          [.work, .work, .work, .work, .work, .work, .work] = some (s, h) ∧
        s.demux.worker = some w ∧ w.phase = .ended (.failed .closed) ∧
        s.demux.buffer.storage.data = [98] ∧
        Unclaimed [lineEnd] s.demux.buffer.storage.data := by
  have empty : Unclaimed [lineEnd] lineAndMore.storage.data := fun present => absurd rfl present
  have possible : ((System.mk (Demux.launch lineAndMore [lineEnd]) [] []).trace {}
      [.work, .work, .work, .work, .work, .work, .work]).map
        (fun last => (last.1.demux.worker.map (·.phase), last.1.demux.buffer.storage.data)) =
          some (some (.ended (.failed .closed)), [98]) := by decide
  obtain ⟨⟨s, h⟩, ran, facts⟩ := Option.map_eq_some_iff.mp possible
  obtain ⟨worker, data⟩ := Prod.mk.inj facts
  obtain ⟨w, there, phase⟩ := Option.map_eq_some_iff.mp worker
  refine ⟨s, h, w, ran, there, phase, data, ?_⟩
  exact (refill_strands_nothing lineAndMore [lineEnd] []).2.mpr empty _ s h w ran there
    (.inr ⟨.closed, .inl .closed, .inr phase⟩)

/-- A full buffer of four bytes, with a whole line in it. -/
def fullOfLine : StreamBuffer :=
  (StreamBuffer.fill (.wrap { inbound := { events := [⟨.data [97, 10, 98, 99], false, {}⟩] } } 4)
    none).2

/-- A condition that always claims one byte more than there is. -/
def tooMuch (data : Bytes) : Decision := .cut (data.length + 1)

/-- A line that is in the buffer at launch is left behind by the first refill, which
finds the buffer full; and one that has arrived since is left behind if a condition in
front of its own claims too much. -/
theorem lines_left_behind :
    (∃ s h w,
      (System.mk (Demux.launch fullOfLine [lineEnd]) [] []).trace {} [.work, .work] =
          some (s, h) ∧ s.demux.worker = some w ∧ w.AtRefill ∧
        s.demux.queues.terminal = some (.bufferExhausted 4) ∧
        ¬ Unclaimed [lineEnd] s.demux.buffer.storage.data) ∧
      ∃ s h w,
        (System.mk (Demux.launch
            (.wrap { inbound := { events := [⟨.data [97, 10], false, {}⟩] } } 4)
            [tooMuch, lineEnd]) [] []).trace {} [.work, .work, .work] = some (s, h) ∧
          s.demux.worker = some w ∧ w.phase = .ended (.failed (.invalidCondition 3 2)) ∧
          Condition.turn? lineEnd s.demux.buffer.storage.data = some (.ok ⟨2, true, by decide⟩) := by
  constructor
  · refine ⟨_, _, _, rfl, rfl, .inr ⟨.bufferExhausted 4, .inr ⟨4, rfl⟩, .inr rfl⟩, rfl, ?_⟩
    intro unclaimed
    have declined := unclaimed (by decide) lineEnd (List.mem_singleton.mpr rfl)
    revert declined
    decide
  · exact ⟨_, _, _, rfl, rfl, rfl, rfl⟩

end SocketDemux
