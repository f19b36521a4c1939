import SocketDemux.Proofs.Demux.Regular
import SocketDemux.Proofs.Error.Copy
/-!
# SocketDemux.Proofs.Demux.Draining

**Drain, then fail**: what readers get when a demultiplexer has ended.

At the end a failure is recorded and every signal is closed, in one step. From then on no
wait blocks, whatever units are left over, so a reader always comes to its pop; and a pop
finds a fragment or the failure.

* `Queues.Released` — the failure is recorded, and all signals are closed.
* `Queues.Serves` — what a read does then: it takes the oldest fragment of its handle, or
  fails with a copy of the failure if there is none.
* `ReaderCall`, `Demux.answers` — readers of any handles call one after the other.
* `drained_then_failed` — what that gives in every state that a demultiplexer can come to
  after its end.
-/

namespace SocketDemux

/-! ### Released queues -/

/-- A closed signal lets every wait pass, and stays closed. -/
theorem Signal.pass?_of_closed {signal : Signal} (closed : signal.closed = true) :
    ∃ after, signal.pass? = some after ∧ after.closed = true := by
  unfold pass?
  split
  · exact ⟨_, rfl, closed⟩
  · exact ⟨_, rfl, closed⟩

namespace Queues

/-- The end of the demultiplexer is recorded, and no wait blocks any more. -/
structure Released (q : Queues) (failure : SocketError) : Prop where
  fatal : Fatal failure
  recorded : q.terminal = some failure
  closed : q.AllClosed true

/-- A read of a handle takes its oldest fragment; behind the last one it fails with a copy
of the failure. -/
structure Serves (failure : SocketError) (q : Queues) (handle : Handle)
    (reply : Reply SocketError Bytes) (next : Queues) : Prop where
  released : next.Released failure
  slots : next.slots.length = q.slots.length
  reply : reply = match q.queued handle with
    | fragment :: _ => .ok fragment
    | [] => .error failure.copy
  left : next.queued handle = (q.queued handle).tail
  others : ∀ other, other ≠ handle → next.queued other = q.queued other

variable {q : Queues} {failure : SocketError} {handle : Handle}

/-- A change of a slot that leaves its signal closed. -/
theorem Released.modifySlot (released : q.Released failure) (handle : Handle)
    {change : Slot → Slot}
    (keeps : ∀ slot, slot.signal.closed = true → (change slot).signal.closed = true) :
    (q.modifySlot handle.index change).Released failure :=
  ⟨released.fatal, released.recorded, released.closed.modifySlot fun slot _ => keeps slot⟩

theorem Released.setSignal (released : q.Released failure) {signal : Signal}
    (closed : signal.closed = true) (target : Handle) :
    (q.setSignal target signal).Released failure :=
  released.modifySlot target fun _ _ => closed

/-- A pop serves the reader. -/
theorem Released.pop (released : q.Released failure) (inside : handle.index < q.slots.length) :
    Serves failure q handle (.ofExcept (q.pop handle).1) (q.pop handle).2 := by
  rcases q.pop_cases handle with ⟨fragment, next, pop, taken, others, slots, -⟩ | ⟨_, _, empty⟩
  · rw [pop]
    refine ⟨?_, slots, ?_, ?_, others⟩
    · rcases pop_inv pop with rfl | ⟨rest, rfl⟩
      · exact released
      · exact released.modifySlot handle fun _ closed => closed
    · rw [taken]
      rfl
    · rw [taken]
      rfl
  · rw [pop_of_terminal inside released.recorded empty]
    refine ⟨released, rfl, ?_, ?_, fun _ _ => rfl⟩
    · rw [empty]
      rfl
    · rw [empty]
      rfl

/-- What is popped is never that there is no data. -/
theorem Released.pop_ne_noData (released : q.Released failure)
    (inside : handle.index < q.slots.length) : (q.pop handle).1 ≠ .error .noData := by
  rcases q.pop_cases handle with ⟨fragment, next, pop, -⟩ | ⟨_, _, empty⟩
  · rw [pop]
    exact fun wrong => nomatch wrong
  · rw [pop_of_terminal inside released.recorded empty]
    intro wrong
    exact released.fatal.copy.ne_noData (Except.error.inj wrong)

/-- To whom the queues look the same, they serve the same. -/
theorem Serves.congr {q' next : Queues} {reply : Reply SocketError Bytes}
    (served : Serves failure q' handle reply next) (slots : q'.slots.length = q.slots.length)
    (queued : ∀ target, q'.queued target = q.queued target) :
    Serves failure q handle reply next where
  released := served.released
  slots := served.slots.trans slots
  reply := by
    rw [← queued]
    exact served.reply
  left := by
    rw [← queued]
    exact served.left
  others other different := (served.others other different).trans (queued other)

/-- A blocking read serves the reader as well, whatever units there are: neither does it
wait, nor does its time run out. -/
theorem Released.popSignalled (released : q.Released failure)
    (inside : handle.index < q.slots.length) (timeout : Timeout) (units : Nat) :
    Serves failure q handle (q.popSignalled handle timeout units).1
      (q.popSignalled handle timeout units).2 := by
  cases units with
  | zero =>
    -- there is no unit, but the signal is closed
    obtain ⟨slot, found⟩ := exists_slot inside
    have served := released.pop inside
    have present := released.pop_ne_noData inside
    unfold Queues.popSignalled
    rw [found]
    dsimp only
    rw [if_pos (released.closed handle _ found)]
    split
    · next nothing =>
      rw [nothing] at present
      exact absurd rfl present
    · next reply next _ pop =>
      rw [pop] at served
      exact served
  | succ units =>
    -- a unit is taken, and then it pops
    unfold Queues.popSignalled
    have slots := length_slots_modifySlot q handle.index fun slot =>
      { slot with signal := { slot.signal with units := units } }
    have same := @queued_modifySlot q handle.index
      (fun slot => { slot with signal := { slot.signal with units := units } }) fun _ => rfl
    have taken := @Released.modifySlot q failure released handle
      (fun slot => { slot with signal := { slot.signal with units := units } })
      fun _ closed => closed
    generalize (q.modifySlot handle.index fun slot =>
      { slot with signal := { slot.signal with units := units } }) = middle at slots same taken ⊢
    have served := taken.pop (slots.symm ▸ inside)
    have present := taken.pop_ne_noData (slots.symm ▸ inside)
    dsimp only
    split
    · next nothing =>
      rw [nothing] at present
      exact absurd rfl present
    · next reply next _ pop =>
      rw [pop] at served
      exact served.congr slots same

/-- A blocking read of a handle serves the reader. -/
theorem Released.readBlocking (released : q.Released failure)
    (inside : handle.index < q.slots.length) (timeout : Timeout) :
    Serves failure q handle (q.readBlocking handle timeout).1
      (q.readBlocking handle timeout).2 := by
  obtain ⟨slot, found⟩ := exists_slot inside
  unfold Queues.readBlocking
  rw [found]
  exact released.popSignalled inside timeout _

/-- A wait comes back at once, and touches no fragment. -/
theorem Released.wait (released : q.Released failure) (inside : handle.index < q.slots.length)
    (timeout : Timeout) :
    ∃ next, q.wait handle timeout = (.ok true, next) ∧ next.Released failure ∧
      next.slots.length = q.slots.length ∧ ∀ target, next.queued target = q.queued target := by
  obtain ⟨slot, found⟩ := exists_slot inside
  obtain ⟨signal, passed, closed⟩ := Signal.pass?_of_closed (released.closed handle _ found)
  unfold Queues.wait
  rw [found]
  dsimp only
  rw [passed]
  exact ⟨_, rfl, released.setSignal closed handle, length_slots_setSignal q handle signal,
    fun target => queued_setSignal q handle target signal⟩

/-- Without such a slot, every read and every wait is refused, and changes nothing. -/
theorem refused_of_unknown (outside : ¬handle.index < q.slots.length) (timeout : Timeout) :
    q.pop handle = (.error .invalidHandle, q) ∧
      q.readBlocking handle timeout = (.error .invalidHandle, q) ∧
      q.wait handle timeout = (.error .invalidHandle, q) := by
  have unknown := slot?_eq_none (Nat.not_lt.mp outside)
  refine ⟨?_, ?_, ?_⟩
  · unfold Queues.pop
    rw [unknown]
  · unfold Queues.readBlocking
    rw [unknown]
  · unfold Queues.wait
    rw [unknown]

/-- The same queues, with other wake-up units. -/
def withUnits (q : Queues) (units : Nat → Nat) : Queues :=
  { q with
    slots := q.slots.mapIdx fun index slot =>
      { slot with signal := { slot.signal with units := units index } } }

theorem length_slots_withUnits (q : Queues) (units : Nat → Nat) :
    (q.withUnits units).slots.length = q.slots.length := List.length_mapIdx

theorem queued_withUnits (q : Queues) (units : Nat → Nat) (handle : Handle) :
    (q.withUnits units).queued handle = q.queued handle := by
  simp only [queued, slot?, withUnits, List.getElem?_mapIdx]
  cases q.slots[handle.index]? <;> rfl

theorem Released.withUnits (released : q.Released failure) (units : Nat → Nat) :
    (q.withUnits units).Released failure where
  fatal := released.fatal
  recorded := released.recorded
  closed target slot found := by
    simp only [slot?, Queues.withUnits, List.getElem?_mapIdx, Option.map_eq_some_iff] at found
    obtain ⟨before, found, rfl⟩ := found
    exact released.closed target before found

end Queues

/-! ### One call after the other -/

/-- A call of a reader. -/
inductive ReaderCall
  | readBlocking (handle : Handle) (timeout : Timeout)
  | readNonBlocking (handle : Handle)
  | wait (handle : Handle) (timeout : Timeout)
  deriving Repr, DecidableEq

/-- What a call of a reader comes back with. -/
inductive ReaderAnswer
  | read (handle : Handle) (reply : Reply SocketError Bytes)
  | waited (handle : Handle) (reply : Reply SocketError Bool)
  deriving Repr, DecidableEq

/-- The handle that a call is about. -/
def ReaderCall.handle : ReaderCall → Handle
  | .readBlocking handle _ | .readNonBlocking handle | .wait handle _ => handle

/-- Is this call a read of the handle? -/
def ReaderCall.reads (target : Handle) : ReaderCall → Bool
  | .readBlocking handle _ | .readNonBlocking handle => handle = target
  | .wait .. => false

/-- A call reads no other handle than its own. -/
theorem ReaderCall.reads_eq_false {call : ReaderCall} {target : Handle}
    (other : call.handle ≠ target) : call.reads target = false := by
  cases call with
  | wait handle timeout => rfl
  | _ => exact decide_eq_false other

/-- The replies to the reads of a handle. -/
def repliesTo (target : Handle) (answers : List ReaderAnswer) : List (Reply SocketError Bytes) :=
  answers.filterMap fun
    | .read handle reply => if handle = target then some reply else none
    | .waited .. => none

theorem repliesTo_read (target handle : Handle) (reply : Reply SocketError Bytes)
    (others : List ReaderAnswer) :
    repliesTo target (.read handle reply :: others) =
      if handle = target then reply :: repliesTo target others else repliesTo target others := by
  unfold repliesTo
  rw [List.filterMap_cons]
  by_cases mine : handle = target
  · simp [mine]
  · simp [mine]

theorem repliesTo_waited (target handle : Handle) (reply : Reply SocketError Bool)
    (others : List ReaderAnswer) :
    repliesTo target (.waited handle reply :: others) = repliesTo target others := rfl

/-- What so many reads of a handle come back with: its fragments in their order, and from
then on a copy of the failure. -/
def drained (failure : SocketError) (fragments : List Bytes) (reads : Nat) :
    List (Reply SocketError Bytes) :=
  (fragments.take reads).map Reply.ok ++
    List.replicate (reads - fragments.length) (Reply.error failure.copy)

theorem drained_succ (failure : SocketError) (fragments : List Bytes) (reads : Nat) :
    drained failure fragments (reads + 1) =
      (match fragments with
        | fragment :: _ => .ok fragment
        | [] => .error failure.copy) :: drained failure fragments.tail reads := by
  cases fragments with
  | nil => simp [drained, List.replicate_succ]
  | cons fragment rest => simp [drained]

variable {κ : Type}

namespace Demux

/-- The same demultiplexer, with other wake-up units. -/
def withUnits (d : Demux κ) (units : Nat → Nat) : Demux κ :=
  { d with queues := d.queues.withUnits units }

/-- What a call comes back with, while nothing else happens. -/
def answer (d : Demux κ) : ReaderCall → ReaderAnswer × Demux κ
  | .readBlocking handle timeout =>
      let (reply, d) := d.readBlocking handle timeout
      (.read handle reply, d)
  | .readNonBlocking handle =>
      let (reply, d) := d.readNonBlocking handle
      (.read handle (.ofExcept reply), d)
  | .wait handle timeout =>
      let (reply, d) := d.wait handle timeout
      (.waited handle reply, d)

/-- What one call after the other comes back with. -/
def answers (d : Demux κ) : List ReaderCall → List ReaderAnswer × Demux κ
  | [] => ([], d)
  | call :: rest =>
      let (first, d) := d.answer call
      let (others, d) := d.answers rest
      (first :: others, d)

/-- What a call does to a demultiplexer that has ended: a read of a registered handle is
served; any other call leaves all queues as they are. -/
inductive Answered (failure : SocketError) (d : Demux κ) (call : ReaderCall) :
    ReaderAnswer → Demux κ → Prop
  | served {reply : Reply SocketError Bytes} {next : Demux κ}
      (reads : ∀ target, call.reads target = decide (call.handle = target))
      (serves : Queues.Serves failure d.queues call.handle reply next.queues) :
      Answered failure d call (.read call.handle reply) next
  | passed {next : Demux κ} (reads : ∀ target, call.reads target = false)
      (released : next.queues.Released failure)
      (slots : next.queues.slots.length = d.queues.slots.length)
      (queued : ∀ target, next.queues.queued target = d.queues.queued target) :
      Answered failure d call (.waited call.handle (.ok true)) next
  | refused {answer : ReaderAnswer} (unknown : d.queues.slots.length ≤ call.handle.index)
      (answers : answer = .read call.handle (.error .invalidHandle) ∨
        answer = .waited call.handle (.error .invalidHandle)) :
      Answered failure d call answer d

theorem answer_cases {d : Demux κ} {failure : SocketError} (released : d.queues.Released failure)
    (call : ReaderCall) : Answered failure d call (d.answer call).1 (d.answer call).2 := by
  cases call with
  | readBlocking handle timeout =>
    by_cases inside : handle.index < d.queues.slots.length
    · exact .served (fun _ => rfl) (released.readBlocking inside timeout)
    · have refused := (Queues.refused_of_unknown inside timeout).2.1
      have answered : d.answer (.readBlocking handle timeout) =
          (.read handle (.error .invalidHandle), d) := by
        simp only [answer, Demux.readBlocking, onQueues, refused]
      rw [answered]
      exact .refused (Nat.not_lt.mp inside) (.inl rfl)
  | readNonBlocking handle =>
    by_cases inside : handle.index < d.queues.slots.length
    · exact .served (fun _ => rfl) (released.pop inside)
    · have refused := (Queues.refused_of_unknown inside none).1
      have answered : d.answer (.readNonBlocking handle) =
          (.read handle (.error .invalidHandle), d) := by
        simp only [answer, Demux.readNonBlocking, onQueues, refused, Reply.ofExcept]
      rw [answered]
      exact .refused (Nat.not_lt.mp inside) (.inl rfl)
  | wait handle timeout =>
    by_cases inside : handle.index < d.queues.slots.length
    · obtain ⟨next, waited, released', slots, queued⟩ := released.wait inside timeout
      have answered : d.answer (.wait handle timeout) =
          (.waited handle (.ok true), { d with queues := next }) := by
        simp only [answer, Demux.wait, onQueues, waited]
      rw [answered]
      exact .passed (fun _ => rfl) released' slots queued
    · have refused := (Queues.refused_of_unknown inside timeout).2.2
      have answered : d.answer (.wait handle timeout) =
          (.waited handle (.error .invalidHandle), d) := by
        simp only [answer, Demux.wait, onQueues, refused]
      rw [answered]
      exact .refused (Nat.not_lt.mp inside) (.inr rfl)

/-- Readers who call one after the other, in whatever order, get from each handle its
fragments and then copies of the failure; and no wait is in vain. -/
theorem answers_of_released {d : Demux κ} {failure : SocketError}
    (released : d.queues.Released failure) (calls : List ReaderCall) {target : Handle}
    (inside : target.index < d.queues.slots.length) :
    repliesTo target (d.answers calls).1 =
        drained failure (d.queues.queued target) (calls.countP (·.reads target)) ∧
      ∀ reply, ReaderAnswer.waited target reply ∈ (d.answers calls).1 → reply = .ok true := by
  induction calls generalizing d with
  | nil =>
    refine ⟨?_, fun reply wrong => nomatch wrong⟩
    simp [answers, repliesTo, drained]
  | cons call rest ih =>
    have first := answer_cases released call
    rw [answers, List.countP_cons]
    dsimp only
    generalize (d.answer call).1 = answer, (d.answer call).2 = next at first ⊢
    cases first with
    | @served reply next reads serves =>
      obtain ⟨replies, waits⟩ := ih serves.released (by rw [serves.slots]; exact inside)
      refine ⟨?_, fun reply member => ?_⟩
      · rw [repliesTo_read, replies, reads]
        by_cases mine : call.handle = target
        · subst mine
          rw [if_pos rfl, decide_eq_true rfl, if_pos rfl, drained_succ, serves.reply, serves.left]
        · rw [if_neg mine, decide_eq_false mine, if_neg Bool.false_ne_true, Nat.add_zero,
            serves.others target (fun same => mine same.symm)]
      · exact waits reply (by simpa using member)
    | @passed next reads released' slots queued =>
      obtain ⟨replies, waits⟩ := ih released' (by rw [slots]; exact inside)
      refine ⟨?_, fun reply member => ?_⟩
      · rw [repliesTo_waited, replies, reads, queued, if_neg Bool.false_ne_true, Nat.add_zero]
      · rcases List.mem_cons.mp member with same | later
        · cases same
          rfl
        · exact waits reply later
    | refused unknown answers =>
      -- nobody has registered that handle, so it is another one
      obtain ⟨replies, waits⟩ := ih released inside
      have other : call.handle ≠ target := by
        rintro rfl
        omega
      rw [call.reads_eq_false other, if_neg Bool.false_ne_true, Nat.add_zero]
      rcases answers with rfl | rfl
      · refine ⟨?_, fun reply member => waits reply (by simpa using member)⟩
        rw [repliesTo_read, if_neg other]
        exact replies
      · refine ⟨replies, fun reply member => ?_⟩
        rcases List.mem_cons.mp member with same | later
        · cases same
          exact absurd rfl other
        · exact waits reply later

end Demux

/-! ### Readers at the same time -/

/-- A reader under way finds no wait to hold it up: it passes the signal, or it is
served. -/
theorem Queues.Released.readStep {q : Queues} {failure : SocketError}
    (released : q.Released failure) {reader : Reader}
    (inside : reader.handle.index < q.slots.length) (going : ∀ reply, reader.phase ≠ .returned reply) :
    ∃ after next, System.readStep q reader = some (after, next) ∧
      ((reader.phase = .waiting ∧ after.phase = .claimed ∧ next.Released failure ∧
          ∀ target, next.queued target = q.queued target) ∨
        (reader.phase = .claimed ∧ ∃ reply, after.phase = .returned reply ∧
          Serves failure q reader.handle (.ofExcept reply) next)) := by
  obtain ⟨slot, found⟩ := q.exists_slot inside
  unfold System.readStep
  cases phase : reader.phase with
  | waiting =>
    obtain ⟨signal, passed, closed⟩ := Signal.pass?_of_closed (released.closed _ _ found)
    dsimp only
    rw [found]
    dsimp only
    rw [passed]
    exact ⟨_, _, rfl, .inl ⟨rfl, rfl, released.setSignal closed _,
      fun target => queued_setSignal q reader.handle target signal⟩⟩
  | claimed =>
    have served := released.pop inside
    have present := released.pop_ne_noData inside
    dsimp only
    split
    · next nothing =>
      rw [nothing] at present
      exact absurd rfl present
    · next reply next pop _ =>
      rw [pop] at served
      exact ⟨_, _, rfl, .inr ⟨rfl, reply, rfl, served⟩⟩
  | returned reply => exact absurd phase (going reply)

/-- Nor does its time run out. -/
theorem Queues.Released.expireStep {q : Queues} {failure : SocketError}
    (released : q.Released failure) {reader : Reader}
    (inside : reader.handle.index < q.slots.length) : System.expireStep q reader = none := by
  obtain ⟨slot, found⟩ := q.exists_slot inside
  obtain ⟨signal, passed, -⟩ := Signal.pass?_of_closed (released.closed _ _ found)
  unfold System.expireStep
  rw [found, Option.map_some, passed]
  cases reader.phase <;> rfl

/-! ### The end -/

/-- Nothing is recorded, and no signal is closed. -/
def Queues.Open (q : Queues) : Prop := q.terminal = none ∧ q.AllClosed false

/-- The worker has ended, or the demultiplexer was stopped and never had one. -/
def System.Over (s : System κ) : Prop :=
  (∃ result, s.demux.workerEnd? = some result) ∨
    (s.demux.worker = none ∧ ∃ reply, StopPhase.returned reply ∈ s.stops)

/-- Signals and record agree. -/
theorem Demux.Regular.open_or_released {d : Demux κ} (regular : d.Regular) :
    (d.queues.terminal = none ∧ d.queues.Open) ∨
      ∃ failure, d.queues.terminal = some failure ∧ d.queues.Released failure := by
  cases recorded : d.queues.terminal with
  | none =>
    refine .inl ⟨rfl, recorded, fun handle slot found => ?_⟩
    rw [regular.uniform handle slot found, recorded]
    rfl
  | some failure =>
    refine .inr ⟨failure, rfl, regular.fatal failure recorded, recorded, ?_⟩
    intro handle slot found
    rw [regular.uniform handle slot found, recorded]
    rfl

/-- It is a worker that has ended. -/
theorem Demux.exists_worker_of_ended {d : Demux κ} {result : WorkerEnd}
    (ended : d.workerEnd? = some result) : ∃ w, d.worker = some w ∧ w.phase = .ended result := by
  cases worker : d.worker with
  | none =>
    rw [workerEnd?, worker] at ended
    cases ended
  | some w => exact ⟨w, rfl, phase_of_workerEnd? worker ended⟩

/-- The end is recorded. -/
theorem System.Regular.released {s : System κ} (regular : s.Regular) (finished : s.Over) :
    ∃ failure, s.demux.queues.Released failure := by
  rcases regular.demux.open_or_released with ⟨unrecorded, -⟩ | ⟨failure, -, released⟩
  · rcases finished with ⟨result, ended⟩ | ⟨-, reply, member⟩
    · obtain ⟨w, worker, phase⟩ := s.demux.exists_worker_of_ended ended
      obtain ⟨-, -, admits⟩ := regular.demux.working w worker
      rw [phase] at admits
      exact absurd unrecorded admits
    · exact absurd unrecorded (regular.recorded reply member)
  · exact ⟨failure, released⟩

/-- **Drain, then fail.** In every state that a fresh demultiplexer can come to, nothing is
recorded and no signal is closed, or a failure is recorded and all signals are; and what is
recorded stays. Once the demultiplexer is over, readers who call one after the other, with
any time budgets, for any handles, and whatever wake-up units there are, get from each
registered handle the fragments queued for it, and then copies of that failure, which have
its name, its kind and its text; no wait is in vain. Nor is any reader held up who is under
way by then: its time cannot run out, it can pass the signal, and it is served when it
pops. -/
theorem drained_then_failed [Condition κ] {buffer : StreamBuffer} {s : System κ}
    (reachable : System.Reachable (System.fresh buffer) s) :
    (s.demux.queues.Open ∨ ∃ failure, s.demux.queues.Released failure) ∧
    (∀ failure later, s.demux.queues.terminal = some failure → System.Reachable s later →
      later.demux.queues.terminal = some failure) ∧
    (s.Over → ∃ failure, s.demux.queues.Released failure ∧
      failure.copy ≠ .readTimeout ∧ failure.copy ≠ .noData ∧
      failure.copy.label = failure.label ∧ failure.copy.kind = failure.kind ∧
      failure.copy.text = failure.text ∧
      (∀ units calls target answers d, target.index < s.demux.queues.slots.length →
        (s.demux.withUnits units).answers calls = (answers, d) →
        repliesTo target answers =
            drained failure (s.demux.queues.queued target) (calls.countP (·.reads target)) ∧
          ∀ reply, ReaderAnswer.waited target reply ∈ answers → reply = .ok true) ∧
      ∀ index reader, s.readers[index]? = some reader →
        reader.handle.index < s.demux.queues.slots.length →
        (∀ reply, reader.phase ≠ .returned reply) →
        s.act (.expire index) = none ∧
          ∃ after next, s.act (.goOnRead index) = some next ∧ next.readers[index]? = some after ∧
            ((reader.phase = .waiting ∧ after.phase = .claimed) ∨
              ∃ reply, after.phase = .returned reply ∧
                Queues.Serves failure s.demux.queues reader.handle (.ofExcept reply)
                  next.demux.queues)) := by
  have regular := System.regular_of_reachable reachable
  refine ⟨?_, ?_, fun finished => ?_⟩
  · rcases regular.demux.open_or_released with ⟨-, unrecorded⟩ | ⟨failure, -, released⟩
    · exact .inl unrecorded
    · exact .inr ⟨failure, released⟩
  · intro failure later recorded reached
    exact System.terminal_of_reachable reached recorded
  · obtain ⟨failure, released⟩ := regular.released finished
    refine ⟨failure, released, released.fatal.copy.ne_readTimeout, released.fatal.copy.ne_noData,
      failure.label_copy, failure.kind_copy, failure.text_copy, ?_, ?_⟩
    · intro units calls target answers d inside called
      have slots := Queues.length_slots_withUnits s.demux.queues units
      have same := @Demux.answers_of_released κ (s.demux.withUnits units) failure
        (released.withUnits units) calls target (by rw [Demux.withUnits, slots]; exact inside)
      rw [called, Demux.withUnits, Queues.queued_withUnits] at same
      exact same
    · intro index reader there inside going
      have possible : index < s.readers.length := (List.getElem?_eq_some_iff.mp there).1
      refine ⟨?_, ?_⟩
      · rw [System.act_expire_eq there, released.expireStep inside]
        rfl
      · obtain ⟨after, next, stepped, outcome⟩ := released.readStep inside going
        refine ⟨after, _, System.act_goOnRead_eq there stepped, List.getElem?_set_self possible, ?_⟩
        rcases outcome with ⟨waits, claims, -⟩ | ⟨-, reply, returned, serves⟩
        · exact .inl ⟨waits, claims⟩
        · exact .inr ⟨reply, returned, serves⟩

/-- One line, and then the end of the stream. -/
def closingLine : StreamBuffer :=
  .wrap { inbound := { events := [⟨.data [97, 10], false, {}⟩], ending := .ended } } 4

/-- The worker cuts the line and ends. Whoever reads then gets the line, and from then on
that the stream is closed, whether the unit that the line has left is still there or not. -/
theorem closingLine_drained :
    ∃ s, (System.fresh closingLine).run
        [.register (Delimiter.mk 10), .start, .work, .work, .work, .work, .work, .work] = some s ∧
      s.demux.workerEnd? = some (.failed .closed) ∧ s.demux.queues.queued ⟨0⟩ = [[97, 10]] ∧
      ∀ units,
        repliesTo ⟨0⟩ ((s.demux.withUnits units).answers
            [.wait ⟨0⟩ none, .readBlocking ⟨0⟩ (some .zero), .readNonBlocking ⟨1⟩,
              .readBlocking ⟨0⟩ none, .readNonBlocking ⟨0⟩]).1 =
          [.ok [97, 10], .error .closed, .error .closed] := by
  have possible : ((System.fresh closingLine).run
      [.register (Delimiter.mk 10), .start, .work, .work, .work, .work, .work, .work]).map
        (fun s => (s.demux.workerEnd?, s.demux.queues.queued ⟨0⟩, s.demux.queues.slots.length,
          s.demux.queues.terminal)) =
      some (some (.failed .closed), [[97, 10]], 1, some .closed) := by decide
  obtain ⟨s, ran, facts⟩ := Option.map_eq_some_iff.mp possible
  simp only [Prod.mk.injEq] at facts
  obtain ⟨ended, queued, slots, terminal⟩ := facts
  refine ⟨s, ran, ended, queued, fun units => ?_⟩
  obtain ⟨-, -, drained⟩ := drained_then_failed (System.reachable_of_run .refl ran)
  obtain ⟨failure, released, -, -, -, -, -, calls, -⟩ := drained (.inl ⟨_, ended⟩)
  have closed : failure = .closed := by
    have recorded := released.recorded
    rw [terminal] at recorded
    cases recorded
    rfl
  subst closed
  rw [(calls units _ ⟨0⟩ _ _ (by rw [slots]; decide) rfl).1, queued]
  rfl

end SocketDemux
