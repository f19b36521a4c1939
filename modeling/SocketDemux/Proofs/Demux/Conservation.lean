import SocketDemux.Demux.Framing
import SocketDemux.Proofs.Demux.History
/-!
# SocketDemux.Proofs.Demux.Conservation

**No byte is lost, doubled, moved or misrouted** by a demultiplexer.

The invariant `Accounts` balances two books at every step of every thread:

* the bytes that were buffered at the start, and those that refills have brought since,
  are the bytes that were removed, followed by those that are still buffered;
* the fragments that readers of a handle were given, followed by those that are queued
  for it, are the fragments that its condition has cut.

Both go through every way the worker can end, because they speak about each step and
not about the end. A removal that is decided and not yet made is the delicate moment:
`Worker.DecidedOn` says what is known about it. That no fragment is dropped for want of a
slot is the part of the invariant that counts slots and conditions.

`trace_conserves_and_routes` states both books of every run of a launched
demultiplexer, with readers and stops at any point.
-/

namespace SocketDemux

variable {κ : Type} [Condition κ]

/-- The two books of a demultiplexer that was launched with these conditions on top of
this buffer, and what keeps them balanced. -/
structure Accounts (buffer : StreamBuffer) (conditions : List κ) (h : History) (d : Demux κ)
    (w : Worker κ) : Prop where
  worker : d.worker = some w
  launched : d.Launched
  bytes : buffer.storage.data ++ h.received = w.removed ++ d.buffer.storage.data
  stream : h.received ++ d.buffer.endpoint.arrivals = buffer.endpoint.arrivals
  capacity : d.buffer.storage.capacity = buffer.storage.capacity
  slots : d.queues.slots.length = conditions.length
  routed : ∀ handle, h.givenTo handle ++ d.queues.queued handle = w.cutsOf handle.index
  decided : w.DecidedOn d.buffer.storage.data
  answered : w.AnsweredBy conditions

namespace Accounts

variable {buffer : StreamBuffer} {conditions : List κ} {h : History} {d : Demux κ} {w : Worker κ}

/-- The books are balanced at the start. -/
theorem launch (buffer : StreamBuffer) (conditions : List κ) :
    Accounts buffer conditions {} (Demux.launch buffer conditions)
      { conditions := conditions } where
  worker := Demux.launch_worker buffer conditions
  launched := Demux.launched_launch buffer conditions
  bytes := by simp [Worker.removed, Worker.removals, Worker.settled]
  stream := by simp
  capacity := by simp
  slots := by simp [Demux.launch_eq]
  routed handle := by
    simp only [Demux.launch_eq, Queues.queued, Queues.slot?, List.getElem?_replicate]
    split
    · next found =>
      split at found
      · cases found; rfl
      · cases found
    · rfl
  decided index span wrong := by cases wrong
  answered := .launch conditions

/-- A change of phase, from and to phases without a pending removal, that leaves the
bytes and the fragments alone, keeps the books. -/
theorem with_phase {next : Demux κ} (phase : Phase) (acc : Accounts buffer conditions h d w)
    (before : ∀ index span, w.phase ≠ .removing index span)
    (after : ∀ index span, phase ≠ .removing index span)
    (worker : next.worker = some { w with phase := phase })
    (lifecycle : next.lifecycle = d.lifecycle)
    (data : next.buffer.storage.data = d.buffer.storage.data)
    (capacity : next.buffer.storage.capacity = d.buffer.storage.capacity)
    (arrivals : next.buffer.endpoint.arrivals = d.buffer.endpoint.arrivals)
    (slots : next.queues.slots.length = d.queues.slots.length)
    (queued : ∀ handle, next.queues.queued handle = d.queues.queued handle) :
    Accounts buffer conditions h next { w with phase := phase } := by
  have removals := Worker.removals_with_phase phase before after
  refine ⟨worker, ?_, ?_, ?_, capacity.trans acc.capacity, slots.trans acc.slots, ?_, ?_,
    acc.answered.with_phase⟩
  · intro registered
    rw [lifecycle]
    exact acc.launched registered
  · rw [Worker.removed_congr removals, data]
    exact acc.bytes
  · rw [arrivals]
    exact acc.stream
  · intro handle
    rw [Worker.cutsOf_congr removals, queued]
    exact acc.routed handle
  · intro index span wrong
    exact absurd wrong (after index span)

/-- A question keeps the books: what it decides is still to be removed. -/
theorem ask {index : Nat} {condition : κ} (acc : Accounts buffer conditions h d w)
    (phase : w.phase = .asking index) (there : w.conditions[index]? = some condition) :
    Accounts buffer conditions h
      { d with worker := some (w.asked index condition d.buffer.storage.data) }
      (w.asked index condition d.buffer.storage.data) := by
  have removals := Worker.removals_asked (w := w)
    (by simp [phase]) index condition d.buffer.storage.data
  refine ⟨rfl, acc.launched, ?_, acc.stream, acc.capacity, acc.slots, ?_,
    w.decidedOn_asked _ _ _, acc.answered.ask there _⟩
  · rw [Worker.removed_congr removals]
    exact acc.bytes
  · intro handle
    rw [Worker.cutsOf_congr removals]
    exact acc.routed handle

/-- A removal moves bytes from the buffer to what has been removed, and a fragment to
the queue of the condition that cut it. -/
theorem remove {index : Nat} {span : Span} {storage : Storage}
    (acc : Accounts buffer conditions h d w) (phase : w.phase = .removing index span)
    (data : storage.data = d.buffer.storage.data.drop span.count)
    (capacity : storage.capacity = d.buffer.storage.capacity) :
    Accounts buffer conditions h
      { d with
        buffer := { d.buffer with storage := storage }
        queues := if span.delivered
          then d.queues.deliver index (d.buffer.storage.data.take span.count) else d.queues
        worker := some { w with phase := .asking 0 } }
      { w with phase := .asking 0 } := by
  have removals := Worker.removals_of_decided (.asking 0) acc.decided phase (by simp)
  -- the condition that decided is one of those registered, so it has a slot
  have inside : index < d.queues.slots.length := by
    obtain ⟨-, front, e, journal, removal⟩ := acc.decided index span phase
    have asked := acc.answered.inside e (by rw [journal]; simp)
    have same : index = e.index := Evaluation.index_eq removal
    rw [acc.slots, same]
    exact asked
  refine ⟨rfl, acc.launched, ?_, acc.stream, capacity.trans acc.capacity, ?_, ?_, ?_,
    acc.answered.with_phase⟩
  · rw [Worker.removed_append removals, acc.bytes, data, List.append_assoc,
      List.take_append_drop]
  · show (if span.delivered then d.queues.deliver index _ else d.queues).slots.length =
      conditions.length
    split
    · rw [Queues.length_slots_deliver]
      exact acc.slots
    · exact acc.slots
  · -- what is cut now is queued now, and for the same handle
    intro handle
    rw [Worker.cutsOf_append removals, ← acc.routed handle, List.append_assoc]
    dsimp only
    by_cases delivered : span.delivered = true
    · rw [if_pos delivered, Queues.queued_deliver inside]
      simp [delivered]
    · rw [if_neg delivered]
      simp [delivered]
  · intro other span' wrong
    cases wrong

/-- Every step of the worker keeps the books. -/
theorem work (acc : Accounts buffer conditions h d w) :
    ∃ w', Accounts buffer conditions ⟨h.received ++ d.receipt, h.given⟩ d.step.2 w' := by
  -- all steps but a refill bring nothing
  have still : w.phase ≠ .refilling →
      (⟨h.received ++ d.receipt, h.given⟩ : History) = h := by
    intro phase
    rw [Demux.receipt_eq_nil acc.worker phase, List.append_nil]
  have step := Demux.step_cases acc.worker
  generalize d.step.2 = next at step ⊢
  cases step with
  | refilled phase call news data capacity stream =>
    have removals := Worker.removals_with_phase (w := w) (.asking 0) (by simp [phase]) (by simp)
    rw [Demux.receipt_of_refilling acc.worker phase]
    refine ⟨_, rfl, acc.launched, ?_, ?_, capacity.trans acc.capacity, acc.slots, ?_, ?_,
      acc.answered.with_phase⟩
    · rw [Worker.removed_congr removals, data, ← List.append_assoc, acc.bytes,
        List.append_assoc]
    · rw [List.append_assoc, stream]
      exact acc.stream
    · intro handle
      rw [Worker.cutsOf_congr removals]
      exact acc.routed handle
    · intro index span wrong
      cases wrong
  | refused phase call nothing data capacity stream =>
    rw [Demux.receipt_of_refilling acc.worker phase, nothing, List.append_nil]
    exact ⟨_, acc.with_phase _ (by simp [phase])
      (by simp) rfl rfl data capacity stream rfl (fun _ => rfl)⟩
  | waited phase call nothing data capacity stream =>
    rw [Demux.receipt_of_refilling acc.worker phase, nothing, List.append_nil]
    exact ⟨_, acc.with_phase w.phase
      (by simp [phase])
      (by simp [phase])
      acc.worker rfl data capacity stream rfl (fun _ => rfl)⟩
  | passed phase done =>
    rw [still (by simp [phase])]
    exact ⟨_, acc.with_phase _ (by simp [phase])
      (by simp) rfl rfl rfl rfl rfl rfl (fun _ => rfl)⟩
  | asked phase present there =>
    rw [still (by simp [phase])]
    exact ⟨_, acc.ask phase there⟩
  | removed phase enough data capacity =>
    rw [still (by simp [phase])]
    exact ⟨_, acc.remove phase data capacity⟩
  | overdrawn phase short =>
    -- a decision is only acted on if there are so many bytes
    have enough := (acc.decided _ _ phase).1
    omega
  | concluded phase =>
    rw [still (by simp [phase])]
    exact ⟨_, acc.with_phase _ (by simp [phase])
      (by simp) rfl rfl rfl rfl rfl
      (Queues.length_slots_terminate _ _) (Queues.queued_terminate _ _)⟩
  | panicked phase =>
    rw [still (by simp [phase])]
    exact ⟨_, acc.with_phase _ (by simp [phase])
      (by simp) rfl rfl rfl rfl rfl
      (Queues.length_slots_terminate _ _) (Queues.queued_terminate _ _)⟩
  | rested phase =>
    rw [still (by simp [phase])]
    exact ⟨_, acc⟩

/-- So do several steps; nothing is given to readers meanwhile. -/
theorem steps (acc : Accounts buffer conditions h d w) (count : Nat) :
    ∃ received w', Accounts buffer conditions ⟨received, h.given⟩ (d.steps count) w' := by
  induction count generalizing h d w with
  | zero => exact ⟨h.received, w, acc⟩
  | succ count ih =>
    obtain ⟨w', acc'⟩ := acc.work
    have later := ih acc'
    exact later

/-- What another thread does keeps the books, if what it is given is entered. -/
theorem bystand {next : Demux κ} {given : List (Handle × Bytes)}
    (acc : Accounts buffer conditions h d w) (bystands : Bystands d next)
    (queues : ∀ handle, fragmentsOf handle given ++ next.queues.queued handle =
      d.queues.queued handle) :
    Accounts buffer conditions ⟨h.received, h.given ++ given⟩ next w := by
  refine ⟨bystands.worker.trans acc.worker, bystands.launched, ?_, ?_, ?_,
    bystands.slots.trans acc.slots, ?_, ?_, acc.answered⟩
  · rw [bystands.storage]
    exact acc.bytes
  · rw [bystands.arrivals]
    exact acc.stream
  · rw [bystands.storage]
    exact acc.capacity
  · intro handle
    rw [← acc.routed handle, ← queues handle, ← List.append_assoc]
    simp [History.givenTo]
  · rw [bystands.storage]
    exact acc.decided

/-- Every run keeps the books. -/
theorem trace {s t : System κ} {h' : History} {actions : List (Action κ)}
    (acc : Accounts buffer conditions h s.demux w)
    (ran : s.trace h actions = some (t, h')) :
    ∃ w', Accounts buffer conditions h' t.demux w' := by
  refine System.trace_invariant
    (I := fun s h => ∃ w, Accounts buffer conditions h s.demux w) ?_ ⟨w, acc⟩ ran
  intro s h action next acc acted
  obtain ⟨w, acc⟩ := acc
  rcases System.act_cases acc.launched acted with ⟨rfl, rfl⟩ | ⟨other, bystands, queues⟩
  · simpa [System.extend, System.brings, System.gives] using acc.work
  · refine ⟨w, ?_⟩
    simp only [System.extend, System.brings_of_ne_work s other, List.append_nil]
    exact acc.bystand bystands queues

end Accounts

/-- **Conservation and routing.** After every run of a launched demultiplexer, the bytes
buffered at the start, followed by those the endpoint has handed over since, are the bytes
removed by what conditions decided, in order, followed by those still buffered; and what
the endpoint has handed over is the front of its stream. The condition registered as the
`index`-th got the handle of that number, and the fragments given to its readers, followed
by those still queued, are the spans that this condition has cut, in order. Other handles
give nothing. The answers that decided all this are those of the conditions as they were
registered, each asked about the bytes in the journal one after the other. -/
theorem trace_conserves_and_routes (buffer : StreamBuffer) (conditions : List κ)
    (stops : List StopPhase) (readers : List Reader) (actions : List (Action κ))
    {s : System κ} {h : History}
    (ran : (System.mk (Demux.launch buffer conditions) stops readers).trace {} actions =
      some (s, h)) :
    ∃ w, s.demux.worker = some w ∧
      buffer.storage.data ++ h.received = w.removed ++ s.demux.buffer.storage.data ∧
      h.received ++ s.demux.buffer.endpoint.arrivals = buffer.endpoint.arrivals ∧
      (∀ index, index < conditions.length →
        ((Demux.ofBuffer buffer).registerAll conditions).1[index]? = some (.ok ⟨index⟩) ∧
        h.givenTo ⟨index⟩ ++ s.demux.queues.queued ⟨index⟩ = w.cutsOf index) ∧
      (∀ handle, conditions.length ≤ handle.index →
        h.givenTo handle = [] ∧ s.demux.queues.queued handle = []) ∧
      (∀ r ∈ w.removals, r.bytes ≠ []) ∧
      w.AnsweredBy conditions := by
  obtain ⟨w, acc⟩ := (Accounts.launch buffer conditions).trace ran
  refine ⟨w, acc.worker, acc.bytes, acc.stream, ?_, ?_, ?_, acc.answered⟩
  · intro index inside
    refine ⟨?_, acc.routed ⟨index⟩⟩
    rw [Demux.registerAll_handles, if_pos inside]
  · -- nobody with such a number was ever asked, so nothing was cut for it
    intro handle outside
    have routed := acc.routed handle
    have nothing : w.cutsOf handle.index = [] := by
      rw [Worker.cutsOf, cutsAmong, List.map_eq_nil_iff, List.filter_eq_nil_iff]
      intro r member mine
      obtain ⟨e, settled, removal⟩ := List.mem_filterMap.mp member
      have asked := acc.answered.inside e (Worker.mem_journal_of_settled settled)
      have same := Evaluation.index_eq removal
      simp only [Bool.and_eq_true, beq_iff_eq] at mine
      omega
    rw [nothing] at routed
    exact List.append_eq_nil_iff.mp routed
  · intro r member
    obtain ⟨e, -, removal⟩ := List.mem_filterMap.mp member
    exact Evaluation.bytes_ne_nil removal

/-- A buffer that already holds a space, a line and the first byte of another line. The
rest comes after an interruption, and then the transport breaks. -/
def spacedLines : StreamBuffer :=
  (StreamBuffer.fill (StreamBuffer.wrap
    { inbound := { events :=
        [⟨.data [32, 97, 10, 98], false, {}⟩, ⟨.failed (.os 4), false, {}⟩,
          ⟨.data [99, 10, 100], false, {}⟩, ⟨.failed (.os 104), false, {}⟩] } } 8) none).2

/-- Spaces are dropped and lines are cut, while one line is read and a stop begins: the
books are balanced in the middle of it, with a line cut that is not delivered yet. -/
theorem spacedLines_conserved_and_routed :
    ∃ s h w, (System.mk (Demux.launch spacedLines [Framing.skip 32, Framing.delimited 10])
        [] []).trace {}
          [.work, .work, .work, .callRead ⟨1⟩ .blocking, .work, .work, .work, .goOnRead 0,
            .goOnRead 0, .work, .work, .callStop, .goOnStop 0] = some (s, h) ∧
      h.received = [99, 10, 100] ∧ h.given = [(⟨1⟩, [97, 10])] ∧ s.demux.worker = some w ∧
      spacedLines.storage.data ++ h.received = w.removed ++ s.demux.buffer.storage.data ∧
      h.givenTo ⟨1⟩ ++ s.demux.queues.queued ⟨1⟩ = w.cutsOf 1 := by
  have possible : ((System.mk (Demux.launch spacedLines
      [Framing.skip 32, Framing.delimited 10]) [] []).trace {}
        [.work, .work, .work, .callRead ⟨1⟩ .blocking, .work, .work, .work, .goOnRead 0,
          .goOnRead 0, .work, .work, .callStop, .goOnStop 0]).map
      (fun last => (last.2.received, last.2.given)) =
        some ([99, 10, 100], [(⟨1⟩, [97, 10])]) := by decide
  obtain ⟨⟨s, h⟩, ran, facts⟩ := Option.map_eq_some_iff.mp possible
  obtain ⟨received, given⟩ := Prod.mk.inj facts
  obtain ⟨w, worker, bytes, -, routed, -⟩ := trace_conserves_and_routes _ _ _ _ _ ran
  exact ⟨s, h, w, ran, received, given, worker, bytes, (routed 1 (by decide)).2⟩

end SocketDemux
