import SocketDemux.Proofs.Buffer.Carries
import SocketDemux.Proofs.Demux.Conservation
import SocketDemux.Proofs.Demux.Frames
/-!
# SocketDemux.Proofs.Demux.Chunking

**Independence of chunking**: what a demultiplexer delivers does not depend on how its
stream is split into reads.

Two workers on differently split streams cannot be compared step by step: one may cut
several fragments out of one refill where the other needs several refills for one
fragment. So each of them is compared with `frame`, which knows no reads. The invariant
`OnTrack` says that what has been removed, followed by what `frame` would make of the
buffered bytes and the rest of the stream, is what `frame` makes of the whole stream.
A refill moves bytes from the rest of the stream to the buffer, which `frame` does not
see; a removal is one that `frame` would make; and when everybody declines and the
refill fails, `frame` is stuck as well.
-/

namespace SocketDemux

variable {κ : Type} [Condition κ]

/-- How far a worker has come on its way to `goal`. -/
inductive Course (goal : Framed) (fin : StreamEnd) (conditions : List κ) (d : Demux κ)
    (w : Worker κ) : Prop
  /-- The rest of the way is that of the buffered bytes, followed by the rest of the
  stream. -/
  | ahead (rest : Bytes) (brings : d.buffer.Brings fin rest)
      (unrecorded : d.queues.terminal = none)
      (phase : w.phase = .refilling ∨ (∃ index, w.phase = .asking index) ∨
        ∃ index span, w.phase = .removing index span)
      (goal : goal = (frame conditions d.buffer.storage.capacity fin.failure
        (d.buffer.storage.data ++ rest)).after w.removals)
  /-- The worker is stuck, and is going to record why. -/
  | stuck (phase : w.phase = .failing goal.failure) (unrecorded : d.queues.terminal = none)
      (removals : w.removals = goal.removals) (leftover : d.buffer.storage.data = goal.leftover)
  /-- The worker has arrived. -/
  | arrived (phase : w.phase = .ended (.ofFailure goal.failure))
      (recorded : d.queues.terminal = some goal.failure.copy)
      (removals : w.removals = goal.removals) (leftover : d.buffer.storage.data = goal.leftover)

namespace Course

variable {goal : Framed} {fin : StreamEnd} {conditions : List κ} {d next : Demux κ} {w : Worker κ}

/-- A worker that asks or removes is on its way. -/
theorem ahead_of_phase (course : Course goal fin conditions d w)
    (unstuck : ∀ failure, w.phase ≠ .failing failure) (going : ∀ result, w.phase ≠ .ended result) :
    ∃ rest, d.buffer.Brings fin rest ∧ d.queues.terminal = none ∧
      goal = (frame conditions d.buffer.storage.capacity fin.failure
        (d.buffer.storage.data ++ rest)).after w.removals := by
  cases course with
  | ahead rest brings unrecorded _ goal => exact ⟨rest, brings, unrecorded, goal⟩
  | stuck phase => exact absurd phase (unstuck _)
  | arrived phase => exact absurd phase (going _)

/-- A worker that has ended has arrived. -/
theorem arrived_of_ended (course : Course goal fin conditions d w) {result : WorkerEnd}
    (ended : w.phase = .ended result) :
    result = .ofFailure goal.failure ∧ d.queues.terminal = some goal.failure.copy ∧
      w.removals = goal.removals ∧ d.buffer.storage.data = goal.leftover := by
  cases course with
  | ahead _ _ _ going =>
    rw [ended] at going
    rcases going with wrong | ⟨_, wrong⟩ | ⟨_, _, wrong⟩
    all_goals cases wrong
  | stuck wrong =>
    rw [ended] at wrong
    cases wrong
  | arrived phase recorded removals leftover =>
    rw [ended] at phase
    cases phase
    exact ⟨rfl, recorded, removals, leftover⟩

/-- Nothing that a worker goes by has changed. -/
theorem unmoved (course : Course goal fin conditions d w)
    (buffer : next.buffer = d.buffer) (terminal : next.queues.terminal = d.queues.terminal) :
    Course goal fin conditions next w := by
  cases course with
  | ahead rest brings unrecorded phase goal =>
    refine .ahead rest ?_ (terminal.trans unrecorded) phase ?_
    · rw [buffer]; exact brings
    · rw [buffer]; exact goal
  | stuck phase unrecorded removals leftover =>
    refine .stuck phase (terminal.trans unrecorded) removals ?_
    rw [buffer]
    exact leftover
  | arrived phase recorded removals leftover =>
    refine .arrived phase (terminal.trans recorded) removals ?_
    rw [buffer]
    exact leftover

/-- This stream never makes a refill wait. -/
theorem goesOn (course : Course goal fin conditions d w) (phase : w.phase = .refilling) :
    (d.buffer.fillBy none).1 ≠ .waiting := by
  obtain ⟨rest, brings, -, -⟩ := course.ahead_of_phase (by simp [phase]) (by simp [phase])
  intro waiting
  rcases brings.fillBy_cases (Prod.eta _).symm with ⟨wrong, -⟩ | ⟨wrong, -, -⟩ | ⟨_, _, wrong, -, -⟩
  all_goals
    rw [wrong] at waiting
    cases waiting

/-- Every step of the worker stays on course. -/
theorem work (stable : PrefixStable conditions) (decided : w.DecidedOn d.buffer.storage.data)
    (turn : InTurn [] conditions d w) (course : Course goal fin conditions d w) :
    ∃ w', d.step.2.worker = some w' ∧ Course goal fin conditions d.step.2 w' := by
  have justified := turn.justified
  have within : d.buffer.storage.data.length ≤ d.buffer.storage.capacity := by
    rw [Storage.length_data]
    exact d.buffer.storage.filled_le
  have step := Demux.step_cases turn.worker
  generalize d.step.2 = next at step ⊢
  cases step with
  | @refilled buffer phase call news data capacity stream =>
    obtain ⟨rest, brings, unrecorded, goal⟩ :=
      course.ahead_of_phase (by simp [phase]) (by simp [phase])
    have removals := Worker.removals_with_phase (w := w) (.asking 0) (by simp [phase]) (by simp)
    obtain ⟨count, call⟩ := call
    rcases brings.fillBy_cases call with ⟨wrong, -⟩ | ⟨wrong, -, -⟩ | ⟨_, rest', -, taken, brings'⟩
    · cases wrong
    · cases wrong
    · -- what has arrived and what is to come, taken together, is what it was
      refine ⟨_, rfl, .ahead rest' brings' unrecorded (.inr (.inl ⟨0, rfl⟩)) ?_⟩
      rw [removals, data, capacity, List.append_assoc, taken]
      exact goal
  | @refused buffer failure phase call nothing data capacity stream =>
    obtain ⟨rest, brings, unrecorded, goal⟩ :=
      course.ahead_of_phase (by simp [phase]) (by simp [phase])
    have removals := Worker.removals_with_phase (w := w) (.failing failure) (by simp [phase])
      (by simp)
    -- the first refill finds an empty buffer, and any other one that all have declined
    have unclaimed : Unclaimed conditions d.buffer.storage.data := by
      rw [phase] at justified
      cases justified with
      | refilling quiet =>
        rcases quiet with ⟨-, empty⟩ | unclaimed
        · exact fun present => absurd empty present
        · exact unclaimed
    rcases brings.fillBy_cases call with ⟨same, full⟩ | ⟨same, rfl, room⟩ | ⟨_, _, wrong, -, -⟩
    · -- the buffer is full: so is the window
      cases same
      rw [frame_of_full unclaimed full] at goal
      subst goal
      refine ⟨_, rfl, .stuck rfl unrecorded ?_ data⟩
      rw [removals]
      exact (List.append_nil _).symm
    · -- the stream has ended: the window has room for more
      cases same
      rw [List.append_nil, frame_of_room unclaimed room] at goal
      subst goal
      refine ⟨_, rfl, .stuck rfl unrecorded ?_ data⟩
      rw [removals]
      exact (List.append_nil _).symm
    · cases wrong
  | waited phase call =>
    have goesOn := course.goesOn phase
    rw [call] at goesOn
    exact absurd rfl goesOn
  | passed phase done =>
    obtain ⟨rest, brings, unrecorded, goal⟩ :=
      course.ahead_of_phase (by simp [phase]) (by simp [phase])
    have removals := Worker.removals_with_phase (w := w) .refilling (by simp [phase]) (by simp)
    refine ⟨_, rfl, .ahead rest brings unrecorded (.inl rfl) ?_⟩
    rw [removals]
    exact goal
  | @asked index condition phase present there =>
    obtain ⟨rest, brings, unrecorded, goal⟩ :=
      course.ahead_of_phase (by simp [phase]) (by simp [phase])
    have removals := Worker.removals_asked (w := w) (by simp [phase]) index condition
      d.buffer.storage.data
    refine ⟨_, rfl, .ahead rest brings unrecorded ?_ (by rw [removals]; exact goal)⟩
    rw [phase] at justified
    cases justified with
    | asking declined =>
      rw [turn.registered] at there
      have leads : (w.asked index condition d.buffer.storage.data).phase = _ :=
        Phase.afterVerdict_eq condition d.buffer.storage.data index
      cases own : Condition.turn? condition d.buffer.storage.data with
      | none =>
        rw [own] at leads
        exact .inr (.inl ⟨_, leads⟩)
      | some done =>
        -- a stable decision neither panics nor claims more than there is
        obtain ⟨⟨span, rfl, enough⟩, -⟩ :=
          stable _ _ _ present (firstTurn?_eq_some there declined own)
        rw [own] at leads
        dsimp only at leads
        rw [if_pos enough] at leads
        exact .inr (.inr ⟨_, _, leads⟩)
  | @removed index span storage phase enough data capacity =>
    obtain ⟨rest, brings, unrecorded, goal⟩ :=
      course.ahead_of_phase (by simp [phase]) (by simp [phase])
    have removals := Worker.removals_of_decided (.asking 0) decided phase (by simp)
    have present : d.buffer.storage.data ≠ [] := by
      have := span.count_pos
      exact List.ne_nil_of_length_pos (by omega)
    rw [phase] at justified
    cases justified with
    | removing first _ =>
      refine ⟨_, rfl, .ahead rest ⟨brings.down, brings.carries⟩ ?_ (.inr (.inl ⟨0, rfl⟩)) ?_⟩
      · -- a delivery records nothing
        show (if span.delivered then d.queues.deliver index _ else d.queues).terminal = none
        split
        · exact unrecorded
        · exact unrecorded
      · rw [removals, data, capacity, goal, frame_of_first stable within present first,
          Framed.after_after]
  | overdrawn phase short =>
    rw [phase] at justified
    cases justified with
    | removing first enough => omega
  | @concluded failure phase =>
    cases course with
    | ahead _ _ _ going =>
      rw [phase] at going
      rcases going with wrong | ⟨_, wrong⟩ | ⟨_, _, wrong⟩
      all_goals cases wrong
    | stuck phase' unrecorded removals leftover =>
      have same := phase.symm.trans phase'
      cases same
      refine ⟨_, rfl, .arrived rfl ?_ ?_ leftover⟩
      · rw [Demux.conclude, Queues.terminal_terminate, unrecorded]
        rfl
      · rw [Worker.removals_with_phase _ (by simp [phase]) (by simp)]
        exact removals
    | arrived phase' =>
      rw [phase] at phase'
      cases phase'
  | panicked phase =>
    obtain ⟨_, -, -, -⟩ := course.ahead_of_phase (by simp [phase]) (by simp [phase])
    rw [phase] at justified
    cases justified with
    | panicking first present =>
      obtain ⟨⟨_, wrong, -⟩, -⟩ := stable _ _ _ present first
      cases wrong
  | rested phase => exact ⟨w, turn.worker, course⟩

end Course

/-- A worker on its way to `goal`, with its books and the facts behind its phase. -/
structure OnTrack (buffer : StreamBuffer) (conditions : List κ) (goal : Framed) (fin : StreamEnd)
    (h : History) (d : Demux κ) (w : Worker κ) : Prop where
  accounts : Accounts buffer conditions h d w
  turn : InTurn [] conditions d w
  course : Course goal fin conditions d w

namespace OnTrack

variable {buffer : StreamBuffer} {conditions : List κ} {goal : Framed} {fin : StreamEnd}
  {h : History} {d : Demux κ} {w : Worker κ}

/-- The way starts in front of the whole stream. -/
theorem launch {stream : Bytes} (brings : buffer.Brings fin stream)
    (empty : buffer.storage.data = []) (conditions : List κ) :
    OnTrack buffer conditions (frame conditions buffer.storage.capacity fin.failure stream) fin {}
      (Demux.launch buffer conditions) { conditions := conditions } := by
  refine ⟨.launch buffer conditions, ?_, ?_⟩
  · rw [← empty]
    exact .launch buffer conditions
  · refine .ahead stream ?_ (Demux.launch_terminal ..) (.inl rfl) ?_
    · rw [Demux.launch_buffer]
      exact brings
    · rw [Demux.launch_buffer, empty]
      rfl

variable [Stateless κ]

theorem work (stable : PrefixStable conditions)
    (track : OnTrack buffer conditions goal fin h d w) :
    ∃ w', OnTrack buffer conditions goal fin ⟨h.received ++ d.receipt, h.given⟩ d.step.2 w' := by
  obtain ⟨w₁, accounts⟩ := track.accounts.work
  obtain ⟨w₂, turn⟩ := track.turn.work
  obtain ⟨w₃, worker, course⟩ := track.course.work stable track.accounts.decided track.turn
  -- all three speak about the worker of the same demultiplexer
  have same₂ := accounts.worker.symm.trans turn.worker
  have same₃ := accounts.worker.symm.trans worker
  cases same₂
  cases same₃
  exact ⟨w₁, accounts, turn, course⟩

/-- Quiet actions of all threads stay on track. -/
theorem trace (stable : PrefixStable conditions) {s t : System κ} {h' : History}
    {actions : List (Action κ)} (quiet : ∀ action ∈ actions, action.Quiet)
    (track : OnTrack buffer conditions goal fin h s.demux w)
    (ran : s.trace h actions = some (t, h')) :
    ∃ w', OnTrack buffer conditions goal fin h' t.demux w' := by
  refine System.trace_invariant_of (P := Action.Quiet)
    (I := fun s h => ∃ w, OnTrack buffer conditions goal fin h s.demux w) ?_ quiet ⟨w, track⟩ ran
  intro s h action next quiet track acted
  obtain ⟨w, track⟩ := track
  rcases System.act_cases track.accounts.launched acted with
    ⟨rfl, rfl⟩ | ⟨other, bystands, queues⟩
  · simpa [System.extend, System.brings, System.gives] using track.work stable
  · refine ⟨w, ?_, track.turn.bystand bystands, ?_⟩
    · simp only [System.extend, System.brings_of_ne_work s other, List.append_nil]
      exact track.accounts.bystand bystands queues
    · rcases System.act_quiet track.accounts.launched quiet acted with
        ⟨wrong, -⟩ | ⟨-, buffer, terminal⟩
      · exact absurd wrong other
      · exact track.course.unmoved buffer terminal

/-- The worker arrives if it is let go on. -/
theorem settle (stable : PrefixStable conditions)
    (track : OnTrack buffer conditions goal fin h d w) :
    ∃ received w', OnTrack buffer conditions goal fin ⟨received, h.given⟩ d.settle w' ∧
      w'.phase = .ended (.ofFailure goal.failure) := by
  have settled := Demux.settle_invariant
    (I := fun d => ∃ received w, OnTrack buffer conditions goal fin ⟨received, h.given⟩ d w)
    ?_ ?_ ?_ ⟨_, w, track⟩
  · obtain ⟨⟨received, w', track'⟩, result, ended⟩ := settled
    have phase := Demux.phase_of_workerEnd? track'.accounts.worker ended
    obtain ⟨rfl, -⟩ := track'.course.arrived_of_ended phase
    exact ⟨received, w', track', phase⟩
  · intro d ⟨received, w, track⟩
    exact ⟨w, track.accounts.worker⟩
  · intro d ⟨received, w, track⟩
    obtain ⟨w', track'⟩ := track.work stable
    exact ⟨_, w', track'⟩
  · intro d w ⟨received, w', track⟩ worker phase
    cases worker.symm.trans track.accounts.worker
    exact track.course.goesOn phase

end OnTrack

/-! ### What a demultiplexer delivers -/

/-- The failure that a stream ends with is no cancellation. -/
theorem StreamEnd.ofFailure_failure_frame (fin : StreamEnd) (conditions : List κ)
    (capacity : Nat) (stream : Bytes) :
    WorkerEnd.ofFailure (frame conditions capacity fin.failure stream).failure =
      .failed (frame conditions capacity fin.failure stream).failure := by
  rcases failure_frame conditions capacity fin.failure stream with full | finished
  · rw [full]
    rfl
  · rw [finished]
    cases fin <;> rfl

/-- **Every splitting is framed alike.** A launched demultiplexer whose stream comes in
whatever reads, and which nobody stops, delivers what `frame` cuts out of the whole
stream, leaves over what `frame` does, and records the failure that `frame` ends with;
readers may take fragments all the while. -/
theorem settle_eq_frame [Stateless κ] {conditions : List κ} (stable : PrefixStable conditions)
    {buffer : StreamBuffer} {fin : StreamEnd} {stream : Bytes} (brings : buffer.Brings fin stream)
    (empty : buffer.storage.data = []) {readers : List Reader} {actions : List (Action κ)}
    (quiet : ∀ action ∈ actions, action.Quiet) {s : System κ} {h : History}
    (ran : (System.mk (Demux.launch buffer conditions) [] readers).trace {} actions =
      some (s, h)) :
    s.demux.settle.workerEnd? =
        some (.failed (frame conditions buffer.storage.capacity fin.failure stream).failure) ∧
      s.demux.settle.queues.terminal =
        some (frame conditions buffer.storage.capacity fin.failure stream).failure.copy ∧
      s.demux.settle.buffer.storage.data =
        (frame conditions buffer.storage.capacity fin.failure stream).leftover ∧
      ∀ handle, h.givenTo handle ++ s.demux.settle.queues.queued handle =
        cutsAmong (frame conditions buffer.storage.capacity fin.failure stream).removals
          handle.index := by
  obtain ⟨w, track⟩ := (OnTrack.launch brings empty conditions).trace stable quiet ran
  obtain ⟨received, w', settled, arrived⟩ := track.settle stable
  rw [StreamEnd.ofFailure_failure_frame] at arrived
  refine ⟨Demux.workerEnd?_of_ended settled.accounts.worker arrived, ?_⟩
  obtain ⟨-, recorded, removals, leftover⟩ := settled.course.arrived_of_ended arrived
  refine ⟨recorded, leftover, fun handle => ?_⟩
  rw [← removals]
  exact settled.accounts.routed handle

/-- **Independence of chunking.** Two demultiplexers with the same stateless conditions,
for which more data never changes a decision, and with buffers of the same capacity,
empty at the start, whose transports bring the same stream and its end in whatever
reads, end in the same way if nobody stops them, whatever readers do meanwhile: with
the same fragments for every handle, the same bytes left in the buffer, and the same
failure recorded. It is that the buffer is exhausted, or the end of the stream. -/
theorem delivery_independent_of_chunking [Stateless κ] {conditions : List κ}
    (stable : PrefixStable conditions) {first second : StreamBuffer} {fin : StreamEnd}
    {stream : Bytes} (brings₁ : first.Brings fin stream) (brings₂ : second.Brings fin stream)
    (empty₁ : first.storage.data = []) (empty₂ : second.storage.data = [])
    (capacity : first.storage.capacity = second.storage.capacity) {readers₁ readers₂ : List Reader}
    {actions₁ actions₂ : List (Action κ)} (quiet₁ : ∀ action ∈ actions₁, action.Quiet)
    (quiet₂ : ∀ action ∈ actions₂, action.Quiet) {s₁ s₂ : System κ} {h₁ h₂ : History}
    (ran₁ : (System.mk (Demux.launch first conditions) [] readers₁).trace {} actions₁ =
      some (s₁, h₁))
    (ran₂ : (System.mk (Demux.launch second conditions) [] readers₂).trace {} actions₂ =
      some (s₂, h₂)) :
    (∀ handle, h₁.givenTo handle ++ s₁.demux.settle.queues.queued handle =
        h₂.givenTo handle ++ s₂.demux.settle.queues.queued handle) ∧
      s₁.demux.settle.buffer.storage.data = s₂.demux.settle.buffer.storage.data ∧
      ∃ failure, (failure = .bufferExhausted first.storage.capacity ∨ failure = fin.failure) ∧
        s₁.demux.settle.workerEnd? = some (.failed failure) ∧
        s₂.demux.settle.workerEnd? = some (.failed failure) ∧
        s₁.demux.settle.queues.terminal = some failure.copy ∧
        s₂.demux.settle.queues.terminal = some failure.copy := by
  obtain ⟨end₁, terminal₁, leftover₁, delivered₁⟩ :=
    settle_eq_frame stable brings₁ empty₁ quiet₁ ran₁
  obtain ⟨end₂, terminal₂, leftover₂, delivered₂⟩ :=
    settle_eq_frame stable brings₂ empty₂ quiet₂ ran₂
  rw [← capacity] at end₂ terminal₂ leftover₂ delivered₂
  refine ⟨fun handle => ?_, leftover₁.trans leftover₂.symm, _,
    failure_frame conditions first.storage.capacity fin.failure stream, end₁, end₂, terminal₁,
    terminal₂⟩
  rw [delivered₁ handle, delivered₂ handle]

/-- Two lines and the front of a third one in three reads, after one of which the call is
interrupted, and before another of which it waits. -/
def linesInPieces : StreamBuffer :=
  .wrap
    { inbound :=
        { events :=
            [⟨.data [97], false, {}⟩, ⟨.failed (.os 4), false, {}⟩, ⟨.data [10, 98], false, {}⟩,
              ⟨.failed (.os 11), false, {}⟩, ⟨.data [10, 99], false, {}⟩]
          ending := .ended } } 4

/-- The same lines in one read, of which the buffer holds all but the last byte. -/
def linesAtOnce : StreamBuffer :=
  .wrap { inbound := { events := [⟨.data [97, 10, 98, 10, 99], false, {}⟩], ending := .ended } } 4

theorem linesInPieces_brings : linesInPieces.Brings .closed [97, 10, 98, 10, 99] where
  down := rfl
  carries := by
    show Carries _ _ ([97] ++ ([10, 98] ++ ([10, 99] ++ []))) _
    refine .data (by decide) (.interrupted (by decide) (.data (by decide) ?_))
    exact .blocked (by decide) (Wait.goesOn_of_ready rfl) (.data (by decide) (.ended rfl rfl))

theorem linesAtOnce_brings : linesAtOnce.Brings .closed [97, 10, 98, 10, 99] where
  down := rfl
  carries := by
    show Carries _ _ ([97, 10, 98, 10, 99] ++ []) _
    exact .data (by decide) (.ended rfl rfl)

/-- The lines come out the same, while one of them is read early. -/
theorem lines_delivered_alike :
    ∃ s₁ h₁ s₂ h₂,
      (System.mk (Demux.launch linesInPieces [Delimiter.mk 10]) [] []).trace {}
        [.work, .callRead ⟨0⟩ .blocking, .work, .work, .work, .work, .work, .goOnRead 0,
          .goOnRead 0] = some (s₁, h₁) ∧ h₁.given = [(⟨0⟩, [97, 10])] ∧
      (System.mk (Demux.launch linesAtOnce [Delimiter.mk 10]) [] []).trace {} [] =
        some (s₂, h₂) ∧
      h₁.givenTo ⟨0⟩ ++ s₁.demux.settle.queues.queued ⟨0⟩ =
        h₂.givenTo ⟨0⟩ ++ s₂.demux.settle.queues.queued ⟨0⟩ ∧
      s₁.demux.settle.buffer.storage.data = s₂.demux.settle.buffer.storage.data ∧
      s₁.demux.settle.queues.terminal = s₂.demux.settle.queues.terminal := by
  have possible : ((System.mk (Demux.launch linesInPieces [Delimiter.mk 10]) [] []).trace {}
      [.work, .callRead ⟨0⟩ .blocking, .work, .work, .work, .work, .work, .goOnRead 0,
        .goOnRead 0]).map (fun last => last.2.given) = some [(⟨0⟩, [97, 10])] := by decide
  obtain ⟨⟨s₁, h₁⟩, ran₁, given⟩ := Option.map_eq_some_iff.mp possible
  have quiet : ∀ action ∈ ([.work, .callRead ⟨0⟩ .blocking, .work, .work, .work, .work, .work,
      .goOnRead 0, .goOnRead 0] : List (Action Delimiter)), action.Quiet := by decide
  have quiet' : ∀ action ∈ ([] : List (Action Delimiter)), action.Quiet := by decide
  obtain ⟨delivered, leftover, failure, -, -, -, terminal₁, terminal₂⟩ :=
    delivery_independent_of_chunking (Delimiter.prefixStable ⟨10⟩) linesInPieces_brings
      linesAtOnce_brings (by decide) (by decide) (by decide) quiet quiet' ran₁ rfl
  exact ⟨s₁, h₁, _, _, ran₁, given, rfl, delivered ⟨0⟩, leftover, terminal₁.trans terminal₂.symm⟩

end SocketDemux
