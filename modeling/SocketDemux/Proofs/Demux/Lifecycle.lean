import SocketDemux.Proofs.Demux.Finality
import SocketDemux.Proofs.Demux.Past
/-!
# SocketDemux.Proofs.Demux.Lifecycle

The **life of a demultiplexer**, from the actions that have been made so far.

* `System.replies` — what the calls of a run are answered: those who register in time get the
  handles of the slots, in their order, and one start is accepted at most.
* `System.act_moves` — no action leads back.
* `Lived.isRunning_iff`, `Lived.isRunning_of_later` — when the worker runs, as far as anybody
  knows; once it has stopped, it never runs again.
* `Lived.run_stop` — a stop that nobody interferes with is a run of the system, and so is
  giving the demultiplexer up.
* `Lived.conditions_length`, `Lived.deliver` — there is a condition for every slot, and a
  fragment finds the slot of its condition.
* `System.life_after` — all of it, for every run.
* `System.stop_drops_conditions` — if a stop comes before any start, the conditions are
  dropped but their slots stay.
-/

namespace SocketDemux

variable {κ : Type} [Condition κ]

/-! ### What the calls are answered -/

/-- The condition of a registration, with the answer. -/
def Demux.registerReply? (d : Demux κ) :
    Action κ → Option (κ × Except SocketError Handle)
  | .register condition => some (condition, (d.register condition).1)
  | _ => none

/-- The answer to a start. -/
def Demux.startReply? (d : Demux κ) : Action κ → Option (Except SocketError Unit)
  | .start => some d.start.1
  | _ => none

/-- The answers to the registrations of a past: those who come in time get the handles
of the slots from the first one on, and those who are late are refused. -/
def Past.answers (past : List (Action κ)) : List (κ × Except SocketError Handle) :=
  (enrolled past).zipIdx.map (fun (condition, index) => (condition, .ok ⟨index⟩)) ++
    (late past).map (fun condition => (condition, .error .alreadyStarted))

/-- The answers to the starts of a past: one start is accepted if it comes before any stop,
and no other one is. -/
structure Past.StartsOnce (past : List (Action κ)) (given : List (Except SocketError Unit)) :
    Prop where
  unasked : ¬Closed past → given = []
  accepted : Started past →
    ∃ refused, given = .ok () :: List.replicate refused (.error .alreadyStarted)
  refused : ¬Started past → ∃ refused, given = List.replicate refused (.error .alreadyStarted)

namespace System

variable {α : Type} {reply? : Demux κ → Action κ → Option α} {past actions : List (Action κ)}
  {s next : System κ} {buffer : StreamBuffer}

/-- The answers to the calls of a run, one after the other. -/
def replies (reply? : Demux κ → Action κ → Option α) : System κ → List (Action κ) → List α
  | _, [] => []
  | s, action :: rest =>
      (reply? s.demux action).toList ++
        match s.act action with
        | none => []
        | some next => next.replies reply? rest

/-- What every answer keeps in step with the past, the answers to a run keep so. -/
theorem replies_invariant {I : List (Action κ) → List α → Prop}
    (keeps : ∀ past (s : System κ) given action, s.Lived past → I past given →
      I (past ++ [action]) (given ++ (reply? s.demux action).toList))
    {given : List α} (lived : s.Lived past) (start : I past given)
    (ran : s.run actions = some next) :
    I (past ++ actions) (given ++ s.replies reply? actions) := by
  induction actions generalizing past given s with
  | nil =>
    rw [replies, List.append_nil, List.append_nil]
    exact start
  | cons action rest ih =>
    simp only [System.run, Option.bind_eq_bind, Option.bind_eq_some_iff] at ran
    obtain ⟨middle, acted, ran⟩ := ran
    have kept := ih (lived.act acted) (keeps _ _ _ action lived start) ran
    rw [List.append_assoc, List.append_assoc] at kept
    rw [replies, acted]
    exact kept

/-- Whoever registers in time gets the handle of the next slot, and everybody else is
refused. -/
theorem replies_register (ran : (fresh buffer).run past = some s) :
    (fresh buffer).replies Demux.registerReply? past = Past.answers past := by
  refine replies_invariant (I := fun past given => given = Past.answers past) ?_
    (.fresh buffer) rfl ran
  rintro past s given action lived rfl
  by_cases closed : Past.Closed past
  · rw [Past.answers, Past.answers, Past.enrolled_append_of_closed closed,
      Past.late_append_of_closed closed, List.map_append, List.append_assoc]
    congr 2
    cases action with
    | register condition =>
      simp [Demux.registerReply?, (lived.launched closed).register_refused, Action.condition?]
    | _ => rfl
  · rw [Past.answers, Past.answers, Past.enrolled_concat_of_open closed,
      Past.late_concat_of_open closed, Past.late_of_open closed]
    cases action with
    | register condition =>
      simp [Demux.registerReply?, lived.register_eq closed, Action.condition?, List.zipIdx_append]
    | _ => simp [Demux.registerReply?, Action.condition?]

/-- A start that comes before any other and before any stop is accepted, and no other
one is. -/
theorem replies_start (ran : (fresh buffer).run past = some s) :
    Past.StartsOnce past ((fresh buffer).replies Demux.startReply? past) := by
  refine replies_invariant (I := Past.StartsOnce) ?_ (.fresh buffer)
    ⟨fun _ => rfl, (fun wrong => nomatch wrong), fun _ => ⟨0, rfl⟩⟩ ran
  intro past s given action lived ⟨unasked, accepted, refused⟩
  by_cases closed : Past.Closed past
  · -- one more refusal, if it is a start
    have more : ∃ count, (s.demux.startReply? action).toList =
        List.replicate count (.error .alreadyStarted) := by
      cases action with
      | start =>
        refine ⟨1, ?_⟩
        rw [Demux.startReply?, (lived.launched closed).start_refused]
        rfl
      | _ => exact ⟨0, rfl⟩
    obtain ⟨count, more⟩ := more
    have settled : Past.Started (past ++ [action]) ↔ Past.Started past :=
      Past.started_append_of_closed closed
    rw [more]
    refine ⟨fun opened => ?_, fun started => ?_, fun unstarted => ?_⟩
    · exact absurd (Past.closed_append.mpr (.inl closed)) opened
    · obtain ⟨before, rfl⟩ := accepted (settled.mp started)
      exact ⟨before + count, by rw [List.cons_append, List.replicate_append_replicate]⟩
    · obtain ⟨before, rfl⟩ := refused fun started => unstarted (settled.mpr started)
      exact ⟨before + count, by rw [List.replicate_append_replicate]⟩
  · obtain rfl := unasked closed
    have first : Past.Started (past ++ [action]) ↔ action = .start :=
      Past.started_concat_of_open closed
    cases action with
    | start =>
      rw [Demux.startReply?, lived.start_eq closed]
      refine ⟨fun opened => ?_, fun _ => ⟨0, rfl⟩, fun wrong => absurd (first.mpr rfl) wrong⟩
      exact absurd (first.mpr rfl).closed opened
    | _ => exact ⟨fun _ => rfl, (fun wrong => nomatch first.mp wrong), fun _ => ⟨0, rfl⟩⟩

/-! ### Moving on -/

theorem run_append (s : System κ) (first second : List (Action κ)) :
    s.run (first ++ second) = (s.run first).bind (·.run second) := by
  induction first generalizing s with
  | nil => rfl
  | cons action rest ih =>
    rw [List.cons_append, run, run]
    cases s.act action with
    | none => rfl
    | some next => exact ih next

end System

/-- The ways from one stage of a life to the next. -/
inductive Lifecycle.Moves : Lifecycle κ → Lifecycle κ → Prop
  | stays (lifecycle : Lifecycle κ) : Moves lifecycle lifecycle
  | registers (conditions : List κ) (condition : κ) :
      Moves (.registering conditions) (.registering (conditions ++ [condition]))
  | starts (conditions : List κ) : Moves (.registering conditions) .running
  | stops (lifecycle : Lifecycle κ) : Moves lifecycle .stopped

/-- No action leads back. -/
theorem System.act_moves {s next : System κ} {action : Action κ}
    (acted : s.act action = some next) :
    s.demux.lifecycle.Moves next.demux.lifecycle := by
  cases action with
  | register condition =>
    cases acted
    show s.demux.lifecycle.Moves (s.demux.register condition).2.lifecycle
    unfold Demux.register
    split
    · next conditions registering =>
      rw [registering]
      exact .registers conditions condition
    · exact .stays _
  | start =>
    cases acted
    show s.demux.lifecycle.Moves s.demux.start.2.lifecycle
    unfold Demux.start
    split
    · next conditions registering =>
      rw [registering]
      exact .starts conditions
    · exact .stays _
  | work =>
    cases acted
    show s.demux.lifecycle.Moves s.demux.step.2.lifecycle
    cases worker : s.demux.worker with
    | none =>
      rw [Demux.step_of_idle worker]
      exact .stays _
    | some w =>
      rw [Demux.lifecycle_step worker]
      exact .stays _
  | cancel | callStop | callRead =>
    cases acted
    exact .stays _
  | goOnStop index =>
    obtain ⟨phase, after, d, -, stepped, rfl⟩ := act_goOnStop acted
    cases stopStep_inv stepped with
    | took => exact .stops _
    | _ => exact .stays _
  | goOnRead index =>
    obtain ⟨reader, after, q, -, -, rfl⟩ := act_goOnRead acted
    exact .stays _
  | expire index =>
    obtain ⟨reader, after, -, -, rfl⟩ := act_expire acted
    exact .stays _

namespace System.Lived

variable {past later : List (Action κ)} {s next : System κ}

/-- There is a worker to join between the start and a stop. -/
theorem isJoinable_iff (lived : s.Lived past) :
    s.demux.isJoinable = true ↔ Past.Started past ∧ ¬Past.Stopped past := by
  unfold Demux.isJoinable
  by_cases stopped : Past.Stopped past
  · simp [lived.stopped stopped, stopped]
  · by_cases closed : Past.Closed past
    · have started := closed.started_or_stopped.resolve_right stopped
      simp [lived.running started stopped, started, stopped]
    · have unstarted : ¬Past.Started past := fun started => closed started.closed
      simp [lived.opened closed, unstarted]

/-- It runs between the start and its end, or a stop. -/
theorem isRunning_iff (lived : s.Lived past) :
    s.demux.isRunning = true ↔
      Past.Started past ∧ ¬Past.Stopped past ∧ s.demux.queues.terminal = none := by
  rw [Demux.isRunning, Bool.and_eq_true, lived.isJoinable_iff, Option.isNone_iff_eq_none,
    and_assoc]

/-- What runs after a start or a stop has run ever since. -/
theorem isRunning_of_later (lived : s.Lived past) (closed : Past.Closed past)
    (ran : s.run later = some next) (running : next.demux.isRunning = true) :
    s.demux.isRunning = true := by
  obtain ⟨started, unstopped, unrecorded⟩ := (lived.run ran).isRunning_iff.mp running
  refine lived.isRunning_iff.mpr ⟨(Past.started_append_of_closed closed).mp started, ?_, ?_⟩
  · exact fun stopped => unstopped (Past.stopped_append.mpr (.inl stopped))
  · cases recorded : s.demux.queues.terminal with
    | none => rfl
    | some failure =>
      rw [terminal_of_reachable (reachable_of_run .refl ran) recorded] at unrecorded
      cases unrecorded

end System.Lived

/-! ### Whole stops -/

/-- A worker that has ended is joined. -/
theorem WorkerEnd.reply_ne_waiting (result : WorkerEnd) : result.reply ≠ .waiting := by
  cases result <;> exact fun wrong => nomatch wrong

namespace System

/-- The stop that was called last goes on. -/
theorem act_goOnStop_last {d next : Demux κ} {stops : List StopPhase} {readers : List Reader}
    {phase after : StopPhase} (stepped : stopStep d phase = some (after, next)) :
    (System.mk d (stops ++ [phase]) readers).act (.goOnStop stops.length) =
      some ⟨next, stops ++ [after], readers⟩ := by
  simp [act, stepped]

/-- The worker goes on alone. -/
theorem run_work (s : System κ) (count : Nat) :
    s.run (List.replicate count .work) = some { s with demux := s.demux.steps count } := by
  obtain ⟨received, ran⟩ := s.trace_replicate_work {} count
  rw [← s.map_trace {}, ran]
  rfl

/-- One thread stops the demultiplexer, and the worker makes so many steps after the
request. -/
def stopActions (s : System κ) (steps : Nat) : List (Action κ) :=
  [.callStop, .goOnStop s.stops.length, .goOnStop s.stops.length] ++
    (List.replicate steps .work ++ [.goOnStop s.stops.length, .goOnStop s.stops.length])

/-- If the worker has ended by then, the stop comes to its end. -/
theorem run_stopActions {s : System κ} {steps : Nat} {d : Demux κ}
    (worked : s.demux.takeWorker.2.requestCancellation.2.steps steps = d)
    (ended : d.joinReply s.demux.isJoinable ≠ .waiting) :
    s.run (s.stopActions steps) =
      some { s with
        demux := d.recordStop
        stops := s.stops ++ [.returned (d.joinReply s.demux.isJoinable)] } := by
  obtain ⟨before, stops, readers⟩ := s
  dsimp only at worked ended
  have joined : stopStep d (.raised before.isJoinable) =
      some (.joined (d.joinReply before.isJoinable), d) := by
    simp only [stopStep]
  have begun : (System.mk before stops readers).run
      [.callStop, .goOnStop stops.length, .goOnStop stops.length] =
        some ⟨before.takeWorker.2.requestCancellation.2,
          stops ++ [.raised before.isJoinable], readers⟩ := by
    simp only [run, Option.bind_eq_bind]
    show ((System.mk before (stops ++ [.called]) readers).act _).bind _ = _
    rw [act_goOnStop_last rfl, Option.bind_some, act_goOnStop_last rfl]
    rfl
  have done : (System.mk d (stops ++ [.raised before.isJoinable]) readers).run
      [.goOnStop stops.length, .goOnStop stops.length] =
        some ⟨d.recordStop, stops ++ [.returned (d.joinReply before.isJoinable)], readers⟩ := by
    simp only [run, Option.bind_eq_bind]
    rw [act_goOnStop_last joined, Option.bind_some, act_goOnStop_last rfl]
    rfl
  rw [stopActions, run_append, begun, Option.bind_some, run_append, run_work, Option.bind_some]
  dsimp only
  rw [worked]
  exact done

/-- So a stop that nobody interferes with is a run, and giving the demultiplexer up is one
too. -/
theorem Lived.run_stop {past : List (Action κ)} {s : System κ} (lived : s.Lived past) :
    ∃ steps, s.run (s.stopActions steps) =
      some { s with
        demux := s.demux.close
        stops := s.stops ++ [.returned s.demux.stop.1] } := by
  cases joinable : s.demux.isJoinable with
  | false =>
    refine ⟨0, ?_⟩
    rw [run_stopActions rfl (by rw [joinable]; exact fun wrong => nomatch wrong)]
    simp [Demux.close, Demux.stop, Demux.takeWorker, joinable, Demux.steps, Demux.joinReply]
  | true =>
    obtain ⟨w, worker, -⟩ := lived.handed (lived.isJoinable_iff.mp joinable).1
    obtain ⟨result, ended⟩ := Demux.settle_of_raised
      (d := s.demux.takeWorker.2.requestCancellation.2) worker rfl
    obtain ⟨steps, settled⟩ := s.demux.takeWorker.2.requestCancellation.2.settle_eq_steps
    refine ⟨steps, ?_⟩
    rw [run_stopActions settled.symm]
    · simp [Demux.close, Demux.stop, Demux.takeWorker, joinable]
    · rw [joinable, Demux.joinReply, ended]
      exact result.reply_ne_waiting

end System

/-! ### The life of a demultiplexer -/

/-- The conditions that are held to be handed over, or that the worker was handed. -/
def Demux.conditions (d : Demux κ) : List κ :=
  match d.lifecycle with
  | .registering conditions => conditions
  | _ => d.worker.elim [] Worker.conditions

omit [Condition κ] in
/-- Once nobody can register any more, only a worker has conditions. -/
theorem Demux.Launched.conditions_eq {d : Demux κ} (launched : d.Launched) :
    d.conditions = d.worker.elim [] Worker.conditions := by
  unfold Demux.conditions
  split
  · next registering => exact absurd registering (launched _)
  · rfl

namespace System

variable {past : List (Action κ)} {s : System κ} {buffer : StreamBuffer}

namespace Lived

/-- There is a condition for every slot, unless a stop came before any start. -/
theorem conditions_length (lived : s.Lived past)
    (kept : Past.Closed past → Past.Started past) :
    s.demux.conditions.length = s.demux.queues.slots.length := by
  by_cases closed : Past.Closed past
  · obtain ⟨w, worker, answered⟩ := lived.handed (kept closed)
    rw [(lived.launched closed).conditions_eq, worker]
    exact answered.length_eq.trans lived.slots.symm
  · rw [Demux.conditions, lived.opened closed]
    exact lived.slots.symm

/-- If it did, the conditions are gone. -/
theorem conditions_eq_nil (lived : s.Lived past) (closed : Past.Closed past)
    (unstarted : ¬Past.Started past) : s.demux.conditions = [] := by
  rw [(lived.launched closed).conditions_eq, lived.idle unstarted]
  rfl

/-- A fragment finds the slot of its condition. -/
theorem deliver (lived : s.Lived past) (regular : s.demux.Regular) {w : Worker κ}
    {index : Nat} {span : Span} (worker : s.demux.worker = some w)
    (phase : w.phase = .removing index span) :
    ∃ condition slot, (Past.enrolled past)[index]? = some condition ∧
      s.demux.queues.slot? ⟨index⟩ = some slot ∧
      (span.delivered = true →
        s.demux.step.2.queues.slot? ⟨index⟩ =
            some ⟨slot.fragments ++ [s.demux.buffer.storage.data.take span.count],
              slot.signal.notify⟩ ∧
          ∀ other, other ≠ ⟨index⟩ →
            s.demux.step.2.queues.slot? other = s.demux.queues.slot? other) := by
  obtain ⟨-, -, admits⟩ := regular.working w worker
  rw [phase] at admits
  obtain ⟨inside, enough⟩ := admits
  have enrolled : index < (Past.enrolled past).length := lived.slots ▸ inside
  have found : s.demux.queues.slot? ⟨index⟩ = some s.demux.queues.slots[index] :=
    List.getElem?_eq_getElem inside
  refine ⟨_, _, List.getElem?_eq_getElem enrolled, found, ?_⟩
  intro delivered
  rw [Storage.length_data] at enough
  have queues : s.demux.step.2.queues =
      s.demux.queues.deliver index (s.demux.buffer.storage.data.take span.count) := by
    unfold Demux.step
    rw [worker]
    dsimp only
    rw [phase]
    dsimp only
    rw [Demux.remove, Storage.pop_of_le enough]
    exact if_pos delivered
  rw [queues]
  constructor
  · rw [Queues.deliver, Queues.slot?_modifySlot, if_pos rfl, found]
    rfl
  · intro other distinct
    rw [Queues.deliver, Queues.slot?_modifySlot, if_neg]
    rintro rfl
    exact distinct rfl

end Lived

/-- What the actions so far say about a demultiplexer. -/
structure LifeLaw (buffer : StreamBuffer) (past : List (Action κ)) (s : System κ) : Prop where
  /-- Where it is in its life, how many slots it has, and with which conditions the worker
  was launched. -/
  lived : s.Lived past
  /-- Life goes one way only. -/
  moves : ∀ action next, s.act action = some next →
    s.demux.lifecycle.Moves next.demux.lifecycle
  /-- The conditions that were registered in time have the slots, in their order. -/
  registered : (fresh buffer).replies Demux.registerReply? past = Past.answers past
  started : Past.StartsOnce past ((fresh buffer).replies Demux.startReply? past)
  /-- As long as nothing has closed it, the next condition and a start are welcome. -/
  accepts : ¬Past.Closed past →
    (∀ condition, s.demux.register condition =
      (.ok ⟨(Past.enrolled past).length⟩,
        { s.demux with
          queues := { s.demux.queues with slots := s.demux.queues.slots ++ [{}] }
          lifecycle := .registering (Past.enrolled past ++ [condition]) })) ∧
    s.demux.start =
      (.ok (),
        { s.demux with
          lifecycle := .running
          worker := some { conditions := Past.enrolled past } })
  /-- From then on both are refused, and everything is left as it is. -/
  refuses : Past.Closed past →
    (∀ condition, s.demux.register condition = (.error .alreadyStarted, s.demux)) ∧
    s.demux.start = (.error .alreadyStarted, s.demux)
  /-- There is a condition for every slot, unless a stop came before any start. -/
  matched : (Past.Closed past → Past.Started past) →
    s.demux.conditions.length = s.demux.queues.slots.length
  /-- Then there is none. -/
  dropped : Past.Closed past → ¬Past.Started past → s.demux.conditions = []
  /-- The slot of a condition is there when its fragment is. -/
  delivers : ∀ w index span, s.demux.worker = some w → w.phase = .removing index span →
    ∃ condition slot, (Past.enrolled past)[index]? = some condition ∧
      s.demux.queues.slot? ⟨index⟩ = some slot ∧
      (span.delivered = true →
        s.demux.step.2.queues.slot? ⟨index⟩ =
            some ⟨slot.fragments ++ [s.demux.buffer.storage.data.take span.count],
              slot.signal.notify⟩ ∧
          ∀ other, other ≠ ⟨index⟩ →
            s.demux.step.2.queues.slot? other = s.demux.queues.slot? other)
  running : s.demux.isRunning = true ↔
    Past.Started past ∧ ¬Past.Stopped past ∧ s.demux.queues.terminal = none
  /-- What has run once and does so no more will not run again, nor what was stopped before
  it could. -/
  rests : Past.Closed past → s.demux.isRunning = false →
    ∀ later next, s.run later = some next → next.demux.isRunning = false
  /-- Stopping it, or giving it up, is among the runs that go on from here. -/
  stoppable : ∃ steps, s.run (s.stopActions steps) =
    some { s with
      demux := s.demux.close
      stops := s.stops ++ [.returned s.demux.stop.1] }

/-- **The life of a demultiplexer.** After any actions of any threads, the registrations,
starts and stops among them alone say where it is in its life, what all of them were
answered, which condition has which slot, and what the next of them will do. -/
theorem life_after (ran : (fresh buffer).run past = some s) : LifeLaw buffer past s := by
  have lived : s.Lived past := (Lived.fresh buffer).run ran
  have regular := regular_of_reachable (reachable_of_run .refl ran)
  constructor
  · exact lived
  · exact fun _ _ => act_moves
  · exact replies_register ran
  · exact replies_start ran
  · exact fun opened => ⟨lived.register_eq opened, lived.start_eq opened⟩
  · intro closed
    have launched := lived.launched closed
    exact ⟨launched.register_refused, launched.start_refused⟩
  · exact lived.conditions_length
  · exact lived.conditions_eq_nil
  · exact fun _ _ _ => lived.deliver regular.demux
  · exact lived.isRunning_iff
  · intro closed resting later next ran'
    rw [Bool.eq_false_iff] at resting ⊢
    exact fun running => resting (lived.isRunning_of_later closed ran' running)
  · exact lived.run_stop

/-- Two conditions are registered in time and one is not; a second start is refused; and a
line has just been delivered. -/
def busyPast : List (Action Delimiter) :=
  [.register ⟨10⟩, .register ⟨32⟩, .start, .register ⟨10⟩, .start, .work, .work, .work]

theorem busyPast_life :
    ∃ s, (fresh oneLine).run busyPast = some s ∧
      (fresh oneLine).replies Demux.registerReply? busyPast =
        [(⟨10⟩, .ok ⟨0⟩), (⟨32⟩, .ok ⟨1⟩), (⟨10⟩, .error .alreadyStarted)] ∧
      s.demux.queues.queued ⟨0⟩ = [[97, 10]] ∧
      s.demux.conditions.length = 2 ∧
      s.demux.isRunning = true ∧
      s.demux.register ⟨10⟩ = (.error .alreadyStarted, s.demux) ∧
      ∃ steps next, s.run (s.stopActions steps) = some next ∧ next.demux.isRunning = false := by
  have possible : ((fresh oneLine).run busyPast).map
      (fun s => (s.demux.queues.queued ⟨0⟩, s.demux.queues.slots.length,
        s.demux.queues.terminal)) = some ([[97, 10]], 2, none) := by decide
  obtain ⟨s, ran, facts⟩ := Option.map_eq_some_iff.mp possible
  obtain ⟨queued, more⟩ := Prod.mk.inj facts
  obtain ⟨slots, unrecorded⟩ := Prod.mk.inj more
  have law := life_after ran
  have started : Past.Started busyPast := rfl
  have unstopped : ¬Past.Stopped busyPast := by
    rintro ⟨index, member⟩
    simp [busyPast] at member
  obtain ⟨steps, stopped⟩ := law.stoppable
  have longer := (run_append (fresh oneLine) busyPast (s.stopActions steps)).trans
    (congrArg (Option.bind · _) ran)
  rw [Option.bind_some, stopped] at longer
  refine ⟨s, ran, law.registered, queued, ?_, ?_, ?_, steps, _, stopped, ?_⟩
  · rw [law.matched fun _ => started]
    exact slots
  · exact law.running.mpr ⟨started, unstopped, unrecorded⟩
  · exact (law.refuses started.closed).1 _
  · rw [Bool.eq_false_iff]
    intro running
    obtain ⟨-, wrong, -⟩ := (life_after longer).running.mp running
    exact wrong ⟨s.stops.length, List.mem_append_right _ (by simp [stopActions])⟩

/-- A stop that comes before any start leaves a slot without a condition: what was
registered for it is neither held any more nor handed to a worker. -/
theorem stop_drops_conditions :
    ∃ s, (fresh oneLine).run
        [.register (Delimiter.mk 10), .callStop, .goOnStop 0, .goOnStop 0, .goOnStop 0,
          .goOnStop 0] = some s ∧
      s.demux = ((Demux.ofBuffer oneLine).register (Delimiter.mk 10)).2.close ∧
      s.demux.queues.slots.length = 1 ∧ s.demux.conditions.length = 0 := by
  exact ⟨_, rfl, rfl, rfl, rfl⟩

end System

end SocketDemux
