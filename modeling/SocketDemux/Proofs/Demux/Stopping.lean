import SocketDemux.Proofs.Demux.Lifecycle
/-!
# SocketDemux.Proofs.Demux.Stopping

**What a stop reports**, in runs in which calls of stop do not overlap.

The failure of a worker travels on two paths: it is recorded for the readers, and the stop
that joins the worker is told. A stop also records something itself, and has requested the
cancellation that may end the worker.

* `Reports` — a stop says how the worker has ended, and this agrees with the record.
* `System.Attended` — the invariant: which call of stop has taken the worker, what every
  call is going to answer, and who has recorded a failure.
* `System.ComesToEnd` — from the request on, nobody has any influence on the worker; so the
  number of its steps says how far it is, and after enough of them it has ended.
* `System.stop_reports_once` — the first stop after a start reports the end of the worker,
  every other stop has nothing to report and changes nothing, and no stop is held up for
  ever.
-/

namespace SocketDemux

variable {κ : Type}

/-! ### How the worker has ended -/

/-- A worker that ends on request has not failed. -/
theorem WorkerEnd.ofFailure_ne_requested (failure : SocketError) :
    ofFailure failure ≠ .failed .terminationRequested := by
  cases failure with
  | _ => simp [ofFailure]

/-- A stop says how the worker has ended, as far as this is a failure or a panic, and so does
the record. -/
structure Reports (d : Demux κ) (reply : StopReply) : Prop where
  ended : ∃ result, d.workerEnd? = some result
  failed : ∀ failure, reply = .error failure ↔ d.workerEnd? = some (.failed failure)
  cancelled : reply = .ok ↔ d.workerEnd? = some .cancelled
  panicked : ∀ message, reply = .panicked message ↔ d.workerEnd? = some (.panicked message)
  /-- What is reported as a failure is not the cancellation, and is recorded under the same
  name, with the same kind and the same text. -/
  failure_recorded : ∀ failure, reply = .error failure →
    failure ≠ .terminationRequested ∧
      ∃ recorded, d.terminalError = some recorded ∧ recorded.label = failure.label ∧
        recorded.kind = failure.kind ∧ recorded.text = failure.text
  request_recorded : reply = .ok → d.terminalError = some .terminationRequested
  panic_recorded : ∀ message, reply = .panicked message →
    d.terminalError = some .workerPanicked

/-- Whoever is told how the worker has ended reports it, if it has left its own record. -/
theorem Reports.of_ended {d : Demux κ} {result : WorkerEnd} (ended : d.workerEnd? = some result)
    (unrequested : result ≠ .failed .terminationRequested)
    (recorded : d.queues.terminal = some result.recorded) : Reports d result.reply := by
  have told : d.terminalError = some result.recorded.copy := by
    rw [Demux.terminalError, recorded]
    rfl
  refine ⟨⟨_, ended⟩, ?_, ?_, ?_, ?_, ?_, ?_⟩
  · intro failure
    rw [ended]
    cases result with
    | _ => simp [WorkerEnd.reply]
  · rw [ended]
    cases result with
    | _ => simp [WorkerEnd.reply]
  · intro message
    rw [ended]
    cases result with
    | _ => simp [WorkerEnd.reply]
  · intro failure same
    cases result with
    | failed failure =>
      cases same
      refine ⟨fun wrong => unrequested (congrArg _ wrong), _, told, ?_⟩
      simp [WorkerEnd.recorded]
    | cancelled | panicked => cases same
  · intro same
    cases result with
    | cancelled => exact told
    | failed | panicked => cases same
  · intro message same
    cases result with
    | panicked => exact told
    | cancelled | failed => cases same

/-- Whoever records after somebody else changes nothing. -/
theorem Queues.Uniform.terminate_eq {q : Queues} (uniform : q.Uniform) {recorded : SocketError}
    (already : q.terminal = some recorded) (failure : SocketError) :
    q.terminate failure = q := by
  obtain ⟨slots, terminal⟩ := q
  cases already
  rw [Queues.terminate, Option.some_or]
  congr 1
  -- every signal is closed by then
  refine (List.map_congr_left fun slot member => ?_).trans (List.map_id slots)
  obtain ⟨index, found⟩ := List.getElem?_of_mem member
  have closed : slot.signal.closed = true := uniform ⟨index⟩ slot found
  obtain ⟨fragments, units, up⟩ := slot
  cases closed
  rfl

variable [Condition κ]

/-- A step that ends the worker does not call a request a failure. -/
theorem Demux.step_unrequested {d : Demux κ} {w : Worker κ} (worker : d.worker = some w)
    (before : d.workerEnd? ≠ some (.failed .terminationRequested)) :
    d.step.2.workerEnd? ≠ some (.failed .terminationRequested) := by
  have step := step_cases worker
  generalize d.step.2 = next at step ⊢
  cases step with
  | waited => rw [Demux.workerEnd?, worker] at before ⊢; exact before
  | @asked index condition =>
    intro wrong
    exact absurd (phase_of_workerEnd? rfl wrong) (Phase.afterVerdict_ne_ended _ _ _ _)
  | @concluded failure =>
    intro wrong
    exact WorkerEnd.ofFailure_ne_requested failure (Option.some.inj wrong)
  | rested => exact before
  | _ =>
    intro wrong
    cases wrong

namespace System

variable {past actions : List (Action κ)} {s next : System κ} {action : Action κ}
  {buffer : StreamBuffer}

/-- The end of a worker is final. -/
theorem act_workerEnd? {result : WorkerEnd} (regular : s.Regular)
    (ended : s.demux.workerEnd? = some result) (acted : s.act action = some next) :
    next.demux.workerEnd? = some result := by
  obtain ⟨w, worker, -⟩ := Demux.exists_worker_of_ended ended
  obtain ⟨launched, -⟩ := regular.demux.working w worker
  rcases act_cases launched acted with ⟨rfl, rfl⟩ | ⟨-, bystands, -⟩
  · rw [Demux.step_of_ended ended]
    exact ended
  · rw [bystands.workerEnd?]
    exact ended

end System

/-! ### What every stop is going to answer -/

/-- What a call of stop has found, and what it will answer: the `first` one after a start has
taken the worker, and every other one has found nobody to join. -/
def StopPhase.Told (d : Demux κ) (first : Prop) : StopPhase → Prop
  | .called => True
  | .took taken | .raised taken => taken = true ↔ first
  | .joined reply | .returned reply =>
      (first → ∃ result, d.workerEnd? = some result ∧ reply = result.reply) ∧
        (¬first → reply = .ok)

omit [Condition κ] in
/-- The end of a worker is final, so what a stop was told stays true. -/
theorem StopPhase.Told.mono {d next : Demux κ} {first first' : Prop} {phase : StopPhase}
    (told : phase.Told d first) (same : first ↔ first')
    (final : ∀ result, d.workerEnd? = some result → next.workerEnd? = some result) :
    phase.Told next first' := by
  cases phase with
  | called => trivial
  | took taken | raised taken => exact told.trans same
  | joined reply | returned reply =>
    obtain ⟨reports, silent⟩ := told
    refine ⟨fun first => ?_, fun other => silent fun first => other (same.mp first)⟩
    obtain ⟨result, ended, rfl⟩ := reports (same.mpr first)
    exact ⟨result, final result ended, rfl⟩

omit [Condition κ] in
/-- A stop that goes on learns no more than that. -/
theorem StopStep.told {d next : Demux κ} {phase after : StopPhase} {first : Prop}
    (step : StopStep d phase after next) (told : phase.Told d first)
    (begins : phase = .called → (d.isJoinable = true ↔ first)) : after.Told next first := by
  cases step with
  | took => exact begins rfl
  | raised => exact told
  | joined taken ended =>
    cases taken with
    | false => exact ⟨fun first => absurd (told.mpr first) Bool.false_ne_true, fun _ => rfl⟩
    | true =>
      refine ⟨fun _ => ?_, fun other => absurd (told.mp rfl) other⟩
      rw [Demux.joinReply, if_pos rfl] at ended ⊢
      split
      · next result there => exact ⟨result, there, rfl⟩
      · next nobody =>
        rw [nobody] at ended
        exact absurd rfl ended
  | returned reply => exact told

namespace System

/-- The calls of stop so far, one after the other, and what they have to do with the end of
the worker. -/
structure Attended (past : List (Action κ)) (s : System κ) : Prop where
  single : s.Single
  solo : Past.Started past → Solo s
  told : ∀ (index : Nat) (phase : StopPhase), s.stops[index]? = some phase →
    phase.Told s.demux (Past.Started past ∧ index = 0)
  unrequested : s.demux.workerEnd? ≠ some (.failed .terminationRequested)
  /-- Without a worker, only a stop can have recorded anything. -/
  idle : ¬Past.Started past → ∀ failure, s.demux.queues.terminal = some failure →
    failure = .terminationRequested

variable {past actions : List (Action κ)} {s next : System κ} {action : Action κ}
  {buffer : StreamBuffer}

/-- Without a worker, nobody records anything but a stop. -/
theorem act_terminal_of_idle (idle : s.demux.worker = none) (acted : s.act action = some next) :
    next.demux.queues.terminal = s.demux.queues.terminal ∨
      next.demux.queues.terminal = s.demux.queues.terminal.or (some .terminationRequested) := by
  cases action with
  | register condition =>
    cases acted
    refine .inl ?_
    show (s.demux.register condition).2.queues.terminal = s.demux.queues.terminal
    unfold Demux.register
    split <;> rfl
  | start =>
    cases acted
    refine .inl ?_
    show s.demux.start.2.queues.terminal = s.demux.queues.terminal
    unfold Demux.start
    split <;> rfl
  | work =>
    cases acted
    exact .inl (by rw [Demux.step_of_idle idle])
  | cancel | callStop | callRead =>
    cases acted
    exact .inl rfl
  | goOnStop index =>
    obtain ⟨phase, after, d, -, stepped, rfl⟩ := act_goOnStop acted
    cases stopStep_inv stepped with
    | returned => exact .inr rfl
    | _ => exact .inl rfl
  | goOnRead index =>
    obtain ⟨reader, after, q, -, stepped, rfl⟩ := act_goOnRead acted
    obtain ⟨-, -, terminal, -⟩ := readStep_cases stepped
    exact .inl terminal
  | expire index =>
    obtain ⟨reader, after, -, -, rfl⟩ := act_expire acted
    exact .inl rfl

namespace Attended

omit [Condition κ] in
theorem fresh (buffer : StreamBuffer) : Attended [] (System.fresh buffer : System κ) where
  single index phase there := by cases there
  solo started := by cases started
  told index phase there := by cases there
  unrequested wrong := by cases wrong
  idle _ failure wrong := by cases wrong

/-- The first call of stop finds the worker if it was started, and no other call does. -/
theorem isJoinable_iff (attended : Attended past s) (lived : s.Lived past) {index : Nat}
    (there : s.stops[index]? = some .called) :
    s.demux.isJoinable = true ↔ Past.Started past ∧ index = 0 := by
  have last := attended.single.eq_last there (by simp)
  rw [lived.isJoinable_iff]
  refine and_congr_right fun started => ⟨fun unstopped => ?_, ?_⟩
  · -- whoever was called before has returned, and so has begun
    cases index with
    | zero => rfl
    | succ index =>
      have inside : 0 < s.stops.length := by omega
      obtain ⟨reply, returned⟩ := attended.single 0 _ (List.getElem?_eq_getElem inside) (by omega)
      have wrong := lived.called unstopped _ (List.getElem_mem inside)
      rw [returned] at wrong
      cases wrong
  · rintro rfl stopped
    have taken : s.demux.isJoinable = false := by
      rw [Demux.isJoinable, lived.stopped stopped]
    obtain ⟨phase, member, other⟩ := (attended.solo started).untaken taken
    obtain ⟨earlier, found⟩ := List.getElem?_of_mem member
    have inside := (List.getElem?_eq_some_iff.mp found).1
    obtain rfl : earlier = 0 := by omega
    rw [there] at found
    cases found
    exact other rfl

/-- Every action leaves each stop with what it was told, and tells one of them more at
most. -/
theorem act_told (attended : Attended past s) (lived : s.Lived past) (regular : s.Regular)
    (acted : s.act action = some next) {index : Nat} {phase : StopPhase}
    (found : next.stops[index]? = some phase) :
    phase.Told next.demux (Past.Started (past ++ [action]) ∧ index = 0) := by
  by_cases starts : action = .start ∧ ¬Past.Closed past
  · -- no stop has begun when the worker is started
    obtain ⟨rfl, opened⟩ := starts
    cases acted
    rw [lived.called (fun stopped => opened stopped.closed) phase (List.mem_of_getElem? found)]
    trivial
  · have same : Past.Started past ∧ index = 0 ↔ Past.Started (past ++ [action]) ∧ index = 0 :=
      and_congr_left fun _ => (Past.started_concat_of_not_starts starts).symm
    rcases stop_inv acted found with old | rfl | ⟨-, before, there, step⟩
    · exact (attended.told index phase old).mono same fun result ended =>
        act_workerEnd? regular ended acted
    · trivial
    · have told := step.told (attended.told index before there) fun first => by
        subst first
        exact attended.isJoinable_iff lived there
      exact told.mono same fun _ ended => ended

/-- A worker that has just been started has not ended, and nobody has recorded anything. -/
theorem solo_start (attended : Attended past s) (lived : s.Lived past) (regular : s.Regular)
    (opened : ¬Past.Closed past) : Solo { s with demux := s.demux.start.2 } := by
  obtain ⟨-, unrecorded, -⟩ := regular.demux.registering _ (lived.opened opened)
  have called := lived.called fun stopped => opened stopped.closed
  have nothing : ∀ failure, s.demux.queues.terminal ≠ some failure := by
    intro failure wrong
    rw [unrecorded] at wrong
    cases wrong
  rw [lived.start_eq opened]
  refine ⟨⟨(fun _ wrong => nomatch wrong), ⟨_, rfl⟩, ?_, ?_, (fun _ wrong => nomatch wrong)⟩,
    attended.single, (fun wrong => nomatch wrong), ?_, ?_⟩
  · intro phase member raised
    rw [called phase member] at raised
    cases raised
  · exact fun failure wrong => absurd wrong (nothing failure)
  · intro phase member finished
    rw [called phase member] at finished
    cases finished
  · exact fun failure wrong => absurd wrong (nothing failure)

/-- Every action that may come next keeps the calls of stop attended. -/
theorem act (attended : Attended past s) (lived : s.Lived past) (regular : s.Regular)
    (alone : action = .callStop → ∀ phase ∈ s.stops, ∃ reply, phase = .returned reply)
    (acted : s.act action = some next) : Attended (past ++ [action]) next := by
  have single := attended.single.act alone acted
  have told := fun index phase => @act_told κ _ past s next action attended lived regular acted
    index phase
  by_cases starts : action = .start ∧ ¬Past.Closed past
  · obtain ⟨rfl, opened⟩ := starts
    have started : Past.Started (past ++ [.start]) := (Past.started_concat_of_open opened).mpr rfl
    cases acted
    refine ⟨single, fun _ => attended.solo_start lived regular opened, told, ?_,
      fun unstarted => absurd started unstarted⟩
    rw [lived.start_eq opened]
    intro wrong
    cases wrong
  · have same := Past.started_concat_of_not_starts starts
    by_cases started : Past.Started past
    · have solo := (attended.solo started).act alone acted
      refine ⟨single, fun _ => solo, told, ?_, fun unstarted => absurd (same.mpr started) unstarted⟩
      obtain ⟨w, worker, -⟩ := lived.handed started
      rcases act_cases (lived.launched started.closed) acted with ⟨rfl, rfl⟩ | ⟨-, bystands, -⟩
      · exact Demux.step_unrequested worker attended.unrequested
      · rw [bystands.workerEnd?]
        exact attended.unrequested
    · have unstarted : ¬Past.Started (past ++ [action]) := fun wrong => started (same.mp wrong)
      refine ⟨single, fun wrong => absurd wrong unstarted, told, ?_, fun _ failure there => ?_⟩
      · rw [Demux.workerEnd?, (lived.act acted).idle unstarted]
        intro wrong
        cases wrong
      · rcases act_terminal_of_idle (lived.idle started) acted with kept | later
        · rw [kept] at there
          exact attended.idle started failure there
        · rw [later, Option.or_eq_some_iff] at there
          rcases there with earlier | ⟨-, new⟩
          · exact attended.idle started failure earlier
          · exact (Option.some.inj new).symm

/-- So does every run in which calls of stop do not overlap. -/
theorem run (attended : Attended past s) (lived : s.Lived past) (regular : s.Regular)
    (orderly : s.Orderly actions) (ran : s.run actions = some next) :
    Attended (past ++ actions) next := by
  induction actions generalizing past s with
  | nil =>
    cases ran
    rw [List.append_nil]
    exact attended
  | cons action rest ih =>
    simp only [System.run, Option.bind_eq_bind, Option.bind_eq_some_iff] at ran
    obtain ⟨middle, acted, ran⟩ := ran
    obtain ⟨alone, later⟩ := orderly
    have attended' := ih (attended.act lived regular alone acted) (lived.act acted)
      (regular.act acted) (later middle acted) ran
    rw [List.append_assoc] at attended'
    exact attended'

omit [Condition κ] in
/-- The first stop after a start that has joined the worker reports how it has ended. -/
theorem reports (attended : Attended past s) (started : Past.Started past) {reply : StopReply}
    (there : s.stops[0]? = some (.returned reply)) : Reports s.demux reply := by
  obtain ⟨result, ended, rfl⟩ := (attended.told 0 _ there).1 ⟨started, rfl⟩
  have solo := attended.solo started
  refine Reports.of_ended ended (fun wrong => attended.unrequested (wrong ▸ ended)) ?_
  cases recorded : s.demux.queues.terminal with
  | none => exact absurd recorded (solo.recorded.ended result ended)
  | some failure =>
    obtain ⟨_, same, rfl⟩ := solo.own failure recorded
    rw [ended] at same
    cases same
    rfl

/-- A stop that comes behind another one finds that one's record, and leaves the queues as
they are. -/
theorem queues_eq (attended : Attended past s) (regular : s.Regular) {index : Nat}
    (further : 0 < index) (acted : s.act (.goOnStop index) = some next) :
    next.demux.queues = s.demux.queues := by
  obtain ⟨phase, after, d, there, stepped, rfl⟩ := act_goOnStop acted
  have inside := (List.getElem?_eq_some_iff.mp there).1
  cases stopStep_inv stepped with
  | returned =>
    obtain ⟨reply, first⟩ :=
      attended.single 0 _ (List.getElem?_eq_getElem (by omega)) (by omega)
    have member : StopPhase.returned reply ∈ s.stops := first ▸ List.getElem_mem _
    obtain ⟨recorded, already⟩ := Option.ne_none_iff_exists'.mp (regular.recorded reply member)
    exact regular.demux.uniform.terminate_eq already _
  | _ => rfl

end Attended

/-! ### No stop waits for ever -/

/-- Nothing holds a stop up but the worker, until it has ended. -/
theorem goesOn_or_waits {index : Nat} {phase : StopPhase} (there : s.stops[index]? = some phase)
    (going : ∀ reply, phase ≠ .returned reply) :
    (∃ next, s.act (.goOnStop index) = some next) ∨
      (phase = .raised true ∧ s.demux.workerEnd? = none) := by
  have possible : ∀ after d, stopStep s.demux phase = some (after, d) →
      ∃ next, s.act (.goOnStop index) = some next := by
    intro after d stepped
    exact ⟨{ s with demux := d, stops := s.stops.set index after }, by simp [act, there, stepped]⟩
  cases phase with
  | called => exact .inl (possible _ _ rfl)
  | took taken => exact .inl (possible _ _ rfl)
  | joined reply => exact .inl (possible _ _ rfl)
  | returned reply => exact absurd rfl (going reply)
  | raised taken =>
    cases joined : s.demux.joinReply taken with
    | waiting =>
      refine .inr ?_
      unfold Demux.joinReply at joined
      split at joined
      · next was =>
        split at joined
        · next result _ => exact absurd joined result.reply_ne_waiting
        · next nobody => exact ⟨by rw [was], nobody⟩
      · cases joined
    | ok | error failure | panicked message =>
      exact .inl (possible _ _ (by rw [stopStep, joined]))

/-- The worker comes to its end after so many of its steps, whatever anybody else does. -/
def ComesToEnd (s : System κ) : Prop :=
  ∃ bound result, ∀ later next, s.run later = some next →
    bound ≤ later.countP Action.isWork → next.demux.workerEnd? = some result

/-- So it comes to its end. -/
theorem comesToEnd_of_raised (launched : s.demux.Launched) {w : Worker κ}
    (worker : s.demux.worker = some w) (raised : s.demux.buffer.endpoint.flag.raised = true) :
    s.ComesToEnd := by
  obtain ⟨result, ended⟩ := Demux.settle_of_raised worker raised
  obtain ⟨bound, settled⟩ := s.demux.settle_eq_steps
  refine ⟨bound, result, fun later next ran enough => ?_⟩
  have there : (s.demux.steps (later.countP Action.isWork)).workerEnd? = some result := by
    rw [← Nat.add_sub_of_le enough, Demux.steps_add, ← settled, Demux.steps_of_ended ended]
    exact ended
  rw [Demux.workerEnd?, worker_after launched worker raised ran]
  exact there

/-! ### A whole stop -/

/-- A run without a call of stop is orderly. -/
theorem orderly_of_uncalled (uncalled : ∀ action ∈ actions, action ≠ .callStop) :
    s.Orderly actions := by
  induction actions generalizing s with
  | nil => trivial
  | cons action rest ih =>
    refine ⟨fun called => absurd called (uncalled action (List.mem_cons_self ..)), ?_⟩
    exact fun next _ => ih fun other member => uncalled other (List.mem_cons_of_mem _ member)

/-- A stop may be called when all others have returned. -/
theorem orderly_stopActions (idle : ∀ phase ∈ s.stops, ∃ reply, phase = .returned reply)
    (steps : Nat) : s.Orderly (s.stopActions steps) := by
  refine ⟨fun _ => idle, fun next _ => orderly_of_uncalled ?_⟩
  show ∀ action ∈ ([.goOnStop s.stops.length, .goOnStop s.stops.length] ++
    (List.replicate steps .work ++ [.goOnStop s.stops.length, .goOnStop s.stops.length]) :
      List (Action κ)), action ≠ .callStop
  simp +contextual [or_imp]

/-! ### The law -/

/-- What is said of calls of stop, said of a stop that nobody interferes with, and that is
called when all others have returned. -/
structure WholeStop (past : List (Action κ)) (s : System κ) : Prop where
  first : Past.Started past → s.stops = [] → Reports s.demux.close s.demux.stop.1
  further : ¬Past.Started past ∨ s.stops ≠ [] → s.demux.stop.1 = .ok
  untouched : s.stops ≠ [] → s.demux.close.queues = s.demux.queues
  early_recorded : ¬Past.Started past →
    s.demux.close.terminalError = some .terminationRequested

/-- What the calls of stop report in a run in which they do not overlap, when these actions
have been made so far. -/
structure StopLaw (past : List (Action κ)) (s : System κ) : Prop where
  /-- The first stop after a start has come back: the worker has ended, and the stop says
  how. -/
  first : Past.Started past → ∀ reply, s.stops[0]? = some (.returned reply) →
    Reports s.demux reply
  /-- Every other stop has nothing to report. -/
  further : ∀ index reply, ¬(Past.Started past ∧ index = 0) →
    s.stops[index]? = some (.returned reply) → reply = .ok
  /-- A stop that is not the first one leaves the queues and the recorded failure alone. -/
  untouched : ∀ index next, 0 < index → s.act (.goOnStop index) = some next →
    next.demux.queues = s.demux.queues
  /-- If a stop comes before any start, then whoever wants to register or to start from then
  on is refused, and changes nothing. -/
  early : Past.Stopped past → ¬Past.Started past →
    (∀ condition, s.demux.register condition = (.error .alreadyStarted, s.demux)) ∧
      s.demux.start = (.error .alreadyStarted, s.demux)
  /-- Such a stop records that termination was requested. -/
  early_recorded : ¬Past.Started past → ∀ reply, .returned reply ∈ s.stops →
    s.demux.terminalError = some .terminationRequested
  /-- Nothing holds up a stop but the worker that it has to join, and that comes to its
  end. -/
  goesOn : ∀ index phase, s.stops[index]? = some phase → (∀ reply, phase ≠ .returned reply) →
    (∃ next, s.act (.goOnStop index) = some next) ∨
      (Past.Started past ∧ index = 0 ∧ s.demux.workerEnd? = none ∧ s.ComesToEnd)
  alone : (∀ phase ∈ s.stops, ∃ reply, phase = .returned reply) → WholeStop past s

namespace Attended

omit [Condition κ] in
/-- Without a worker, a stop that has returned has recorded the request. -/
theorem requested (attended : Attended past s) (regular : s.Regular)
    (unstarted : ¬Past.Started past) {reply : StopReply} (member : .returned reply ∈ s.stops) :
    s.demux.terminalError = some .terminationRequested := by
  obtain ⟨failure, there⟩ := Option.ne_none_iff_exists'.mp (regular.recorded reply member)
  rw [Demux.terminalError, there, attended.idle unstarted failure there]
  rfl

/-- A stop that waits is the first one after a start, and the worker that it waits for comes
to its end. -/
theorem goesOn (attended : Attended past s) (lived : s.Lived past) {index : Nat}
    {phase : StopPhase} (there : s.stops[index]? = some phase)
    (going : ∀ reply, phase ≠ .returned reply) :
    (∃ next, s.act (.goOnStop index) = some next) ∨
      (Past.Started past ∧ index = 0 ∧ s.demux.workerEnd? = none ∧ s.ComesToEnd) := by
  rcases goesOn_or_waits there going with possible | ⟨rfl, working⟩
  · exact .inl possible
  · obtain ⟨started, first⟩ := (attended.told index _ there).mp rfl
    obtain ⟨w, worker, -⟩ := lived.handed started
    have raised := (attended.solo started).recorded.raised _ (List.mem_of_getElem? there) trivial
    exact .inr ⟨started, first, working,
      comesToEnd_of_raised (lived.launched started.closed) worker raised⟩

/-- A whole stop behind others that have returned leaves the queues as they are. -/
theorem queues_close (lived : s.Lived past) (regular : s.Regular)
    (idle : ∀ phase ∈ s.stops, ∃ reply, phase = .returned reply) (others : s.stops ≠ []) :
    s.demux.close.queues = s.demux.queues := by
  obtain ⟨phase, rest, stops⟩ := List.exists_cons_of_ne_nil others
  have member : phase ∈ s.stops := by rw [stops]; exact List.mem_cons_self ..
  obtain ⟨reply, rfl⟩ := idle phase member
  have unjoinable : s.demux.isJoinable = false := by
    rw [Bool.eq_false_iff, Ne, lived.isJoinable_iff]
    rintro ⟨-, unstopped⟩
    cases lived.called unstopped _ member
  obtain ⟨recorded, already⟩ := Option.ne_none_iff_exists'.mp (regular.recorded reply member)
  have same : s.demux.close.queues = s.demux.queues.terminate .terminationRequested := by
    simp [Demux.close, Demux.stop, Demux.takeWorker, unjoinable, Demux.recordStop,
      Demux.requestCancellation]
  rw [same]
  exact regular.demux.uniform.terminate_eq already _

omit [Condition κ] in
/-- A stop does not start the worker. -/
theorem started_stopActions (past : List (Action κ)) (s : System κ) (steps : Nat) :
    Past.Started (past ++ s.stopActions steps) ↔ Past.Started past := by
  by_cases closed : Past.Closed past
  · exact Past.started_append_of_closed closed
  · refine ⟨fun wrong => ?_, fun started => absurd started.closed closed⟩
    rw [Past.Started, Past.find?_append_of_open closed] at wrong
    cases wrong

/-- A stop that nobody interferes with is one of the calls of a longer run. -/
theorem alone (attended : Attended past s) (lived : s.Lived past)
    (reachable : Reachable (System.fresh buffer) s)
    (idle : ∀ phase ∈ s.stops, ∃ reply, phase = .returned reply) : WholeStop past s := by
  have regular := regular_of_reachable reachable
  obtain ⟨steps, ran⟩ := lived.run_stop
  have longer := attended.run lived regular (orderly_stopActions idle steps) ran
  have same := started_stopActions past s steps
  have there : (s.stops ++ [StopPhase.returned s.demux.stop.1])[s.stops.length]? =
      some (.returned s.demux.stop.1) := by simp
  constructor
  · intro started none
    rw [List.length_eq_zero_iff.mpr none] at there
    exact longer.reports (same.mpr started) there
  · intro other
    refine (longer.told _ _ there).2 ?_
    rintro ⟨started, first⟩
    rcases other with unstarted | others
    · exact unstarted (same.mp started)
    · exact others (List.length_eq_zero_iff.mp first)
  · exact queues_close lived regular idle
  · intro unstarted
    exact longer.requested (regular_of_reachable (reachable_of_run reachable ran))
      (fun started => unstarted (same.mp started)) (List.mem_of_getElem? there)

end Attended

/-- **A stop reports the end of the worker exactly once.** In every run of a fresh
demultiplexer in which calls of stop do not overlap, whatever else the threads do, the first
stop after a start comes back when the worker has ended, and says with what failure or panic
it has, in agreement with the record, unless it has ended on request. Every other stop has
nothing to report; one that comes behind another leaves the record and the queues as they
are, and one that comes before any start leaves the record that termination was requested, and
keeps everybody from registering and starting. -/
theorem stop_reports_once (orderly : (fresh buffer).Orderly past)
    (ran : (fresh buffer).run past = some s) : StopLaw past s := by
  have lived : s.Lived past := (Lived.fresh buffer).run ran
  have reachable : Reachable (fresh buffer) s := reachable_of_run .refl ran
  have regular := regular_of_reachable reachable
  have attended : Attended past s :=
    (Attended.fresh buffer).run (.fresh buffer) (regular_fresh buffer) orderly ran
  constructor
  · exact fun started _ => attended.reports started
  · exact fun index reply other there => (attended.told index _ there).2 other
  · exact fun _ _ => attended.queues_eq regular
  · intro stopped _
    have launched := lived.launched stopped.closed
    exact ⟨launched.register_refused, launched.start_refused⟩
  · exact fun unstarted _ => attended.requested regular unstarted
  · exact fun _ _ => attended.goesOn lived
  · exact attended.alone lived reachable

/-- While the worker is about to ask a condition that claims too much, it is stopped; when it
has been, it is stopped again. -/
def overclaimedPast : List (Action (Bytes → Decision)) :=
  [.register fun data => .cut (data.length + 1), .start, .work, .callStop, .goOnStop 0,
    .goOnStop 0, .work, .work, .goOnStop 0, .goOnStop 0, .callStop, .goOnStop 1, .goOnStop 1,
    .goOnStop 1, .goOnStop 1]

/-- The failure had come first: the first stop reports it, and it is what the readers are
told. -/
theorem overclaimedPast_reported :
    ∃ s, (fresh oneLine).run overclaimedPast = some s ∧
      s.stops = [.returned (.error (.invalidCondition 3 2)), .returned .ok] ∧
      Reports s.demux (.error (.invalidCondition 3 2)) ∧
      s.demux.terminalError = some (.invalidCondition 3 2) ∧
      s.demux.stop.1 = .ok ∧ s.demux.close.queues = s.demux.queues := by
  have possible : ((fresh oneLine).run overclaimedPast).map
      (fun s => (s.stops, s.demux.terminalError)) =
        some ([.returned (.error (.invalidCondition 3 2)), .returned .ok],
          some (.invalidCondition 3 2)) := by decide +kernel
  obtain ⟨s, ran, facts⟩ := Option.map_eq_some_iff.mp possible
  obtain ⟨stops, terminal⟩ := Prod.mk.inj facts
  have orderly : (fresh oneLine).Orderly overclaimedPast := by decide +kernel
  have law := stop_reports_once orderly ran
  have whole := law.alone (by rw [stops]; decide)
  have others : s.stops ≠ [] := by
    rw [stops]
    exact List.cons_ne_nil _ _
  refine ⟨s, ran, stops, law.first rfl _ ?_, terminal, whole.further (.inr others),
    whole.untouched others⟩
  rw [stops]
  rfl

end System

end SocketDemux
