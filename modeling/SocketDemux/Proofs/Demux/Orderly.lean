import SocketDemux.Proofs.Demux.Termination
/-!
# SocketDemux.Proofs.Demux.Orderly

Runs in which **calls of stop do not overlap**.

Of all calls of stop, the first one takes the worker, and waits for its end before it
records anything. When the next one begins, the first has returned, so the worker has
ended, and has left a record of its own. That is what `Solo` says: whatever a call of
stop has got to that did not take the worker, the worker has ended before.

`System.Single` is what such runs keep whether the worker was started or not: all calls of
stop but the last one have returned.
-/

namespace SocketDemux

variable {κ : Type}

/-- Nobody calls stop while another call of stop has not returned. -/
def System.Orderly [Condition κ] : System κ → List (Action κ) → Prop
  | _, [] => True
  | s, action :: rest =>
      (action = .callStop → ∀ phase ∈ s.stops, ∃ reply, phase = .returned reply) ∧
        ∀ next, s.act action = some next → next.Orderly rest

instance (phase : StopPhase) : Decidable (∃ reply, phase = .returned reply) :=
  match phase with
  | .returned reply => isTrue ⟨reply, rfl⟩
  | .called | .took _ | .raised _ | .joined _ => isFalse fun ⟨_, wrong⟩ => nomatch wrong

instance (s : System κ) (action : Action κ) :
    Decidable (action = .callStop → ∀ phase ∈ s.stops, ∃ reply, phase = .returned reply) :=
  match action with
  | .callStop => decidable_of_iff (∀ phase ∈ s.stops, ∃ reply, phase = .returned reply)
      ⟨fun idle _ => idle, fun idle => idle rfl⟩
  | .register _ | .start | .work | .cancel | .goOnStop _ | .callRead .. | .goOnRead _ |
    .expire _ => isTrue fun wrong => nomatch wrong

/-- Whether a run is orderly can be seen by following it. -/
instance System.decidableOrderly [Condition κ] :
    (s : System κ) → (actions : List (Action κ)) → Decidable (s.Orderly actions)
  | _, [] => isTrue trivial
  | s, action :: rest =>
      have : Decidable (∀ next, s.act action = some next → next.Orderly rest) :=
        match s.act action with
        | none => isTrue fun _ wrong => nomatch wrong
        | some middle =>
            have := decidableOrderly middle rest
            decidable_of_iff (middle.Orderly rest)
              ⟨fun orderly _ same => Option.some.inj same ▸ orderly, fun later => later _ rfl⟩
      inferInstanceAs (Decidable (_ ∧ _))

/-- All calls of stop but the last one have returned. -/
def System.Single (s : System κ) : Prop :=
  ∀ (index : Nat) (phase : StopPhase), s.stops[index]? = some phase →
    index + 1 < s.stops.length → ∃ reply, phase = .returned reply

namespace System.Single

variable {s next : System κ}

/-- Only the one that has not returned goes on. -/
theorem eq_last (single : s.Single) {index : Nat} {phase : StopPhase}
    (there : s.stops[index]? = some phase) (going : ∀ reply, phase ≠ .returned reply) :
    index + 1 = s.stops.length := by
  have inside : index < s.stops.length := (List.getElem?_eq_some_iff.mp there).1
  rcases Nat.lt_or_ge (index + 1) s.stops.length with early | last
  · obtain ⟨reply, returned⟩ := single index phase there early
    exact absurd returned (going reply)
  · omega

/-- Every action that may come next keeps it so. -/
theorem act [Condition κ] {action : Action κ} (single : s.Single)
    (alone : action = .callStop → ∀ phase ∈ s.stops, ∃ reply, phase = .returned reply)
    (acted : s.act action = some next) : next.Single := by
  cases action with
  | register | start | work | cancel | callRead =>
    cases acted
    exact single
  | callStop =>
    cases acted
    intro index phase found early
    rw [List.length_append, List.length_singleton] at early
    rw [List.getElem?_append_left (by omega)] at found
    exact alone rfl phase (List.mem_of_getElem? found)
  | goOnStop index =>
    obtain ⟨phase, after, d, there, stepped, rfl⟩ := act_goOnStop acted
    have going : ∀ reply, phase ≠ .returned reply := by
      rintro reply rfl
      cases stopStep_inv stepped
    have last := single.eq_last there going
    -- the one that goes on is not one of those that must have returned
    intro earlier phase found early
    rw [List.length_set] at early
    rw [List.getElem?_set_ne (by omega)] at found
    exact single earlier phase found early
  | goOnRead index =>
    obtain ⟨reader, after, q, -, -, rfl⟩ := act_goOnRead acted
    exact single
  | expire index =>
    obtain ⟨reader, after, -, -, rfl⟩ := act_expire acted
    exact single

end System.Single

/-- Has this stop joined the worker, or nobody to join? -/
def StopPhase.Over : StopPhase → Prop
  | .called | .took true | .raised true => False
  | _ => True

/-- One stop at a time. -/
structure Solo (s : System κ) : Prop where
  recorded : Recorded s
  single : s.Single
  /-- The worker is joinable until somebody takes it. -/
  untaken : s.demux.isJoinable = false → ∃ phase ∈ s.stops, phase ≠ .called
  finished : ∀ phase ∈ s.stops, phase.Over → ∃ result, s.demux.workerEnd? = some result
  own : ∀ failure, s.demux.queues.terminal = some failure →
    ∃ result, s.demux.workerEnd? = some result ∧ failure = result.recorded

namespace Solo

theorem launch (buffer : StreamBuffer) (conditions : List κ) (readers : List Reader) :
    Solo (System.mk (Demux.launch buffer conditions) [] readers) where
  recorded := .launch buffer conditions readers
  single index phase there := by cases there
  untaken wrong := by
    simp only [Demux.isJoinable, Demux.launch_lifecycle] at wrong
    cases wrong
  finished phase member := by cases member
  own failure wrong := by
    rw [Demux.launch_terminal] at wrong
    cases wrong

/-- A stop that finds the worker taken comes after its end. -/
theorem ended_of_called {s : System κ} (solo : Solo s) {index : Nat}
    (there : s.stops[index]? = some .called) (taken : s.demux.isJoinable = false) :
    ∃ result, s.demux.workerEnd? = some result := by
  obtain ⟨phase, member, other⟩ := solo.untaken taken
  obtain ⟨earlier, found⟩ := List.getElem?_of_mem member
  have last := solo.single.eq_last there (by simp)
  have inside : earlier < s.stops.length := (List.getElem?_eq_some_iff.mp found).1
  have different : earlier ≠ index := by
    rintro rfl
    rw [there] at found
    cases found
    exact other rfl
  obtain ⟨reply, rfl⟩ := solo.single earlier phase found (by omega)
  exact solo.finished _ member trivial

/-- A stop goes on. -/
theorem goOnStop {s : System κ} (solo : Solo s) {index : Nat} {phase after : StopPhase}
    {d : Demux κ} (there : s.stops[index]? = some phase)
    (stepped : System.stopStep s.demux phase = some (after, d))
    (recorded : Recorded { s with demux := d, stops := s.stops.set index after })
    (single : System.Single { s with demux := d, stops := s.stops.set index after }) :
    Solo { s with demux := d, stops := s.stops.set index after } := by
  have step := System.stopStep_inv stepped
  have inside : index < s.stops.length := (List.getElem?_eq_some_iff.mp there).1
  have moved : ∃ phase ∈ s.stops.set index after, phase ≠ .called := by
    refine ⟨after, List.mem_set inside after, ?_⟩
    rintro rfl
    cases step
  -- it remains to see how far the worker is
  have rest : (after.Over → ∃ result, d.workerEnd? = some result) →
      d.workerEnd? = s.demux.workerEnd? →
      (∀ failure, d.queues.terminal = some failure →
        ∃ result, s.demux.workerEnd? = some result ∧ failure = result.recorded) →
      Solo { s with demux := d, stops := s.stops.set index after } := by
    intro finished same own
    refine ⟨recorded, single, fun _ => moved, ?_, ?_⟩
    · intro other member done
      rcases List.mem_or_eq_of_mem_set member with old | rfl
      · show ∃ result, d.workerEnd? = some result
        rw [same]
        exact solo.finished other old done
      · exact finished done
    · intro failure found
      show ∃ result, d.workerEnd? = some result ∧ failure = result.recorded
      rw [same]
      exact own failure found
  cases step with
  | took =>
    -- if the worker is not there to take, another call has taken it, and has returned
    refine rest ?_ rfl solo.own
    intro finished
    cases taken : s.demux.isJoinable with
    | true =>
      rw [taken] at finished
      cases finished
    | false => exact solo.ended_of_called there taken
  | raised taken =>
    refine rest ?_ rfl solo.own
    intro finished
    cases taken with
    | true => cases finished
    | false => exact solo.finished _ (List.mem_of_getElem? there) trivial
  | joined taken finished =>
    refine rest (fun _ => ?_) rfl solo.own
    cases taken with
    | false => exact solo.finished _ (List.mem_of_getElem? there) trivial
    | true =>
      cases joined : s.demux.workerEnd? with
      | some result => exact ⟨result, rfl⟩
      | none =>
        -- it cannot join a worker that has not ended
        simp [Demux.joinReply, joined] at finished
  | returned reply =>
    -- the worker has ended and left a record, so this one is too late to leave another
    obtain ⟨result, ended⟩ := solo.finished _ (List.mem_of_getElem? there) trivial
    refine rest (fun _ => ⟨result, ended⟩) rfl ?_
    intro failure found
    cases earlier : s.demux.queues.terminal with
    | none => exact absurd earlier (solo.recorded.ended result ended)
    | some first =>
      rw [Demux.recordStop, Queues.terminal_terminate_of_some earlier] at found
      cases found
      exact solo.own _ earlier

variable [Condition κ]

/-- The worker goes on. -/
theorem work {s : System κ} (solo : Solo s) : Solo { s with demux := s.demux.step.2 } := by
  cases going : s.demux.workerEnd? with
  | some result =>
    rw [Demux.step_of_ended going]
    exact solo
  | none =>
    obtain ⟨w, worker⟩ := solo.recorded.worker
    have unrecorded : s.demux.queues.terminal = none := by
      cases there : s.demux.queues.terminal with
      | none => rfl
      | some failure =>
        obtain ⟨result, wrong, -⟩ := solo.own failure there
        rw [going] at wrong
        cases wrong
    refine ⟨solo.recorded.work, solo.single, ?_, ?_, ?_⟩
    · rw [Demux.isJoinable, Demux.lifecycle_step worker]
      exact solo.untaken
    · intro phase member finished
      obtain ⟨result, wrong⟩ := solo.finished phase member finished
      rw [going] at wrong
      cases wrong
    · intro failure there
      rcases Demux.step_records worker going with ⟨-, terminal⟩ | ⟨result, ended, terminal⟩
      · rw [terminal, unrecorded] at there
        cases there
      · rw [terminal, unrecorded] at there
        cases there
        exact ⟨result, ended, rfl⟩

/-- Every action that may come next keeps it one stop at a time. -/
theorem act {s next : System κ} {action : Action κ} (solo : Solo s)
    (alone : action = .callStop → ∀ phase ∈ s.stops, ∃ reply, phase = .returned reply)
    (acted : s.act action = some next) : Solo next := by
  have recorded := solo.recorded.act acted
  have single := solo.single.act alone acted
  have launched := solo.recorded.launched
  cases action with
  | work => cases acted; exact solo.work
  | register condition =>
    cases acted
    rw [launched.register_eq]
    exact solo
  | start =>
    cases acted
    rw [launched.start_eq]
    exact solo
  | cancel => cases acted; exact ⟨recorded, single, solo.untaken, solo.finished, solo.own⟩
  | callRead => cases acted; exact ⟨recorded, single, solo.untaken, solo.finished, solo.own⟩
  | callStop =>
    cases acted
    refine ⟨recorded, single, ?_, ?_, solo.own⟩
    · intro taken
      obtain ⟨phase, member, other⟩ := solo.untaken taken
      exact ⟨phase, List.mem_append_left _ member, other⟩
    · intro phase member finished
      rcases List.mem_append.mp member with old | new
      · exact solo.finished phase old finished
      · rw [List.mem_singleton] at new
        rw [new] at finished
        cases finished
  | goOnStop index =>
    obtain ⟨phase, after, d, there, stepped, rfl⟩ := System.act_goOnStop acted
    exact solo.goOnStop there stepped recorded single
  | goOnRead index =>
    obtain ⟨reader, after, q, -, stepped, rfl⟩ := System.act_goOnRead acted
    obtain ⟨-, -, terminal, -⟩ := System.readStep_cases stepped
    refine ⟨recorded, single, solo.untaken, solo.finished, ?_⟩
    intro failure found
    rw [terminal] at found
    exact solo.own failure found
  | expire index =>
    obtain ⟨reader, after, -, -, rfl⟩ := System.act_expire acted
    exact ⟨recorded, single, solo.untaken, solo.finished, solo.own⟩

/-- So does every run in which calls of stop do not overlap. -/
theorem trace {s t : System κ} {h h' : History} {actions : List (Action κ)} (solo : Solo s)
    (orderly : s.Orderly actions) (ran : s.trace h actions = some (t, h')) : Solo t := by
  induction actions generalizing s h with
  | nil => cases ran; exact solo
  | cons action rest ih =>
    obtain ⟨alone, later⟩ := orderly
    rw [System.trace] at ran
    cases acted : s.act action with
    | none => rw [acted] at ran; cases ran
    | some next =>
      rw [acted] at ran
      exact ih (solo.act alone acted) (later next acted) ran

end Solo

end SocketDemux
