import SocketDemux.Proofs.Demux.Journal
import SocketDemux.Proofs.Demux.Launch
import SocketDemux.Proofs.Demux.Threads
/-!
# SocketDemux.Proofs.Demux.History

A **run with its history**: what refills have brought, and what readers were given.

The states of a system forget both, so a run carries them along. `System.trace` is
`System.run` with a `History` that every action extends: a refill of the worker with the
bytes it takes from the transport, an action of a reader with the fragment it returns.

`Bystands` says what an action of any other thread than the worker's can do to a
demultiplexer that is started: nothing to the worker, and nothing to the buffer but to
raise the flag. `trace_invariant` carries an invariant through a run.
-/

namespace SocketDemux

variable {κ : Type}

/-- The fragments of one handle, out of those of all handles. -/
def fragmentsOf (handle : Handle) (fragments : List (Handle × Bytes)) : List Bytes :=
  (fragments.filter (·.1 = handle)).map (·.2)

@[simp] theorem fragmentsOf_nil (handle : Handle) : fragmentsOf handle [] = [] := rfl

@[simp] theorem fragmentsOf_append (handle : Handle) (front back : List (Handle × Bytes)) :
    fragmentsOf handle (front ++ back) = fragmentsOf handle front ++ fragmentsOf handle back := by
  simp [fragmentsOf]

theorem fragmentsOf_singleton (handle target : Handle) (fragment : Bytes) :
    fragmentsOf handle [(target, fragment)] = if target = handle then [fragment] else [] := by
  by_cases same : target = handle
  · simp [fragmentsOf, same]
  · simp [fragmentsOf, same]

/-- What has happened in a run that its last state does not show. -/
structure History where
  /-- The bytes that refills have brought. -/
  received : Bytes := []
  /-- The fragments that readers were given, and the handles they read. -/
  given : List (Handle × Bytes) := []

/-- The fragments that readers of a handle were given, the oldest first. -/
def History.givenTo (h : History) (handle : Handle) : List Bytes := fragmentsOf handle h.given

/-- The bytes that the next step of the worker takes from the transport. -/
def Demux.receipt (d : Demux κ) : Bytes :=
  match d.worker with
  | some w => if w.phase = .refilling then d.buffer.incoming none else []
  | none => []

theorem Demux.receipt_of_refilling {d : Demux κ} {w : Worker κ} (worker : d.worker = some w)
    (phase : w.phase = .refilling) : d.receipt = d.buffer.incoming none := by
  unfold receipt
  rw [worker]
  exact if_pos phase

theorem Demux.receipt_eq_nil {d : Demux κ} {w : Worker κ} (worker : d.worker = some w)
    (phase : w.phase ≠ .refilling) : d.receipt = [] := by
  unfold receipt
  rw [worker]
  exact if_neg phase

namespace System

/-- The bytes that an action brings. -/
def brings (s : System κ) : Action κ → Bytes
  | .work => s.demux.receipt
  | _ => []

/-- The fragment that an action, with this state after it, gives to a reader. -/
def gives (next : System κ) : Action κ → List (Handle × Bytes)
  | .goOnRead index =>
      match next.readers[index]? with
      | some ⟨handle, _, .returned (.ok fragment)⟩ => [(handle, fragment)]
      | _ => []
  | _ => []

/-- The history after one more action. -/
def extend (h : History) (s next : System κ) (action : Action κ) : History :=
  { received := h.received ++ s.brings action
    given := h.given ++ next.gives action }

end System

/-! ### What other threads can do -/

/-- The worker leaves it as it is. -/
theorem Demux.launched_step [Condition κ] {d : Demux κ} {w : Worker κ} (worker : d.worker = some w)
    (launched : d.Launched) : d.step.2.Launched := by
  unfold Launched
  rw [lifecycle_step worker]
  exact launched

/-- What a thread other than the worker does to a launched demultiplexer. -/
structure Bystands (d next : Demux κ) : Prop where
  worker : next.worker = d.worker
  buffer : next.buffer = d.buffer ∨ next.buffer = d.buffer.requestCancellation.2
  launched : next.Launched
  slots : next.queues.slots.length = d.queues.slots.length
  terminal : next.queues.terminal = d.queues.terminal ∨
    next.queues.terminal = d.queues.terminal.or (some .terminationRequested)

namespace Bystands

variable {d next : Demux κ}

theorem refl (launched : d.Launched) : Bystands d d :=
  ⟨rfl, .inl rfl, launched, rfl, .inl rfl⟩

theorem storage (h : Bystands d next) : next.buffer.storage = d.buffer.storage := by
  rcases h.buffer with same | raised
  · rw [same]
  · rw [raised]; rfl

theorem inbound (h : Bystands d next) :
    next.buffer.endpoint.inbound = d.buffer.endpoint.inbound := by
  rcases h.buffer with same | raised
  · rw [same]
  · rw [raised]; rfl

theorem arrivals (h : Bystands d next) :
    next.buffer.endpoint.arrivals = d.buffer.endpoint.arrivals :=
  congrArg Inbound.arrivals h.inbound

/-- A flag that is up stays up, and then nothing at all happens to the buffer. -/
theorem buffer_of_raised (h : Bystands d next) (raised : d.buffer.endpoint.flag.raised = true) :
    next.buffer = d.buffer := by
  rcases h.buffer with same | again
  · exact same
  · -- to raise a flag that is up changes no field of the endpoint
    rw [again]
    obtain ⟨⟨⟨inbound, outbound, ⟨up⟩, now, secure, addressed, options⟩, storage⟩, queues,
      lifecycle, worker⟩ := d
    dsimp only at raised
    subst raised
    rfl

theorem workerEnd? (h : Bystands d next) : next.workerEnd? = d.workerEnd? := by
  unfold Demux.workerEnd?
  rw [h.worker]

end Bystands

namespace System

/-- A step of a stop bystands, and leaves the fragments alone. -/
theorem stopStep_bystands {d next : Demux κ} {phase after : StopPhase} (launched : d.Launched)
    (h : stopStep d phase = some (after, next)) :
    Bystands d next ∧ ∀ handle, next.queues.queued handle = d.queues.queued handle := by
  cases stopStep_inv h with
  | took => exact ⟨⟨rfl, .inl rfl, (fun _ wrong => nomatch wrong), rfl, .inl rfl⟩, fun _ => rfl⟩
  | raised taken => exact ⟨⟨rfl, .inr rfl, launched, rfl, .inl rfl⟩, fun _ => rfl⟩
  | joined => exact ⟨.refl launched, fun _ => rfl⟩
  | returned reply =>
    refine ⟨⟨rfl, .inl rfl, launched, ?_, .inr rfl⟩, fun handle => ?_⟩
    · exact Queues.length_slots_terminate _ _
    · exact Queues.queued_terminate _ _ _

/-- Only the worker's refills bring bytes. -/
theorem brings_of_ne_work (s : System κ) {action : Action κ} (h : action ≠ .work) :
    s.brings action = [] := by
  cases action with
  | work => exact absurd rfl h
  | _ => rfl

variable [Condition κ]

/-- An action is a step of the worker, or it bystands; and then the queues lose what it
gives to a reader, and nothing else. -/
theorem act_cases {s next : System κ} {action : Action κ} (launched : s.demux.Launched)
    (h : s.act action = some next) :
    (action = .work ∧ next = { s with demux := s.demux.step.2 }) ∨
      (action ≠ .work ∧ Bystands s.demux next.demux ∧
        ∀ handle, fragmentsOf handle (next.gives action) ++ next.demux.queues.queued handle =
          s.demux.queues.queued handle) := by
  cases action with
  | work => cases h; exact .inl ⟨rfl, rfl⟩
  | register condition =>
    cases h
    have refused := launched.register_eq condition
    refine .inr ⟨by simp, ?_, fun _ => ?_⟩
    · show Bystands s.demux (s.demux.register condition).2
      rw [refused]
      exact .refl launched
    · simp [gives, refused]
  | start =>
    cases h
    have refused := launched.start_eq
    refine .inr ⟨by simp, ?_, fun _ => ?_⟩
    · show Bystands s.demux s.demux.start.2
      rw [refused]
      exact .refl launched
    · simp [gives, refused]
  | cancel =>
    cases h
    exact .inr ⟨by simp, ⟨rfl, .inr rfl, launched, rfl, .inl rfl⟩, fun _ => rfl⟩
  | callStop => cases h; exact .inr ⟨by simp, .refl launched, fun _ => rfl⟩
  | callRead handle mode => cases h; exact .inr ⟨by simp, .refl launched, fun _ => rfl⟩
  | goOnStop index =>
    obtain ⟨phase, after, d, -, stepped, rfl⟩ := act_goOnStop h
    obtain ⟨bystands, same⟩ := stopStep_bystands launched stepped
    exact .inr ⟨by simp, bystands, fun handle => by simpa [gives] using same handle⟩
  | goOnRead index =>
    obtain ⟨reader, after, q, there, stepped, rfl⟩ := act_goOnRead h
    have inside : index < s.readers.length := (List.getElem?_eq_some_iff.mp there).1
    obtain ⟨handle, slots, terminal, moved⟩ := readStep_cases stepped
    refine .inr ⟨by simp, ⟨rfl, .inl rfl, launched, slots, .inl terminal⟩, fun target => ?_⟩
    simp only [gives, List.getElem?_set_self inside]
    obtain ⟨reading, mode, phase⟩ := after
    dsimp only at handle moved ⊢
    subst handle
    rcases moved with ⟨fragment, rfl, taken, others⟩ | ⟨nothing, same⟩
    · -- the reader returns the oldest fragment of its handle
      dsimp only
      rw [fragmentsOf_singleton]
      by_cases mine : reader.handle = target
      · subst mine
        rw [if_pos rfl, taken]
        rfl
      · rw [if_neg mine, List.nil_append]
        exact others target (fun wrong => mine wrong.symm)
    · -- the reader has returned no fragment, or not returned at all
      split
      · next heq =>
        cases heq
        exact absurd rfl (nothing _)
      · rw [fragmentsOf_nil, List.nil_append]
        exact same target
  | expire index =>
    obtain ⟨reader, after, -, -, rfl⟩ := act_expire h
    exact .inr ⟨by simp, .refl launched, fun _ => rfl⟩

end System

/-! ### Quiet actions -/

/-- An action that neither requests cancellation nor belongs to a stop. -/
def Action.Quiet : Action κ → Prop
  | .cancel | .callStop | .goOnStop _ => False
  | _ => True

instance (action : Action κ) : Decidable action.Quiet :=
  match action with
  | .cancel | .callStop | .goOnStop _ => isFalse not_false
  | .register _ | .start | .work | .callRead .. | .goOnRead _ | .expire _ => isTrue trivial

/-- A quiet action is a step of the worker, or it changes nothing that the worker looks
at, and records no failure. -/
theorem System.act_quiet [Condition κ] {s next : System κ} {action : Action κ}
    (launched : s.demux.Launched) (quiet : action.Quiet) (h : s.act action = some next) :
    (action = .work ∧ next = { s with demux := s.demux.step.2 }) ∨
      (next.demux.worker = s.demux.worker ∧ next.demux.buffer = s.demux.buffer ∧
        next.demux.queues.terminal = s.demux.queues.terminal) := by
  cases action with
  | work => cases h; exact .inl ⟨rfl, rfl⟩
  | register condition =>
    cases h
    have refused := launched.register_eq condition
    exact .inr (by simp [refused])
  | start =>
    cases h
    have refused := launched.start_eq
    exact .inr (by simp [refused])
  | cancel | callStop | goOnStop => cases quiet
  | callRead handle mode => cases h; exact .inr ⟨rfl, rfl, rfl⟩
  | goOnRead index =>
    obtain ⟨reader, after, q, -, stepped, rfl⟩ := act_goOnRead h
    obtain ⟨-, -, terminal, -⟩ := readStep_cases stepped
    exact .inr ⟨rfl, rfl, terminal⟩
  | expire index =>
    obtain ⟨reader, after, -, -, rfl⟩ := act_expire h
    exact .inr ⟨rfl, rfl, rfl⟩

/-! ### Runs -/

namespace System

variable [Condition κ]

/-- The state after a sequence of actions, and the history by then. -/
def trace : System κ → History → List (Action κ) → Option (System κ × History)
  | s, h, [] => some (s, h)
  | s, h, action :: rest =>
      match s.act action with
      | none => none
      | some next => next.trace (extend h s next action) rest

/-- A run is a run with its history, without the history. -/
theorem map_trace (s : System κ) (h : History) (actions : List (Action κ)) :
    (s.trace h actions).map (·.1) = s.run actions := by
  induction actions generalizing s h with
  | nil => rfl
  | cons action rest ih =>
    rw [trace, run]
    cases s.act action with
    | none => rfl
    | some next => exact ih next _

/-- What every action of some kind keeps, a run of such actions keeps. -/
theorem trace_invariant_of {I : System κ → History → Prop} {P : Action κ → Prop}
    (keeps : ∀ s h action next, P action → I s h → s.act action = some next →
      I next (extend h s next action))
    {s t : System κ} {h h' : History} {actions : List (Action κ)}
    (allowed : ∀ action ∈ actions, P action) (start : I s h)
    (ran : s.trace h actions = some (t, h')) : I t h' := by
  induction actions generalizing s h with
  | nil => cases ran; exact start
  | cons action rest ih =>
    rw [trace] at ran
    cases acted : s.act action with
    | none => rw [acted] at ran; cases ran
    | some next =>
      rw [acted] at ran
      have first := allowed action (List.mem_cons_self ..)
      exact ih (fun other member => allowed other (List.mem_cons_of_mem _ member))
        (keeps s h action next first start acted) ran

/-- What every action keeps, a run keeps. -/
theorem trace_invariant {I : System κ → History → Prop}
    (keeps : ∀ s h action next, I s h → s.act action = some next → I next (extend h s next action))
    {s t : System κ} {h h' : History} {actions : List (Action κ)} (start : I s h)
    (ran : s.trace h actions = some (t, h')) : I t h' :=
  trace_invariant_of (P := fun _ => True) (fun s h action next _ => keeps s h action next)
    (fun _ _ => trivial) start ran

/-- A history is only ever added to. -/
theorem trace_history {s t : System κ} {h h' : History} {actions : List (Action κ)}
    (ran : s.trace h actions = some (t, h')) (base : History) :
    s.trace ⟨base.received ++ h.received, base.given ++ h.given⟩ actions =
      some (t, ⟨base.received ++ h'.received, base.given ++ h'.given⟩) := by
  induction actions generalizing s h with
  | nil => cases ran; rfl
  | cons action rest ih =>
    rw [trace] at ran ⊢
    cases acted : s.act action with
    | none => rw [acted] at ran; cases ran
    | some next =>
      rw [acted] at ran
      simp only [extend, List.append_assoc] at ih ran ⊢
      exact ih ran

end System

end SocketDemux
