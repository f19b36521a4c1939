import SocketDemux.Demux.Framing
import SocketDemux.Proofs.Demux.Consumption
/-!
# SocketDemux.Proofs.Demux.Dispatch

What a worker does **between two refills** is to evaluate and consume.

The worker asks one condition at a time, removes what is decided, and starts over with the
first condition. `Demux.dispatch` lets it do so until it turns to something else: to the next
refill, or to its end. The recursion `consume` knows no such steps.

* `Slot.Pushed` — what a slot is after some cuts: their bytes behind its own, and one unit each.
* `dispatch_pass` — the steps from the first question of a pass to what follows the last one.
* `dispatch_consume` — by induction on the consumption: the same questions, the same
  deliveries, and the same conditions, leftover and ending.
* `exists_overclaims` — the step that ends a dispatch with an overlong claim is the question
  that the claim answers, and changes neither the buffer nor the queues.
* `dispatch_evaluates_and_consumes` — the law, `Dispatched`, from any state in which the
  worker starts over with the first condition.
-/

namespace SocketDemux

variable {κ : Type} [Condition κ]

/-- Is the worker between two refills? -/
def Phase.Dispatching : Phase → Prop
  | .asking _ | .removing _ _ => True
  | _ => False

instance (phase : Phase) : Decidable phase.Dispatching :=
  match phase with
  | .asking _ | .removing _ _ => isTrue trivial
  | .refilling | .failing _ | .panicking _ | .ended _ => isFalse not_false

theorem Phase.dispatching_asking (index : Nat) : (asking index).Dispatching := trivial

theorem Phase.dispatching_removing (index : Nat) (span : Span) :
    (removing index span).Dispatching := trivial

/-- What a worker turns to when a consumption has ended. -/
def ConsumptionEnd.phase : ConsumptionEnd → Phase
  | .done => .refilling
  | .overclaimed requested buffered => .failing (.invalidCondition requested buffered)
  | .panicked message => .panicking message

/-- What a worker turns to when a pass over so many bytes has ended. -/
def Pass.phase (asked : Pass κ) (buffered : Nat) : Phase :=
  match asked.turn with
  | none => .refilling
  | some (_, .error message) => .panicking message
  | some (index, .ok span) =>
      if span.count ≤ buffered then .removing index span
      else .failing (.invalidCondition span.count buffered)

/-- Delivers what was removed, if it is a fragment. -/
def Queues.deliverRemoval (q : Queues) (r : Removal) : Queues :=
  if r.delivered then q.deliver r.index r.bytes else q

/-- Delivers the fragments among some removals, one after the other. -/
def Queues.deliverAll (q : Queues) (removals : List Removal) : Queues :=
  removals.foldl deliverRemoval q

/-- A slot with one more fragment, and a unit for it. -/
def Slot.add (slot : Slot) (fragment : Bytes) : Slot where
  fragments := slot.fragments ++ [fragment]
  signal := slot.signal.notify

/-- What the cuts of a condition make of its slot. They stand behind the fragments that it
holds, each of them has left one unit, up to the largest count, and waits pass a closed signal
as before. -/
structure Slot.Pushed (slot : Slot) (cuts : List Bytes) (after : Slot) : Prop where
  fragments : after.fragments = slot.fragments ++ cuts
  units : after.signal.units =
    if cuts = [] then slot.signal.units else min (slot.signal.units + cuts.length) wordMax
  closed : after.signal.closed = slot.signal.closed

namespace Slot

theorem Pushed.refl (slot : Slot) : slot.Pushed [] slot where
  fragments := (List.append_nil _).symm
  units := rfl
  closed := rfl

/-- One cut leaves one unit. -/
theorem pushed_add (slot : Slot) (fragment : Bytes) :
    slot.Pushed [fragment] (slot.add fragment) where
  fragments := rfl
  units := by
    rw [if_neg (List.cons_ne_nil _ _), List.length_singleton]
    exact saturatingAdd_eq_min slot.signal.units 1
  closed := rfl

/-- Cuts and later cuts are all of them. -/
theorem Pushed.trans {slot middle last : Slot} {front back : List Bytes}
    (first : slot.Pushed front middle) (second : middle.Pushed back last) :
    slot.Pushed (front ++ back) last where
  fragments := by rw [second.fragments, first.fragments, List.append_assoc]
  units := by
    rw [second.units, first.units]
    by_cases noneBefore : front = []
    · rw [if_pos noneBefore, noneBefore, List.nil_append]
    · rw [if_neg noneBefore, if_neg (List.append_ne_nil_of_left_ne_nil noneBefore _),
        List.length_append]
      split
      · next noneBehind => rw [noneBehind, List.length_nil, Nat.add_zero]
      · omega
  closed := second.closed.trans first.closed

theorem pushed_foldl_add (slot : Slot) (cuts : List Bytes) :
    slot.Pushed cuts (cuts.foldl add slot) := by
  induction cuts generalizing slot with
  | nil => exact .refl slot
  | cons cut rest ih => exact (slot.pushed_add cut).trans (ih (slot.add cut))

end Slot

namespace Queues

theorem slot?_deliverRemoval (q : Queues) (r : Removal) (handle : Handle) :
    (q.deliverRemoval r).slot? handle =
      (q.slot? handle).map fun slot => (cutsAmong [r] handle.index).foldl Slot.add slot := by
  obtain ⟨index, delivered, bytes⟩ := r
  cases delivered with
  | false => simp [deliverRemoval, cutsAmong]
  | true =>
    have delivery : q.deliverRemoval ⟨index, true, bytes⟩ = q.deliver index bytes := rfl
    rw [delivery, deliver, slot?_modifySlot]
    by_cases own : index = handle.index
    · rw [if_pos own]
      simp [cutsAmong, own, Slot.add]
    · rw [if_neg own]
      simp [cutsAmong, own]

/-- Several removals give every queue the cuts among them that are its own. -/
theorem slot?_deliverAll (q : Queues) (removals : List Removal) (handle : Handle) :
    (q.deliverAll removals).slot? handle =
      (q.slot? handle).map fun slot => (cutsAmong removals handle.index).foldl Slot.add slot := by
  induction removals generalizing q with
  | nil => simp [deliverAll, cutsAmong]
  | cons r rest ih =>
    refine (ih (q.deliverRemoval r)).trans ?_
    have split : cutsAmong (r :: rest) handle.index = _ := cutsAmong_append [r] rest handle.index
    rw [slot?_deliverRemoval, Option.map_map, split]
    simp only [List.foldl_append, Function.comp_def]

theorem exists_pushed_of_slot {q : Queues} {handle : Handle} {slot : Slot}
    (found : q.slot? handle = some slot) (removals : List Removal) :
    ∃ after, (q.deliverAll removals).slot? handle = some after ∧
      slot.Pushed (cutsAmong removals handle.index) after := by
  refine ⟨_, ?_, slot.pushed_foldl_add _⟩
  rw [slot?_deliverAll, found]
  rfl

/-- A queue is left alone by removals that are not cuts of its own. -/
theorem slot?_deliverAll_of_uncut (q : Queues) {removals : List Removal} {handle : Handle}
    (uncut : ∀ r ∈ removals, r.index = handle.index → r.delivered = false) :
    (q.deliverAll removals).slot? handle = q.slot? handle := by
  have none : cutsAmong removals handle.index = [] := by
    rw [cutsAmong, List.map_eq_nil_iff, List.filter_eq_nil_iff]
    intro r member cut
    obtain ⟨delivered, own⟩ := Bool.and_eq_true_iff.mp cut
    rw [uncut r member (beq_iff_eq.mp own)] at delivered
    cases delivered
  rw [slot?_deliverAll, none]
  exact Option.map_id'

theorem terminal_deliverAll (q : Queues) (removals : List Removal) :
    (q.deliverAll removals).terminal = q.terminal := by
  induction removals generalizing q with
  | nil => rfl
  | cons r rest ih =>
    refine (ih (q.deliverRemoval r)).trans ?_
    unfold deliverRemoval
    split
    · exact terminal_deliver ..
    · rfl

end Queues

namespace Demux

/-- A worker between two refills has work to do. -/
theorem step_of_dispatching {d : Demux κ} {w : Worker κ} (worker : d.worker = some w)
    (busy : w.phase.Dispatching) : d.step = (.moved, d.step.2) := by
  rcases step_fst worker with moved | ⟨phase, -⟩ | ⟨result, phase⟩
  · rw [← moved]
  · rw [phase] at busy
    cases busy
  · rw [phase] at busy
    cases busy

/-- Lets the worker go on until it refills the buffer, or comes to its end. -/
def dispatch (d : Demux κ) : Demux κ :=
  match _worker : d.worker with
  | none => d
  | some w => if w.phase.Dispatching then dispatch d.step.2 else d
termination_by (d.load, d.rank)
decreasing_by
  rcases step_moved (step_of_dispatching _worker ‹_›) with less | ⟨same, less⟩
  · exact Prod.Lex.left _ _ less
  · rcases Nat.lt_or_eq_of_le same with less' | equal
    · exact Prod.Lex.left _ _ less'
    · rw [equal]
      exact Prod.Lex.right _ less

theorem dispatch_of_busy {d : Demux κ} {w : Worker κ} (worker : d.worker = some w)
    (busy : w.phase.Dispatching) : d.dispatch = d.step.2.dispatch := by
  rw [dispatch]
  split
  · next idle =>
    rw [worker] at idle
    cases idle
  · next same =>
    rw [worker] at same
    cases same
    rw [if_pos busy]

theorem dispatch_of_rested {d : Demux κ} {w : Worker κ} (worker : d.worker = some w)
    (rested : ¬w.phase.Dispatching) : d.dispatch = d := by
  rw [dispatch]
  split
  · rfl
  · next same =>
    rw [worker] at same
    cases same
    rw [if_neg rested]

/-! ### The steps of a pass -/

section Steps

variable (buffer : StreamBuffer) (queues : Queues) (lifecycle : Lifecycle κ)

/-- A demultiplexer with this worker. -/
def working (conditions : List κ) (phase : Phase) (journal : List Evaluation) : Demux κ where
  buffer := buffer
  queues := queues
  lifecycle := lifecycle
  worker := some { conditions := conditions, phase := phase, journal := journal }

variable {buffer queues lifecycle} in
theorem dispatch_working_of_busy {conditions : List κ} {phase : Phase} {journal : List Evaluation}
    (busy : phase.Dispatching) :
    (working buffer queues lifecycle conditions phase journal).dispatch =
      (working buffer queues lifecycle conditions phase journal).step.2.dispatch :=
  dispatch_of_busy rfl busy

variable {buffer queues lifecycle} in
theorem dispatch_working_of_rested {conditions : List κ} {phase : Phase} {journal : List Evaluation}
    (rested : ¬phase.Dispatching) :
    (working buffer queues lifecycle conditions phase journal).dispatch =
      working buffer queues lifecycle conditions phase journal :=
  dispatch_of_rested rfl rested

/-- A pass over the conditions that have not been asked yet. -/
theorem dispatch_pass (present : buffer.storage.data ≠ []) (front rest : List κ)
    (journal : List Evaluation) :
    (working buffer queues lifecycle (front ++ rest) (.asking front.length) journal).dispatch =
      (working buffer queues lifecycle
        (front ++ (pass buffer.storage.data front.length rest).conditions)
        ((pass buffer.storage.data front.length rest).phase buffer.storage.data.length)
        (journal ++ (pass buffer.storage.data front.length rest).questions)).dispatch := by
  have notEmpty : buffer.storage.isEmpty = false := by
    rw [Bool.eq_false_iff]
    exact fun empty => present ((Storage.isEmpty_iff _).mp empty)
  induction rest generalizing front journal with
  | nil =>
    rw [dispatch_working_of_busy (Phase.dispatching_asking _)]
    simp [working, step, ask, notEmpty, pass, Pass.phase]
  | cons condition rest ih =>
    -- one question; where it leads to depends on whether the condition declines
    have asked : (working buffer queues lifecycle (front ++ condition :: rest)
        (.asking front.length) journal).step.2 =
        working buffer queues lifecycle
          (front ++ (Condition.evaluate condition buffer.storage.data).2 :: rest)
          (.afterVerdict front.length buffer.storage.data.length
            (Condition.evaluate condition buffer.storage.data).1)
          (journal ++ [Condition.question condition front.length buffer.storage.data]) := by
      have length : buffer.storage.length = buffer.storage.data.length :=
        (Storage.length_data _).symm
      simp [working, step, ask, notEmpty, Condition.question, length]
    rw [dispatch_working_of_busy (Phase.dispatching_asking _), asked, Phase.afterVerdict_eq, pass]
    dsimp only
    cases own : Condition.turn? condition buffer.storage.data with
    | some turn =>
      cases turn with
      | error message => rfl
      | ok span => rfl
    | none =>
      have later := ih (front ++ [(Condition.evaluate condition buffer.storage.data).2])
        (journal ++ [Condition.question condition front.length buffer.storage.data])
      simp only [List.length_append, List.length_singleton, List.append_assoc,
        List.cons_append, List.nil_append] at later
      exact later

/-! ### The steps of a consumption -/

/-- The step that makes a removal. -/
theorem step_removing {conditions : List κ} {index : Nat} {span : Span} {journal : List Evaluation}
    (enough : span.count ≤ buffer.storage.data.length) :
    (working buffer queues lifecycle conditions (.removing index span) journal).step.2 =
      working { buffer with storage := buffer.storage.shift span.count }
        (queues.deliverAll [⟨index, span.delivered, buffer.storage.data.take span.count⟩])
        lifecycle conditions (.asking 0) journal := by
  have popped : buffer.storage.pop span.count = _ :=
    Storage.pop_of_le (by rw [← Storage.length_data]; exact enough)
  simp [working, step, remove, popped, Queues.deliverAll, Queues.deliverRemoval]

/-- A worker that starts over with the first condition makes a pass over all of them. -/
theorem dispatch_first_pass (present : buffer.storage.data ≠ []) {conditions : List κ}
    {phase : Phase}
    (next : (pass buffer.storage.data 0 conditions).phase buffer.storage.data.length = phase)
    (journal : List Evaluation) :
    (working buffer queues lifecycle conditions (.asking 0) journal).dispatch =
      (working buffer queues lifecycle (pass buffer.storage.data 0 conditions).conditions phase
        (journal ++ (pass buffer.storage.data 0 conditions).questions)).dispatch := by
  subst next
  exact dispatch_pass buffer queues lifecycle present [] conditions journal

/-- A worker that starts over with the first condition does what the consumption says. -/
theorem dispatch_consume (conditions : List κ) (journal : List Evaluation) :
    ∃ storage : Storage,
      storage.data = (consume conditions buffer.storage.data).leftover ∧
      storage.capacity = buffer.storage.capacity ∧
      (working buffer queues lifecycle conditions (.asking 0) journal).dispatch =
        working { buffer with storage := storage }
          (queues.deliverAll (consume conditions buffer.storage.data).removals) lifecycle
          (consume conditions buffer.storage.data).conditions
          (consume conditions buffer.storage.data).ending.phase
          (journal ++ (consume conditions buffer.storage.data).questions) := by
  generalize held : buffer.storage.data = data
  -- along the consumption; in every case but the first, it begins with a pass
  fun_induction consume conditions data generalizing buffer queues journal with
  | case1 conditions =>
    have empty : buffer.storage.isEmpty = true := (Storage.isEmpty_iff _).mpr held
    have passed : (working buffer queues lifecycle conditions (.asking 0) journal).step.2 =
        working buffer queues lifecycle conditions .refilling journal := by
      simp [working, step, ask, empty]
    refine ⟨buffer.storage, held, rfl, ?_⟩
    rw [dispatch_working_of_busy (Phase.dispatching_asking _), passed, List.append_nil]
    exact dispatch_working_of_rested not_false
  | case2 conditions data present asked declined =>
    subst held
    have next : asked.phase buffer.storage.data.length = .refilling := by
      rw [Pass.phase, declined]
    refine ⟨buffer.storage, rfl, rfl, ?_⟩
    rw [dispatch_first_pass _ _ _ present next]
    exact dispatch_working_of_rested not_false
  | case3 conditions data present asked index message first =>
    subst held
    have next : asked.phase buffer.storage.data.length = .panicking message := by
      rw [Pass.phase, first]
    refine ⟨buffer.storage, rfl, rfl, ?_⟩
    rw [dispatch_first_pass _ _ _ present next]
    exact dispatch_working_of_rested not_false
  | case4 conditions data present asked index span first enough ih =>
    subst held
    have next : asked.phase buffer.storage.data.length = .removing index span := by
      rw [Pass.phase, first]
      exact if_pos enough
    have kept : (buffer.storage.shift span.count).data = buffer.storage.data.drop span.count :=
      Storage.data_shift ..
    obtain ⟨storage, data, capacity, behind⟩ := ih { buffer with storage := _ }
      (queues.deliverAll [⟨index, span.delivered, buffer.storage.data.take span.count⟩])
      (journal ++ asked.questions) kept
    refine ⟨storage, data, capacity.trans (Storage.capacity_shift ..), ?_⟩
    rw [List.append_assoc] at behind
    rw [dispatch_first_pass _ _ _ present next,
      dispatch_working_of_busy (Phase.dispatching_removing ..),
      step_removing _ _ _ enough]
    exact behind
  | case5 conditions data present asked index span first short =>
    subst held
    have next : asked.phase buffer.storage.data.length =
        .failing (.invalidCondition span.count buffer.storage.data.length) := by
      rw [Pass.phase, first]
      exact if_neg short
    refine ⟨buffer.storage, rfl, rfl, ?_⟩
    rw [dispatch_first_pass _ _ _ present next]
    exact dispatch_working_of_rested not_false

end Steps

/-! ### The last step -/

/-- A dispatch ends with a step that is made between two refills. -/
theorem exists_last_step {d : Demux κ} {w : Worker κ} (worker : d.worker = some w)
    (busy : w.phase.Dispatching) :
    ∃ count last, (d.steps count).worker = some last ∧ last.phase.Dispatching ∧
      d.dispatch = (d.steps count).step.2 := by
  fun_induction dispatch d generalizing w with
  | case1 d idle =>
    rw [idle] at worker
    cases worker
  | case2 d w' there busy' ih =>
    obtain ⟨next, follows⟩ := worker_step there
    by_cases goesOn : next.phase.Dispatching
    · obtain ⟨count, last, found, lastBusy, ends⟩ := ih follows goesOn
      exact ⟨count + 1, last, found, lastBusy, ends⟩
    · exact ⟨0, w', there, busy', dispatch_of_rested follows goesOn⟩
  | case3 d w' there rested =>
    rw [there] at worker
    cases worker
    exact absurd busy rested

/-- The worker is about to ask a condition that claims `requested` bytes, of which there are
only `buffered`. -/
inductive Overclaims (d : Demux κ) : (requested buffered : Nat) → Prop
  | asking {w : Worker κ} {index : Nat} {condition : κ} {span : Span}
      (worker : d.worker = some w) (phase : w.phase = .asking index)
      (there : w.conditions[index]? = some condition)
      (claim : Condition.turn? condition d.buffer.storage.data = some (.ok span))
      (short : d.buffer.storage.data.length < span.count) :
      Overclaims d span.count d.buffer.storage.data.length

theorem Overclaims.buffered_eq {d : Demux κ} {requested buffered : Nat}
    (h : d.Overclaims requested buffered) :
    buffered = d.buffer.storage.data.length ∧ buffered < requested := by
  cases h with
  | asking worker phase there claim short => exact ⟨rfl, short⟩

/-- The answer that ends the worker with an overlong claim is such a claim. -/
theorem turn_of_failing {condition : κ} {data : Bytes} {index : Nat} {failure : SocketError}
    (failing : Phase.afterVerdict index data.length (Condition.evaluate condition data).1 =
      .failing failure) :
    ∃ span, Condition.turn? condition data = some (.ok span) ∧ data.length < span.count ∧
      failure = .invalidCondition span.count data.length := by
  rw [Phase.afterVerdict_eq] at failing
  split at failing
  · cases failing
  · cases failing
  · next span claim =>
    by_cases enough : span.count ≤ data.length
    · rw [if_pos enough] at failing
      cases failing
    · rw [if_neg enough] at failing
      cases failing
      exact ⟨span, claim, Nat.lt_of_not_le enough, rfl⟩

/-- The step that ends a dispatch with an overlong claim is the question that the claim
answers. It touches neither the buffer nor the queues. -/
theorem exists_overclaims {d : Demux κ} {w last : Worker κ} {requested buffered : Nat}
    (worker : d.worker = some w) (busy : w.phase.Dispatching)
    (found : d.dispatch.worker = some last)
    (failing : last.phase = .failing (.invalidCondition requested buffered)) :
    ∃ count, (d.steps count).Overclaims requested buffered ∧
      d.dispatch = (d.steps count).step.2 ∧ d.dispatch.buffer = (d.steps count).buffer ∧
      d.dispatch.queues = (d.steps count).queues := by
  obtain ⟨count, before, there, between, ends⟩ := exists_last_step worker busy
  refine ⟨count, ?_⟩
  rw [ends] at found ⊢
  have step := step_cases there
  generalize (d.steps count).step.2 = next at found step ⊢
  cases step with
  | asked phase present condition =>
    cases found
    obtain ⟨span, claim, short, same⟩ := turn_of_failing failing
    cases same
    exact ⟨.asking there phase condition claim short, rfl, rfl, rfl⟩
  | passed | removed | overdrawn =>
    cases found
    cases failing
  | refilled phase | refused phase | waited phase | concluded phase | panicked phase
  | rested phase =>
    rw [phase] at between
    cases between

/-- A dispatch makes a number of steps. -/
theorem dispatch_eq_steps (d : Demux κ) : ∃ count, d.dispatch = d.steps count := by
  fun_induction dispatch d with
  | case2 d w worker busy ih =>
    obtain ⟨count, same⟩ := ih
    exact ⟨count + 1, same⟩
  | _ => exact ⟨0, rfl⟩

/-- A worker that goes on until it waits or has ended comes by here. -/
theorem settle_dispatch (d : Demux κ) : d.dispatch.settle = d.settle := by
  fun_induction dispatch d with
  | case2 d w worker busy ih =>
    exact ih.trans (settle_of_moved (step_of_dispatching worker busy)).symm
  | _ => rfl

/-! ### The law -/

/-- What is between two refills when the worker `w` has evaluated and consumed. -/
structure Dispatched (d : Demux κ) (w : Worker κ) (c : Consumption κ) : Prop where
  /-- It comes to an end, by steps of the worker. -/
  steps : ∃ count, d.dispatch = d.steps count
  /-- The questions that were asked, the conditions behind them, and what comes next. -/
  worker : d.dispatch.worker =
    some { conditions := c.conditions
           phase := c.ending.phase
           journal := w.journal ++ c.questions }
  data : d.dispatch.buffer.storage.data = c.leftover
  capacity : d.dispatch.buffer.storage.capacity = d.buffer.storage.capacity
  endpoint : d.dispatch.buffer.endpoint = d.buffer.endpoint
  /-- The cuts are added to the slot of their condition, one after the other. -/
  slots : ∀ handle, d.dispatch.queues.slot? handle =
    (d.queues.slot? handle).map fun slot => (cutsAmong c.removals handle.index).foldl Slot.add slot
  /-- So each of them is pushed onto the queue there, and leaves one unit for a wait. -/
  pushed : ∀ handle slot, d.queues.slot? handle = some slot →
    ∃ after, d.dispatch.queues.slot? handle = some after ∧
      slot.Pushed (cutsAmong c.removals handle.index) after
  /-- A condition that has only discarded, or decided nothing, has its slot as it was. -/
  uncut : ∀ handle,
    (∀ r ∈ c.removals, r.index = handle.index → r.delivered = false) →
      d.dispatch.queues.slot? handle = d.queues.slot? handle
  terminal : d.dispatch.queues.terminal = d.queues.terminal
  lifecycle : d.dispatch.lifecycle = d.lifecycle
  /-- An overlong claim ends it with the buffer and the queues as they were before the
  question. -/
  overclaimed : ∀ requested buffered, c.ending = .overclaimed requested buffered →
    buffered < requested ∧
      ∃ count, (d.steps count).Overclaims requested buffered ∧
        d.dispatch = (d.steps count).step.2 ∧ d.dispatch.buffer = (d.steps count).buffer ∧
        d.dispatch.queues = (d.steps count).queues
  /-- It never fails in another way. -/
  failing : ∀ failure, c.ending.phase = .failing failure →
    ∃ requested, c.leftover.length < requested ∧
      failure = .invalidCondition requested c.leftover.length
  /-- At a regular end nothing is left, or all conditions have declined the rest. -/
  done : c.ending = .done → c.leftover = [] ∨
    ∃ earlier decisions, c.questions = earlier ++ questionsFrom c.leftover 0 decisions ∧
      decisions.length = c.conditions.length ∧ ∀ decision ∈ decisions, decision.span? = none

/-- **Between two refills the worker evaluates and consumes**, whatever the conditions are and
whatever is buffered. -/
theorem dispatch_evaluates_and_consumes {d : Demux κ} {w : Worker κ}
    (worker : d.worker = some w) (first : w.phase = .asking 0) :
    d.Dispatched w (consume w.conditions d.buffer.storage.data) := by
  have busy : w.phase.Dispatching := by
    rw [first]
    exact Phase.dispatching_asking 0
  have same : working d.buffer d.queues d.lifecycle w.conditions (.asking 0) w.journal = d := by
    rw [working, ← first, ← worker]
  obtain ⟨storage, data, capacity, ended⟩ :=
    dispatch_consume d.buffer d.queues d.lifecycle w.conditions w.journal
  have length := length_conditions_consume w.conditions d.buffer.storage.data
  have done := @consume_of_done κ _ w.conditions d.buffer.storage.data
  rw [same] at ended
  generalize consume w.conditions d.buffer.storage.data = c at data ended length done ⊢
  have found : d.dispatch.worker = some
      { conditions := c.conditions
        phase := c.ending.phase
        journal := w.journal ++ c.questions } := by
    rw [ended]
    rfl
  have left : d.dispatch.buffer.storage.data = c.leftover := by
    rw [ended]
    exact data
  have claimed : ∀ requested buffered, c.ending = .overclaimed requested buffered →
      ∃ count, (d.steps count).Overclaims requested buffered ∧
        d.dispatch = (d.steps count).step.2 ∧ d.dispatch.buffer = (d.steps count).buffer ∧
        d.dispatch.queues = (d.steps count).queues := by
    intro requested buffered ending
    exact exists_overclaims worker busy found (by rw [ending]; rfl)
  exact {
    steps := dispatch_eq_steps d
    worker := found
    data := left
    capacity := by rw [ended]; exact capacity
    endpoint := by rw [ended]; rfl
    slots := fun handle => by rw [ended]; exact Queues.slot?_deliverAll ..
    pushed := fun handle slot found => by
      rw [ended]
      exact Queues.exists_pushed_of_slot found _
    uncut := fun handle uncut => by rw [ended]; exact Queues.slot?_deliverAll_of_uncut _ uncut
    terminal := by rw [ended]; exact Queues.terminal_deliverAll ..
    lifecycle := by rw [ended]; rfl
    overclaimed := fun requested buffered ending =>
      have ⟨count, claim, last⟩ := claimed requested buffered ending
      ⟨claim.buffered_eq.2, count, claim, last⟩
    failing := by
      intro failure fails
      cases ending : c.ending with
      | done | panicked =>
        rw [ending] at fails
        cases fails
      | overclaimed requested buffered =>
        rw [ending] at fails
        cases fails
        obtain ⟨count, claim, -, buffer, -⟩ := claimed requested buffered ending
        obtain ⟨rfl, short⟩ := claim.buffered_eq
        rw [← buffer, left] at short ⊢
        exact ⟨requested, short, rfl⟩
    done := by
      rw [length]
      exact done }

/-- Drops blanks, cuts lines, and at last wants one byte more than there are. -/
def greedyRules : List Framing := [.skip 32, .delimited 10, .sequence [.cutRelative 1]]

/-- Blanks, a line, and more, that nobody has been asked about yet. -/
def blanksAndLine : Demux Framing where
  buffer := ⟨{}, ⟨[32, 32, 65, 10, 66, 0], 5, by decide, by decide⟩⟩
  queues := { slots := [{}, {}, {}] }
  lifecycle := .running
  worker := some { conditions := greedyRules, phase := .asking 0 }

theorem blanksAndLine_dispatched :
    blanksAndLine.Dispatched { conditions := greedyRules, phase := .asking 0 }
        (consume greedyRules [32, 32, 65, 10, 66]) ∧
      (consume greedyRules [32, 32, 65, 10, 66]).removals =
        [⟨0, false, [32, 32]⟩, ⟨1, true, [65, 10]⟩] ∧
      (consume greedyRules [32, 32, 65, 10, 66]).questions.map (fun e => (e.index, e.data)) =
        [(0, [32, 32, 65, 10, 66]), (0, [65, 10, 66]), (1, [65, 10, 66]),
          (0, [66]), (1, [66]), (2, [66])] ∧
      (consume greedyRules [32, 32, 65, 10, 66]).ending = .overclaimed 2 1 ∧
      ∃ line, blanksAndLine.dispatch.queues.slot? ⟨1⟩ = some line ∧
        line.fragments = [[65, 10]] ∧ line.signal.units = 1 := by
  have law : blanksAndLine.Dispatched { conditions := greedyRules, phase := .asking 0 }
      (consume greedyRules [32, 32, 65, 10, 66]) := dispatch_evaluates_and_consumes rfl rfl
  have removals : (consume greedyRules [32, 32, 65, 10, 66]).removals =
      [⟨0, false, [32, 32]⟩, ⟨1, true, [65, 10]⟩] := by decide +kernel
  obtain ⟨line, found, pushed⟩ := law.pushed ⟨1⟩ {} rfl
  rw [removals] at pushed
  exact ⟨law, removals, by decide +kernel, by decide +kernel, line, found, pushed.fragments,
    pushed.units⟩

end Demux

end SocketDemux
