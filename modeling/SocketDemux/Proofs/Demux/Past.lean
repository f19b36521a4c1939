import SocketDemux.Proofs.Demux.Handles
/-!
# SocketDemux.Proofs.Demux.Past

**What has been done** with a demultiplexer so far, and the state that this amounts to.

Where a demultiplexer is in its life, how many slots it has, and which condition each of
them belongs to is decided by the registrations, starts and stops in a run and by their
order, whatever the worker, the readers and the transport do in between.

* `Past.Closed`, `Past.Started`, `Past.Stopped` — whether conditions can be registered no
  more, whether the worker was started, and whether a stop has come.
* `Past.enrolled`, `Past.late` — the conditions that were registered in time, and the others.
* `Closed.split` — what has closed it came after all who were in time; how the others change
  with one more action is read off this.
* `System.Lived` — the state of a past; `Lived.act` for one action, `Lived.run` for a whole
  run.
-/

namespace SocketDemux

variable {κ : Type}

/-! ### What has been done -/

namespace Action

/-- It ends the time of registering: so does a start, and the step of a stop that takes
the worker. No other step of that stop comes before. -/
def closes : Action κ → Bool
  | .start | .goOnStop _ => true
  | _ => false

/-- The condition that somebody wants to register. -/
def condition? : Action κ → Option κ
  | .register condition => some condition
  | _ => none

end Action

namespace Past

section Definitions

variable (past : List (Action κ))

/-- A start, or a stop, has come. -/
def Closed : Prop := ∃ action ∈ past, action.closes = true

/-- A start has come before any stop. -/
def Started : Prop := past.find? Action.closes = some .start

/-- A stop has come: it has taken the worker, or there was none to take. -/
def Stopped : Prop := ∃ index, .goOnStop index ∈ past

/-- The conditions that were registered before a start or a stop had come. -/
def enrolled : List κ := (past.takeWhile (!·.closes)).filterMap Action.condition?

/-- The conditions that somebody wanted to register after that. -/
def late : List κ := (past.dropWhile (!·.closes)).filterMap Action.condition?

end Definitions

variable {past later : List (Action κ)} {first action : Action κ}

theorem Started.closed (started : Started past) : Closed past :=
  ⟨.start, List.mem_of_find?_eq_some started, rfl⟩

theorem Stopped.closed (stopped : Stopped past) : Closed past := by
  obtain ⟨index, member⟩ := stopped
  exact ⟨_, member, rfl⟩

theorem closed_append : Closed (past ++ later) ↔ Closed past ∨ Closed later := by
  simp [Closed, or_and_right, exists_or]

theorem stopped_append : Stopped (past ++ later) ↔ Stopped past ∨ Stopped later := by
  simp [Stopped, exists_or]

theorem closed_singleton : Closed [action] ↔ action.closes = true := by
  simp [Closed]

theorem stopped_singleton : Stopped [action] ↔ ∃ index, action = .goOnStop index := by
  simp [Stopped, eq_comm]

/-! As long as nothing has closed it, everybody is in time. -/

theorem closes_of_open (opened : ¬Closed past) : ∀ other ∈ past, (!other.closes) = true := by
  intro other member
  rw [Bool.not_eq_true']
  exact Bool.eq_false_iff.mpr fun closes => opened ⟨other, member, closes⟩

theorem find?_append_of_open (opened : ¬Closed past) :
    (past ++ later).find? Action.closes = later.find? Action.closes := by
  rw [List.find?_append, List.find?_eq_none.mpr fun other member closes =>
    opened ⟨other, member, closes⟩]
  exact Option.none_or

theorem enrolled_append_of_open (opened : ¬Closed past) :
    enrolled (past ++ later) = past.filterMap Action.condition? ++ enrolled later := by
  rw [enrolled, List.takeWhile_append_of_pos (closes_of_open opened), List.filterMap_append]
  rfl

theorem late_append_of_open (opened : ¬Closed past) : late (past ++ later) = late later := by
  rw [late, List.dropWhile_append_of_pos (closes_of_open opened)]
  rfl

/-! From the first start or stop on, nobody is. -/

/-- What has closed it came after everybody who was in time. -/
theorem Closed.split (closed : Closed past) :
    ∃ before first after, past = before ++ first :: after ∧ ¬Closed before ∧
      first.closes = true := by
  obtain ⟨action, member, closes⟩ := closed
  obtain ⟨first, found⟩ := Option.isSome_iff_exists.mp
    (List.find?_isSome.mpr ⟨action, member, closes⟩)
  obtain ⟨closes, before, after, same, none⟩ := List.find?_eq_some_iff_append.mp found
  refine ⟨before, first, after, same, ?_, closes⟩
  rintro ⟨other, member, closes⟩
  have wrong := none other member
  rw [closes] at wrong
  cases wrong

theorem enrolled_cons_of_closes (closes : first.closes = true) :
    enrolled (first :: later) = [] := by
  rw [enrolled, List.takeWhile_cons, closes]
  rfl

theorem late_cons_of_closes (closes : first.closes = true) :
    late (first :: later) = later.filterMap Action.condition? := by
  rw [late, List.dropWhile_cons, closes]
  cases first with
  | start | goOnStop => rfl
  | _ => cases closes

/-- Whatever came first was a start or a stop. -/
theorem Closed.started_or_stopped (closed : Closed past) : Started past ∨ Stopped past := by
  obtain ⟨before, first, after, rfl, opened, closes⟩ := closed.split
  cases first with
  | start => exact .inl (find?_append_of_open opened)
  | goOnStop index =>
    exact .inr ⟨index, List.mem_append_right _ (List.mem_cons_self ..)⟩
  | _ => cases closes

/-- What came first is settled. -/
theorem started_append_of_closed (closed : Closed past) :
    Started (past ++ later) ↔ Started past := by
  obtain ⟨before, first, after, rfl, opened, closes⟩ := closed.split
  unfold Started
  rw [List.append_assoc, List.cons_append, find?_append_of_open opened,
    find?_append_of_open opened, List.find?_cons_of_pos closes, List.find?_cons_of_pos closes]

theorem enrolled_append_of_closed (closed : Closed past) :
    enrolled (past ++ later) = enrolled past := by
  obtain ⟨before, first, after, rfl, opened, closes⟩ := closed.split
  rw [List.append_assoc, List.cons_append, enrolled_append_of_open opened,
    enrolled_append_of_open opened, enrolled_cons_of_closes closes,
    enrolled_cons_of_closes closes]

theorem late_append_of_closed (closed : Closed past) :
    late (past ++ later) = late past ++ later.filterMap Action.condition? := by
  obtain ⟨before, first, after, rfl, opened, closes⟩ := closed.split
  rw [List.append_assoc, List.cons_append, late_append_of_open opened,
    late_append_of_open opened, late_cons_of_closes closes, late_cons_of_closes closes,
    List.filterMap_append]

/-! One more action. -/

theorem started_concat_of_open (opened : ¬Closed past) :
    Started (past ++ [action]) ↔ action = .start := by
  unfold Started
  rw [find?_append_of_open opened]
  cases action <;> simp [Action.closes]

/-- Only a start that comes first starts the worker. -/
theorem started_concat_of_not_starts (other : ¬(action = .start ∧ ¬Closed past)) :
    Started (past ++ [action]) ↔ Started past := by
  by_cases closed : Closed past
  · exact started_append_of_closed closed
  · rw [started_concat_of_open closed]
    exact ⟨fun starts => absurd ⟨starts, closed⟩ other, fun started => absurd started.closed closed⟩

theorem enrolled_concat_of_open (opened : ¬Closed past) :
    enrolled (past ++ [action]) = enrolled past ++ action.condition?.toList := by
  have early : enrolled (past ++ []) = past.filterMap Action.condition? ++ [] :=
    enrolled_append_of_open opened
  rw [List.append_nil, List.append_nil] at early
  rw [enrolled_append_of_open opened, early]
  cases action <;> rfl

theorem late_of_open (opened : ¬Closed past) : late past = [] := by
  have late : late (past ++ []) = [] := late_append_of_open opened
  rw [List.append_nil] at late
  exact late

theorem late_concat_of_open (opened : ¬Closed past) : late (past ++ [action]) = [] := by
  rw [late_append_of_open opened]
  cases action <;> rfl

/-- Two pasts that amount to the same. -/
structure Alike (past other : List (Action κ)) : Prop where
  closed : Closed past ↔ Closed other
  started : Started past ↔ Started other
  stopped : Stopped past ↔ Stopped other
  enrolled : enrolled past = Past.enrolled other

/-- An action that is neither a registration nor a start, and belongs to no stop. -/
theorem alike_of_bystander (closes : action.closes = false) (nobody : action.condition? = none) :
    Alike (past ++ [action]) past where
  closed := by simp [closed_append, closed_singleton, closes]
  stopped := by
    rw [stopped_append, stopped_singleton, or_iff_left_iff_imp]
    rintro ⟨index, rfl⟩
    cases closes
  started := by
    refine started_concat_of_not_starts ?_
    rintro ⟨rfl, -⟩
    cases closes
  enrolled := by
    by_cases closed : Closed past
    · exact enrolled_append_of_closed closed
    · rw [enrolled_concat_of_open closed, nobody]
      exact List.append_nil _

/-- A registration or a start that comes too late. -/
theorem alike_of_late (closed : Closed past) (unrelated : ∀ index, action ≠ .goOnStop index) :
    Alike (past ++ [action]) past where
  closed := by simp [closed_append, closed]
  started := started_append_of_closed closed
  stopped := by
    rw [stopped_append, stopped_singleton, or_iff_left_iff_imp]
    rintro ⟨index, same⟩
    exact absurd same (unrelated index)
  enrolled := enrolled_append_of_closed closed

end Past

/-! ### The state that goes with it -/

/-- Whoever is too late to register gets no handle, and changes nothing. -/
theorem Demux.Launched.register_refused {d : Demux κ} (launched : d.Launched) (condition : κ) :
    d.register condition = (.error .alreadyStarted, d) := by
  unfold Demux.register
  split
  · next registering => exact absurd registering (launched _)
  · rfl

/-- Whoever is too late to start is refused, and changes nothing. -/
theorem Demux.Launched.start_refused {d : Demux κ} (launched : d.Launched) :
    d.start = (.error .alreadyStarted, d) := by
  unfold Demux.start
  split
  · next registering => exact absurd registering (launched _)
  · rfl

variable [Condition κ]

/-- Whatever the worker does, its conditions are those it was given, moved on by its
questions. -/
theorem Worker.AnsweredBy.step {d : Demux κ} {w : Worker κ} {conditions : List κ}
    (worker : d.worker = some w) (answered : w.AnsweredBy conditions) :
    ∃ w', d.step.2.worker = some w' ∧ w'.AnsweredBy conditions := by
  have step := Demux.step_cases worker
  generalize d.step.2 = next at step ⊢
  cases step with
  | asked phase present there => exact ⟨_, rfl, answered.ask there _⟩
  | waited | rested => exact ⟨w, worker, answered⟩
  | _ => exact ⟨_, rfl, answered.with_phase⟩

namespace System

/-- The state that a past amounts to. -/
structure Lived (past : List (Action κ)) (s : System κ) : Prop where
  opened : ¬Past.Closed past → s.demux.lifecycle = .registering (Past.enrolled past)
  running : Past.Started past → ¬Past.Stopped past → s.demux.lifecycle = .running
  stopped : Past.Stopped past → s.demux.lifecycle = .stopped
  handed : Past.Started past →
    ∃ w, s.demux.worker = some w ∧ w.AnsweredBy (Past.enrolled past)
  idle : ¬Past.Started past → s.demux.worker = none
  slots : s.demux.queues.slots.length = (Past.enrolled past).length
  /-- As long as no stop has come, those that were called have not begun. -/
  called : ¬Past.Stopped past → ∀ phase ∈ s.stops, phase = .called

namespace Lived

variable {past other : List (Action κ)} {s next : System κ} {action : Action κ}

theorem fresh (buffer : StreamBuffer) : (System.fresh buffer : System κ).Lived [] where
  opened _ := rfl
  running started := by cases started
  stopped stopped := by
    obtain ⟨index, member⟩ := stopped
    cases member
  handed started := by cases started
  idle _ := rfl
  slots := rfl
  called _ phase member := by cases member

theorem alike (lived : s.Lived past) (same : Past.Alike other past) : s.Lived other where
  opened opened := by
    rw [same.closed] at opened
    rw [same.enrolled]
    exact lived.opened opened
  running started unstopped := by
    rw [same.started] at started
    rw [same.stopped] at unstopped
    exact lived.running started unstopped
  stopped stopped := lived.stopped (same.stopped.mp stopped)
  handed started := by
    rw [same.enrolled]
    exact lived.handed (same.started.mp started)
  idle unstarted := by
    rw [same.started] at unstarted
    exact lived.idle unstarted
  slots := by
    rw [same.enrolled]
    exact lived.slots
  called unstopped := by
    rw [same.stopped] at unstopped
    exact lived.called unstopped

/-- Where the demultiplexer is in its life, from then on. -/
theorem launched (lived : s.Lived past) (closed : Past.Closed past) : s.demux.Launched := by
  intro conditions wrong
  by_cases stopped : Past.Stopped past
  · rw [lived.stopped stopped] at wrong
    cases wrong
  · rcases closed.started_or_stopped with started | stopped'
    · rw [lived.running started stopped] at wrong
      cases wrong
    · exact stopped stopped'

/-- A registration in time gets the next slot and its number. -/
theorem register_eq (lived : s.Lived past) (opened : ¬Past.Closed past) (condition : κ) :
    s.demux.register condition =
      (.ok ⟨(Past.enrolled past).length⟩,
        { s.demux with
          queues := { s.demux.queues with slots := s.demux.queues.slots ++ [{}] }
          lifecycle := .registering (Past.enrolled past ++ [condition]) }) := by
  rw [Demux.register, lived.opened opened, ← lived.slots]
  rfl

/-- A start in time hands over the conditions that were registered. -/
theorem start_eq (lived : s.Lived past) (opened : ¬Past.Closed past) :
    s.demux.start =
      (.ok (),
        { s.demux with
          lifecycle := .running
          worker := some { conditions := Past.enrolled past } }) := by
  rw [Demux.start, lived.opened opened]

/-- The worker goes on with the conditions it has, and makes no slots. -/
theorem work (lived : s.Lived past) : Lived past { s with demux := s.demux.step.2 } := by
  by_cases started : Past.Started past
  · obtain ⟨w, worker, answered⟩ := lived.handed started
    have lifecycle := Demux.lifecycle_step worker
    constructor
    · exact fun opened => absurd started.closed opened
    · exact fun started unstopped => lifecycle.trans (lived.running started unstopped)
    · exact fun stopped => lifecycle.trans (lived.stopped stopped)
    · exact fun _ => answered.step worker
    · exact fun unstarted => absurd started unstarted
    · exact s.demux.length_slots_step.trans lived.slots
    · exact lived.called
  · rw [Demux.step_of_idle (lived.idle started)]
    exact lived

/-- Only the queues have changed, and no slot was made. -/
theorem onQueues (lived : s.Lived past) {queues : Queues} (readers : List Reader)
    (slots : queues.slots.length = s.demux.queues.slots.length) :
    Lived past { s with demux := { s.demux with queues := queues }, readers := readers } :=
  ⟨lived.opened, lived.running, lived.stopped, lived.handed, lived.idle,
    slots.trans lived.slots, lived.called⟩

/-- A registration is accepted or refused. -/
theorem register (lived : s.Lived past) (condition : κ) :
    Lived (past ++ [.register condition])
      { s with demux := (s.demux.register condition).2 } := by
  by_cases closed : Past.Closed past
  · rw [(lived.launched closed).register_refused]
    exact lived.alike (Past.alike_of_late closed fun _ wrong => nomatch wrong)
  · rw [lived.register_eq closed]
    have still : ¬Past.Closed (past ++ [.register condition]) := by
      rw [Past.closed_append, Past.closed_singleton]
      rintro (wrong | wrong)
      · exact closed wrong
      · cases wrong
    have more : Past.enrolled (past ++ [.register condition]) =
        Past.enrolled past ++ [condition] := Past.enrolled_concat_of_open closed
    constructor
    · intro
      rw [more]
    · exact fun started => absurd started.closed still
    · exact fun stopped => absurd stopped.closed still
    · exact fun started => absurd started.closed still
    · intro
      exact lived.idle fun started => closed started.closed
    · show (s.demux.queues.slots ++ [({} : Slot)]).length = _
      rw [more, List.length_append, List.length_append, lived.slots]
      rfl
    · intro
      exact lived.called fun stopped => closed stopped.closed

/-- A start is accepted or refused. -/
theorem start (lived : s.Lived past) :
    Lived (past ++ [.start]) { s with demux := s.demux.start.2 } := by
  by_cases closed : Past.Closed past
  · rw [(lived.launched closed).start_refused]
    exact lived.alike (Past.alike_of_late closed fun _ wrong => nomatch wrong)
  · rw [lived.start_eq closed]
    have started : Past.Started (past ++ [.start]) :=
      (Past.started_concat_of_open closed).mpr rfl
    have unstopped : ¬Past.Stopped (past ++ [.start]) := by
      rw [Past.stopped_append, Past.stopped_singleton]
      rintro (wrong | ⟨index, wrong⟩)
      · exact closed wrong.closed
      · cases wrong
    have same : Past.enrolled (past ++ [.start]) = Past.enrolled past :=
      (Past.enrolled_concat_of_open closed).trans (List.append_nil _)
    constructor
    · exact fun opened => absurd started.closed opened
    · exact fun _ _ => rfl
    · exact fun stopped => absurd stopped unstopped
    · intro
      rw [same]
      exact ⟨_, rfl, .launch _⟩
    · exact fun unstarted => absurd started unstarted
    · rw [same]
      exact lived.slots
    · intro
      exact lived.called fun stopped => closed stopped.closed

/-- A stop goes on: if it has not begun, it stops the demultiplexer; else that has been
done. -/
theorem goOnStop (lived : s.Lived past) {index : Nat}
    (acted : s.act (.goOnStop index) = some next) :
    Lived (past ++ [.goOnStop index]) next := by
  obtain ⟨phase, after, d, there, stepped, rfl⟩ := act_goOnStop acted
  have step := stopStep_inv stepped
  have came : Past.Stopped (past ++ [.goOnStop index]) :=
    ⟨index, List.mem_append_right _ (List.mem_singleton_self _)⟩
  have started : Past.Started (past ++ [.goOnStop index]) ↔ Past.Started past :=
    Past.started_concat_of_not_starts fun wrong => nomatch wrong.1
  have same : Past.enrolled (past ++ [.goOnStop index]) = Past.enrolled past := by
    by_cases closed : Past.Closed past
    · exact Past.enrolled_append_of_closed closed
    · exact (Past.enrolled_concat_of_open closed).trans (List.append_nil _)
  have worker : d.worker = s.demux.worker := by
    cases step with
    | _ => rfl
  constructor
  · exact fun opened => absurd came.closed opened
  · exact fun _ unstopped => absurd came unstopped
  · intro
    -- a stop that is past its first step is not the first one to come
    by_cases stopped : Past.Stopped past
    · cases step with
      | took => rfl
      | _ => exact lived.stopped stopped
    · obtain rfl := lived.called stopped phase (List.mem_of_getElem? there)
      cases step with
      | took => rfl
  · rw [started, same]
    show _ → ∃ w, d.worker = some w ∧ _
    rw [worker]
    exact lived.handed
  · rw [started]
    exact fun unstarted => worker.trans (lived.idle unstarted)
  · rw [same, ← lived.slots]
    cases step with
    | returned => exact Queues.length_slots_terminate _ _
    | _ => rfl
  · exact fun unstopped => absurd came unstopped

/-- Every action leads from the state of one past to the state of the next. -/
theorem act (lived : s.Lived past) (acted : s.act action = some next) :
    Lived (past ++ [action]) next := by
  cases action with
  | register condition =>
    cases acted
    exact lived.register condition
  | start =>
    cases acted
    exact lived.start
  | goOnStop index => exact lived.goOnStop acted
  | work =>
    cases acted
    exact lived.work.alike (Past.alike_of_bystander rfl rfl)
  | cancel =>
    cases acted
    refine Lived.alike ?_ (Past.alike_of_bystander rfl rfl)
    exact ⟨lived.opened, lived.running, lived.stopped, lived.handed, lived.idle, lived.slots,
      lived.called⟩
  | callStop =>
    cases acted
    refine Lived.alike ?_ (Past.alike_of_bystander rfl rfl)
    refine ⟨lived.opened, lived.running, lived.stopped, lived.handed, lived.idle, lived.slots, ?_⟩
    intro unstopped phase member
    rcases List.mem_append.mp member with old | new
    · exact lived.called unstopped phase old
    · exact List.mem_singleton.mp new
  | callRead handle mode =>
    cases acted
    exact (lived.onQueues _ rfl).alike (Past.alike_of_bystander rfl rfl)
  | goOnRead index =>
    obtain ⟨reader, after, q, -, stepped, rfl⟩ := act_goOnRead acted
    obtain ⟨-, slots, -⟩ := readStep_cases stepped
    exact (lived.onQueues _ slots).alike (Past.alike_of_bystander rfl rfl)
  | expire index =>
    obtain ⟨reader, after, -, -, rfl⟩ := act_expire acted
    exact (lived.onQueues _ rfl).alike (Past.alike_of_bystander rfl rfl)

/-- A run leads from the state of one past to that of a longer one. -/
theorem run {actions : List (Action κ)} (lived : s.Lived past) (ran : s.run actions = some next) :
    Lived (past ++ actions) next := by
  induction actions generalizing past s with
  | nil =>
    cases ran
    rw [List.append_nil]
    exact lived
  | cons action rest ih =>
    simp only [System.run, Option.bind_eq_bind, Option.bind_eq_some_iff] at ran
    obtain ⟨middle, acted, ran⟩ := ran
    have lived' := ih (lived.act acted) ran
    rw [List.append_assoc] at lived'
    exact lived'

end Lived

end System

end SocketDemux
