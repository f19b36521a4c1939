import SocketDemux.Proofs.Demux.History
/-!
# SocketDemux.Proofs.Demux.Turns

**Whose turn it is**: what the worker's phase says about the buffered bytes, when the
conditions keep no state.

* `Condition.turn?` — what a condition does about data: it removes a span, it panics, or
  it declines.
* `firstTurn?` — the first condition that does anything, and what it does.
* `Unclaimed` — every condition declines.
* `Justified` — the facts behind each phase. A worker that asks has been declined by
  those it has asked; one that removes was told so by the first that did not decline;
  one that refills has been declined by everybody, or has not asked anybody yet.

`InTurn.trace` says that the phase is justified in every state of every run.
-/

namespace SocketDemux

variable {κ : Type} [Condition κ]

/-! ### Turns -/

/-- Conditions that answer by what they are shown alone. -/
class Stateless (κ : Type) [Condition κ] : Prop where
  steady : ∀ (condition : κ) (data : Bytes), (Condition.evaluate condition data).2 = condition

instance : Stateless (Bytes → Decision) := ⟨fun _ _ => rfl⟩

instance : Stateless Delimiter := ⟨fun _ _ => rfl⟩

/-- What a condition does about the data, unless it declines: it removes a span, or it
panics. -/
def Condition.turn? (condition : κ) (data : Bytes) : Option (Except String Span) :=
  match (evaluate condition data).1 with
  | .error message => some (.error message)
  | .ok decision => decision.span?.map .ok

/-- The first condition that does not decline, and what it does. -/
def firstTurn? : List κ → Bytes → Option (Nat × Except String Span)
  | [], _ => none
  | condition :: rest, data =>
      match Condition.turn? condition data with
      | some turn => some (0, turn)
      | none => (firstTurn? rest data).map fun (index, turn) => (index + 1, turn)

/-- Every condition declines the data, unless there is none. -/
def Unclaimed (conditions : List κ) (data : Bytes) : Prop :=
  data ≠ [] → ∀ condition ∈ conditions, Condition.turn? condition data = none

/-- Behind conditions that decline, the first turn is that of the others. -/
theorem firstTurn?_append {front : List κ} {data : Bytes}
    (declined : ∀ condition ∈ front, Condition.turn? condition data = none) (back : List κ) :
    firstTurn? (front ++ back) data =
      (firstTurn? back data).map fun (index, turn) => (front.length + index, turn) := by
  induction front with
  | nil => simp
  | cons condition rest ih =>
    rw [List.cons_append, firstTurn?, declined condition (List.mem_cons_self ..),
      ih fun other member => declined other (List.mem_cons_of_mem _ member)]
    cases firstTurn? back data with
    | none => rfl
    | some first =>
      simp
      omega

/-- Nobody has a turn if all decline. -/
theorem firstTurn?_eq_none {conditions : List κ} {data : Bytes}
    (declined : ∀ condition ∈ conditions, Condition.turn? condition data = none) :
    firstTurn? conditions data = none := by
  have all := firstTurn?_append declined []
  rw [List.append_nil] at all
  rw [all]
  rfl

/-- And all decline if nobody has a turn. -/
theorem declined_of_firstTurn? {conditions : List κ} {data : Bytes}
    (nobody : firstTurn? conditions data = none) :
    ∀ condition ∈ conditions, Condition.turn? condition data = none := by
  induction conditions with
  | nil =>
    intro condition member
    cases member
  | cons first rest ih =>
    rw [firstTurn?] at nobody
    split at nobody
    · cases nobody
    · next declined =>
      intro condition member
      rcases List.mem_cons.mp member with rfl | later
      · exact declined
      · exact ih (Option.map_eq_none_iff.mp nobody) condition later

/-- The turn is that of the first condition that does not decline. -/
theorem firstTurn?_eq_some {conditions : List κ} {data : Bytes} {index : Nat} {condition : κ}
    {turn : Except String Span} (there : conditions[index]? = some condition)
    (declined : ∀ condition ∈ conditions.take index, Condition.turn? condition data = none)
    (own : Condition.turn? condition data = some turn) :
    firstTurn? conditions data = some (index, turn) := by
  obtain ⟨inside, rfl⟩ := List.getElem?_eq_some_iff.mp there
  have split := List.take_append_drop index conditions
  rw [List.drop_eq_getElem_cons inside] at split
  rw [← split, firstTurn?_append declined, firstTurn?, own]
  have front : (conditions.take index).length = index := by
    rw [List.length_take]
    omega
  simp [front]

/-- An answer leads to the next condition if it declines, and else to what it does, as
far as there is enough data for that. -/
theorem Phase.afterVerdict_eq (condition : κ) (data : Bytes) (index : Nat) :
    Phase.afterVerdict index data.length (Condition.evaluate condition data).1 =
      match Condition.turn? condition data with
      | none => .asking (index + 1)
      | some (.error message) => .panicking message
      | some (.ok span) =>
          if span.count ≤ data.length then .removing index span
          else .failing (.invalidCondition span.count data.length) := by
  unfold Phase.afterVerdict Condition.turn?
  cases (Condition.evaluate condition data).1 with
  | error message => rfl
  | ok decision =>
    dsimp only
    cases decision.span? with
    | none => rfl
    | some span => rfl

/-! ### The facts behind a phase -/

/-- What is known about the buffered bytes when the worker is in a phase. Before it has
asked anybody, something else (`early`) is known instead of that all have declined. -/
inductive Justified (early : Prop) (conditions : List κ) (data : Bytes) (capacity : Nat) :
    Phase → Prop
  | refilling (quiet : early ∨ Unclaimed conditions data) :
      Justified early conditions data capacity .refilling
  | asking {index : Nat}
      (declined : ∀ condition ∈ conditions.take index, Condition.turn? condition data = none) :
      Justified early conditions data capacity (.asking index)
  | removing {index : Nat} {span : Span}
      (first : firstTurn? conditions data = some (index, .ok span))
      (enough : span.count ≤ data.length) :
      Justified early conditions data capacity (.removing index span)
  /-- A refill has failed. -/
  | stalled {failure : SocketError} (quiet : early ∨ Unclaimed conditions data)
      (refused : (data.length = capacity ∧ failure = .bufferExhausted capacity) ∨
        ReadFailure failure) :
      Justified early conditions data capacity (.failing failure)
  /-- A condition has claimed more than there is. -/
  | overclaimed {index : Nat} {span : Span}
      (first : firstTurn? conditions data = some (index, .ok span)) (present : data ≠ [])
      (short : data.length < span.count) :
      Justified early conditions data capacity
        (.failing (.invalidCondition span.count data.length))
  | panicking {index : Nat} {message : String}
      (first : firstTurn? conditions data = some (index, .error message))
      (present : data ≠ []) : Justified early conditions data capacity (.panicking message)
  | failed {failure : SocketError} {result : WorkerEnd} (recorded : result = .ofFailure failure)
      (cause : Justified early conditions data capacity (.failing failure)) :
      Justified early conditions data capacity (.ended result)
  | panicked {message : String} {result : WorkerEnd} (recorded : result = .panicked message)
      (cause : Justified early conditions data capacity (.panicking message)) :
      Justified early conditions data capacity (.ended result)

/-- What an answer leads to is justified, if all before have declined. -/
theorem Justified.afterVerdict {early : Prop} {conditions : List κ} {data : Bytes}
    {capacity index : Nat} {condition : κ} (there : conditions[index]? = some condition)
    (declined : ∀ condition ∈ conditions.take index, Condition.turn? condition data = none)
    (present : data ≠ []) :
    Justified early conditions data capacity
      (.afterVerdict index data.length (Condition.evaluate condition data).1) := by
  rw [Phase.afterVerdict_eq]
  cases own : Condition.turn? condition data with
  | none =>
    -- one more has declined
    apply Justified.asking
    intro other member
    rw [List.take_add_one, there] at member
    rcases List.mem_append.mp member with before | last
    · exact declined other before
    · rw [Option.toList_some, List.mem_singleton] at last
      rw [last]
      exact own
  | some turn =>
    have first := firstTurn?_eq_some there declined own
    cases turn with
    | error message => exact .panicking first present
    | ok span =>
      dsimp only
      by_cases enough : span.count ≤ data.length
      · rw [if_pos enough]
        exact .removing first enough
      · rw [if_neg enough]
        exact .overclaimed first present (by omega)

/-- Every phase of this worker, over these conditions, is justified; and before it has
asked anybody, the buffer holds what it held at the start. -/
structure InTurn (fresh : Bytes) (conditions : List κ) (d : Demux κ) (w : Worker κ) : Prop where
  worker : d.worker = some w
  launched : d.Launched
  registered : w.conditions = conditions
  justified : Justified (w.journal = [] ∧ d.buffer.storage.data = fresh) conditions
    d.buffer.storage.data d.buffer.storage.capacity w.phase

namespace InTurn

variable {fresh : Bytes} {conditions : List κ} {d : Demux κ} {w : Worker κ}

theorem launch (buffer : StreamBuffer) (conditions : List κ) :
    InTurn buffer.storage.data conditions (Demux.launch buffer conditions)
      { conditions := conditions } where
  worker := Demux.launch_worker buffer conditions
  launched := Demux.launched_launch buffer conditions
  registered := rfl
  justified := .refilling (.inl ⟨rfl, by rw [Demux.launch_buffer]⟩)

/-- Every step of the worker is justified. -/
theorem work [Stateless κ] (turn : InTurn fresh conditions d w) :
    ∃ w', InTurn fresh conditions d.step.2 w' := by
  have justified := turn.justified
  have step := Demux.step_cases turn.worker
  generalize d.step.2 = next at step ⊢
  cases step with
  | refilled phase =>
    refine ⟨_, rfl, turn.launched, turn.registered, .asking ?_⟩
    intro condition member
    cases member
  | refused phase call nothing data capacity =>
    rw [phase] at justified
    cases justified with
    | refilling quiet =>
      refine ⟨_, rfl, turn.launched, turn.registered, ?_⟩
      rw [data, capacity]
      exact .stalled quiet (StreamBuffer.fillBy_failure call)
  | waited phase call nothing data capacity =>
    refine ⟨_, turn.worker, turn.launched, turn.registered, ?_⟩
    rw [data, capacity]
    exact justified
  | passed phase done =>
    rw [phase] at justified
    cases justified with
    | asking declined =>
      refine ⟨_, rfl, turn.launched, turn.registered, .refilling (.inr ?_)⟩
      intro present condition member
      rcases done with empty | nobody
      · exact absurd empty present
      · -- the end of the list is reached, so everybody has declined
        rw [turn.registered, List.getElem?_eq_none_iff] at nobody
        rw [List.take_of_length_le nobody] at declined
        exact declined condition member
  | @asked index condition phase present there =>
    rw [phase] at justified
    cases justified with
    | asking declined =>
      -- to ask a condition without a state leaves the list as it is
      have same : (w.asked index condition d.buffer.storage.data).conditions = conditions := by
        obtain ⟨inside, rfl⟩ := List.getElem?_eq_some_iff.mp there
        rw [Worker.asked, Stateless.steady, List.set_getElem_self]
        exact turn.registered
      refine ⟨_, rfl, turn.launched, same, ?_⟩
      rw [turn.registered] at there
      exact .afterVerdict there declined present
  | removed phase =>
    refine ⟨_, rfl, turn.launched, turn.registered, .asking ?_⟩
    intro condition member
    cases member
  | overdrawn phase short =>
    rw [phase] at justified
    cases justified with
    | removing first enough => omega
  | concluded phase =>
    rw [phase] at justified
    exact ⟨_, rfl, turn.launched, turn.registered, .failed rfl justified⟩
  | panicked phase =>
    rw [phase] at justified
    exact ⟨_, rfl, turn.launched, turn.registered, .panicked rfl justified⟩
  | rested phase => exact ⟨w, turn⟩

/-- Other threads do not touch what a phase is justified by. -/
theorem bystand {next : Demux κ} (turn : InTurn fresh conditions d w)
    (bystands : Bystands d next) : InTurn fresh conditions next w := by
  refine ⟨bystands.worker.trans turn.worker, bystands.launched, turn.registered, ?_⟩
  rw [bystands.storage]
  exact turn.justified

/-- Every run is justified. -/
theorem trace [Stateless κ] {s t : System κ} {h h' : History} {actions : List (Action κ)}
    (turn : InTurn fresh conditions s.demux w) (ran : s.trace h actions = some (t, h')) :
    ∃ w', InTurn fresh conditions t.demux w' := by
  refine System.trace_invariant (I := fun s _ => ∃ w, InTurn fresh conditions s.demux w) ?_
    ⟨w, turn⟩ ran
  intro s h action next turn acted
  obtain ⟨w, turn⟩ := turn
  rcases System.act_cases turn.launched acted with ⟨rfl, rfl⟩ | ⟨-, bystands, -⟩
  · exact turn.work
  · exact ⟨w, turn.bystand bystands⟩

end InTurn

end SocketDemux
