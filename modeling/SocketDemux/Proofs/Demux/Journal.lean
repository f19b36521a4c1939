import SocketDemux.Proofs.Demux.Step
/-!
# SocketDemux.Proofs.Demux.Journal

What the **journal** of a worker says about the bytes.

Every question is in the journal, with the bytes it was about and the answer. So the
journal alone determines what has been removed from the stream:

* `Evaluation.removal?` — the bytes that an answer removes, and whether they are
  delivered. An answer that removes nothing, claims more than there is, or is a panic
  removes none.
* `Worker.removals` — what has been removed so far. Between an answer and the removal
  that follows from it, that one is still missing.
* `Worker.cutsOf` — the fragments of one condition.

The answers in turn are determined by the conditions: `Worker.AnsweredBy` says that the
condition at each place, in the state it was registered in, gives these answers when
it is asked these questions one after the other (`Condition.answers`).
-/

namespace SocketDemux

variable {κ : Type}

/-! ### Removals -/

/-- Bytes that have left the buffer. -/
structure Removal where
  /-- The condition that decided so. -/
  index : Nat
  /-- Are they a fragment, or were they dropped? -/
  delivered : Bool
  bytes : Bytes
  deriving Repr, DecidableEq

/-- What an answer removes from the bytes that the question was about. -/
def Evaluation.removal? (e : Evaluation) : Option Removal :=
  match e.verdict with
  | .error _ => none
  | .ok decision =>
      match decision.span? with
      | none => none
      | some span =>
          if span.count ≤ e.data.length then
            some ⟨e.index, span.delivered, e.data.take span.count⟩
          else none

/-- The fragments among some removals that the condition at `index` has cut. -/
def cutsAmong (removals : List Removal) (index : Nat) : List Bytes :=
  (removals.filter fun r => r.delivered && r.index == index).map (·.bytes)

theorem cutsAmong_append (front back : List Removal) (index : Nat) :
    cutsAmong (front ++ back) index = cutsAmong front index ++ cutsAmong back index := by
  simp [cutsAmong]

namespace Worker

/-- The questions whose answers have been acted on. -/
def settled (w : Worker κ) : List Evaluation :=
  match w.phase with
  | .removing _ _ => w.journal.dropLast
  | _ => w.journal

/-- What has been removed so far, the oldest first. -/
def removals (w : Worker κ) : List Removal := w.settled.filterMap Evaluation.removal?

/-- The bytes that have been removed so far. -/
def removed (w : Worker κ) : Bytes := w.removals.flatMap (·.bytes)

/-- The fragments that the condition at `index` has cut so far. -/
def cutsOf (w : Worker κ) (index : Nat) : List Bytes := cutsAmong w.removals index

/-- The worker is about to remove what the last answer decided about `data`. -/
def DecidedOn (w : Worker κ) (data : Bytes) : Prop :=
  ∀ index span, w.phase = .removing index span →
    span.count ≤ data.length ∧
      ∃ front e, w.journal = front ++ [e] ∧
        e.removal? = some ⟨index, span.delivered, data.take span.count⟩

theorem settled_of_not_removing {w : Worker κ}
    (h : ∀ index span, w.phase ≠ .removing index span) : w.settled = w.journal := by
  unfold settled
  split
  · next phase => exact absurd phase (h _ _)
  · rfl

theorem mem_journal_of_settled {w : Worker κ} {e : Evaluation} (h : e ∈ w.settled) :
    e ∈ w.journal := by
  unfold settled at h
  split at h
  · exact List.dropLast_subset _ h
  · exact h

/-- A change of phase, from and to phases without a pending removal, removes nothing. -/
theorem removals_with_phase {w : Worker κ} (phase : Phase)
    (before : ∀ index span, w.phase ≠ .removing index span)
    (after : ∀ index span, phase ≠ .removing index span) :
    ({ w with phase := phase } : Worker κ).removals = w.removals := by
  unfold removals
  rw [settled_of_not_removing before, settled_of_not_removing after]

/-- A removal that was pending is made. -/
theorem removals_of_decided {w : Worker κ} {data : Bytes} {index : Nat} {span : Span}
    (phase : Phase) (decided : w.DecidedOn data) (pending : w.phase = .removing index span)
    (after : ∀ index span, phase ≠ .removing index span) :
    ({ w with phase := phase } : Worker κ).removals =
      w.removals ++ [⟨index, span.delivered, data.take span.count⟩] := by
  obtain ⟨-, front, e, journal, removal⟩ := decided index span pending
  have pastSettled : ({ w with phase := phase } : Worker κ).settled = w.journal :=
    settled_of_not_removing after
  have nowSettled : w.settled = front := by
    simp [settled, pending, journal]
  unfold removals
  rw [pastSettled, nowSettled, journal, List.filterMap_append]
  simp [removal]

theorem cutsOf_congr {w w' : Worker κ} (h : w'.removals = w.removals) (index : Nat) :
    w'.cutsOf index = w.cutsOf index := by
  unfold cutsOf
  rw [h]

theorem removed_congr {w w' : Worker κ} (h : w'.removals = w.removals) :
    w'.removed = w.removed := by
  unfold removed
  rw [h]

theorem removed_append {w w' : Worker κ} {r : Removal} (h : w'.removals = w.removals ++ [r]) :
    w'.removed = w.removed ++ r.bytes := by
  unfold removed
  rw [h, List.flatMap_append]
  simp

theorem cutsOf_append {w w' : Worker κ} {r : Removal} (h : w'.removals = w.removals ++ [r])
    (index : Nat) :
    w'.cutsOf index =
      w.cutsOf index ++ if r.delivered = true ∧ r.index = index then [r.bytes] else [] := by
  unfold cutsOf cutsAmong
  rw [h, List.filter_append, List.map_append]
  by_cases mine : r.delivered = true ∧ r.index = index
  · simp [mine]
  · rw [if_neg mine]
    simp_all

end Worker

/-- No removal is of no bytes. -/
theorem Evaluation.bytes_ne_nil {e : Evaluation} {r : Removal} (h : e.removal? = some r) :
    r.bytes ≠ [] := by
  unfold removal? at h
  split at h
  · cases h
  · split at h
    · cases h
    · next span _ =>
      split at h
      · next enough =>
        cases h
        have := span.count_pos
        have taken : 0 < (e.data.take span.count).length := by
          rw [List.length_take]
          omega
        exact List.ne_nil_of_length_pos taken
      · cases h

theorem Evaluation.index_eq {e : Evaluation} {r : Removal} (h : e.removal? = some r) :
    r.index = e.index := by
  unfold removal? at h
  split at h
  · cases h
  · split at h
    · cases h
    · split at h
      · cases h; rfl
      · cases h

/-- What follows from an answer: it removes nothing, and no removal is next; or what it
removes is removed next. -/
theorem Evaluation.removal?_cases (e : Evaluation) :
    (e.removal? = none ∧ ∀ index span,
        Phase.afterVerdict e.index e.data.length e.verdict ≠ .removing index span) ∨
      ∃ span, Phase.afterVerdict e.index e.data.length e.verdict = .removing e.index span ∧
        span.count ≤ e.data.length ∧
        e.removal? = some ⟨e.index, span.delivered, e.data.take span.count⟩ := by
  obtain ⟨index, data, verdict⟩ := e
  cases verdict with
  | error message => exact .inl ⟨rfl, fun _ _ wrong => by cases wrong⟩
  | ok decision =>
    simp only [removal?, Phase.afterVerdict]
    cases decision.span? with
    | none => exact .inl ⟨rfl, fun _ _ wrong => by cases wrong⟩
    | some span =>
      dsimp only
      by_cases enough : span.count ≤ data.length
      · rw [if_pos enough, if_pos enough]
        exact .inr ⟨span, rfl, enough, rfl⟩
      · rw [if_neg enough, if_neg enough]
        exact .inl ⟨rfl, fun _ _ wrong => by cases wrong⟩

/-! ### Questions and answers -/

section Answers

variable [Condition κ]

namespace Condition

/-- The state of a condition after it was asked about one piece of data after the
other. -/
def after (condition : κ) (questions : List Bytes) : κ :=
  questions.foldl (fun condition data => (evaluate condition data).2) condition

/-- What a condition answers when it is asked about one piece of data after the
other. -/
def answers (condition : κ) : List Bytes → List (Except String Decision)
  | [] => []
  | data :: rest =>
      (evaluate condition data).1 :: answers (evaluate condition data).2 rest

theorem after_concat (condition : κ) (questions : List Bytes) (data : Bytes) :
    after condition (questions ++ [data]) = (evaluate (after condition questions) data).2 := by
  rw [after, after, List.foldl_append]
  rfl

theorem answers_concat (condition : κ) (questions : List Bytes) (data : Bytes) :
    answers condition (questions ++ [data]) =
      answers condition questions ++ [(evaluate (after condition questions) data).1] := by
  induction questions generalizing condition with
  | nil => rfl
  | cons first rest ih =>
    rw [List.cons_append, answers, answers, ih]
    rfl

end Condition

namespace Worker

/-- A question removes nothing yet. -/
theorem removals_asked {w : Worker κ} (before : ∀ index span, w.phase ≠ .removing index span)
    (index : Nat) (condition : κ) (data : Bytes) :
    (w.asked index condition data).removals = w.removals := by
  unfold removals
  rw [settled_of_not_removing before]
  -- if the answer removes something, the question is not settled before that is done
  rcases (Condition.question condition index data).removal?_cases with
    ⟨nothing, after⟩ | ⟨span, after, -, -⟩
  · rw [settled_of_not_removing after, asked, List.filterMap_append]
    simp [nothing]
  · have pending : (w.asked index condition data).phase = .removing index span := after
    rw [settled, pending]
    simp [asked]

/-- What a question decides is about to be removed. -/
theorem decidedOn_asked (w : Worker κ) (index : Nat) (condition : κ) (data : Bytes) :
    (w.asked index condition data).DecidedOn data := by
  intro other span pending
  rcases (Condition.question condition index data).removal?_cases with
    ⟨-, after⟩ | ⟨span', after, enough, removal⟩
  · exact absurd pending (after other span)
  · have same : Phase.removing index span' = .removing other span := after.symm.trans pending
    cases same
    exact ⟨enough, w.journal, _, rfl, removal⟩

/-- The questions that were put to the condition at `index`. -/
def questionsTo (w : Worker κ) (index : Nat) : List Evaluation :=
  w.journal.filter (·.index == index)

/-- Everybody was asked in turn: the answers are those that the conditions, as they were
registered, give to the questions. -/
structure AnsweredBy (w : Worker κ) (conditions : List κ) : Prop where
  length_eq : w.conditions.length = conditions.length
  present : ∀ index condition, conditions[index]? = some condition →
    w.conditions[index]? =
      some (Condition.after condition ((w.questionsTo index).map (·.data)))
  verdicts : ∀ index condition, conditions[index]? = some condition →
    (w.questionsTo index).map (·.verdict) =
      Condition.answers condition ((w.questionsTo index).map (·.data))
  inside : ∀ e ∈ w.journal, e.index < conditions.length

theorem AnsweredBy.launch (conditions : List κ) :
    AnsweredBy ({ conditions := conditions } : Worker κ) conditions where
  length_eq := rfl
  present _ _ there := by simpa [questionsTo, Condition.after] using there
  verdicts _ _ _ := by simp [questionsTo, Condition.answers]
  inside e member := by simp at member

theorem AnsweredBy.with_phase {w : Worker κ} {conditions : List κ} {phase : Phase}
    (h : w.AnsweredBy conditions) :
    ({ w with phase := phase } : Worker κ).AnsweredBy conditions :=
  ⟨h.length_eq, h.present, h.verdicts, h.inside⟩

/-- One more question keeps them so. -/
theorem AnsweredBy.ask {w : Worker κ} {conditions : List κ} {index : Nat} {condition : κ}
    (h : w.AnsweredBy conditions) (there : w.conditions[index]? = some condition)
    (data : Bytes) : (w.asked index condition data).AnsweredBy conditions := by
  have inside : index < w.conditions.length := (List.getElem?_eq_some_iff.mp there).1
  refine ⟨(List.length_set ..).trans h.length_eq, ?_, ?_, ?_⟩
  · intro other registered found
    have present := h.present other registered found
    simp only [questionsTo, asked, Condition.question, List.filter_append, List.map_append,
      List.filter_cons, List.filter_nil]
    by_cases same : index = other
    · -- the one that is asked moves on to its next state
      subst same
      rw [there] at present
      cases present
      simp only [beq_self_eq_true, if_true, List.map_cons, List.map_nil]
      rw [List.getElem?_set_self inside, Condition.after_concat]
      rfl
    · simp only [beq_iff_eq, same, if_false, List.map_nil, List.append_nil]
      rw [List.getElem?_set_ne same]
      exact present
  · intro other registered found
    have present := h.present other registered found
    have verdicts := h.verdicts other registered found
    simp only [questionsTo, asked, Condition.question, List.filter_append, List.map_append,
      List.filter_cons, List.filter_nil]
    by_cases same : index = other
    · subst same
      rw [there] at present
      cases present
      simp only [beq_self_eq_true, if_true, List.map_cons, List.map_nil]
      rw [Condition.answers_concat]
      exact congrArg (· ++ _) verdicts
    · simp only [beq_iff_eq, same, if_false, List.map_nil, List.append_nil]
      exact verdicts
  · intro e member
    rcases List.mem_append.mp member with old | new
    · exact h.inside e old
    · rw [List.mem_singleton] at new
      rw [new, ← h.length_eq]
      exact inside

end Worker

end Answers

end SocketDemux
