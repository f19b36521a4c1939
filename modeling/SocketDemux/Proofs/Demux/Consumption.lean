import SocketDemux.Proofs.Demux.Turns
/-!
# SocketDemux.Proofs.Demux.Consumption

**Evaluate and consume**: what becomes of buffered bytes, as a recursion on what is left of
them.

* `pass` — asks the conditions in order, up to the first that does not decline.
* `consume` — makes a pass; if a condition has removed bytes, consumes what is behind them,
  from the first condition on. Nothing is consumed of no bytes.

Conditions may change their state with every question, so a pass gives them back as it leaves
them, and the next pass starts from there. There is no buffer in this, no queue and no
worker: the questions, the removals and the ending are all there is to see of it from
outside.

* `consume_of_done` — a consumption that comes to a regular end leaves nothing, or has offered
  what it leaves to every condition, and each has declined it.
-/

namespace SocketDemux

variable {κ : Type} [Condition κ]

/-! ### One pass -/

/-- What a pass over the conditions has come to. -/
structure Pass (κ : Type) where
  /-- The conditions as the pass leaves them. -/
  conditions : List κ
  questions : List Evaluation
  /-- The first condition that does not decline, and what it does. -/
  turn : Option (Nat × Except String Span)

/-- Asks conditions about the data, in order, up to the first that does not decline. The
first of them has the place `index`. -/
def pass (data : Bytes) (index : Nat) : List κ → Pass κ
  | [] => { conditions := [], questions := [], turn := none }
  | condition :: rest =>
      let next := (Condition.evaluate condition data).2
      let question := Condition.question condition index data
      match Condition.turn? condition data with
      | some turn =>
          { conditions := next :: rest, questions := [question], turn := some (index, turn) }
      | none =>
          let others := pass data (index + 1) rest
          { conditions := next :: others.conditions
            questions := question :: others.questions
            turn := others.turn }

/-- The questions of a pass in which the conditions, from the place `index` on, give these
decisions. -/
def questionsFrom (data : Bytes) (index : Nat) : List Decision → List Evaluation
  | [] => []
  | decision :: rest => ⟨index, data, .ok decision⟩ :: questionsFrom data (index + 1) rest

/-- A condition that declines decides, and its decision removes nothing. -/
theorem Condition.question_of_declined {condition : κ} {data : Bytes}
    (declined : turn? condition data = none) (index : Nat) :
    ∃ decision, question condition index data = ⟨index, data, .ok decision⟩ ∧
      decision.span? = none := by
  unfold turn? at declined
  unfold question
  cases verdict : (evaluate condition data).1 with
  | error message =>
    rw [verdict] at declined
    cases declined
  | ok decision =>
    rw [verdict] at declined
    exact ⟨decision, rfl, Option.map_eq_none_iff.mp declined⟩

/-- A pass neither adds conditions nor leaves any out. -/
theorem length_conditions_pass (data : Bytes) (index : Nat) (conditions : List κ) :
    (pass data index conditions).conditions.length = conditions.length := by
  induction conditions generalizing index with
  | nil => rfl
  | cons condition rest ih =>
    rw [pass]
    dsimp only
    cases Condition.turn? condition data with
    | some turn => rfl
    | none => simp only [List.length_cons, ih]

/-- In a pass in which nobody has a turn, everybody is asked, and declines. -/
theorem questions_pass_of_none {data : Bytes} {index : Nat} {conditions : List κ}
    (declined : (pass data index conditions).turn = none) :
    ∃ decisions, (pass data index conditions).questions = questionsFrom data index decisions ∧
      decisions.length = conditions.length ∧
      ∀ decision ∈ decisions, decision.span? = none := by
  induction conditions generalizing index with
  | nil => exact ⟨[], rfl, rfl, fun _ member => by cases member⟩
  | cons condition rest ih =>
    rw [pass] at declined ⊢
    dsimp only at declined ⊢
    cases own : Condition.turn? condition data with
    | some turn =>
      rw [own] at declined
      cases declined
    | none =>
      rw [own] at declined
      obtain ⟨decision, question, waits⟩ := Condition.question_of_declined own index
      obtain ⟨decisions, questions, length, wait⟩ := ih declined
      refine ⟨decision :: decisions, ?_, by simp only [List.length_cons, length], ?_⟩
      · dsimp only
        rw [questionsFrom, question, questions]
      · intro other member
        rcases List.mem_cons.mp member with rfl | later
        · exact waits
        · exact wait other later

/-! ### One pass after the other -/

/-- How a consumption ends. -/
inductive ConsumptionEnd
  /-- Nothing more can be removed. -/
  | done
  /-- A condition has claimed more bytes than there are. -/
  | overclaimed (requested buffered : Nat)
  /-- A condition has panicked. -/
  | panicked (message : String)
  deriving Repr, DecidableEq

/-- What a consumption does: the questions it asks, the bytes it removes, and what it
leaves. -/
structure Consumption (κ : Type) where
  /-- The conditions as the consumption leaves them. -/
  conditions : List κ
  questions : List Evaluation := []
  removals : List Removal := []
  leftover : Bytes
  ending : ConsumptionEnd

/-- The same, behind a pass and the removal that it has decided on. -/
def Consumption.behind (c : Consumption κ) (questions : List Evaluation) (removal : Removal) :
    Consumption κ :=
  { c with
    questions := questions ++ c.questions
    removals := removal :: c.removals }

/-- Evaluates and consumes: the first condition that does not decline the data removes its
span, and what is behind the span is consumed in the same way. -/
def consume (conditions : List κ) (data : Bytes) : Consumption κ :=
  if data = [] then { conditions := conditions, leftover := [], ending := .done }
  else
    let asked := pass data 0 conditions
    match asked.turn with
    | none =>
        { conditions := asked.conditions
          questions := asked.questions
          leftover := data
          ending := .done }
    | some (_, .error message) =>
        { conditions := asked.conditions
          questions := asked.questions
          leftover := data
          ending := .panicked message }
    | some (index, .ok span) =>
        if span.count ≤ data.length then
          (consume asked.conditions (data.drop span.count)).behind asked.questions
            ⟨index, span.delivered, data.take span.count⟩
        else
          { conditions := asked.conditions
            questions := asked.questions
            leftover := data
            ending := .overclaimed span.count data.length }
termination_by data.length
decreasing_by
  have := span.count_pos
  rw [List.length_drop]
  omega

/-- A consumption neither adds conditions nor leaves any out. -/
theorem length_conditions_consume (conditions : List κ) (data : Bytes) :
    (consume conditions data).conditions.length = conditions.length := by
  fun_induction consume conditions data with
  | case1 => rfl
  | case4 conditions data present asked index span first enough ih =>
    exact ih.trans (length_conditions_pass data 0 conditions)
  | _ => exact length_conditions_pass ..

/-- A consumption that comes to a regular end leaves nothing, or its last questions have
offered what it leaves to every condition, and each has declined it. -/
theorem consume_of_done {conditions : List κ} {data : Bytes}
    (done : (consume conditions data).ending = .done) :
    (consume conditions data).leftover = [] ∨
      ∃ earlier decisions,
        (consume conditions data).questions =
          earlier ++ questionsFrom (consume conditions data).leftover 0 decisions ∧
        decisions.length = conditions.length ∧
        ∀ decision ∈ decisions, decision.span? = none := by
  fun_induction consume conditions data with
  | case1 => exact .inl rfl
  | case2 conditions data present asked declined =>
    obtain ⟨decisions, questions, length, wait⟩ := questions_pass_of_none declined
    exact .inr ⟨[], decisions, questions, length, wait⟩
  | case3 => cases done
  | case4 conditions data present asked index span first enough ih =>
    rcases ih done with nothing | ⟨earlier, decisions, questions, length, wait⟩
    · exact .inl nothing
    · refine .inr ⟨asked.questions ++ earlier, decisions, ?_, ?_, wait⟩
      · rw [Consumption.behind, List.append_assoc]
        dsimp only
        rw [questions]
      · exact length.trans (length_conditions_pass data 0 conditions)
  | case5 => cases done

end SocketDemux
