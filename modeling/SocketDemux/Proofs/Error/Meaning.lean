import SocketDemux.Proofs.Error.Copy
/-!
# SocketDemux.Proofs.Error.Meaning

What a failure **means** outlives its copies and its conversion.

* `SocketError.numbers`, `SocketError.operation?` — what a failure is made of besides its
  name. The name alone tells the operation (`ofLabel?_label`), and a failure without an
  input/output error underneath is read back from name and numbers (`ofName?_label`), so no
  two variants are mixed up.
* `SocketError.meaning` — all that a caller can ask of a failure without looking into the
  error underneath: name, numbers, kind, text, whether it is a cancellation or a timeout, and
  the raw code of the operating system.
* `copy_eq_copy_iff` — a copy is made of the meaning, of all of it and of nothing else. That a
  copy of a copy is the copy itself follows, whatever the error underneath was.
* `KeepsMeaning` — what copies and conversions keep, for every failure
  (`copies_keep_meaning`).
-/

namespace SocketDemux

/-! ### Names, numbers and operations -/

/-- The operation whose failure goes by that name. -/
def Operation.ofLabel? (label : String) : Option Operation :=
  all.find? (·.label == label)

theorem Operation.ofLabel?_label (op : Operation) : ofLabel? op.label = some op := by
  cases op <;> rfl

namespace SocketError

/-- The operation that met an input/output error, if one did. -/
def operation? : SocketError → Option Operation
  | .failed op _ => some op
  | _ => none

/-- The numbers that a failure reports, in the order of its text. -/
def numbers : SocketError → List Nat
  | .partialWrite written => [written]
  | .invalidCondition requested buffered => [requested, buffered]
  | .bufferExhausted capacity => [capacity]
  | .outOfRange requested buffered => [requested, buffered]
  | .requestTooLarge requested capacity => [requested, capacity]
  | .receiveBufferTooSmall capacity => [capacity]
  | _ => []

/-- The failure of that name with those numbers, if it has no error underneath. -/
def ofName? (label : String) (numbers : List Nat) : Option SocketError :=
  match label, numbers with
  | "ReadTimeout", [] => some .readTimeout
  | "Closed", [] => some .closed
  | "PartialWrite", [written] => some (.partialWrite written)
  | "TerminationRequested", [] => some .terminationRequested
  | "InvalidCondition", [requested, buffered] => some (.invalidCondition requested buffered)
  | "BufferExhausted", [capacity] => some (.bufferExhausted capacity)
  | "OutOfRange", [requested, buffered] => some (.outOfRange requested buffered)
  | "RequestTooLarge", [requested, capacity] => some (.requestTooLarge requested capacity)
  | "NoData", [] => some .noData
  | "AlreadyStarted", [] => some .alreadyStarted
  | "InvalidHandle", [] => some .invalidHandle
  | "WorkerPanicked", [] => some .workerPanicked
  | "ReceiveBufferTooSmall", [capacity] => some (.receiveBufferTooSmall capacity)
  | _, _ => none

/-- The name of a failure tells whose failure it is. -/
theorem ofLabel?_label (e : SocketError) : Operation.ofLabel? e.label = e.operation? := by
  cases e with
  | failed op cause => exact op.ofLabel?_label
  | _ => rfl

/-- Name and numbers are all there is to a failure with no error underneath. -/
theorem ofName?_label {e : SocketError} (plain : e.operation? = none) :
    ofName? e.label e.numbers = some e := by
  cases e with
  | failed op cause => cases plain
  | _ => rfl

theorem eq_failed_of_operation? {e : SocketError} {op : Operation}
    (met : e.operation? = some op) : ∃ cause, e = failed op cause := by
  cases e with
  | failed own cause =>
    cases met
    exact ⟨cause, rfl⟩
  | _ => cases met

theorem isSome_cause? (e : SocketError) : e.cause?.isSome = e.operation?.isSome := by
  cases e <;> rfl

/-- The failures with an error underneath are those that go by the name of an operation. -/
theorem isSome_cause?_iff {e : SocketError} :
    e.cause?.isSome ↔ ∃ op : Operation, e.label = op.label := by
  constructor
  · intro underneath
    rw [isSome_cause?] at underneath
    obtain ⟨op, met⟩ := Option.isSome_iff_exists.mp underneath
    obtain ⟨cause, rfl⟩ := eq_failed_of_operation? met
    exact ⟨op, rfl⟩
  · rintro ⟨op, named⟩
    rw [isSome_cause?, ← ofLabel?_label, named, Operation.ofLabel?_label]
    rfl

/-- The raw code of the operating system, if an error underneath has one. -/
def osCode? (e : SocketError) : Option OsCode := e.cause?.bind IoError.osCode?

/-! ### The meaning of a failure -/

/-- What a failure says, without what the error underneath is made of. -/
structure Meaning where
  /-- The name of the variant. -/
  label : String
  numbers : List Nat
  kind : ErrorKind
  text : String
  isCancelled : Bool
  isTimeout : Bool
  osCode? : Option OsCode
  deriving Repr, DecidableEq

/-- What the failure says. -/
def meaning (e : SocketError) : Meaning where
  label := e.label
  numbers := e.numbers
  kind := e.kind
  text := e.text
  isCancelled := e.isCancelled
  isTimeout := e.isTimeout
  osCode? := e.osCode?

@[simp] theorem numbers_copy (e : SocketError) : e.copy.numbers = e.numbers := by
  cases e <;> rfl

@[simp] theorem isCancelled_copy (e : SocketError) : e.copy.isCancelled = e.isCancelled := by
  cases e <;> rfl

@[simp] theorem isTimeout_copy (e : SocketError) : e.copy.isTimeout = e.isTimeout := by
  cases e <;> rfl

@[simp] theorem osCode?_copy (e : SocketError) : e.copy.osCode? = e.osCode? := by
  cases e with
  | failed op cause => exact cause.osCode?_copy
  | _ => rfl

/-- A copy says the same. -/
@[simp] theorem meaning_copy (e : SocketError) : e.copy.meaning = e.meaning := by
  simp [meaning]

/-- Nothing but the meaning goes into a copy. -/
theorem copy_congr {e other : SocketError} (same : e.meaning = other.meaning) :
    e.copy = other.copy := by
  have label : e.label = other.label := congrArg Meaning.label same
  have operation : e.operation? = other.operation? := by
    rw [← ofLabel?_label, ← ofLabel?_label, label]
  cases met : e.operation? with
  | none =>
    -- No error is underneath either of them: they are one failure.
    have numbers : e.numbers = other.numbers := congrArg Meaning.numbers same
    have back := ofName?_label met
    rw [label, numbers, ofName?_label (operation.symm.trans met)] at back
    rw [Option.some.inj back]
  | some op =>
    obtain ⟨cause, rfl⟩ := eq_failed_of_operation? met
    obtain ⟨cause', rfl⟩ := eq_failed_of_operation? (operation.symm.trans met)
    have code : cause.osCode? = cause'.osCode? := congrArg Meaning.osCode? same
    have kind : (failed op cause).kind = (failed op cause').kind := congrArg Meaning.kind same
    have text : (failed op cause).text = (failed op cause').text := congrArg Meaning.text same
    rw [SocketError.kind, SocketError.kind] at kind
    -- The words for the operation stand in front of both texts.
    rw [text_failed, text_failed, String.append_right_inj] at text
    rw [copy, copy, IoError.copy_congr code kind text]

/-- Copies are the same exactly if they are made of failures that mean the same. -/
theorem copy_eq_copy_iff {e other : SocketError} :
    e.copy = other.copy ↔ e.meaning = other.meaning := by
  refine ⟨?_, copy_congr⟩
  intro same
  rw [← meaning_copy e, ← meaning_copy other, same]

/-- A copy is copied as it is. -/
theorem copy_copy (e : SocketError) : e.copy.copy = e.copy :=
  copy_congr e.meaning_copy

/-! ### Copies and conversions -/

theorem toIo_of_cause? {e : SocketError} {cause : IoError} (underneath : e.cause? = some cause) :
    e.toIo = cause := by
  cases e with
  | failed op own => exact Option.some.inj underneath
  | _ => cases underneath

theorem toIo_of_plain {e : SocketError} (plain : e.cause? = none) :
    e.toIo = .carrying e.kind e := by
  cases e with
  | failed op cause => cases plain
  | _ => rfl

/-- What the copies and the conversion of a failure keep of it. -/
structure KeepsMeaning (e : SocketError) : Prop where
  /-- A copy says the same. -/
  copied : e.copy.meaning = e.meaning
  /-- It shows no more than that: failures that mean the same have the same copy. -/
  determined : ∀ other : SocketError, other.copy = e.copy ↔ other.meaning = e.meaning
  /-- To copy a copy changes nothing any more, nor what logs show of it. -/
  settled : e.copy.copy = e.copy ∧ e.copy.copy.debugText = e.copy.debugText
  /-- The kind is that of the failure, whether it is converted itself or copied before. -/
  kinds : e.toIo.kind = e.kind ∧ e.copy.toIo.kind = e.kind
  /-- The variants with an error underneath are the failures of the operations. -/
  variants : e.cause?.isSome ↔ ∃ op : Operation, e.label = op.label
  /-- What is underneath is handed over untouched. -/
  untouched : ∀ cause, e.cause? = some cause → e.toIo = cause
  /-- Any other failure is carried whole. -/
  carried : e.cause? = none → e.toIo = .carrying e.kind e

/-- **What a failure means outlives its copies and its conversion.** Take any failure, with any
numbers and any input/output error underneath: a raw code, a bare kind, or a kind with a text or
around any other error. A copy keeps name, numbers, kind, text and raw code, and is still the
cancellation or the timeout that it was; nothing else goes into it, so that a copy of a copy
differs in nothing from the copy. As an input/output error the failure keeps its kind, copied or
not. What it becomes is the very error underneath if it is the failure of an operation, and else
an error that carries the failure itself. -/
theorem copies_keep_meaning (e : SocketError) : e.KeepsMeaning where
  copied := e.meaning_copy
  determined := fun _ => copy_eq_copy_iff
  settled := by
    rw [copy_copy]
    exact ⟨rfl, rfl⟩
  kinds := by
    rw [kind_toIo, kind_toIo, kind_copy]
    exact ⟨rfl, rfl⟩
  variants := isSome_cause?_iff
  untouched := fun _ => toIo_of_cause?
  carried := toIo_of_plain

/-- What a copy does change: the error from elsewhere is replaced by its text, so what logs
show differs once. -/
example :
    (failed .handshake (.foreign .invalidData "bad record" "Alert(20)")).debugText =
        "Handshake(Custom \x7b kind: InvalidData, error: Alert(20) \x7d)" ∧
      (failed .handshake (.foreign .invalidData "bad record" "Alert(20)")).copy.debugText =
        "Handshake(Custom \x7b kind: InvalidData, error: \"bad record\" \x7d)" := by
  cbv

end SocketError

end SocketDemux
