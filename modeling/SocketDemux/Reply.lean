/-!
# SocketDemux.Reply

The **reply** of a call that may have to wait: a value, an error, or that the call
is `waiting`, because it has no deadline and nothing that is on its way would end
the wait. A waiting call has done all it could; it is taken up again by calling
once more after something has changed.
-/

namespace SocketDemux

/-- What a call that may have to wait comes back with. -/
inductive Reply (ε α : Type)
  | ok (value : α)
  | error (error : ε)
  /-- The call is not back yet. -/
  | waiting
  deriving Repr, DecidableEq

namespace Reply

/-- Changes the value. -/
def map {ε α β : Type} (f : α → β) : Reply ε α → Reply ε β
  | ok value => ok (f value)
  | error e => error e
  | waiting => waiting

/-- Changes the error. -/
def mapError {ε δ α : Type} (f : ε → δ) : Reply ε α → Reply δ α
  | ok value => ok value
  | error e => error (f e)
  | waiting => waiting

/-- A call that never waits. -/
def ofExcept {ε α : Type} : Except ε α → Reply ε α
  | .ok value => ok value
  | .error e => error e

/-- A reply that hands over this value or none. -/
theorem map_const_eq_ok_iff {ε α β : Type} (reply : Reply ε α) (value other : β) :
    (reply.map fun _ => value) = .ok other ↔ (∃ inner, reply = .ok inner) ∧ value = other := by
  cases reply with
  | ok inner => simp [map]
  | error e => simp [map]
  | waiting => simp [map]

theorem map_eq_error_iff {ε α β : Type} {f : α → β} {reply : Reply ε α} {error : ε} :
    reply.map f = .error error ↔ reply = .error error := by
  cases reply with
  | ok inner => simp [map]
  | error e => simp [map]
  | waiting => simp [map]

/-- A value put in and taken out again. -/
theorem map_const_unit {ε β : Type} (reply : Reply ε Unit) (value : β) :
    ((reply.map fun _ => value).map fun _ => ()) = reply := by
  cases reply with
  | ok inner => rfl
  | error e => rfl
  | waiting => rfl

end Reply

end SocketDemux
