import SocketDemux.Bytes
/-!
# SocketDemux.Demux.Condition

**Conditions**: what decides where a byte stream is cut.

A condition is asked about the unconsumed head of the stream and gives a `Decision`:
cut a fragment off, discard bytes, or wait for more. It may keep a state of its own
from one question to the next, and it may panic.

A decision to cut or discard no bytes decides nothing. `Decision.span?` is what is
left of a decision after that: a `Span` of at least one byte at the front of the
stream, to be delivered or dropped.
-/

namespace SocketDemux

/-- What a condition says about the head of the stream. -/
inductive Decision
  /-- There is not enough data to decide. -/
  | pending
  /-- The first `count` bytes are a fragment of this condition. -/
  | cut (count : Nat)
  /-- The first `count` bytes belong to nobody. -/
  | discard (count : Nat)
  deriving Repr, DecidableEq

/-- At least one byte at the front of the stream. -/
structure Span where
  count : Nat
  /-- Are the bytes a fragment, or are they dropped? -/
  delivered : Bool
  count_pos : 0 < count
  deriving Repr

instance : DecidableEq Span := fun first second =>
  decidable_of_iff (first.count = second.count ∧ first.delivered = second.delivered) (by
    cases first
    cases second
    simp)

namespace Decision

/-- The decision that a signed count stands for: zero waits, `n` cuts `n` bytes, and
`-n` discards `n` bytes. -/
def ofCount (count : Int) : Decision :=
  if count = 0 then pending
  else if 0 < count then cut count.natAbs
  else discard count.natAbs

/-- The bytes that the decision removes, if it removes any. -/
def span? : Decision → Option Span
  | pending => none
  | cut count => if h : 0 < count then some ⟨count, true, h⟩ else none
  | discard count => if h : 0 < count then some ⟨count, false, h⟩ else none

end Decision

/-- The states of a condition: asked about the head of the stream, it decides, or
panics with a message, and moves on to its next state. -/
class Condition (κ : Type) where
  evaluate : κ → Bytes → Except String Decision × κ

/-- A condition without a state, that never panics. -/
instance : Condition (Bytes → Decision) where
  evaluate decide data := (.ok (decide data), decide)

/-- The condition that cuts the stream behind every `byte`. -/
structure Delimiter where
  byte : UInt8
  deriving Repr, DecidableEq

namespace Delimiter

/-- Cuts everything up to and including the delimiter; never discards. -/
def decision (delimiter : Delimiter) (data : Bytes) : Decision :=
  match data.findIdx? (· = delimiter.byte) with
  | some position => .cut (position + 1)
  | none => .pending

instance : Condition Delimiter where
  evaluate delimiter data := (.ok (delimiter.decision data), delimiter)

end Delimiter

end SocketDemux
