/-!
# SocketDemux.Bytes

**Byte strings** and the machine word that bounds counters.

* `Bytes` — what travels: a list of octets.
* `overwrite` — writing a run of bytes over the front of a fixed slice, the way a
  read fills its target. The slice keeps its length as long as the run fits.
* `wordMax`, `saturatingAdd` — counters that stick at the largest 64-bit word
  instead of wrapping.
-/

namespace SocketDemux

/-- A byte string. -/
abbrev Bytes := List UInt8

/-- Writes `bytes` over the front of `target`; what lies behind stays. -/
def overwrite (target bytes : Bytes) : Bytes :=
  bytes ++ target.drop bytes.length

@[simp] theorem overwrite_nil (target : Bytes) : overwrite target [] = target := rfl

theorem length_overwrite {target bytes : Bytes} (h : bytes.length ≤ target.length) :
    (overwrite target bytes).length = target.length := by
  simp [overwrite]; omega

@[simp] theorem take_overwrite (target bytes : Bytes) :
    (overwrite target bytes).take bytes.length = bytes := by
  simp [overwrite]

/-- The largest value a 64-bit counter holds. -/
def wordMax : Nat := UInt64.size - 1

/-- Addition that sticks at `wordMax`. -/
def saturatingAdd (a b : Nat) : Nat :=
  if a + b ≤ wordMax then a + b else wordMax

theorem saturatingAdd_eq {a b : Nat} (h : a + b ≤ wordMax) : saturatingAdd a b = a + b := by
  simp [saturatingAdd, h]

theorem saturatingAdd_eq_min (a b : Nat) : saturatingAdd a b = min (a + b) wordMax := by
  unfold saturatingAdd; split <;> omega

end SocketDemux
