/-!
# SocketDemux.Duration

**Spans of time**, to the nanosecond, and the time budgets made of them.

* `Duration.text` — the exact decimal text in the largest unit that leaves a whole
  part: seconds, milliseconds, microseconds or nanoseconds. Trailing zeros of the
  fraction are dropped, and a whole number of units has no point.
* `Timeout` — the budget of a call; `none` waits for ever.
* `Timeout.deadline` — the instant at which a budget that starts now is used up.
* `expired` — is that instant reached?
-/

namespace SocketDemux

/-- A span of time. -/
structure Duration where
  /-- Its length in nanoseconds. -/
  nanos : Nat
  deriving Repr, DecidableEq

namespace Duration

/-- `count` seconds and `nanos` nanoseconds. -/
def ofSeconds (count : Nat) (nanos : Nat) : Duration := ⟨count * 1000000000 + nanos⟩

/-- `count` milliseconds. -/
def ofMillis (count : Nat) : Duration := ⟨count * 1000000⟩

/-- No time at all. -/
def zero : Duration := ⟨0⟩

/-- The digits of `part` as a fraction of `places` decimal places, without the
zeros at its end. -/
def fractionDigits (part places : Nat) : List Char :=
  let digits := Nat.toDigits 10 part
  let padded := List.replicate (places - digits.length) '0' ++ digits
  (padded.reverse.dropWhile (· = '0')).reverse

/-- `whole` units and `part` of the next, in decimal. -/
def decimal (whole part places : Nat) : String :=
  if part = 0 then toString whole
  else toString whole ++ "." ++ String.ofList (fractionDigits part places)

/-- The text of a span of time. -/
def text (d : Duration) : String :=
  let n := d.nanos
  if 1000000000 ≤ n then decimal (n / 1000000000) (n % 1000000000) 9 ++ "s"
  else if 1000000 ≤ n then decimal (n / 1000000) (n % 1000000) 6 ++ "ms"
  else if 1000 ≤ n then decimal (n / 1000) (n % 1000) 3 ++ "µs"
  else toString n ++ "ns"

end Duration

/-- An instant, in nanoseconds since the clock was started. -/
abbrev Instant := Nat

/-- The time budget of a call; `none` waits for ever. -/
abbrev Timeout := Option Duration

/-- The instant a call must be back by; `none` for a call that may wait for ever. -/
abbrev Deadline := Option Instant

/-- The deadline of a budget that starts at `now`. -/
def Timeout.deadline (timeout : Timeout) (now : Instant) : Deadline :=
  Option.map (fun d => now + d.nanos) timeout

/-- Has the deadline passed at `now`? Without a deadline, never. -/
def Deadline.expired (deadline : Deadline) (now : Instant) : Bool :=
  match (deadline : Option Instant) with
  | none => false
  | some instant => instant ≤ now

@[simp] theorem Timeout.deadline_none (now : Instant) :
    Timeout.deadline (none : Option Duration) now = (none : Option Instant) := rfl

@[simp] theorem Deadline.expired_none (now : Instant) :
    Deadline.expired (none : Option Instant) now = false := rfl

end SocketDemux
