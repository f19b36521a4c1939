import SocketDemux.Endpoint.Basic
import SocketDemux.Proofs.Cancellation.Pauses
/-!
# SocketDemux.Proofs.Endpoint.Stops

What **ends a read**, said without the read loop.

The loop goes through the answers of a transport. Where it stands before an answer can be said
from the answers alone: `ReadScript.brought` are the bytes of all answers before it, `raisedAt`
is the cancellation flag, `clockAt` the clock, and `repeats` says whether the answer is one to
a read that repeats an interrupted one.

* `ReadStop`, `ReadStop.Happens` — the things that may end a read, each with its reason.
* `ReadScript.stop?` — the one that does, if any: the flag is looked at before the transport
  is asked, then the answer, then the poll of the wait behind it, then the flag again, and the
  clock only after that. `stop?_eq_some_iff` says that this order and the reasons agree.
* `stop?_succ` — what happens at an answer is what happens one answer earlier, once the first
  answer is dealt with.
-/

namespace SocketDemux

/-! ### Answers -/

/-- Has a signal interrupted the read? -/
def ReadReply.interrupted : ReadReply → Bool
  | .data _ => false
  | .failed e => e.isInterrupted

/-- Is there nothing to read at the moment? -/
def ReadReply.blocked : ReadReply → Bool
  | .data _ => false
  | .failed e => !e.isInterrupted && e.isWouldBlock

/-- What a read with so much room gets of an answer. -/
def ReadReply.clip (room : Nat) : ReadReply → ReadReply
  | .data bytes => .data (bytes.take room)
  | .failed e => .failed e

theorem ReadReply.clip_empty (room : Nat) : (data []).clip room = data [] := by
  rw [clip, List.take_nil]

/-- The answer behind the last event. -/
def Ending.reply : Ending → ReadReply
  | .ended => .data []
  | .quiet => .failed wouldBlock

/-- The clock after an answer, and after the wait that follows it if there was nothing to
read. -/
def ReadEvent.endsAt (event : ReadEvent) (deadline : Deadline) (now : Instant) : Instant :=
  if event.reply.blocked then (event.wait.run deadline now).1 else now

/-- What a read meets: the answers of the transport, its deadline, and the flag and the clock
as they are now. -/
structure ReadScript where
  events : List ReadEvent
  ending : Ending
  deadline : Deadline
  flag : CancelFlag
  now : Instant
  /-- Has the last read been interrupted? -/
  retry : Bool := false

namespace ReadScript

variable (s : ReadScript)

/-- What the answers before this one bring. -/
def brought (index : Nat) : Bytes := arrivals (s.events.take index)

/-- Is the flag up behind so many answers? -/
def raisedAt (index : Nat) : Bool := s.flag.raised || (s.events.take index).any (·.cancels)

/-- The clock behind so many answers and the waits that follow them. -/
def clockAt (index : Nat) : Instant :=
  (s.events.take index).foldl (fun now event => event.endsAt s.deadline now) s.now

def answer (index : Nat) : ReadReply :=
  match s.events[index]? with
  | some event => event.reply
  | none => s.ending.reply

/-- Is this answer one to a read that repeats an interrupted one? -/
def repeats : Nat → Bool
  | 0 => s.retry
  | before + 1 => (s.events[before]?).any (·.reply.interrupted)

/-- What the poll of the wait behind an answer fails with. -/
def pollFailure? (index : Nat) : Option IoError :=
  (s.events[index]?).bind fun event =>
    (event.wait.run s.deadline (s.clockAt index)).2.failure?

/-- Is the time up at the end of the wait behind an answer, and the socket not ready? Behind
the last event it never gets ready, so a wait that has a deadline lasts until then. -/
def outOfTime (index : Nat) : Bool :=
  match s.events[index]? with
  | some event =>
      !decide ((event.wait.run s.deadline (s.clockAt index)).2 = .ready) &&
        s.deadline.expired (event.wait.run s.deadline (s.clockAt index)).1
  | none => (s.deadline : Option Instant).isSome

/-- The first `count` calls of a read into so much room: each is offered what the answers
before it have left of it. -/
def calls (room count : Nat) : List ReadCall :=
  (List.range count).map fun index =>
    ⟨room - (s.brought index).length, (s.answer index).clip (room - (s.brought index).length)⟩

/-- The transport is asked for this answer: not enough has come, and the flag is not up, or
not looked at because the read repeats an interrupted one. -/
def Asks (need index : Nat) : Prop :=
  (s.brought index).length < need ∧ (s.repeats index = true ∨ s.raisedAt index = false)

/-- The answer is that there is nothing to read, and the poll of the wait that follows does
not fail. -/
def Waits (need index : Nat) : Prop :=
  s.Asks need index ∧ (s.answer index).blocked = true ∧ s.pollFailure? index = none

/-- What is met behind the first answer. -/
def behind (event : ReadEvent) (rest : List ReadEvent) : ReadScript where
  events := rest
  ending := s.ending
  deadline := s.deadline
  flag := s.flag.raiseIf event.cancels
  now := event.endsAt s.deadline s.now
  retry := event.reply.interrupted

end ReadScript

/-! ### What ends a read -/

/-- What may end a read. -/
inductive ReadStop
  /-- Enough has come. -/
  | enough
  /-- The flag is up before an attempt. -/
  | cancelled
  /-- The stream is at its end. -/
  | closed
  /-- The transport fails. -/
  | broken (error : IoError)
  /-- The poll of a wait fails. -/
  | unpolled (error : IoError)
  /-- The flag is up after a wait. -/
  | awoken
  /-- The time is up after a wait, and the socket is not ready. -/
  | expired
  /-- There is nothing to wait for, and no deadline: the read is not back yet. -/
  | waiting
  deriving Repr, DecidableEq

namespace ReadStop

/-- What a read comes back with. -/
def reply : ReadStop → Reply SocketError Unit
  | enough => .ok ()
  | cancelled => .error .terminationRequested
  | closed => .error .closed
  | broken e => .error (.failed .read e)
  | unpolled e => .error (.failed .poll e)
  | awoken => .error .terminationRequested
  | expired => .error .readTimeout
  | waiting => .waiting

/-- How many calls have been made when a read ends before, or with, this answer. -/
def calls (index : Nat) : ReadStop → Nat
  | enough | cancelled => index
  | _ => index + 1

/-- The reasons for a read to end there. -/
def Happens (s : ReadScript) (need index : Nat) : ReadStop → Prop
  | enough => need ≤ (s.brought index).length
  | cancelled =>
      (s.brought index).length < need ∧ s.repeats index = false ∧ s.raisedAt index = true
  | closed => s.Asks need index ∧ s.answer index = .data []
  | broken e =>
      s.Asks need index ∧ s.answer index = .failed e ∧ e.isInterrupted = false ∧
        e.isWouldBlock = false
  | unpolled e =>
      s.Asks need index ∧ (s.answer index).blocked = true ∧ s.pollFailure? index = some e
  | awoken => s.Waits need index ∧ s.raisedAt (index + 1) = true
  | expired => s.Waits need index ∧ s.raisedAt (index + 1) = false ∧ s.outOfTime index = true
  | waiting =>
      s.Waits need index ∧ s.raisedAt (index + 1) = false ∧ s.outOfTime index = false ∧
        s.events.length ≤ index

end ReadStop

namespace ReadScript

variable {s : ReadScript}

/-- The stop at the end of the wait behind an answer, if there is one. -/
def waitStop? (s : ReadScript) (index : Nat) : Option ReadStop :=
  match s.pollFailure? index with
  | some failure => some (.unpolled failure)
  | none =>
      if s.raisedAt (index + 1) then some .awoken
      else if s.outOfTime index then some .expired
      else if s.events.length ≤ index then some .waiting
      else none

/-- The stop at an answer, if there is one. -/
def answerStop? (s : ReadScript) (index : Nat) : Option ReadStop :=
  match s.answer index with
  | .data bytes => if bytes = [] then some .closed else none
  | .failed e =>
      if e.isInterrupted then none
      else if e.isWouldBlock then s.waitStop? index
      else some (.broken e)

/-- The stop before or at an answer, if there is one. -/
def stop? (s : ReadScript) (need index : Nat) : Option ReadStop :=
  if need ≤ (s.brought index).length then some .enough
  else if s.raisedAt index && !s.repeats index then some .cancelled
  else s.answerStop? index

theorem stop?_of_enough {need index : Nat} (enough : need ≤ (s.brought index).length) :
    s.stop? need index = some .enough := if_pos enough

/-- The transport is asked unless enough has come or the flag is seen up. -/
theorem asks_iff (need index : Nat) :
    s.Asks need index ↔ ¬need ≤ (s.brought index).length ∧
      ¬(s.raisedAt index && !s.repeats index) = true := by
  unfold Asks
  cases s.raisedAt index with
  | true => simp
  | false => simp

theorem stop?_of_asks {need index : Nat} (asks : s.Asks need index) :
    s.stop? need index = s.answerStop? index := by
  obtain ⟨more, unseen⟩ := (asks_iff need index).mp asks
  rw [stop?, if_neg more, if_neg unseen]

theorem answerStop?_of_blocked {index : Nat} (blocked : (s.answer index).blocked = true) :
    s.answerStop? index = s.waitStop? index := by
  unfold answerStop?
  cases answer : s.answer index with
  | data bytes =>
    rw [answer] at blocked
    cases blocked
  | failed e =>
    rw [answer, ReadReply.blocked, Bool.and_eq_true, Bool.not_eq_true'] at blocked
    simp [blocked]

theorem happens_of_waitStop? {need index : Nat} {stop : ReadStop} (asks : s.Asks need index)
    (blocked : (s.answer index).blocked = true) (found : s.waitStop? index = some stop) :
    stop.Happens s need index := by
  unfold waitStop? at found
  split at found
  · next failure poll =>
    cases found
    exact ⟨asks, blocked, poll⟩
  · next fine =>
    have waits : s.Waits need index := ⟨asks, blocked, fine⟩
    split at found
    · next up =>
      cases found
      exact ⟨waits, up⟩
    · next down =>
      have down := Bool.eq_false_iff.mpr down
      split at found
      · next late =>
        cases found
        exact ⟨waits, down, late⟩
      · next inTime =>
        split at found
        · next last =>
          cases found
          exact ⟨waits, down, Bool.eq_false_iff.mpr inTime, last⟩
        · cases found

theorem happens_of_answerStop? {need index : Nat} {stop : ReadStop} (asks : s.Asks need index)
    (found : s.answerStop? index = some stop) : stop.Happens s need index := by
  unfold answerStop? at found
  split at found
  · next bytes answer =>
    split at found
    · next ended =>
      cases found
      exact ⟨asks, by rw [answer, ended]⟩
    · cases found
  · next e answer =>
    split at found
    · cases found
    · next uninterrupted =>
      have uninterrupted := Bool.eq_false_iff.mpr uninterrupted
      split at found
      · next blocks =>
        refine happens_of_waitStop? asks ?_ found
        rw [answer, ReadReply.blocked, uninterrupted, blocks]
        rfl
      · next free =>
        cases found
        exact ⟨asks, answer, uninterrupted, Bool.eq_false_iff.mpr free⟩

/-- A stop is found where there is a reason for it. -/
theorem stop?_eq_some_iff {need index : Nat} {stop : ReadStop} :
    s.stop? need index = some stop ↔ stop.Happens s need index := by
  constructor
  · intro found
    by_cases asks : s.Asks need index
    · rw [stop?_of_asks asks] at found
      exact happens_of_answerStop? asks found
    · -- the transport is not asked; enough has come, or the flag is seen up
      rw [asks_iff] at asks
      unfold stop? at found
      split at found
      · next enough =>
        cases found
        exact enough
      · next more =>
        have seen : (s.raisedAt index && !s.repeats index) = true :=
          Decidable.byContradiction fun unseen => asks ⟨more, unseen⟩
        rw [if_pos seen] at found
        cases found
        rw [Bool.and_eq_true, Bool.not_eq_true'] at seen
        exact ⟨Nat.lt_of_not_le more, seen.2, seen.1⟩
  · intro happens
    cases stop with
    | enough => exact stop?_of_enough happens
    | cancelled =>
      obtain ⟨more, first, up⟩ := happens
      rw [stop?, if_neg (Nat.not_le.mpr more), up, first]
      rfl
    | closed =>
      obtain ⟨asks, answer⟩ := happens
      rw [stop?_of_asks asks, answerStop?, answer]
      rfl
    | broken e =>
      obtain ⟨asks, answer, uninterrupted, free⟩ := happens
      rw [stop?_of_asks asks, answerStop?, answer]
      simp [uninterrupted, free]
    | unpolled e =>
      obtain ⟨asks, blocked, poll⟩ := happens
      rw [stop?_of_asks asks, answerStop?_of_blocked blocked, waitStop?, poll]
    | awoken =>
      obtain ⟨⟨asks, blocked, fine⟩, up⟩ := happens
      rw [stop?_of_asks asks, answerStop?_of_blocked blocked, waitStop?, fine]
      simp [up]
    | expired =>
      obtain ⟨⟨asks, blocked, fine⟩, down, late⟩ := happens
      rw [stop?_of_asks asks, answerStop?_of_blocked blocked, waitStop?, fine]
      simp [down, late]
    | waiting =>
      obtain ⟨⟨asks, blocked, fine⟩, down, inTime, last⟩ := happens
      rw [stop?_of_asks asks, answerStop?_of_blocked blocked, waitStop?, fine]
      simp [down, inTime, last]

/-- The bytes of some answers are no more than those of all. -/
theorem length_brought_le (s : ReadScript) (index : Nat) :
    (s.brought index).length ≤ (arrivals s.events).length := by
  have whole := congrArg arrivals (List.take_append_drop index s.events)
  rw [arrivals_append] at whole
  rw [← whole, List.length_append]
  exact Nat.le_add_right _ _

/-- Whatever else ends a read, not enough has come. -/
theorem brought_lt_of_happens {need index : Nat} {stop : ReadStop} (other : stop ≠ .enough)
    (h : stop.Happens s need index) : (s.brought index).length < need := by
  cases stop with
  | enough => exact absurd rfl other
  | cancelled => exact h.1
  | closed | broken | unpolled => exact h.1.1
  | awoken | expired | waiting => exact h.1.1.1

/-! ### One answer further -/

section Behind

variable {event : ReadEvent} {rest : List ReadEvent}

theorem brought_succ (events : s.events = event :: rest) (index : Nat) :
    s.brought (index + 1) = event.reply.bytes ++ (s.behind event rest).brought index := by
  rw [brought, events]
  rfl

theorem raisedAt_succ (events : s.events = event :: rest) (index : Nat) :
    s.raisedAt (index + 1) = (s.behind event rest).raisedAt index := by
  simp [raisedAt, events, behind, Bool.or_assoc]

theorem clockAt_succ (events : s.events = event :: rest) (index : Nat) :
    s.clockAt (index + 1) = (s.behind event rest).clockAt index := by
  rw [clockAt, events]
  rfl

theorem answer_succ (events : s.events = event :: rest) (index : Nat) :
    s.answer (index + 1) = (s.behind event rest).answer index := by
  rw [answer, events]
  rfl

theorem repeats_succ (events : s.events = event :: rest) (index : Nat) :
    s.repeats (index + 1) = (s.behind event rest).repeats index := by
  cases index with
  | zero => simp [repeats, events, behind]
  | succ index => simp [repeats, events, behind]

theorem pollFailure?_succ (events : s.events = event :: rest) (index : Nat) :
    s.pollFailure? (index + 1) = (s.behind event rest).pollFailure? index := by
  rw [pollFailure?, events, clockAt_succ events]
  rfl

theorem outOfTime_succ (events : s.events = event :: rest) (index : Nat) :
    s.outOfTime (index + 1) = (s.behind event rest).outOfTime index := by
  rw [outOfTime, events, clockAt_succ events]
  rfl

/-- Behind the first answer the same stops happen, with what it brings no longer needed. -/
theorem stop?_succ (events : s.events = event :: rest) (need index : Nat) :
    s.stop? need (index + 1) =
      (s.behind event rest).stop? (need - event.reply.bytes.length) index := by
  have waits : s.waitStop? (index + 1) = (s.behind event rest).waitStop? index := by
    have last : s.events.length ≤ index + 1 ↔ (s.behind event rest).events.length ≤ index := by
      rw [events]
      exact Nat.add_le_add_iff_right
    unfold waitStop?
    rw [pollFailure?_succ events, raisedAt_succ events, outOfTime_succ events]
    simp only [last]
  have enough : need ≤ (s.brought (index + 1)).length ↔
      need - event.reply.bytes.length ≤ ((s.behind event rest).brought index).length := by
    rw [brought_succ events, List.length_append]
    omega
  unfold stop? answerStop?
  rw [raisedAt_succ events, repeats_succ events, answer_succ events, waits]
  simp only [enough]

end Behind

end ReadScript

end SocketDemux
