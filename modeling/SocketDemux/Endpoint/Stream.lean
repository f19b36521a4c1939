import SocketDemux.Endpoint.Basic
/-!
# SocketDemux.Endpoint.Stream

The **stream interface** of an endpoint: reading and writing the way generic stream
code expects it, with input/output errors.

* `readSome`, `writeSome` — one call: some bytes, at least one unless none was asked
  for. Reading uses the read timeout of the options, writing their number of
  attempts; a write that got at least one byte out is a success with that count.
* `readFull`, `writeFull` — the generic loops on top: exactly so many bytes, or the
  error that comes first. The loops follow the rules of any stream: an interrupted
  call is repeated, and a call that makes no progress means that the stream is over.
* `readToEnd` — reads until the stream is over. How much room each call offers is up
  to a `RoomPolicy`; `RoomPolicy.doubling` is the one of a growing vector.

The end of an endpoint's stream is an error (`SocketError.closed`), so `readToEnd`
always comes back with an error or waits, together with all that arrived before.
-/

namespace SocketDemux

namespace Endpoint

/-! ### One call -/

/-- Reads at least one byte into a target of `room` bytes, or nothing if it has no
room. Gives the bytes read. -/
def readSome (e : Endpoint) (room : Nat) : Reply IoError Bytes × Endpoint :=
  if room = 0 then (.ok [], e)
  else
    let outcome := e.read (List.replicate room 0) 1 e.options.readTimeout
    ((outcome.reply.map fun _ => outcome.taken).mapError SocketError.toIo, outcome.endpoint)

/-- Writes `data`, and reports how many of its bytes went out. -/
def writeSome (e : Endpoint) (data : Bytes) : Except IoError Nat × Endpoint :=
  let outcome := e.write data e.options.writeAttempts
  let reply : Except IoError Nat :=
    match outcome.reply with
    | .ok () => .ok data.length
    | .error (.partialWrite (written + 1)) => .ok (written + 1)
    | .error failure => .error failure.toIo
  (reply, outcome.endpoint)

/-- Bytes that a successful call reads: they fit, and there is one if there is
room. -/
theorem readSome_ok {e next : Endpoint} {room : Nat} {got : Bytes}
    (h : e.readSome room = (.ok got, next)) :
    got.length ≤ room ∧ (room ≠ 0 → got ≠ []) ∧ got ++ next.arrivals = e.arrivals := by
  unfold readSome at h
  split at h
  · next none => cases h; simp_all
  · next some =>
    obtain ⟨reply, rfl⟩ := Prod.mk.inj h
    cases outcome : (e.read (List.replicate room 0) 1 e.options.readTimeout).reply with
    | ok count =>
      simp only [outcome, Reply.map, Reply.mapError, Reply.ok.injEq] at reply
      subst reply
      have enough := readBy_ok outcome
      refine ⟨?_, fun _ none => ?_, readBy_arrivals ..⟩
      · have fits := length_taken_readBy_le e (List.replicate room 0) 1
          (Timeout.deadline e.options.readTimeout e.now)
        rw [List.length_replicate] at fits
        exact fits
      · have : (e.read (List.replicate room 0) 1 e.options.readTimeout).taken.length = 0 := by
          rw [none]; rfl
        have := enough.1
        have := enough.2
        simp only [read] at *
        omega
    | error _ => simp [outcome, Reply.map, Reply.mapError] at reply
    | waiting => simp [outcome, Reply.map, Reply.mapError] at reply

/-- No call fails with an interruption. -/
theorem readSome_error_kind {e next : Endpoint} {room : Nat} {error : IoError}
    (h : e.readSome room = (.error error, next)) : error.kind ≠ .interrupted := by
  unfold readSome at h
  split at h
  · cases h
  · obtain ⟨reply, rfl⟩ := Prod.mk.inj h
    cases outcome : (e.read (List.replicate room 0) 1 e.options.readTimeout).reply with
    | ok count => simp [outcome, Reply.map, Reply.mapError] at reply
    | error failure =>
      simp only [outcome, Reply.map, Reply.mapError, Reply.error.injEq] at reply
      subst reply
      rw [SocketError.kind_toIo]
      exact readBy_error_kind outcome
    | waiting => simp [outcome, Reply.map, Reply.mapError] at reply

/-- No call fails with an interruption. -/
theorem writeSome_error_kind {e next : Endpoint} {data : Bytes} {error : IoError}
    (h : e.writeSome data = (.error error, next)) : error.kind ≠ .interrupted := by
  unfold writeSome at h
  obtain ⟨reply, rfl⟩ := Prod.mk.inj h
  split at reply
  · cases reply
  · cases reply
  · next failure _ outcome =>
    cases reply
    rw [SocketError.kind_toIo]
    exact writeRun_error_kind _ _ _ _ _ _ _ _ outcome

/-! ### Exactly so many bytes -/

/-- A stream that is over before the target is full. -/
def notFilled : IoError := .constant .unexpectedEof "failed to fill whole buffer"

/-- A stream that accepts no more bytes. -/
def notWritten : IoError := .constant .writeZero "failed to write whole buffer"

/-- What a loop over the stream interface comes back with: how it ended, and the
bytes it had read by then. -/
structure FillOutcome where
  reply : Reply IoError Unit
  data : Bytes
  endpoint : Endpoint

/-- The outcome with bytes that were read before. -/
def FillOutcome.after (outcome : FillOutcome) (bytes : Bytes) : FillOutcome :=
  { outcome with data := bytes ++ outcome.data }

/-- Reads exactly `count` bytes. -/
def readFull (e : Endpoint) (count : Nat) : FillOutcome :=
  if _more : count = 0 then ⟨.ok (), [], e⟩
  else
    match _call : e.readSome count with
    | (.ok got, next) =>
        if _over : got = [] then ⟨.error notFilled, [], next⟩
        else (readFull next (count - got.length)).after got
    | (.error error, next) =>
        if _again : error.isInterrupted then readFull next count else ⟨.error error, [], next⟩
    | (.waiting, next) => ⟨.waiting, [], next⟩
termination_by count
decreasing_by
  · have := List.length_pos_iff.mpr _over
    omega
  · exact absurd (of_decide_eq_true _again) (readSome_error_kind _call)

/-- Writes all of `data`. -/
def writeFull (e : Endpoint) (data : Bytes) : Except IoError Unit × Endpoint :=
  if _more : data = [] then (.ok (), e)
  else
    match _call : e.writeSome data with
    | (.ok count, next) =>
        if _over : count = 0 then (.error notWritten, next)
        else writeFull next (data.drop count)
    | (.error error, next) =>
        if _again : error.isInterrupted then writeFull next data else (.error error, next)
termination_by data.length
decreasing_by
  · have := List.length_pos_iff.mpr _more
    simp; omega
  · exact absurd (of_decide_eq_true _again) (writeSome_error_kind _call)

/-! ### To the end of the stream -/

end Endpoint

/-- How much room each read of a longer reading offers, depending on the counts of
the reads before. -/
structure RoomPolicy (σ : Type) where
  /-- The room that the next read offers. -/
  room : σ → Nat
  /-- After a read of that many bytes. -/
  next : σ → Nat → σ
  /-- There is always some room. -/
  room_pos : ∀ s, 0 < room s

namespace Endpoint

/-- Reads until the stream is over, or until a call fails. -/
def readToEnd {σ : Type} (policy : RoomPolicy σ) (s : σ) (e : Endpoint) : FillOutcome :=
  match _call : e.readSome (policy.room s) with
  | (.ok got, next) =>
      if _over : got = [] then ⟨.ok (), [], next⟩
      else (readToEnd policy (policy.next s got.length) next).after got
  | (.error error, next) =>
      if _again : error.isInterrupted then readToEnd policy s next else ⟨.error error, [], next⟩
  | (.waiting, next) => ⟨.waiting, [], next⟩
termination_by e.arrivals.length
decreasing_by
  · have := List.length_pos_iff.mpr _over
    have := congrArg List.length (readSome_ok _call).2.2
    simp at this
    omega
  · exact absurd (of_decide_eq_true _again) (readSome_error_kind _call)

end Endpoint

/-- A growing vector of bytes that is being read into. -/
structure GrowingRoom where
  /-- Bytes read so far. -/
  length : Nat := 0
  /-- Bytes it has space for. -/
  capacity : Nat := 0
  /-- The most that one read is offered. -/
  limit : Nat := 8192

namespace GrowingRoom

/-- The least room that is worth a read. -/
def probe : Nat := 32

/-- The space after making room for `extra` more bytes: at least doubled. -/
def reserve (capacity length extra : Nat) : Nat :=
  if capacity - length < extra then max (max (capacity * 2) (length + extra)) 8 else capacity

/-- The space at the next read: a full vector grows first. -/
def spaceNow (g : GrowingRoom) : Nat :=
  if g.length = g.capacity then reserve g.capacity g.length probe else g.capacity

/-- The room of the next read. As long as the vector has no space at all, a small
probe finds out whether there is anything to read. -/
def room (g : GrowingRoom) : Nat :=
  if g.capacity = 0 then probe else max 1 (min (g.spaceNow - g.length) g.limit)

/-- The vector after a read of `got` bytes. A read that filled all it was offered, as
much as allowed, doubles the allowance. -/
def grow (g : GrowingRoom) (got : Nat) : GrowingRoom :=
  if g.capacity = 0 then
    { g with
      length := g.length + got
      capacity := reserve 0 0 got }
  else
    { length := g.length + got
      capacity := g.spaceNow
      limit := if g.limit ≤ g.room && g.room = got then g.limit * 2 else g.limit }

end GrowingRoom

/-- The policy of a vector that grows by doubling. -/
def RoomPolicy.doubling : RoomPolicy GrowingRoom where
  room := GrowingRoom.room
  next := GrowingRoom.grow
  room_pos g := by
    unfold GrowingRoom.room GrowingRoom.probe
    split <;> omega

end SocketDemux
