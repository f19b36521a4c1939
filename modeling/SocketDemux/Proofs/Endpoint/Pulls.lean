import SocketDemux.Proofs.Endpoint.Harvest
/-!
# SocketDemux.Proofs.Endpoint.Pulls

Reading through the **stream interface** loses nothing.

A call that succeeds hands out bytes, and one that fails has taken none. So what a sequence of
calls hands out is what is taken off the transport, and a loop on top of such calls ends at the
first failure, with all that its transport reads have returned before that.

* `Endpoint.pulls`, `pulls_exact` — any sequence of calls.
* `Endpoint.Loop` — the calls that a loop makes: there is none behind one that fails.
* `readFull_harvest`, `readToEnd_returned` — what the loops come back with, by their own
  recursion.
* `readToEnd_harvest` — the same for whole answers: cancellation can leave the rest of one.
* `reading_loses_nothing` — all of it.
-/

namespace SocketDemux

namespace Endpoint

/-! ### Any sequence of calls -/

/-- What may be done between two answers. -/
inductive PullCall
  /-- A call with so much room. -/
  | read (room : Nat)
  /-- Somebody requests cancellation. -/
  | cancel
  deriving Repr, DecidableEq

/-- One call of a sequence: the endpoint before and after it, and its answer. -/
structure Pulled where
  room : Nat
  before : Endpoint
  reply : Reply IoError Bytes
  after : Endpoint

/-- What a call hands out. -/
def Pulled.bytes (p : Pulled) : Bytes :=
  match p.reply with
  | .ok got => got
  | _ => []

/-- One call after the other. -/
def pulls (e : Endpoint) : List PullCall → List Pulled × Endpoint
  | [] => ([], e)
  | .read room :: rest =>
      let (reply, next) := e.readSome room
      let (others, last) := next.pulls rest
      (⟨room, e, reply, next⟩ :: others, last)
  | .cancel :: rest => e.requestCancellation.2.pulls rest

/-- The transport reads that a call makes. -/
def Pulled.calls (p : Pulled) : List ReadCall :=
  if p.room = 0 then []
  else (p.before.read (List.replicate p.room 0) 1 p.before.options.readTimeout).calls

/-- What is true of every call. -/
structure Pulled.Exact (p : Pulled) : Prop where
  /-- It hands out nothing exactly if it has no room. -/
  empty : p.reply = .ok [] ↔ p.room = 0
  fits : p.bytes.length ≤ p.room
  /-- It hands out what its transport reads return. -/
  returned : p.bytes = bytesOf p.calls
  /-- What it hands out is taken off the transport, and nothing else is: nothing at all if it
  fails. -/
  conserved : p.bytes ++ p.after.arrivals = p.before.arrivals
  /-- It ends at the first thing that decides it, and the end of the stream is an error. -/
  decided : p.room ≠ 0 → ∃ index stop,
    (p.before.script p.before.options.readTimeout).First 1 index stop ∧
      (p.reply.map fun _ => ()) = stop.reply.mapError SocketError.toIo ∧
      (stop = .closed → p.reply = .error (.carrying .unexpectedEof .closed))
  /-- No loop on top of it takes its error for a reason to try again. -/
  final : ∀ error, p.reply = .error error → error.isInterrupted = false

/-- What a call hands out is what its read has taken. -/
theorem bytes_readSome (e : Endpoint) {room : Nat} (some : room ≠ 0) :
    (Pulled.mk room e (e.readSome room).1 (e.readSome room).2).bytes =
      (e.read (List.replicate room 0) 1 e.options.readTimeout).taken := by
  have short : (∀ total, (e.read (List.replicate room 0) 1 e.options.readTimeout).reply ≠
      .ok total) → (e.read (List.replicate room 0) 1 e.options.readTimeout).taken.length < 1 :=
    e.taken_lt_of_read _
  unfold Pulled.bytes readSome
  rw [if_neg some]
  dsimp only
  generalize e.read (List.replicate room 0) 1 e.options.readTimeout = outcome at short ⊢
  cases answer : outcome.reply with
  | ok count => rfl
  | error failure =>
    have nothing := short (by simp [answer])
    exact (List.length_eq_zero_iff.mp (Nat.lt_one_iff.mp nothing)).symm
  | waiting =>
    have nothing := short (by simp [answer])
    exact (List.length_eq_zero_iff.mp (Nat.lt_one_iff.mp nothing)).symm

/-- A call ends at its first stop. -/
theorem exists_first_pull (e : Endpoint) {room : Nat} (some : room ≠ 0) :
    ∃ index stop, (e.script e.options.readTimeout).First 1 index stop ∧
      ((e.readSome room).1.map fun _ => ()) = stop.reply.mapError SocketError.toIo ∧
      (stop = .closed → (e.readSome room).1 = .error (.carrying .unexpectedEof .closed)) := by
  have fits : 1 ≤ (List.replicate room (0 : UInt8)).length := by
    rw [List.length_replicate]
    exact Nat.pos_of_ne_zero some
  obtain ⟨index, stop, first, reply, -⟩ := e.exists_first_read e.options.readTimeout fits
  refine ⟨index, stop, first, ?_, ?_⟩
  · unfold readSome
    rw [if_neg some]
    dsimp only
    rw [reply]
    cases stop.reply with
    | ok value => rfl
    | error failure => rfl
    | waiting => rfl
  · rintro rfl
    unfold readSome
    rw [if_neg some]
    dsimp only
    rw [reply]
    rfl

theorem readSome_exact (e : Endpoint) (room : Nat) :
    (Pulled.mk room e (e.readSome room).1 (e.readSome room).2).Exact := by
  have final : ∀ error, (e.readSome room).1 = .error error → error.isInterrupted = false :=
    fun error failed => decide_eq_false (readSome_error_kind (Prod.ext failed rfl))
  by_cases some : room = 0
  · have nothing : e.readSome room = (.ok [], e) := if_pos some
    rw [nothing] at final ⊢
    have unread : (Pulled.mk room e (.ok []) e).calls = [] := if_pos some
    refine ⟨iff_of_true rfl some, Nat.zero_le _, ?_, rfl, fun wrong => absurd some wrong, final⟩
    rw [unread]
    rfl
  · have bytes := e.bytes_readSome some
    refine ⟨iff_of_false ?_ some, ?_, ?_, ?_, fun _ => e.exists_first_pull some, final⟩
    · intro nothing
      exact absurd rfl ((readSome_ok (Prod.ext nothing rfl)).2.1 some)
    · rw [bytes]
      have fits := e.length_taken_readBy_le (List.replicate room 0) 1
        (Timeout.deadline e.options.readTimeout e.now)
      rw [List.length_replicate] at fits
      exact fits
    · rw [bytes, Pulled.calls, if_neg some]
      exact (e.bytesOf_readBy ..).symm
    · rw [bytes]
      unfold readSome
      rw [if_neg some]
      exact e.readBy_arrivals ..

theorem pulls_exact (e : Endpoint) (calls : List PullCall) :
    (e.pulls calls).1.flatMap Pulled.bytes ++ (e.pulls calls).2.arrivals = e.arrivals ∧
      ∀ pulled ∈ (e.pulls calls).1, pulled.Exact := by
  fun_induction pulls e calls with
  | case1 e => exact ⟨rfl, fun _ wrong => absurd wrong List.not_mem_nil⟩
  | case2 e room rest reply next call others last later ih =>
    have law := e.readSome_exact room
    rw [call] at law
    rw [later] at ih
    obtain ⟨whole, all⟩ := ih
    refine ⟨?_, ?_⟩
    · rw [List.flatMap_cons, List.append_assoc, whole]
      exact law.conserved
    · intro pulled member
      rcases List.mem_cons.mp member with rfl | later
      · exact law
      · exact all pulled later
  | case3 e rest ih => exact ih

/-! ### The loops -/

/-- What is held back stands behind the bytes that fill a target, so a loop that has not enough
has read all of the harvest. -/
theorem readFull_harvest (e : Endpoint) (count : Nat) :
    (count ≤ e.harvest.bytes.length →
        (e.readFull count).reply = .ok () ∧ (e.readFull count).data = e.harvest.bytes.take count) ∧
      (e.harvest.bytes.length < count →
        (e.readFull count).reply = e.obstacle ∧ (e.readFull count).data = e.harvest.bytes) := by
  fun_induction readFull e count with
  | case1 e => exact ⟨fun _ => ⟨rfl, rfl⟩, fun wrong => absurd wrong (Nat.not_lt_zero _)⟩
  | case2 e count some next call => exact absurd rfl ((readSome_ok call).2.1 some)
  | case3 e count some got next call more ih =>
    have fits := (readSome_ok call).1
    obtain ⟨enough, short⟩ := ih
    cases readSome_draws some call with
    | none unsuccessful => exact absurd rfl (unsuccessful got)
    | some left same held =>
      rw [FillOutcome.after, same, obstacle_of_after same, Harvest.after]
      dsimp only
      rcases held with rfl | ⟨full, -⟩
      · rw [List.append_nil, List.length_append]
        constructor
        · intro arrives
          obtain ⟨reply, data⟩ := enough (by omega)
          rw [data, List.take_append, List.take_of_length_le fits]
          exact ⟨reply, rfl⟩
        · intro less
          obtain ⟨reply, data⟩ := short (by omega)
          rw [data]
          exact ⟨reply, rfl⟩
      · -- what is held back is behind the bytes that were asked for
        subst full
        obtain ⟨reply, data⟩ := enough (by omega)
        constructor
        · intro
          refine ⟨reply, ?_⟩
          rw [data, Nat.sub_self, List.take_zero, List.append_nil, List.append_assoc,
            List.take_left]
        · intro less
          rw [List.append_assoc, List.length_append] at less
          omega
  | case4 e count some error next call again =>
    exact absurd (of_decide_eq_true again) (readSome_error_kind call)
  | case5 e count some error next call once =>
    cases readSome_draws some call with
    | none unsuccessful nothing ends =>
      rw [nothing]
      exact ⟨fun wrong => absurd (Nat.le_zero.mp wrong) some, fun _ => ⟨ends, rfl⟩⟩
  | case6 e count some next call =>
    cases readSome_draws some call with
    | none unsuccessful nothing ends =>
      rw [nothing]
      exact ⟨fun wrong => absurd (Nat.le_zero.mp wrong) some, fun _ => ⟨ends, rfl⟩⟩

/-- Whatever room each call has, the loop hands out all that its transport reads return before
the first failure. -/
theorem readToEnd_returned {ρ : Type} (policy : RoomPolicy ρ) (state : ρ) (e : Endpoint) :
    (e.readToEnd policy state).data = (e.harvestBy policy state).bytes ∧
      (e.readToEnd policy state).reply =
        (e.harvestBy policy state).ends.mapError SocketError.toIo := by
  fun_induction readToEnd policy state e with
  | case1 state e next call =>
    exact absurd rfl ((readSome_ok call).2.1 (policy.room_ne_zero state))
  | case2 state e got next call more ih =>
    obtain ⟨data, reply⟩ := ih
    rw [(readSome_reaps call).1 got rfl, FillOutcome.after, data]
    exact ⟨rfl, reply⟩
  | case3 state e error next call again =>
    exact absurd (of_decide_eq_true again) (readSome_error_kind call)
  | case4 state e error next call once =>
    obtain ⟨nothing, ends⟩ := (readSome_reaps call).2 (Reply.error_ne_ok error)
    exact ⟨nothing.symm, ends⟩
  | case5 state e next call =>
    obtain ⟨nothing, ends⟩ := (readSome_reaps call).2 Reply.waiting_ne_ok
    exact ⟨nothing.symm, ends⟩

/-- Counted in whole answers, the loop reads on until the harvest is in, or the rest of it is
held back. -/
theorem readToEnd_harvest {ρ : Type} (policy : RoomPolicy ρ) (state : ρ) (e : Endpoint) :
    ∃ left, (e.readToEnd policy state).data ++ left = e.harvest.bytes ∧
      (e.readToEnd policy state).reply = e.obstacle ∧
      (left = [] ∨ (e.readToEnd policy state).endpoint.HoldsBack left ∧
        (e.readToEnd policy state).reply = .error cancelled) := by
  fun_induction readToEnd policy state e with
  | case1 state e next call =>
    exact absurd rfl ((readSome_ok call).2.1 (policy.room_ne_zero state))
  | case2 state e got next call more ih =>
    have some := policy.room_ne_zero state
    obtain ⟨later, data, reply, held'⟩ := ih
    cases readSome_draws some call with
    | none unsuccessful => exact absurd rfl (unsuccessful got)
    | some left same held =>
      rw [FillOutcome.after, same, obstacle_of_after same]
      rcases held with rfl | ⟨-, held⟩
      · refine ⟨later, ?_, reply, held'⟩
        rw [List.append_nil, List.append_assoc, data]
        rfl
      · -- the flag is up, so the next call is the last one
        refine ⟨left, ?_, reply, .inr ?_⟩
        · rw [readToEnd_of_raised held.1, Harvest.after, harvest_of_raised held.1]
          simp only [List.append_nil]
        · rw [readToEnd_of_raised held.1]
          exact ⟨held, rfl⟩
  | case3 state e error next call again =>
    exact absurd (of_decide_eq_true again) (readSome_error_kind call)
  | case4 state e error next call once =>
    cases readSome_draws (policy.room_ne_zero state) call with
    | none unsuccessful nothing ends => exact ⟨[], nothing.symm, ends, .inl rfl⟩
  | case5 state e next call =>
    cases readSome_draws (policy.room_ne_zero state) call with
    | none unsuccessful nothing ends => exact ⟨[], nothing.symm, ends, .inl rfl⟩

/-- The calls of a loop: each hands out some bytes, up to one that does not. -/
inductive Loop : Endpoint → List Pulled → Reply IoError Unit → Endpoint → Prop
  /-- The loop has what it wants. -/
  | enough (e : Endpoint) : Loop e [] (.ok ()) e
  | again {e next last : Endpoint} {room : Nat} {got : Bytes} {pulled : List Pulled}
      {reply : Reply IoError Unit} (some : room ≠ 0) (call : e.readSome room = (.ok got, next))
      (rest : Loop next pulled reply last) :
      Loop e (⟨room, e, .ok got, next⟩ :: pulled) reply last
  /-- The loop comes back with what the call comes back with. -/
  | stopped {e next : Endpoint} {room : Nat} {reply : Reply IoError Bytes} (some : room ≠ 0)
      (call : e.readSome room = (reply, next)) (unsuccessful : ∀ got, reply ≠ .ok got) :
      Loop e [⟨room, e, reply, next⟩] (reply.map fun _ => ()) next

/-- They are a sequence of calls. -/
theorem Loop.pulls {e last : Endpoint} {pulled : List Pulled} {reply : Reply IoError Unit}
    (h : Loop e pulled reply last) :
    e.pulls (pulled.map fun p => .read p.room) = (pulled, last) := by
  induction h with
  | enough e => rfl
  | again some call rest ih =>
    rw [List.map_cons, Endpoint.pulls, call]
    dsimp only
    rw [ih]
  | stopped some call unsuccessful =>
    rw [List.map_cons, Endpoint.pulls, call]
    rfl

theorem Loop.conserved {e last : Endpoint} {pulled : List Pulled} {reply : Reply IoError Unit}
    (h : Loop e pulled reply last) :
    pulled.flatMap Pulled.bytes ++ last.arrivals = e.arrivals := by
  have whole := (e.pulls_exact (pulled.map fun p => .read p.room)).1
  rwa [h.pulls] at whole

/-- What they hand out is what their transport reads return. -/
theorem Loop.returned {e last : Endpoint} {pulled : List Pulled} {reply : Reply IoError Unit}
    (h : Loop e pulled reply last) :
    bytesOf (pulled.flatMap Pulled.calls) = pulled.flatMap Pulled.bytes := by
  have each := (e.pulls_exact (pulled.map fun p => .read p.room)).2
  rw [h.pulls] at each
  rw [bytesOf, List.flatMap_assoc, List.flatMap_def, List.flatMap_def]
  exact congrArg List.flatten (List.map_congr_left fun p member => (each p member).returned.symm)

theorem exists_loop_readFull (e : Endpoint) (count : Nat) :
    ∃ pulled, Loop e pulled (e.readFull count).reply (e.readFull count).endpoint ∧
      pulled.flatMap Pulled.bytes = (e.readFull count).data := by
  fun_induction readFull e count with
  | case1 e => exact ⟨[], .enough e, rfl⟩
  | case2 e count some next call => exact absurd rfl ((readSome_ok call).2.1 some)
  | case3 e count some got next call more ih =>
    obtain ⟨pulled, loop, data⟩ := ih
    refine ⟨_, .again some call loop, ?_⟩
    rw [List.flatMap_cons, data]
    rfl
  | case4 e count some error next call again =>
    exact absurd (of_decide_eq_true again) (readSome_error_kind call)
  | case5 e count some error next call once =>
    exact ⟨_, .stopped some call (Reply.error_ne_ok error), rfl⟩
  | case6 e count some next call => exact ⟨_, .stopped some call Reply.waiting_ne_ok, rfl⟩

theorem exists_loop_readToEnd {ρ : Type} (policy : RoomPolicy ρ) (state : ρ) (e : Endpoint) :
    ∃ pulled, Loop e pulled (e.readToEnd policy state).reply (e.readToEnd policy state).endpoint ∧
      pulled.flatMap Pulled.bytes = (e.readToEnd policy state).data := by
  fun_induction readToEnd policy state e with
  | case1 state e next call =>
    exact absurd rfl ((readSome_ok call).2.1 (policy.room_ne_zero state))
  | case2 state e got next call more ih =>
    obtain ⟨pulled, loop, data⟩ := ih
    refine ⟨_, .again (policy.room_ne_zero state) call loop, ?_⟩
    rw [List.flatMap_cons, data]
    rfl
  | case3 state e error next call again =>
    exact absurd (of_decide_eq_true again) (readSome_error_kind call)
  | case4 state e error next call once =>
    exact ⟨_, .stopped (policy.room_ne_zero state) call (Reply.error_ne_ok error), rfl⟩
  | case5 state e next call =>
    exact ⟨_, .stopped (policy.room_ne_zero state) call Reply.waiting_ne_ok, rfl⟩

/-- What is true of a loop that reads exactly so many bytes, and of what it comes back with. -/
structure FullLaw (e : Endpoint) (count : Nat) (o : FillOutcome) : Prop where
  /-- It succeeds with the next bytes of the stream if they arrive before the first failure. -/
  arrived : count ≤ e.harvest.bytes.length →
    o.reply = .ok () ∧ o.data = e.harvest.bytes.take count
  /-- Else it comes back with that failure. -/
  failed : e.harvest.bytes.length < count → o.reply = e.obstacle ∧ o.data = e.harvest.bytes
  /-- It makes no call behind one that fails. -/
  calls : ∃ pulled, Loop e pulled o.reply o.endpoint ∧ pulled.flatMap Pulled.bytes = o.data
  conserved : o.data ++ o.endpoint.arrivals = e.arrivals

/-- What is true of a loop that reads to the end of the stream, with rooms given by `policy`. -/
structure ToEndLaw {ρ : Type} (policy : RoomPolicy ρ) (state : ρ) (e : Endpoint)
    (o : FillOutcome) : Prop where
  /-- It comes back with the first failure, and never succeeds. -/
  failed : o.reply = e.obstacle ∧ o.reply ≠ .ok ()
  /-- It hands out exactly what its transport reads return before that, each of them with the
  room that it has. -/
  all : o.data = (e.harvestBy policy state).bytes ∧
    o.reply = (e.harvestBy policy state).ends.mapError SocketError.toIo
  /-- The answers come in parts to these reads, and bring the same bytes. -/
  parts : SocketDemux.arrivals (policy.returned state e.inbound.events) = e.arrivals
  /-- It makes no call behind the one that fails. -/
  calls : ∃ pulled, Loop e pulled o.reply o.endpoint ∧ pulled.flatMap Pulled.bytes = o.data ∧
    bytesOf (pulled.flatMap Pulled.calls) = o.data
  conserved : o.data ++ o.endpoint.arrivals = e.arrivals
  /-- So it has read all answers before the failure, up to the last part of one that was too
  large for its last read: if somebody cancels while that comes, the rest stays in front of the
  stream. -/
  answers : ∃ left, o.data ++ left = e.harvest.bytes ∧
    (left = [] ∨ o.endpoint.HoldsBack left ∧ o.reply = .error cancelled)

theorem readFull_law (e : Endpoint) (count : Nat) : e.FullLaw count (e.readFull count) := by
  obtain ⟨pulled, loop, data⟩ := e.exists_loop_readFull count
  obtain ⟨arrived, failed⟩ := e.readFull_harvest count
  exact ⟨arrived, failed, ⟨pulled, loop, data⟩, data ▸ loop.conserved⟩

theorem readToEnd_law {ρ : Type} (policy : RoomPolicy ρ) (state : ρ) (e : Endpoint) :
    e.ToEndLaw policy state (e.readToEnd policy state) := by
  obtain ⟨pulled, loop, data⟩ := exists_loop_readToEnd policy state e
  obtain ⟨left, answers, reply, held⟩ := readToEnd_harvest policy state e
  exact {
    failed := ⟨reply, reply ▸ e.obstacle_ne_ok⟩
    all := readToEnd_returned policy state e
    parts := policy.arrivals_returned state e.inbound.events
    calls := ⟨pulled, loop, data, loop.returned.trans data⟩
    conserved := data ▸ loop.conserved
    answers := ⟨left, answers, held⟩ }

/-- **Reading loses nothing.** Take an endpoint with any answers of the transport to come. What a
sequence of calls with any rooms hands out, with cancellation requested at any moment, is what is
taken off the transport by then: a call hands out nothing exactly if it has no room, one that
fails has taken nothing, and the end of the stream is an error like any other. So a loop that
reads so many bytes succeeds with the next ones if they arrive before the first failure, and a
loop that reads to the end, whatever room each of its reads has, hands out exactly what these
reads return before the first failure; each of them comes back with that failure, and has not
called again. -/
theorem reading_loses_nothing (e : Endpoint) :
    (∀ calls, (e.pulls calls).1.flatMap Pulled.bytes ++ (e.pulls calls).2.arrivals =
        e.arrivals ∧ ∀ pulled ∈ (e.pulls calls).1, pulled.Exact) ∧
      (∀ count, e.FullLaw count (e.readFull count)) ∧
      ∀ {ρ : Type} (policy : RoomPolicy ρ) (state : ρ),
        ToEndLaw policy state e (e.readToEnd policy state) :=
  ⟨e.pulls_exact, e.readFull_law, fun policy state => readToEnd_law policy state e⟩

/-- Brings three bytes, is interrupted, and brings four more while somebody cancels. -/
def overtakenStream : Endpoint where
  inbound :=
    { events :=
        [⟨.data [1, 2, 3], false, {}⟩, ⟨.failed (.os 4), false, {}⟩,
          ⟨.data [4, 5, 6, 7], true, {}⟩] }

/-- Room for two bytes a time. -/
def inPairs : RoomPolicy Unit where
  room _ := 2
  next state _ := state
  room_pos _ := Nat.two_pos

/-- Two bytes a time, the reads return five of the seven bytes before they find the endpoint
cancelled, and the loop hands out these five. With more room for its reads, it is handed all
seven. -/
theorem overtakenStream_read :
    overtakenStream.harvest.bytes = [1, 2, 3, 4, 5, 6, 7] ∧
      (overtakenStream.readFull 5).reply = .ok () ∧
      (overtakenStream.readFull 5).data = [1, 2, 3, 4, 5] ∧
      (overtakenStream.readFull 8).reply = .error cancelled ∧
      (overtakenStream.readToEnd inPairs ()).reply = .error cancelled ∧
      (overtakenStream.readToEnd inPairs ()).data = [1, 2, 3, 4, 5] ∧
      (overtakenStream.readToEnd .doubling {}).data = [1, 2, 3, 4, 5, 6, 7] := by
  have bytes : overtakenStream.harvest.bytes = [1, 2, 3, 4, 5, 6, 7] := by decide
  have obstacle : overtakenStream.obstacle = .error cancelled := by decide
  have returned : (overtakenStream.harvestBy inPairs ()).bytes = [1, 2, 3, 4, 5] := by
    decide +kernel
  have roomy : (overtakenStream.harvestBy .doubling {}).bytes = [1, 2, 3, 4, 5, 6, 7] := by
    decide +kernel
  obtain ⟨-, full, toEnd⟩ := reading_loses_nothing overtakenStream
  obtain ⟨reply, data⟩ := (full 5).arrived (by rw [bytes]; decide)
  have late := ((full 8).failed (by rw [bytes]; decide)).1
  have failed := (toEnd inPairs ()).failed.1
  have five := (toEnd inPairs ()).all.1
  have seven := (toEnd .doubling {}).all.1
  rw [bytes] at data
  rw [obstacle] at late failed
  exact ⟨bytes, reply, data, late, failed, five.trans returned, seven.trans roomy⟩

end Endpoint

end SocketDemux
