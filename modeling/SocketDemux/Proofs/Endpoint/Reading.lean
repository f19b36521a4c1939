import SocketDemux.Proofs.Endpoint.Stops
/-!
# SocketDemux.Proofs.Endpoint.Reading

A **read** ends at the first thing that decides it.

* `ReadScript.First` — the first stop that happens, and where. Nothing else happens up to there
  (`First.unique`).
* `EndsAt`, `readRun_first` — by induction on the run: a read comes back with what its first
  stop says, and has made the calls up to there.
* `Offered` — every call is offered the unfilled rest of the target.
* `Endpoint.read_law` — the law of a read, `ReadLaw`.
-/

namespace SocketDemux

namespace ReadScript

variable {s : ReadScript}

/-! ### The run -/

/-- The first stop that happens, and where. -/
structure First (s : ReadScript) (need index : Nat) (stop : ReadStop) : Prop where
  found : s.stop? need index = some stop
  before : ∀ earlier < index, s.stop? need earlier = none

/-- A run that needs so much comes to an end at its first stop. -/
structure EndsAt (s : ReadScript) (room need : Nat) (run : ReadRun) (index : Nat)
    (stop : ReadStop) : Prop where
  first : s.First need index stop
  reply : run.reply = stop.reply
  calls : run.calls = s.calls room (stop.calls index)
  taken : run.taken = (s.brought index).take room

/-- Nothing else happens up to the first stop. -/
theorem First.unique {need index earlier : Nat} {stop other : ReadStop}
    (h : s.First need index stop) (upTo : earlier ≤ index)
    (happens : other.Happens s need earlier) : earlier = index ∧ other = stop := by
  have found := stop?_eq_some_iff.mpr happens
  rcases Nat.lt_or_eq_of_le upTo with before | rfl
  · rw [h.before earlier before] at found
    cases found
  · rw [h.found] at found
    exact ⟨rfl, (Option.some.inj found).symm⟩

theorem calls_one (room : Nat) : s.calls room 1 = [⟨room, (s.answer 0).clip room⟩] := rfl

theorem calls_succ {event : ReadEvent} {rest : List ReadEvent} (events : s.events = event :: rest)
    (room count : Nat) :
    s.calls room (count + 1) =
      ⟨room, event.reply.clip room⟩ ::
        (s.behind event rest).calls (room - event.reply.bytes.length) count := by
  have first : s.answer 0 = event.reply := by
    rw [answer, events]
    rfl
  have later : ∀ index, room - (s.brought (index + 1)).length =
      room - event.reply.bytes.length - ((s.behind event rest).brought index).length := by
    intro index
    rw [brought_succ events, List.length_append]
    omega
  simp only [calls, List.range_succ_eq_map, List.map_cons, List.map_map, Function.comp_def,
    later, answer_succ events, first]
  rfl

/-- A stop before the first answer, or at it. -/
theorem EndsAt.at_once {room need : Nat} {run : ReadRun} {stop : ReadStop}
    (found : s.stop? need 0 = some stop) (reply : run.reply = stop.reply)
    (calls : run.calls = s.calls room (stop.calls 0)) (taken : run.taken = []) :
    s.EndsAt room need run 0 stop where
  first := ⟨found, fun _ wrong => absurd wrong (Nat.not_lt_zero _)⟩
  reply := reply
  calls := calls
  taken := taken.trans List.take_nil.symm

/-- A stop at the first answer. -/
theorem EndsAt.at_answer {room need : Nat} {run : ReadRun} {stop : ReadStop}
    (found : s.stop? need 0 = some stop) (asked : stop.calls 0 = 1)
    (reply : run.reply = stop.reply) (calls : run.calls = [⟨room, (s.answer 0).clip room⟩])
    (taken : run.taken = []) : s.EndsAt room need run 0 stop :=
  at_once found reply (by rw [asked]; exact calls) taken

/-- An answer that there is room for, and that nothing happens at, leaves it to the others. -/
theorem EndsAt.cons {s' : ReadScript} {event : ReadEvent} {rest : List ReadEvent}
    {answer : ReadReply} {room need index : Nat} {run : ReadRun} {stop : ReadStop}
    (events : s.events = event :: rest) (same : event.reply = answer)
    (nothing : s.stop? need 0 = none) (fits : answer.bytes.length ≤ room)
    (behind : s.behind event rest = s')
    (h : s'.EndsAt (room - answer.bytes.length) (need - answer.bytes.length) run index stop) :
    s.EndsAt room need (run.after ⟨room, answer⟩ answer.bytes) (index + 1) stop := by
  subst behind same
  have more : stop.calls (index + 1) = stop.calls index + 1 := by
    cases stop with
    | _ => rfl
  have whole : event.reply.clip room = event.reply := by
    cases answer : event.reply with
    | failed e => rfl
    | data bytes =>
      rw [answer] at fits
      exact congrArg ReadReply.data (List.take_of_length_le fits)
  constructor
  case first =>
    refine ⟨(stop?_succ events ..).trans h.first.found, ?_⟩
    intro earlier before
    cases earlier with
    | zero => exact nothing
    | succ earlier =>
      rw [stop?_succ events]
      exact h.first.before earlier (Nat.lt_of_succ_lt_succ before)
  case reply => exact h.reply
  case calls => rw [ReadRun.after_calls, h.calls, more, calls_succ events, whole]
  case taken =>
    rw [ReadRun.after_taken, h.taken, brought_succ events, List.take_append,
      List.take_of_length_le fits]

theorem asks_zero {need : Nat} (some : ¬need = 0) (unseen : ¬(s.flag.raised && !s.retry) = true) :
    s.Asks need 0 := by
  refine (asks_iff need 0).mpr ⟨fun enough => some (Nat.le_zero.mp enough), ?_⟩
  rw [raisedAt]
  simpa [repeats] using unseen

theorem answer_zero {event : ReadEvent} {rest : List ReadEvent}
    (events : s.events = event :: rest) : s.answer 0 = event.reply := by
  rw [answer, events]
  rfl

section First

variable {event : ReadEvent} {rest : List ReadEvent} {need : Nat}

/-- Nothing ends a read at bytes that have arrived. -/
theorem stop?_of_data {bytes : Bytes} (events : s.events = event :: rest) (asks : s.Asks need 0)
    (answer : event.reply = .data bytes) (some : ¬bytes = []) : s.stop? need 0 = none := by
  rw [stop?_of_asks asks, answerStop?, answer_zero events, answer]
  exact if_neg some

/-- Nothing ends a read at an interruption. -/
theorem stop?_of_interrupted {e : IoError} (events : s.events = event :: rest)
    (asks : s.Asks need 0) (answer : event.reply = .failed e)
    (interrupted : e.isInterrupted = true) : s.stop? need 0 = none := by
  rw [stop?_of_asks asks, answerStop?, answer_zero events, answer]
  exact if_pos interrupted

theorem stop?_of_blocked {e : IoError} (events : s.events = event :: rest) (asks : s.Asks need 0)
    (answer : event.reply = .failed e) (uninterrupted : ¬e.isInterrupted = true)
    (blocked : e.isWouldBlock = true) : s.stop? need 0 = s.waitStop? 0 := by
  rw [stop?_of_asks asks, answerStop?, answer_zero events, answer]
  simp [uninterrupted, blocked]

end First

/-- The end of a wait is a stop of its own, and never a success. -/
theorem calls_of_waitStop? {index : Nat} {stop : ReadStop} (found : s.waitStop? index = some stop) :
    stop.calls index = index + 1 ∧ stop.reply ≠ .ok () := by
  cases stop with
  | enough | cancelled | closed | broken =>
    unfold waitStop? at found
    split at found
    · cases found
    · split at found
      · cases found
      · split at found
        · cases found
        · split at found
          · cases found
          · cases found
  | unpolled | awoken | expired | waiting => exact ⟨rfl, fun wrong => by cases wrong⟩

/-- A wait fails if a stop happens at its end. -/
theorem awaitReady_eq {event : ReadEvent} {rest : List ReadEvent}
    (events : s.events = event :: rest) :
    Reply.ofExcept
        (awaitReady (s.flag.raiseIf event.cancels) s.deadline s.now event.wait).1 =
      match s.waitStop? 0 with
      | some stop => stop.reply
      | none => .ok () := by
  have poll : s.pollFailure? 0 = (event.wait.run s.deadline s.now).2.failure? := by
    rw [pollFailure?, events]
    rfl
  have raised : s.raisedAt 1 = (s.flag.raiseIf event.cancels).raised := by
    simp [raisedAt, events]
  have late : s.outOfTime 0 = (!decide ((event.wait.run s.deadline s.now).2 = .ready) &&
      s.deadline.expired (event.wait.run s.deadline s.now).1) := by
    rw [outOfTime, events]
    rfl
  have more : ¬s.events.length ≤ 0 := by simp [events]
  rw [Pause.awaitReady_fst, waitStop?, poll, raised, late, if_neg more]
  cases (event.wait.run s.deadline s.now).2.failure? with
  | some e => rfl
  | none =>
    dsimp only
    split
    · rfl
    · split
      · rfl
      · rfl

theorem exists_waitStop_of_error {event : ReadEvent} {rest : List ReadEvent}
    {failure : SocketError} {later : Instant} (events : s.events = event :: rest)
    (waited : awaitReady (s.flag.raiseIf event.cancels) s.deadline s.now event.wait =
      (.error failure, later)) :
    ∃ stop, s.waitStop? 0 = some stop ∧ stop.reply = .error failure := by
  have verdict := awaitReady_eq events
  rw [waited] at verdict
  cases found : s.waitStop? 0 with
  | none =>
    rw [found] at verdict
    cases verdict
  | some stop =>
    rw [found] at verdict
    exact ⟨stop, rfl, verdict.symm⟩

theorem waitStop?_of_ok {event : ReadEvent} {rest : List ReadEvent} {later : Instant}
    (events : s.events = event :: rest)
    (waited : awaitReady (s.flag.raiseIf event.cancels) s.deadline s.now event.wait =
      (.ok (), later)) :
    s.waitStop? 0 = none := by
  have verdict := awaitReady_eq events
  rw [waited] at verdict
  cases found : s.waitStop? 0 with
  | none => rfl
  | some stop =>
    rw [found] at verdict
    exact absurd verdict.symm (calls_of_waitStop? found).2

/-- Where nothing is going to happen, a wait comes to its end in one of these ways. -/
theorem exists_waitStop (events : s.events = []) :
    ∃ stop, s.waitStop? 0 = some stop ∧
      stop.reply = (awaitNothing s.flag s.deadline s.now).1 := by
  have raised : s.raisedAt 1 = s.flag.raised := by simp [raisedAt, events]
  have last : s.events.length ≤ 0 := by simp [events]
  have late : s.outOfTime 0 = (s.deadline : Option Instant).isSome := by
    rw [outOfTime, events]
    rfl
  have fine : s.pollFailure? 0 = none := by
    rw [pollFailure?, events]
    rfl
  rw [waitStop?, fine, raised, late, if_pos last]
  unfold awaitNothing
  cases s.flag.raised with
  | true => exact ⟨.awoken, rfl, rfl⟩
  | false =>
    cases s.deadline with
    | some limit => exact ⟨.expired, rfl, rfl⟩
    | none => exact ⟨.waiting, rfl, rfl⟩

end ReadScript

open ReadScript in
/-- Every run of the read loop ends at its first stop. -/
theorem readRun_first (ending : Ending) (deadline : Deadline) {room need : Nat}
    (fits : need ≤ room) (retry : Bool) (flag : CancelFlag) (now : Instant)
    (events : List ReadEvent) :
    ∃ index stop, (ReadScript.mk events ending deadline flag now retry).EndsAt room need
      (readRun ending deadline room need retry flag now events) index stop := by
  fun_induction readRun ending deadline room need retry flag now events with
  | case1 => exact ⟨0, .enough, .at_once rfl rfl rfl rfl⟩
  | case2 room need retry flag now events some seen =>
    refine ⟨0, .cancelled, .at_once ?_ rfl rfl rfl⟩
    rw [stop?_eq_some_iff]
    rw [Bool.and_eq_true, Bool.not_eq_true'] at seen
    exact ⟨Nat.pos_of_ne_zero some, seen.2, by rw [raisedAt, seen.1]; rfl⟩
  | case3 room need retry flag now some unseen finished =>
    subst finished
    have asks : (ReadScript.mk [] .ended deadline flag now retry).Asks need 0 :=
      asks_zero some unseen
    refine ⟨0, .closed, .at_answer (stop?_eq_some_iff.mpr ⟨asks, rfl⟩) rfl rfl ?_ rfl⟩
    exact congrArg (fun reply => [ReadCall.mk room reply]) (ReadReply.clip_empty room).symm
  | case4 room need retry flag now some unseen quiet =>
    subst quiet
    generalize same : ReadScript.mk [] .quiet deadline flag now retry = s
    have asks : s.Asks need 0 := by
      subst same
      exact asks_zero some unseen
    have answer : s.answer 0 = .failed wouldBlock := by
      subst same
      rfl
    obtain ⟨stop, found, reply⟩ := exists_waitStop (s := s) (by rw [← same])
    refine ⟨0, stop, .at_answer ?_ (calls_of_waitStop? found).1 ?_ ?_ rfl⟩
    · rw [stop?_of_asks asks, answerStop?_of_blocked (by rw [answer]; rfl)]
      exact found
    · rw [reply, ← same]
    · rw [answer]
      rfl
  | case5 room need retry flag now some unseen event rest flag' answer =>
    have asks : (ReadScript.mk (event :: rest) ending deadline flag now retry).Asks need 0 :=
      asks_zero some unseen
    refine ⟨0, .closed, .at_answer (stop?_eq_some_iff.mpr ⟨asks, answer⟩) rfl rfl ?_ rfl⟩
    rw [answer_zero rfl, answer, ReadReply.clip_empty]
  | case6 room need retry flag now some unseen event rest flag' bytes answer more short =>
    have asks := asks_zero (s := ⟨event :: rest, ending, deadline, flag, now, retry⟩) some unseen
    have brought : (ReadScript.mk (event :: rest) ending deadline flag now retry).brought 1 =
        bytes := by
      rw [brought_succ rfl, answer]
      exact List.append_nil bytes
    refine ⟨1, .enough, ⟨stop?_of_enough ?_, ?_⟩, rfl, ?_, ?_⟩
    · rw [brought]
      exact Nat.le_of_lt (Nat.lt_of_le_of_lt fits short)
    · intro earlier before
      rw [Nat.lt_one_iff.mp before]
      exact stop?_of_data rfl asks answer more
    · rw [ReadStop.calls, calls_one, answer_zero rfl, answer]
      rfl
    · rw [brought]
  | case7 room need retry flag now some unseen event rest flag' bytes answer more roomy ih =>
    have asks := asks_zero (s := ⟨event :: rest, ending, deadline, flag, now, retry⟩) some unseen
    obtain ⟨index, stop, ends⟩ := ih (by omega)
    refine ⟨index + 1, stop, .cons rfl answer (stop?_of_data rfl asks answer more)
      (Nat.le_of_not_lt roomy) ?_ ends⟩
    simp [ReadScript.behind, ReadEvent.endsAt, answer, ReadReply.blocked, ReadReply.interrupted,
      flag']
  | case8 room need retry flag now some unseen event rest flag' e answer interrupted ih =>
    have asks := asks_zero (s := ⟨event :: rest, ending, deadline, flag, now, retry⟩) some unseen
    obtain ⟨index, stop, ends⟩ := ih fits
    refine ⟨index + 1, stop, .cons rfl answer (stop?_of_interrupted rfl asks answer interrupted)
      (Nat.zero_le _) ?_ ends⟩
    simp [ReadScript.behind, ReadEvent.endsAt, answer, ReadReply.blocked, ReadReply.interrupted,
      interrupted, flag']
  | case9 room need retry flag now some unseen event rest flag' e answer uninterrupted blocked
      failure later waited =>
    have asks := asks_zero (s := ⟨event :: rest, ending, deadline, flag, now, retry⟩) some unseen
    obtain ⟨stop, found, reply⟩ := exists_waitStop_of_error
      (s := ⟨event :: rest, ending, deadline, flag, now, retry⟩) rfl waited
    have ends := stop?_of_blocked rfl asks answer uninterrupted blocked
    refine ⟨0, stop, .at_answer (ends.trans found) (calls_of_waitStop? found).1 reply.symm ?_ rfl⟩
    rw [answer_zero rfl, answer]
    rfl
  | case10 room need retry flag now some unseen event rest flag' e answer uninterrupted blocked
      later waited ih =>
    have asks := asks_zero (s := ⟨event :: rest, ending, deadline, flag, now, retry⟩) some unseen
    have goesOn := waitStop?_of_ok
      (s := ⟨event :: rest, ending, deadline, flag, now, retry⟩) rfl waited
    have nothing := stop?_of_blocked rfl asks answer uninterrupted blocked
    have time : (event.wait.run deadline now).1 = later := by
      rw [← awaitReady_snd flag' deadline now event.wait, waited]
    obtain ⟨index, stop, ends⟩ := ih fits
    refine ⟨index + 1, stop, .cons rfl answer (nothing.trans goesOn) (Nat.zero_le _) ?_ ends⟩
    simp [ReadScript.behind, ReadEvent.endsAt, answer, ReadReply.blocked, ReadReply.interrupted,
      uninterrupted, blocked, time, flag']
  | case11 room need retry flag now some unseen event rest flag' e answer uninterrupted free =>
    have asks := asks_zero (s := ⟨event :: rest, ending, deadline, flag, now, retry⟩) some unseen
    have happens : (ReadStop.broken e).Happens
        ⟨event :: rest, ending, deadline, flag, now, retry⟩ need 0 :=
      ⟨asks, answer, Bool.eq_false_iff.mpr uninterrupted, Bool.eq_false_iff.mpr free⟩
    refine ⟨0, .broken e, .at_answer (stop?_eq_some_iff.mpr happens) rfl rfl ?_ rfl⟩
    rw [answer_zero rfl, answer]
    rfl

/-! ### The calls -/

/-- The bytes that some calls have brought. -/
def bytesOf (calls : List ReadCall) : Bytes := calls.flatMap (·.reply.bytes)

/-- Each call is offered what the calls before it have left of the room, and is made because
they have not brought enough. -/
def Offered (room need : Nat) : List ReadCall → Prop
  | [] => True
  | call :: rest =>
      call.room = room ∧ 0 < need ∧
        Offered (room - call.reply.bytes.length) (need - call.reply.bytes.length) rest

/-- The same, for a call wherever it stands. -/
theorem Offered.of_append {room need : Nat} {front back : List ReadCall} {call : ReadCall}
    (h : Offered room need (front ++ call :: back)) :
    call.room = room - (bytesOf front).length ∧ (bytesOf front).length < need := by
  induction front generalizing room need with
  | nil => exact ⟨h.1, h.2.1⟩
  | cons first front ih =>
    obtain ⟨-, -, later⟩ := h
    obtain ⟨offered, made⟩ := ih later
    have whole : (bytesOf (first :: front)).length =
        first.reply.bytes.length + (bytesOf front).length := by
      rw [bytesOf, List.flatMap_cons, List.length_append]
      rfl
    omega

section Calls

variable (ending : Ending) (deadline : Deadline) (room need : Nat) (retry : Bool)
  (flag : CancelFlag) (now : Instant) (events : List ReadEvent)

/-- What is taken is what the calls have brought, in their order. -/
theorem bytesOf_calls :
    bytesOf (readRun ending deadline room need retry flag now events).calls =
      (readRun ending deadline room need retry flag now events).taken := by
  fun_induction readRun ending deadline room need retry flag now events with
  | case7 room need retry flag now _ _ event rest flag' bytes _ _ _ ih =>
    exact congrArg (bytes ++ ·) ih
  | case8 room need retry flag now _ _ event rest flag' e _ _ ih => exact ih
  | case10 room need retry flag now _ _ event rest flag' e _ _ _ later _ ih => exact ih
  | _ => simp [bytesOf, ReadReply.bytes]

theorem offered_calls :
    Offered room need (readRun ending deadline room need retry flag now events).calls := by
  fun_induction readRun ending deadline room need retry flag now events with
  | case1 | case2 => exact trivial
  | case7 room need retry flag now some _ event rest flag' bytes _ _ _ ih =>
    exact ⟨rfl, Nat.pos_of_ne_zero some, ih⟩
  | case8 room need retry flag now some _ event rest flag' e _ _ ih =>
    exact ⟨rfl, Nat.pos_of_ne_zero some, ih⟩
  | case10 room need retry flag now some _ event rest flag' e _ _ _ later _ ih =>
    exact ⟨rfl, Nat.pos_of_ne_zero some, ih⟩
  | _ => exact ⟨rfl, Nat.pos_of_ne_zero ‹_›, trivial⟩

end Calls

namespace Endpoint

/-- What a read meets. -/
def script (e : Endpoint) (timeout : Timeout) : ReadScript where
  events := e.inbound.events
  ending := e.inbound.ending
  deadline := timeout.deadline e.now
  flag := e.flag
  now := e.now

/-- What is true of a read of an endpoint, and of what it comes back with. -/
structure ReadLaw (e : Endpoint) (target : Bytes) (need : Nat) (timeout : Timeout)
    (o : ReadOutcome) : Prop where
  /-- More than the target holds is refused without a look at anything. -/
  refused : target.length < need → o = ⟨.error needExceedsTarget, target, [], [], e⟩
  /-- Nothing is there at once, also without a look at anything. -/
  nothing : need = 0 → o = ⟨.ok 0, target, [], [], e⟩
  /-- All other reads end at the first thing that decides them. -/
  decided : 0 < need → need ≤ target.length → ∃ (index : Nat) (stop : ReadStop),
    stop.Happens (e.script timeout) need index ∧
      (∀ (earlier : Nat) (other : ReadStop), earlier ≤ index →
        other.Happens (e.script timeout) need earlier →
        earlier = index ∧ other = stop) ∧
      o.reply = stop.reply.map (fun _ => o.taken.length) ∧
      o.calls = (e.script timeout).calls target.length (stop.calls index) ∧
      o.taken = ((e.script timeout).brought index).take target.length
  /-- What is reported as read is what was taken, and stands at the front of the target. -/
  total : ∀ total, o.reply = .ok total →
    need ≤ total ∧ total ≤ target.length ∧ o.taken.length = total ∧
      o.target.take total = o.taken ∧ o.target.drop total = target.drop total
  /-- Every transport read is offered the unfilled rest of the target, and none is made once
  enough has come. -/
  offered : ∀ front call back, o.calls = front ++ call :: back →
    call.room = target.length - (bytesOf front).length ∧ (bytesOf front).length < need
  taken : o.taken = bytesOf o.calls
  /-- A read that does not succeed has taken too little. -/
  failed : (∀ total, o.reply ≠ .ok total) → o.taken.length < need
  /-- The time is up only after a wait that has not made the socket ready, with the flag
  down. -/
  timedOut : o.reply = .error .readTimeout →
    ∃ index, ReadStop.expired.Happens (e.script timeout) need index
  /-- What is taken is taken off the stream, and nothing else is. -/
  conserved : o.taken ++ o.endpoint.arrivals = e.arrivals

theorem target_readBy (e : Endpoint) (target : Bytes) (need : Nat) (deadline : Deadline) :
    (e.readBy target need deadline).target =
      overwrite target (e.readBy target need deadline).taken := by
  unfold readBy
  split
  · rfl
  · rfl

theorem readBy_zero (e : Endpoint) (target : Bytes) (deadline : Deadline) :
    e.readBy target 0 deadline = ⟨.ok 0, target, [], [], e⟩ := by
  have run : readRun e.inbound.ending deadline target.length 0 false e.flag e.now
      e.inbound.events = ⟨.ok (), [], [], e.inbound.events, e.flag, e.now⟩ := by
    rw [readRun.eq_def]
    exact if_pos rfl
  rw [readBy, if_neg (Nat.not_lt_zero _), run]
  rfl

theorem readBy_refused (e : Endpoint) {target : Bytes} {need : Nat} (deadline : Deadline)
    (more : target.length < need) :
    e.readBy target need deadline = ⟨.error needExceedsTarget, target, [], [], e⟩ :=
  if_pos more

theorem offered_readBy (e : Endpoint) (target : Bytes) (need : Nat) (deadline : Deadline) :
    Offered target.length need (e.readBy target need deadline).calls := by
  unfold readBy
  split
  · exact trivial
  · exact offered_calls ..

theorem bytesOf_readBy (e : Endpoint) (target : Bytes) (need : Nat) (deadline : Deadline) :
    bytesOf (e.readBy target need deadline).calls = (e.readBy target need deadline).taken := by
  unfold readBy
  split
  · rfl
  · exact bytesOf_calls ..

/-- A read into a target that is large enough ends at its first stop. -/
theorem exists_first_read (e : Endpoint) {target : Bytes} {need : Nat} (timeout : Timeout)
    (fits : need ≤ target.length) :
    ∃ index stop, (e.script timeout).First need index stop ∧
      (e.read target need timeout).reply =
        stop.reply.map (fun _ => (e.read target need timeout).taken.length) ∧
      (e.read target need timeout).calls =
        (e.script timeout).calls target.length (stop.calls index) ∧
      (e.read target need timeout).taken =
        ((e.script timeout).brought index).take target.length := by
  obtain ⟨index, stop, ends⟩ := readRun_first e.inbound.ending (timeout.deadline e.now) fits false
    e.flag e.now e.inbound.events
  rw [read, readBy, if_neg (Nat.not_lt.mpr fits)]
  refine ⟨index, stop, ends.first, ?_, ends.calls, ends.taken⟩
  dsimp only
  rw [ends.reply]

/-- A read that does not succeed has taken too little. -/
theorem taken_lt_of_read (e : Endpoint) {target : Bytes} {need : Nat} (timeout : Timeout)
    (unsuccessful : ∀ total, (e.read target need timeout).reply ≠ .ok total) :
    (e.read target need timeout).taken.length < need := by
  by_cases fits : need ≤ target.length
  · obtain ⟨index, stop, first, reply, -, taken⟩ := e.exists_first_read timeout fits
    have other : stop ≠ .enough := by
      rintro rfl
      exact unsuccessful _ reply
    have short := ReadScript.brought_lt_of_happens other
      (ReadScript.stop?_eq_some_iff.mp first.found)
    rw [taken, List.length_take]
    omega
  · have more := Nat.lt_of_not_le fits
    rw [read, readBy_refused e _ more]
    exact Nat.lt_of_le_of_lt (Nat.zero_le _) more

/-- A read whose time is up has come to the end of a wait. -/
theorem exists_expired_of_read (e : Endpoint) {target : Bytes} {need : Nat} (timeout : Timeout)
    (late : (e.read target need timeout).reply = .error .readTimeout) :
    ∃ index, ReadStop.expired.Happens (e.script timeout) need index := by
  by_cases fits : need ≤ target.length
  · obtain ⟨index, stop, first, reply, -⟩ := e.exists_first_read timeout fits
    rw [late] at reply
    cases stop with
    | expired => exact ⟨index, ReadScript.stop?_eq_some_iff.mp first.found⟩
    | _ => cases reply
  · rw [read, readBy_refused e _ (Nat.lt_of_not_le fits)] at late
    cases late

/-- Every read keeps the law. -/
theorem read_law (e : Endpoint) (target : Bytes) (need : Nat) (timeout : Timeout) :
    e.ReadLaw target need timeout (e.read target need timeout) where
  refused := readBy_refused e _
  nothing zero := by
    subst zero
    exact readBy_zero e target _
  decided _ fits := by
    obtain ⟨index, stop, first, reply, calls, taken⟩ := e.exists_first_read timeout fits
    exact ⟨index, stop, ReadScript.stop?_eq_some_iff.mp first.found,
      fun _ _ upTo happens => first.unique upTo happens, reply, calls, taken⟩
  total total success := by
    obtain ⟨length, enough⟩ := readBy_ok success
    have room := e.length_taken_readBy_le target need (timeout.deadline e.now)
    rw [read, target_readBy, length]
    rw [length] at enough
    exact ⟨enough, room, rfl, take_overwrite .., List.drop_left⟩
  offered front call back made := by
    have offered := e.offered_readBy target need (timeout.deadline e.now)
    rw [← read, made] at offered
    exact offered.of_append
  taken := (e.bytesOf_readBy target need _).symm
  failed := e.taken_lt_of_read timeout
  timedOut := e.exists_expired_of_read timeout
  conserved := readBy_arrivals ..

/-- Brings three bytes, with an interruption and a wait in between; while it is waited for
more, cancellation is requested, and the time runs out. -/
def hesitantStream : Endpoint where
  inbound :=
    { events :=
        [⟨.data [1, 2], false, {}⟩, ⟨.failed (.os 4), false, {}⟩,
          ⟨.failed wouldBlock, false, ⟨5, .idle⟩⟩, ⟨.data [3], false, {}⟩,
          ⟨.failed wouldBlock, true, ⟨30, .ready⟩⟩, ⟨.data [4, 5], false, {}⟩] }

theorem hesitantStream_read :
    hesitantStream.ReadLaw (List.replicate 8 0) 5 (some ⟨20⟩)
        (hesitantStream.read (List.replicate 8 0) 5 (some ⟨20⟩)) ∧
      (hesitantStream.read (List.replicate 8 0) 5 (some ⟨20⟩)).reply =
        .error .terminationRequested ∧
      (hesitantStream.read (List.replicate 8 0) 5 (some ⟨20⟩)).taken = [1, 2, 3] ∧
      (hesitantStream.read (List.replicate 8 0) 5 (some ⟨20⟩)).calls.map (·.room) =
        [8, 6, 6, 6, 5] ∧
      ReadStop.awoken.Happens (hesitantStream.script (some ⟨20⟩)) 5 4 ∧
      (hesitantStream.read [7, 7, 7, 7] 3 none).reply = .ok 3 ∧
      (hesitantStream.read [7, 7, 7, 7] 3 none).target = [1, 2, 3, 7] :=
  ⟨read_law .., by decide, by decide, by decide, ReadScript.stop?_eq_some_iff.mp (by decide),
    by decide, by decide⟩

end Endpoint

end SocketDemux
