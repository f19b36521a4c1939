import SocketDemux.Proofs.Buffer.Outlook
import SocketDemux.Proofs.Cancellation.Stream
import SocketDemux.Proofs.Endpoint.Reading
/-!
# SocketDemux.Proofs.Endpoint.Harvest

What there is to read through the **stream interface**, said without the calls.

Each call of the stream interface reads once, with a time budget of its own, and comes back as
soon as something has arrived. What a reader gets out of a transport by such calls is its
`Harvest`: what comes before the first failure, and that failure.

A transport read returns no more than there is room for. So an answer that is larger comes in
parts, and what the answers are as the reads of a loop get them depends on the rooms of these
reads. That matters if somebody cancels while such an answer comes: nobody reads the parts of it
behind the first one.

* `Harvest.gather` — the harvest, by recursion on the answers of the transport. The time for the
  next bytes begins when the last ones have arrived.
* `RoomPolicy.returned` — the answers as the reads of a loop get them. They bring the same bytes.
* `exists_first_harvest` — without a time budget, it ends at the first stop of a read that wants
  everything.
* `readRun_comesUpon` — a read that needs one byte comes upon the failure, or upon the first
  answer with bytes, by recursion on the read loop.
* `readRun_gathers`, `readSome_draws` — one call takes the front of the harvest and leaves the
  rest, but for the parts of an answer that are not read any more (`HoldsBack`).
* `readRun_reaps`, `readSome_reaps` — nothing is held back from what the reads of a loop get.
-/

namespace SocketDemux

/-! ### What there is to read -/

/-- What comes before the first failure, and the failure. -/
structure Harvest where
  bytes : Bytes
  ends : Reply SocketError Unit

namespace Harvest

/-- The harvest with bytes in front of it. -/
def after (harvest : Harvest) (bytes : Bytes) : Harvest :=
  { harvest with bytes := bytes ++ harvest.bytes }

theorem after_after (harvest : Harvest) (front back : Bytes) :
    (harvest.after back).after front = harvest.after (front ++ back) := by
  simp [after]

/-- Goes through the answers of a transport up to the first failure. The time for the next bytes
begins when the last ones have arrived; `retry` says that the last read was interrupted. -/
def gather (ending : Ending) (timeout : Timeout) (retry : Bool) (flag : CancelFlag)
    (deadline : Deadline) (now : Instant) (events : List ReadEvent) : Harvest :=
  if flag.raised && !retry then ⟨[], .error .terminationRequested⟩
  else
    match events with
    | [] =>
        match ending with
        | .ended => ⟨[], .error .closed⟩
        | .quiet => ⟨[], (awaitNothing flag deadline now).1⟩
    | event :: rest =>
        let flag := flag.raiseIf event.cancels
        match event.reply with
        | .data bytes =>
            if bytes = [] then ⟨[], .error .closed⟩
            else (gather ending timeout false flag (timeout.deadline now) now rest).after bytes
        | .failed e =>
            if e.isInterrupted then gather ending timeout true flag deadline now rest
            else if e.isWouldBlock then
              match awaitReady flag deadline now event.wait with
              | (.error failure, _) => ⟨[], .error failure⟩
              | (.ok (), later) => gather ending timeout false flag deadline later rest
            else ⟨[], .error (.failed .read e)⟩

section Gather

variable (ending : Ending) (timeout : Timeout) (retry : Bool) (flag : CancelFlag)
  (deadline : Deadline) (now : Instant) (events : List ReadEvent)

/-- There is always a failure at last, or the reader has to wait. -/
theorem gather_ends_ne_ok :
    (gather ending timeout retry flag deadline now events).ends ≠ .ok () := by
  fun_induction gather ending timeout retry flag deadline now events with
  | case3 => exact awaitNothing_ne_ok _ _ _
  | case5 _ _ _ _ _ _ _ _ _ _ _ ih => exact ih
  | case6 _ _ _ _ _ _ _ _ _ _ _ ih => exact ih
  | case8 _ _ _ _ _ _ _ _ _ _ _ _ _ _ ih => exact ih
  | _ => exact Reply.error_ne_ok _ _

/-- Nothing is to be had when the flag is seen up. -/
theorem gather_of_raised (raised : flag.raised = true) :
    gather ending timeout false flag deadline now events = ⟨[], .error .terminationRequested⟩ := by
  rw [gather.eq_def, raised]
  rfl

section Answers

variable {ending timeout retry flag deadline now} {event : ReadEvent} {rest : List ReadEvent}

theorem gather_data {bytes : Bytes} (unseen : ¬(flag.raised && !retry) = true)
    (answer : event.reply = .data bytes) (some : ¬bytes = []) :
    gather ending timeout retry flag deadline now (event :: rest) =
      (gather ending timeout false (flag.raiseIf event.cancels) (timeout.deadline now) now
        rest).after bytes := by
  rw [gather, if_neg unseen, answer]
  exact if_neg some

theorem gather_interrupted {e : IoError} (unseen : ¬(flag.raised && !retry) = true)
    (answer : event.reply = .failed e) (interrupted : e.isInterrupted = true) :
    gather ending timeout retry flag deadline now (event :: rest) =
      gather ending timeout true (flag.raiseIf event.cancels) deadline now rest := by
  rw [gather, if_neg unseen, answer]
  exact if_pos interrupted

theorem gather_waited {e : IoError} {later : Instant} (unseen : ¬(flag.raised && !retry) = true)
    (answer : event.reply = .failed e) (uninterrupted : ¬e.isInterrupted = true)
    (blocked : e.isWouldBlock = true)
    (waited : awaitReady (flag.raiseIf event.cancels) deadline now event.wait = (.ok (), later)) :
    gather ending timeout retry flag deadline now (event :: rest) =
      gather ending timeout false (flag.raiseIf event.cancels) deadline later rest := by
  rw [gather, if_neg unseen, answer]
  dsimp only
  rw [if_neg uninterrupted, if_pos blocked, waited]

end Answers

/-- Without a time budget, the harvest is the outlook of a single read. -/
theorem gather_of_untimed (untimed : timeout = none) (unlimited : deadline = none) :
    gather ending timeout retry flag deadline now events =
      ⟨(outlookRun ending deadline retry flag now events).taken,
        (outlookRun ending deadline retry flag now events).reply⟩ := by
  fun_induction gather ending timeout retry flag deadline now events with
  | case1 events retry flag deadline now seen =>
    rw [outlookRun, readRun.eq_def, if_neg (Nat.succ_ne_zero _), if_pos seen]
  | case2 retry flag deadline now unseen finished => simp [outlookRun, readRun, unseen, finished]
  | case3 retry flag deadline now unseen quiet => simp [outlookRun, readRun, unseen, quiet]
  | case4 retry flag deadline now unseen event rest answer =>
    simp [outlookRun, readRun, unseen, answer]
  | case5 retry flag deadline now unseen event rest flag' bytes answer some ih =>
    obtain ⟨taken, reply⟩ := outlookRun_data ending deadline now rest unseen answer some
    have same : timeout.deadline now = deadline := by
      rw [untimed, unlimited]
      rfl
    rw [same] at ih ⊢
    rw [taken, reply, ih unlimited]
    rfl
  | case6 retry flag deadline now unseen event rest flag' e answer interrupted ih =>
    obtain ⟨taken, reply⟩ := outlookRun_interrupted ending deadline now rest unseen answer
      interrupted
    rw [taken, reply]
    exact ih unlimited
  | case7 retry flag deadline now unseen event rest flag' e answer uninterrupted blocked failure
      later waited =>
    simp [outlookRun, readRun, unseen, answer, uninterrupted, blocked, flag', waited]
  | case8 retry flag deadline now unseen event rest flag' e answer uninterrupted blocked later
      waited ih =>
    obtain ⟨taken, reply⟩ := outlookRun_waited ending deadline now rest unseen answer
      uninterrupted blocked waited
    rw [taken, reply]
    exact ih unlimited
  | case9 retry flag deadline now unseen event rest e answer uninterrupted free =>
    simp [outlookRun, readRun, unseen, answer, uninterrupted, free]

end Gather

end Harvest

/-! ### Answers in parts -/

namespace RoomPolicy

variable {ρ : Type}

theorem room_ne_zero (policy : RoomPolicy ρ) (state : ρ) : policy.room state ≠ 0 :=
  Nat.pos_iff_ne_zero.mp (policy.room_pos state)

/-- The answers of a transport as the reads of a loop get them. An answer that is too large for
a read comes in parts, and whatever happens around it happens around each of them. -/
def returned (policy : RoomPolicy ρ) (state : ρ) (events : List ReadEvent) : List ReadEvent :=
  match events with
  | [] => []
  | event :: rest =>
      match _answer : event.reply with
      | .failed _ => event :: policy.returned state rest
      | .data bytes =>
          if _larger : policy.room state < bytes.length then
            { event with reply := .data (bytes.take (policy.room state)) } ::
              policy.returned (policy.next state (policy.room state))
                ({ event with reply := .data (bytes.drop (policy.room state)) } :: rest)
          else event :: policy.returned (policy.next state bytes.length) rest
termination_by (arrivals events).length + events.length
decreasing_by
  · simp
    omega
  · have := policy.room_pos state
    simp [_answer, ReadReply.bytes]
    omega
  · simp
    omega

variable (policy : RoomPolicy ρ) (state : ρ) {event : ReadEvent} {rest : List ReadEvent}

theorem returned_nil : policy.returned state [] = [] := by
  rw [returned]

theorem returned_failed {e : IoError} (answer : event.reply = .failed e) :
    policy.returned state (event :: rest) = event :: policy.returned state rest := by
  rw [returned]
  split
  · rfl
  · next data =>
    rw [answer] at data
    cases data

theorem returned_larger {bytes : Bytes} (answer : event.reply = .data bytes)
    (larger : policy.room state < bytes.length) :
    policy.returned state (event :: rest) =
      { event with reply := .data (bytes.take (policy.room state)) } ::
        policy.returned (policy.next state (policy.room state))
          ({ event with reply := .data (bytes.drop (policy.room state)) } :: rest) := by
  rw [returned]
  split
  · next failed =>
    rw [answer] at failed
    cases failed
  · next data =>
    cases answer.symm.trans data
    exact dif_pos larger

theorem returned_fitting {bytes : Bytes} (answer : event.reply = .data bytes)
    (fits : ¬policy.room state < bytes.length) :
    policy.returned state (event :: rest) =
      event :: policy.returned (policy.next state bytes.length) rest := by
  rw [returned]
  split
  · next failed =>
    rw [answer] at failed
    cases failed
  · next data =>
    cases answer.symm.trans data
    exact dif_neg fits

/-- In parts, the answers bring the same bytes. -/
theorem arrivals_returned (events : List ReadEvent) :
    arrivals (policy.returned state events) = arrivals events := by
  fun_induction returned policy state events with
  | case1 state => rfl
  | case2 state event rest e answer ih => rw [arrivals_cons, arrivals_cons, ih]
  | case3 state event rest bytes answer larger ih =>
    rw [arrivals_cons, ih, arrivals_cons, arrivals_cons, answer, ← List.append_assoc]
    exact congrArg (· ++ _) (List.take_append_drop (policy.room state) bytes)
  | case4 state event rest bytes answer fits ih => rw [arrivals_cons, arrivals_cons, ih]

end RoomPolicy

/-! ### One read -/

/-- `relay` hands answers on, and those without bytes as they are. -/
structure Relays (relay : List ReadEvent → List ReadEvent) : Prop where
  nil : relay [] = []
  failed : ∀ {event : ReadEvent} {rest : List ReadEvent} {e : IoError},
    event.reply = .failed e → relay (event :: rest) = event :: relay rest
  ended : ∀ {event : ReadEvent} (rest : List ReadEvent),
    event.reply = .data [] → ∃ later, relay (event :: rest) = event :: later

theorem relays_id : Relays id where
  nil := rfl
  failed _ := rfl
  ended _ _ := ⟨_, rfl⟩

theorem RoomPolicy.relays_returned {ρ : Type} (policy : RoomPolicy ρ) (state : ρ) :
    Relays (policy.returned state) where
  nil := policy.returned_nil state
  failed := policy.returned_failed state
  ended _ answer := ⟨_, policy.returned_fitting state answer (Nat.not_lt_zero _)⟩

open Harvest in
/-- What a read that needs one byte comes upon in a harvest: the failure, or the first answer with
bytes. -/
inductive ComesUpon (ending : Ending) (timeout : Timeout) (deadline : Deadline) (room : Nat)
    (relay : List ReadEvent → List ReadEvent) (all : Harvest) (run : ReadRun) : Prop
  /-- Nothing arrives, and the read fails like that. -/
  | ended (failed : run.reply ≠ .ok ()) (same : all = ⟨[], run.reply⟩)
  /-- It takes the answer, as far as there is room. -/
  | moved {retry : Bool} {flag : CancelFlag} {event : ReadEvent} {rest : List ReadEvent}
      {bytes : Bytes} (read : run.reply = .ok ())
      (same : all = gather ending timeout retry flag deadline run.now (relay (event :: rest)))
      (unseen : ¬(flag.raised && !retry) = true) (answer : event.reply = .data bytes)
      (some : ¬bytes = []) (taken : run.taken = bytes.take room)
      (raised : run.flag = flag.raiseIf event.cancels)
      (behind : run.events =
        if room < bytes.length then { event with reply := .data (bytes.drop room) } :: rest
        else rest)

section ComesUpon

variable {ending : Ending} {timeout : Timeout} {deadline : Deadline} {room : Nat}
  {relay : List ReadEvent → List ReadEvent}

/-- An answer that brings nothing leaves the harvest as it is. -/
theorem ComesUpon.after {all : Harvest} {run : ReadRun}
    (h : ComesUpon ending timeout deadline room relay all run) (call : ReadCall) :
    ComesUpon ending timeout deadline room relay all (run.after call []) := by
  cases h with
  | ended failed same => exact .ended failed same
  | moved read same unseen answer some taken raised behind =>
    exact .moved read same unseen answer some taken raised behind

open Harvest in
theorem readRun_comesUpon (relays : Relays relay) {need : Nat} (one : need = 1) (retry : Bool)
    (flag : CancelFlag) (now : Instant) (events : List ReadEvent) :
    ComesUpon ending timeout deadline room relay
      (gather ending timeout retry flag deadline now (relay events))
      (readRun ending deadline room need retry flag now events) := by
  fun_induction readRun ending deadline room need retry flag now events with
  | case1 => cases one
  | case2 events room need retry flag now some seen =>
    refine .ended (Reply.error_ne_ok _ _) ?_
    rw [gather.eq_def, if_pos seen]
  | case3 room need retry flag now some unseen finished =>
    refine .ended (Reply.error_ne_ok _ _) ?_
    simp [relays.nil, gather, unseen, finished]
  | case4 room need retry flag now some unseen quiet =>
    refine .ended (awaitNothing_ne_ok _ _ _) ?_
    simp [relays.nil, gather, unseen, quiet]
  | case5 room need retry flag now some unseen event rest flag' answer =>
    obtain ⟨later, handed⟩ := relays.ended rest answer
    refine .ended (Reply.error_ne_ok _ _) ?_
    simp [handed, gather, unseen, answer]
  | case6 room need retry flag now some unseen event rest flag' bytes answer more larger =>
    exact .moved rfl rfl unseen answer more rfl rfl (if_pos larger).symm
  | case7 room need retry flag now some unseen event rest flag' bytes answer more fits ih =>
    -- the bytes are all that is needed, so the read ends with them
    have met : need - bytes.length = 0 := by
      have := List.length_pos_iff.mpr more
      omega
    rw [met, readRun_zero]
    refine .moved rfl rfl unseen answer more ?_ rfl (if_neg fits).symm
    rw [List.take_of_length_le (Nat.not_lt.mp fits)]
    exact List.append_nil bytes
  | case8 room need retry flag now some unseen event rest flag' e answer interrupted ih =>
    rw [relays.failed answer, gather_interrupted unseen answer interrupted]
    exact (ih one).after _
  | case9 room need retry flag now some unseen event rest flag' e answer uninterrupted blocked
      failure later waited =>
    refine .ended (Reply.error_ne_ok _ _) ?_
    simp [relays.failed answer, gather, unseen, answer, uninterrupted, blocked, flag', waited]
  | case10 room need retry flag now some unseen event rest flag' e answer uninterrupted blocked
      later waited ih =>
    rw [relays.failed answer, gather_waited unseen answer uninterrupted blocked waited]
    exact (ih one).after _
  | case11 room need retry flag now some unseen event rest flag' e answer uninterrupted free =>
    refine .ended (Reply.error_ne_ok _ _) ?_
    simp [relays.failed answer, gather, unseen, answer, uninterrupted, free]

end ComesUpon

/-- The flag is up, and these bytes stand in front of the stream: the rest of an answer that was
too large. They are not read any more. -/
def HeldBack (flag : CancelFlag) (events : List ReadEvent) (left : Bytes) : Prop :=
  flag.raised = true ∧ ∃ event rest, events = event :: rest ∧ event.reply = .data left

/-- What a read that needs one byte makes of the harvest. -/
inductive Gathers (all : Harvest) (room : Nat) (run : ReadRun) (later : Harvest) : Prop
  /-- Nothing arrives, and the read fails like that. -/
  | ended (failed : run.reply ≠ .ok ()) (same : all = ⟨[], run.reply⟩)
  /-- It takes the front, and the rest stays but for what is held back. -/
  | moved (read : run.reply = .ok ()) (left : Bytes)
      (same : all = later.after (run.taken ++ left))
      (held : left = [] ∨ run.taken.length = room ∧ HeldBack run.flag run.events left)

open Harvest in
theorem readRun_gathers (ending : Ending) (timeout : Timeout) (deadline : Deadline) (room : Nat)
    (retry : Bool) (flag : CancelFlag) (now : Instant) (events : List ReadEvent) :
    let run := readRun ending deadline room 1 retry flag now events
    Gathers (gather ending timeout retry flag deadline now events) room run
      (gather ending timeout false run.flag (timeout.deadline run.now) run.now run.events) := by
  intro run
  have meets : ComesUpon ending timeout deadline room id
      (gather ending timeout retry flag deadline now events) run :=
    readRun_comesUpon relays_id rfl retry flag now events
  cases meets with
  | ended failed same => exact .ended failed same
  | @moved _ _ event _ bytes read same unseen answer some taken raised behind =>
    rw [id, gather_data unseen answer some, ← raised] at same
    rw [same]
    by_cases larger : room < bytes.length
    · rw [if_pos larger] at behind
      have whole : run.taken ++ bytes.drop room = bytes := by
        rw [taken, List.take_append_drop]
      cases up : run.flag.raised with
      | true =>
        -- the flag is seen before the rest of the answer is read
        have full : run.taken.length = room := by
          rw [taken, List.length_take_of_le (Nat.le_of_lt larger)]
        refine .moved read (bytes.drop room) ?_ (.inr ⟨full, up, _, _, behind, rfl⟩)
        rw [gather_of_raised _ _ _ _ _ _ up, gather_of_raised _ _ _ _ _ _ up, whole]
      | false =>
        -- the rest of the answer is the next one
        have unread : ¬bytes.drop room = [] := by
          rw [List.drop_eq_nil_iff]
          omega
        have down : event.cancels = false := by
          rw [raised] at up
          exact (Bool.or_eq_false_iff.mp up).2
        have unseen' : ¬(run.flag.raised && !false) = true := by simp [up]
        refine .moved read [] ?_ (.inl rfl)
        rw [behind, gather_data unseen' rfl unread, down, CancelFlag.raiseIf_false, after_after,
          List.append_nil, whole]
    · rw [if_neg larger] at behind
      refine .moved read [] ?_ (.inl rfl)
      rw [behind, taken, List.take_of_length_le (Nat.not_lt.mp larger), List.append_nil]

/-- What a read that needs one byte makes of a harvest from which nothing is held back. -/
inductive Reaps (all : Harvest) (run : ReadRun) (later : Harvest) : Prop
  /-- Nothing arrives, and the read fails like that. -/
  | ended (failed : run.reply ≠ .ok ()) (same : all = ⟨[], run.reply⟩)
  /-- It takes the front, and the rest stays. -/
  | moved (read : run.reply = .ok ()) (same : all = later.after run.taken)

open Harvest in
theorem readRun_reaps {ρ : Type} (policy : RoomPolicy ρ) (state : ρ) (ending : Ending)
    (timeout : Timeout) (deadline : Deadline) (retry : Bool) (flag : CancelFlag) (now : Instant)
    (events : List ReadEvent) :
    let run := readRun ending deadline (policy.room state) 1 retry flag now events
    Reaps (gather ending timeout retry flag deadline now (policy.returned state events)) run
      (gather ending timeout false run.flag (timeout.deadline run.now) run.now
        (policy.returned (policy.next state run.taken.length) run.events)) := by
  intro run
  have meets : ComesUpon ending timeout deadline (policy.room state) (policy.returned state)
      (gather ending timeout retry flag deadline now (policy.returned state events)) run :=
    readRun_comesUpon (policy.relays_returned state) rfl retry flag now events
  cases meets with
  | ended failed same => exact .ended failed same
  | @moved _ _ _ _ bytes read same unseen answer some taken raised behind =>
    refine .moved read ?_
    by_cases larger : policy.room state < bytes.length
    · have full : (bytes.take (policy.room state)).length = policy.room state :=
        List.length_take_of_le (Nat.le_of_lt larger)
      have part : ¬bytes.take (policy.room state) = [] := by
        rw [← List.length_eq_zero_iff, full]
        exact policy.room_ne_zero state
      rw [if_pos larger] at behind
      rw [same, policy.returned_larger state answer larger, gather_data unseen rfl part, behind,
        raised, taken, full]
    · rw [if_neg larger] at behind
      rw [same, policy.returned_fitting state answer larger, gather_data unseen answer some,
        behind, raised, taken, List.take_of_length_le (Nat.not_lt.mp larger)]

/-! ### One call -/

namespace Endpoint

/-- What there is to read through the stream interface: what the answers bring before the first
failure, and that failure. -/
def harvest (e : Endpoint) : Harvest :=
  .gather e.inbound.ending e.options.readTimeout false e.flag
    (Timeout.deadline e.options.readTimeout e.now) e.now e.inbound.events

/-- What the transport reads of a loop return before the first failure, and that failure. Their
rooms are those of the policy. -/
def harvestBy {ρ : Type} (e : Endpoint) (policy : RoomPolicy ρ) (state : ρ) : Harvest :=
  .gather e.inbound.ending e.options.readTimeout false e.flag
    (Timeout.deadline e.options.readTimeout e.now) e.now (policy.returned state e.inbound.events)

/-- The first failure, in the words of the stream interface. -/
def obstacle (e : Endpoint) : Reply IoError Unit := e.harvest.ends.mapError SocketError.toIo

/-- Without a time budget, it is what the answers bring up to the first stop of a read that wants
more than all of them. -/
theorem exists_first_harvest (e : Endpoint) (untimed : e.options.readTimeout = none) :
    ∃ index stop, (e.script none).First (e.arrivals.length + 1) index stop ∧
      e.harvest = ⟨(e.script none).brought index, stop.reply⟩ := by
  obtain ⟨index, stop, ends⟩ := readRun_first e.inbound.ending none
    (Nat.le_refl (e.arrivals.length + 1)) false e.flag e.now e.inbound.events
  have all : e.harvest = ⟨(outlookRun e.inbound.ending none false e.flag e.now
      e.inbound.events).taken, (outlookRun e.inbound.ending none false e.flag e.now
      e.inbound.events).reply⟩ := by
    unfold harvest
    rw [untimed]
    exact Harvest.gather_of_untimed _ _ _ _ _ _ _ rfl rfl
  have less : ((e.script none).brought index).length ≤ e.arrivals.length :=
    (e.script none).length_brought_le index
  have taken := ends.taken.trans (List.take_of_length_le (Nat.le_succ_of_le less))
  exact ⟨index, stop, ends.first, all.trans (congr (congrArg Harvest.mk taken) ends.reply)⟩

/-- The rest of an answer is left in front of the stream, and cannot be read any more. -/
def HoldsBack (e : Endpoint) (left : Bytes) : Prop := HeldBack e.flag e.inbound.events left

/-- What a call with some room makes of the harvest. -/
inductive Draws (e : Endpoint) (room : Nat) (next : Endpoint) : Reply IoError Bytes → Prop
  /-- It hands out the front, and the rest stays but for what is held back. -/
  | some {got : Bytes} (left : Bytes) (same : e.harvest = next.harvest.after (got ++ left))
      (held : left = [] ∨ got.length = room ∧ next.HoldsBack left) : Draws e room next (.ok got)
  /-- It meets with the first failure, and nothing has arrived before that. -/
  | none {reply : Reply IoError Bytes} (unsuccessful : ∀ got, reply ≠ .ok got)
      (nothing : e.harvest.bytes = []) (ends : (reply.map fun _ => ()) = e.obstacle) :
      Draws e room next reply

/-- The read that a call with some room makes. -/
def someRun (e : Endpoint) (room : Nat) : ReadRun :=
  readRun e.inbound.ending (Timeout.deadline e.options.readTimeout e.now) room 1 false e.flag e.now
    e.inbound.events

theorem readSome_inv {e next : Endpoint} {room : Nat} {reply : Reply IoError Bytes}
    (some : room ≠ 0) (call : e.readSome room = (reply, next)) :
    reply = ((e.someRun room).reply.map fun _ => (e.someRun room).taken).mapError
        SocketError.toIo ∧
      next = { e with
        inbound := { e.inbound with events := (e.someRun room).events }
        flag := (e.someRun room).flag
        now := (e.someRun room).now } := by
  have fits : ¬(List.replicate room (0 : UInt8)).length < 1 := by
    rw [List.length_replicate]
    omega
  unfold readSome read readBy at call
  rw [if_neg some, if_neg fits] at call
  simp only [List.length_replicate] at call
  obtain ⟨rfl, rfl⟩ := Prod.mk.inj call
  refine ⟨?_, rfl⟩
  unfold someRun
  cases (readRun _ _ room 1 false _ _ _).reply <;> rfl

/-- A call succeeds with what its read has taken, or it fails like its read. -/
theorem readSome_cases {e next : Endpoint} {room : Nat} {reply : Reply IoError Bytes}
    (some : room ≠ 0) (call : e.readSome room = (reply, next)) :
    (reply = .ok (e.someRun room).taken ∧ (e.someRun room).reply = .ok ()) ∨
      ((∀ got, reply ≠ .ok got) ∧ (e.someRun room).reply ≠ .ok () ∧
        (reply.map fun _ => ()) = (e.someRun room).reply.mapError SocketError.toIo) := by
  obtain ⟨rfl, -⟩ := readSome_inv some call
  cases (e.someRun room).reply with
  | ok value => exact .inl ⟨rfl, rfl⟩
  | error failure => exact .inr ⟨Reply.error_ne_ok _, Reply.error_ne_ok _ _, rfl⟩
  | waiting => exact .inr ⟨Reply.waiting_ne_ok, Reply.waiting_ne_ok _, rfl⟩

theorem readSome_draws {e next : Endpoint} {room : Nat} {reply : Reply IoError Bytes}
    (some : room ≠ 0) (call : e.readSome room = (reply, next)) : e.Draws room next reply := by
  have gathers := readRun_gathers e.inbound.ending e.options.readTimeout
    (Timeout.deadline e.options.readTimeout e.now) room false e.flag e.now e.inbound.events
  obtain ⟨-, rfl⟩ := readSome_inv some call
  cases gathers with
  | ended failed same =>
    have nothing : e.harvest.bytes = [] := congrArg Harvest.bytes same
    rcases readSome_cases some call with ⟨-, read⟩ | ⟨unsuccessful, -, ends⟩
    · exact absurd read failed
    · refine .none unsuccessful nothing (ends.trans ?_)
      exact congrArg (fun harvest : Harvest => harvest.ends.mapError SocketError.toIo) same.symm
  | moved read left same held =>
    rcases readSome_cases some call with ⟨rfl, -⟩ | ⟨-, failed, -⟩
    · exact .some left same held
    · exact absurd read failed

/-- A call takes the front of what the reads of the loop return, or meets with the failure behind
it. -/
theorem readSome_reaps {ρ : Type} {policy : RoomPolicy ρ} {state : ρ} {e next : Endpoint}
    {reply : Reply IoError Bytes} (call : e.readSome (policy.room state) = (reply, next)) :
    (∀ got, reply = .ok got →
        e.harvestBy policy state =
          (next.harvestBy policy (policy.next state got.length)).after got) ∧
      ((∀ got, reply ≠ .ok got) → (e.harvestBy policy state).bytes = [] ∧
        (reply.map fun _ => ()) =
          (e.harvestBy policy state).ends.mapError SocketError.toIo) := by
  have some := policy.room_ne_zero state
  have reaps := readRun_reaps policy state e.inbound.ending e.options.readTimeout
    (Timeout.deadline e.options.readTimeout e.now) false e.flag e.now e.inbound.events
  obtain ⟨-, rfl⟩ := readSome_inv some call
  rcases readSome_cases some call with ⟨rfl, read⟩ | ⟨unsuccessful, failed, ends⟩
  · refine ⟨?_, fun wrong => absurd rfl (wrong _)⟩
    rintro got ⟨⟩
    cases reaps with
    | ended failed => exact absurd read failed
    | moved read same => exact same
  · refine ⟨fun got wrong => absurd wrong (unsuccessful got), fun _ => ?_⟩
    cases reaps with
    | ended failed same =>
      refine ⟨congrArg Harvest.bytes same, ends.trans ?_⟩
      exact congrArg (fun harvest : Harvest => harvest.ends.mapError SocketError.toIo) same.symm
    | moved read => exact absurd read failed

/-- The first failure stays the same. -/
theorem obstacle_of_after {e next : Endpoint} {bytes : Bytes}
    (same : e.harvest = next.harvest.after bytes) : e.obstacle = next.obstacle := by
  unfold obstacle
  rw [same]
  rfl

theorem obstacle_ne_ok (e : Endpoint) : e.obstacle ≠ .ok () := by
  have failure : e.harvest.ends ≠ .ok () := Harvest.gather_ends_ne_ok _ _ _ _ _ _ _
  unfold obstacle
  cases ends : e.harvest.ends with
  | ok value => exact absurd ends failure
  | error failure => exact Reply.error_ne_ok _ _
  | waiting => exact Reply.waiting_ne_ok _

/-- Nothing is to be had from a cancelled endpoint. -/
theorem harvest_of_raised {e : Endpoint} (raised : e.flag.raised = true) :
    e.harvest = ⟨[], .error .terminationRequested⟩ :=
  Harvest.gather_of_raised _ _ _ _ _ _ raised

end Endpoint

end SocketDemux
