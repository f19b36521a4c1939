import SocketDemux.Endpoint.Basic
/-!
# SocketDemux.Proofs.Endpoint.Writing

A **write** ends at the first thing that decides it.

The loop goes through the planned answers of a transport. Where it stands before an answer can
be said from the answers alone: `WriteScript.accepted` are the bytes that the answers before it
accept, `used` the attempts that they have cost, `raisedAt` is the cancellation flag, and
`repeats` says whether the answer is one to a write that repeats an interrupted one.

* `WriteStop`, `WriteStop.Happens` — the things that may end a write, each with its reason.
* `WriteScript.stop?` — the one that does, if any: what is left to write is looked at first, then
  the attempts, then the flag, and the transport is asked only after that.
* `EndsAt`, `writeRun_first` — by induction on the run: a write comes back with what its first
  stop says, has made the calls up to there, and has left the rest of the plan.
* `Endpoint.write_law` — the law of a write, `WriteLaw`: what ends it, what it offers to the
  transport and how often, and what it has used up when it reports a partial write.
-/

namespace SocketDemux

/-! ### Answers -/

/-- Has a signal interrupted the write? -/
def WriteReply.interrupted : WriteReply → Bool
  | .accept _ => false
  | .failed e => e.isInterrupted

/-- How many bytes it accepts at most. -/
def WriteReply.limit : WriteReply → Nat
  | .accept limit => limit
  | .failed _ => 0

/-- The bytes that the transport has accepted. -/
def WriteCall.accepted (call : WriteCall) : Bytes := call.offered.take call.reply.limit

/-- Does the call use up an attempt? -/
def WriteCall.counts (call : WriteCall) : Bool := !call.reply.interrupted

/-- What a write meets: the planned answers of the transport, what follows them, and the flag as
it is now. -/
structure WriteScript where
  plan : List WriteEvent
  sink : Sink
  flag : CancelFlag
  /-- Has the last write been interrupted? -/
  retry : Bool := false

namespace WriteScript

variable (s : WriteScript)

/-- How many bytes the answers before this one accept, if they are offered enough. -/
def accepted (index : Nat) : Nat :=
  (s.plan.take index).foldr (fun event total => event.reply.limit + total) 0

/-- How many attempts the answers before this one cost. -/
def used (index : Nat) : Nat := (s.plan.take index).countP (!·.reply.interrupted)

/-- Is the flag up behind so many answers? -/
def raisedAt (index : Nat) : Bool := s.flag.raised || (s.plan.take index).any (·.cancels)

/-- Is this answer one to a write that repeats an interrupted one? -/
def repeats : Nat → Bool
  | 0 => s.retry
  | before + 1 => (s.plan[before]?).any (·.reply.interrupted)

/-- The answer to a write that is offered so many bytes. Behind the plan all of them are accepted,
or nobody is there to read. -/
def answer (offered index : Nat) : WriteReply :=
  match s.plan[index]? with
  | some event => event.reply
  | none =>
      match s.sink with
      | .accepting => .accept offered
      | .broken => .failed brokenPipe

/-- The first `count` calls of a write of some data: each is offered what the answers before it
have not accepted. -/
def calls (data : Bytes) (count : Nat) : List WriteCall :=
  (List.range count).map fun index =>
    ⟨data.drop (s.accepted index), s.answer (data.drop (s.accepted index)).length index⟩

/-- The transport is asked for this answer: something is left to write, there are attempts left,
and the flag is not up, or not looked at because the write repeats an interrupted one. -/
def Asks (size attempts index : Nat) : Prop :=
  s.accepted index < size ∧ s.used index < attempts ∧
    (s.repeats index = true ∨ s.raisedAt index = false)

/-- What is met behind the first answer. -/
def behind (event : WriteEvent) (rest : List WriteEvent) : WriteScript where
  plan := rest
  sink := s.sink
  flag := s.flag.raiseIf event.cancels
  retry := event.reply.interrupted

end WriteScript

/-! ### What ends a write -/

/-- What may end a write. -/
inductive WriteStop
  /-- Nothing is left to write. -/
  | finished
  /-- No attempt is left. -/
  | spent
  /-- The flag is up before an attempt. -/
  | cancelled
  /-- The transport fails. -/
  | broken (error : IoError)
  /-- Behind the plan, all that is left is accepted at once. -/
  | drained
  deriving Repr, DecidableEq

namespace WriteStop

/-- What a write comes back with when so many bytes are out. -/
def reply (written : Nat) : WriteStop → Except SocketError Unit
  | finished | drained => .ok ()
  | spent => .error (.partialWrite written)
  | cancelled => .error .terminationRequested
  | broken e => .error (.failed .write e)

/-- How many calls have been made when a write ends before, or with, this answer. -/
def calls (index : Nat) : WriteStop → Nat
  | finished | spent | cancelled => index
  | broken _ | drained => index + 1

/-- How many bytes are out when the answers before this one accept so many, of data of that
size. -/
def out (size accepted : Nat) : WriteStop → Nat
  | drained => size
  | _ => min accepted size

/-- The reasons for a write to end there. -/
def Happens (s : WriteScript) (size attempts index : Nat) : WriteStop → Prop
  | finished => size ≤ s.accepted index
  | spent => s.accepted index < size ∧ attempts ≤ s.used index
  | cancelled =>
      s.accepted index < size ∧ s.used index < attempts ∧ s.repeats index = false ∧
        s.raisedAt index = true
  | broken e =>
      s.Asks size attempts index ∧
        s.answer (size - s.accepted index) index = .failed e ∧ e.isInterrupted = false ∧
        e.isWouldBlock = false
  | drained =>
      s.Asks size attempts index ∧ s.plan.length ≤ index ∧ s.sink = .accepting

end WriteStop

namespace WriteScript

variable {s : WriteScript}

/-- The stop at an answer, if there is one. -/
def answerStop? (s : WriteScript) (index : Nat) : Option WriteStop :=
  match s.plan[index]? with
  | some event =>
      match event.reply with
      | .accept _ => none
      | .failed e =>
          if e.isInterrupted then none else if e.isWouldBlock then none else some (.broken e)
  | none =>
      match s.sink with
      | .accepting => some .drained
      | .broken => some (.broken brokenPipe)

/-- The stop before or at an answer, if there is one. -/
def stop? (s : WriteScript) (size attempts index : Nat) : Option WriteStop :=
  if size ≤ s.accepted index then some .finished
  else if attempts ≤ s.used index then some .spent
  else if s.raisedAt index && !s.repeats index then some .cancelled
  else s.answerStop? index

theorem asks_iff (size attempts index : Nat) :
    s.Asks size attempts index ↔ ¬size ≤ s.accepted index ∧ ¬attempts ≤ s.used index ∧
      ¬(s.raisedAt index && !s.repeats index) = true := by
  unfold Asks
  rw [Nat.not_le, Nat.not_le]
  cases s.raisedAt index with
  | true => simp
  | false => simp

theorem stop?_of_asks {size attempts index : Nat} (asks : s.Asks size attempts index) :
    s.stop? size attempts index = s.answerStop? index := by
  obtain ⟨more, left, unseen⟩ := (asks_iff size attempts index).mp asks
  rw [stop?, if_neg more, if_neg left, if_neg unseen]

theorem brokenPipe_hard : brokenPipe.isInterrupted = false ∧ brokenPipe.isWouldBlock = false := by
  decide

theorem happens_of_answerStop? {size attempts index : Nat} {stop : WriteStop}
    (asks : s.Asks size attempts index) (found : s.answerStop? index = some stop) :
    stop.Happens s size attempts index := by
  unfold answerStop? at found
  split at found
  · next event planned =>
    split at found
    · cases found
    · next e failed =>
      split at found
      · cases found
      · next uninterrupted =>
        split at found
        · cases found
        · next free =>
          cases found
          refine ⟨asks, ?_, Bool.eq_false_iff.mpr uninterrupted, Bool.eq_false_iff.mpr free⟩
          rw [answer, planned]
          exact failed
  · next behind =>
    have last : s.plan.length ≤ index := List.getElem?_eq_none_iff.mp behind
    split at found
    · next accepting =>
      cases found
      exact ⟨asks, last, accepting⟩
    · next broken =>
      cases found
      refine ⟨asks, ?_, brokenPipe_hard⟩
      rw [answer, behind, broken]

/-- A stop is found where there is a reason for it. -/
theorem stop?_eq_some_iff {size attempts index : Nat} {stop : WriteStop} :
    s.stop? size attempts index = some stop ↔ stop.Happens s size attempts index := by
  constructor
  · intro found
    by_cases asks : s.Asks size attempts index
    · rw [stop?_of_asks asks] at found
      exact happens_of_answerStop? asks found
    · -- the transport is not asked, for one of three reasons
      rw [asks_iff] at asks
      unfold stop? at found
      split at found
      · next done =>
        cases found
        exact done
      · next more =>
        split at found
        · next none =>
          cases found
          exact ⟨Nat.lt_of_not_le more, none⟩
        · next left =>
          have seen : (s.raisedAt index && !s.repeats index) = true :=
            Decidable.byContradiction fun unseen => asks ⟨more, left, unseen⟩
          rw [if_pos seen] at found
          cases found
          rw [Bool.and_eq_true, Bool.not_eq_true'] at seen
          exact ⟨Nat.lt_of_not_le more, Nat.lt_of_not_le left, seen.2, seen.1⟩
  · intro happens
    cases stop with
    | finished => exact if_pos happens
    | spent =>
      obtain ⟨more, none⟩ := happens
      rw [stop?, if_neg (Nat.not_le.mpr more), if_pos none]
    | cancelled =>
      obtain ⟨more, left, first, up⟩ := happens
      rw [stop?, if_neg (Nat.not_le.mpr more), if_neg (Nat.not_le.mpr left), up, first]
      rfl
    | broken e =>
      obtain ⟨asks, failed, uninterrupted, free⟩ := happens
      rw [stop?_of_asks asks]
      unfold answer at failed
      unfold answerStop?
      split at failed
      · simp [failed, uninterrupted, free]
      · split at failed
        · cases failed
        · cases failed
          rfl
    | drained =>
      obtain ⟨asks, last, accepting⟩ := happens
      rw [stop?_of_asks asks, answerStop?, List.getElem?_eq_none_iff.mpr last, accepting]

/-- The first stop that happens, and where. -/
structure First (s : WriteScript) (size attempts index : Nat) (stop : WriteStop) : Prop where
  found : s.stop? size attempts index = some stop
  before : ∀ earlier < index, s.stop? size attempts earlier = none

/-- Nothing else happens up to the first stop. -/
theorem First.unique {size attempts index earlier : Nat} {stop other : WriteStop}
    (h : s.First size attempts index stop) (upTo : earlier ≤ index)
    (happens : other.Happens s size attempts earlier) : earlier = index ∧ other = stop := by
  have found := stop?_eq_some_iff.mpr happens
  rcases Nat.lt_or_eq_of_le upTo with before | rfl
  · rw [h.before earlier before] at found
    cases found
  · rw [h.found] at found
    exact ⟨rfl, (Option.some.inj found).symm⟩

/-- There is one first stop. -/
theorem First.eq {size attempts index index' : Nat} {stop stop' : WriteStop}
    (h : s.First size attempts index stop) (h' : s.First size attempts index' stop') :
    index = index' ∧ stop = stop' := by
  rcases Nat.le_total index index' with upTo | upTo
  · exact h'.unique upTo (stop?_eq_some_iff.mp h.found)
  · obtain ⟨rfl, rfl⟩ := h.unique upTo (stop?_eq_some_iff.mp h'.found)
    exact ⟨rfl, rfl⟩

/-! ### One answer further -/

section Behind

variable {event : WriteEvent} {rest : List WriteEvent}

theorem accepted_succ (plan : s.plan = event :: rest) (index : Nat) :
    s.accepted (index + 1) = event.reply.limit + (s.behind event rest).accepted index := by
  rw [accepted, plan]
  rfl

theorem used_succ (plan : s.plan = event :: rest) (index : Nat) :
    s.used (index + 1) =
      (s.behind event rest).used index + if event.reply.interrupted then 0 else 1 := by
  rw [used, plan, List.take_succ_cons, List.countP_cons]
  cases event.reply.interrupted with
  | true => rfl
  | false => rfl

theorem raisedAt_succ (plan : s.plan = event :: rest) (index : Nat) :
    s.raisedAt (index + 1) = (s.behind event rest).raisedAt index := by
  simp [raisedAt, plan, behind, Bool.or_assoc]

theorem repeats_succ (plan : s.plan = event :: rest) (index : Nat) :
    s.repeats (index + 1) = (s.behind event rest).repeats index := by
  cases index with
  | zero => simp [repeats, plan, behind]
  | succ index => simp [repeats, plan, behind]

theorem answer_succ (plan : s.plan = event :: rest) (offered index : Nat) :
    s.answer offered (index + 1) = (s.behind event rest).answer offered index := by
  rw [answer, plan]
  rfl

theorem answerStop?_succ (plan : s.plan = event :: rest) (index : Nat) :
    s.answerStop? (index + 1) = (s.behind event rest).answerStop? index := by
  rw [answerStop?, plan]
  rfl

/-- Behind the first answer the same stops happen, with what it accepts no longer to be written
and what it costs no longer to be used. -/
theorem stop?_succ (plan : s.plan = event :: rest) (size attempts index : Nat) :
    s.stop? size attempts (index + 1) =
      (s.behind event rest).stop? (size - event.reply.limit)
        (attempts - if event.reply.interrupted then 0 else 1) index := by
  have done : size ≤ s.accepted (index + 1) ↔
      size - event.reply.limit ≤ (s.behind event rest).accepted index := by
    rw [accepted_succ plan]
    omega
  have none : attempts ≤ s.used (index + 1) ↔
      (attempts - if event.reply.interrupted then 0 else 1) ≤
        (s.behind event rest).used index := by
    rw [used_succ plan]
    omega
  unfold stop?
  rw [raisedAt_succ plan, repeats_succ plan, answerStop?_succ plan]
  simp only [done, none]

theorem calls_succ (plan : s.plan = event :: rest) (data : Bytes) (count : Nat) :
    s.calls data (count + 1) =
      ⟨data, event.reply⟩ :: (s.behind event rest).calls (data.drop event.reply.limit) count := by
  have first : ∀ offered, s.answer offered 0 = event.reply := by
    intro offered
    rw [answer, plan]
    rfl
  have nothing : s.accepted 0 = 0 := rfl
  have later : ∀ index, data.drop (s.accepted (index + 1)) =
      (data.drop event.reply.limit).drop ((s.behind event rest).accepted index) := by
    intro index
    rw [accepted_succ plan, List.drop_drop]
  simp only [calls, List.range_succ_eq_map, List.map_cons, List.map_map, Function.comp_def, later,
    answer_succ plan, first, nothing, List.drop_zero]

end Behind

/-! ### The run -/

/-- A run that writes some data in so many attempts comes to an end at its first stop. -/
structure EndsAt (s : WriteScript) (data : Bytes) (attempts written : Nat) (run : WriteRun)
    (index : Nat) (stop : WriteStop) : Prop where
  first : s.First data.length attempts index stop
  reply : run.reply = stop.reply (written + stop.out data.length (s.accepted index))
  sent : run.sent = data.take (stop.out data.length (s.accepted index))
  calls : run.calls = s.calls data (stop.calls index)
  plan : run.plan = s.plan.drop (stop.calls index)
  flag : run.flag.raised = s.raisedAt (stop.calls index)

/-- A stop before the first answer. -/
theorem EndsAt.at_once {data : Bytes} {attempts written : Nat} {run : WriteRun} {stop : WriteStop}
    (found : s.stop? data.length attempts 0 = some stop) (asks : stop.calls 0 = 0)
    (reply : run = ⟨stop.reply written, [], [], s.plan, s.flag⟩) :
    s.EndsAt data attempts written run 0 stop := by
  subst reply
  have nothing : stop.out data.length (s.accepted 0) = 0 := by
    cases stop with
    | drained => cases asks
    | _ => exact Nat.zero_min _
  refine ⟨⟨found, fun _ wrong => absurd wrong (Nat.not_lt_zero _)⟩, ?_, ?_, ?_, ?_, ?_⟩
  · rw [nothing]
    rfl
  · rw [nothing]
    rfl
  · rw [asks]
    rfl
  · rw [asks]
    rfl
  · rw [asks]
    exact (Bool.or_false _).symm

/-- An answer that nothing happens at leaves it to the others. -/
theorem EndsAt.cons {s' : WriteScript} {event : WriteEvent} {rest : List WriteEvent}
    {data data' accepted : Bytes} {attempts attempts' written written' index : Nat}
    {run : WriteRun} {stop : WriteStop} (plan : s.plan = event :: rest)
    (nothing : s.stop? data.length attempts 0 = none) (behind : s.behind event rest = s')
    (left : data.drop event.reply.limit = data')
    (cost : (attempts - if event.reply.interrupted then 0 else 1) = attempts')
    (count : written + min event.reply.limit data.length = written')
    (took : data.take event.reply.limit = accepted)
    (h : s'.EndsAt data' attempts' written' run index stop) :
    s.EndsAt data attempts written (run.after ⟨data, event.reply⟩ accepted) (index + 1) stop := by
  subst behind left cost count took
  have more : stop.calls (index + 1) = stop.calls index + 1 := by
    cases stop with
    | _ => rfl
  have out : stop.out data.length (s.accepted (index + 1)) =
      min event.reply.limit data.length +
        stop.out (data.drop event.reply.limit).length ((s.behind event rest).accepted index) := by
    rw [accepted_succ plan, List.length_drop]
    cases stop with
    | drained =>
      simp only [WriteStop.out]
      omega
    | _ =>
      simp only [WriteStop.out]
      omega
  constructor
  case first =>
    have size : (data.drop event.reply.limit).length = data.length - event.reply.limit :=
      List.length_drop
    have first := h.first
    rw [size] at first
    refine ⟨(stop?_succ plan ..).trans first.found, ?_⟩
    intro earlier before
    cases earlier with
    | zero => exact nothing
    | succ earlier =>
      rw [stop?_succ plan]
      exact first.before earlier (Nat.lt_of_succ_lt_succ before)
  case reply => rw [WriteRun.after_reply, h.reply, out, Nat.add_assoc]
  case sent =>
    rw [WriteRun.after_sent, h.sent, out]
    rcases Nat.le_total event.reply.limit data.length with fits | more
    · rw [Nat.min_eq_left fits, List.take_add]
    · rw [List.drop_of_length_le more, List.take_nil, List.append_nil,
        List.take_of_length_le more, List.take_of_length_le]
      omega
  case calls => rw [WriteRun.after_calls, h.calls, more, calls_succ plan]
  case plan => rw [WriteRun.after_plan, h.plan, more, plan]; rfl
  case flag => rw [WriteRun.after_flag, h.flag, more, raisedAt_succ plan]

theorem asks_zero {size attempts : Nat} (some : 0 < size) (left : ¬attempts = 0)
    (unseen : ¬(s.flag.raised && !s.retry) = true) : s.Asks size attempts 0 := by
  refine (asks_iff size attempts 0).mpr ⟨Nat.not_le.mpr some, ?_, ?_⟩
  · exact fun none => left (Nat.le_zero.mp none)
  · rw [raisedAt]
    simpa [repeats] using unseen

section First

variable {event : WriteEvent} {rest : List WriteEvent} {size attempts : Nat}

theorem answerStop?_zero (plan : s.plan = event :: rest) :
    s.answerStop? 0 =
      match event.reply with
      | .accept _ => none
      | .failed e =>
          if e.isInterrupted then none else if e.isWouldBlock then none
          else some (.broken e) := by
  rw [answerStop?, plan]
  rfl

/-- Nothing ends a write at bytes that are accepted. -/
theorem stop?_of_accept {limit : Nat} (plan : s.plan = event :: rest)
    (asks : s.Asks size attempts 0) (answer : event.reply = .accept limit) :
    s.stop? size attempts 0 = none := by
  rw [stop?_of_asks asks, answerStop?_zero plan, answer]

/-- Nor does anything at an answer that is to be repeated, at once or with another attempt; and
what follows is up to the other answers. -/
theorem EndsAt.cons_of_failed {e : IoError} {data : Bytes} {attempts' written index : Nat}
    {again : Bool} {run : WriteRun} {stop : WriteStop} (plan : s.plan = event :: rest)
    (asks : s.Asks data.length attempts 0) (answer : event.reply = .failed e)
    (soft : e.isInterrupted = true ∨ e.isWouldBlock = true) (repeated : e.isInterrupted = again)
    (cost : (attempts - if again then 0 else 1) = attempts')
    (h : (WriteScript.mk rest s.sink (s.flag.raiseIf event.cancels) again).EndsAt data attempts'
      written run index stop) :
    s.EndsAt data attempts written (run.after ⟨data, event.reply⟩ []) (index + 1) stop := by
  subst repeated cost
  refine .cons plan ?_ ?_ ?_ ?_ ?_ ?_ h
  · rw [stop?_of_asks asks, answerStop?_zero plan, answer]
    rcases soft with interrupted | blocked
    · exact if_pos interrupted
    · simp [blocked]
  · rw [behind, answer, WriteReply.interrupted]
  · rw [answer, WriteReply.limit, List.drop_zero]
  · rw [answer, WriteReply.interrupted]
  · rw [answer, WriteReply.limit, Nat.zero_min, Nat.add_zero]
  · rw [answer, WriteReply.limit, List.take_zero]

end First

end WriteScript

open WriteScript in
/-- Every run of the write loop ends at its first stop. -/
theorem writeRun_first (sink : Sink) (attempts written : Nat) (retry : Bool) (flag : CancelFlag)
    (data : Bytes) (plan : List WriteEvent) :
    ∃ index stop, (WriteScript.mk plan sink flag retry).EndsAt data attempts written
      (writeRun sink attempts written retry flag data plan) index stop := by
  fun_induction writeRun sink attempts written retry flag data plan with
  | case1 plan attempts written retry flag => exact ⟨0, .finished, .at_once rfl rfl rfl⟩
  | case2 plan written retry flag data some =>
    refine ⟨0, .spent, .at_once ?_ rfl rfl⟩
    exact stop?_eq_some_iff.mpr ⟨List.length_pos_iff.mpr some, Nat.le_refl _⟩
  | case3 plan attempts written retry flag data some left seen =>
    refine ⟨0, .cancelled, .at_once ?_ rfl rfl⟩
    rw [Bool.and_eq_true, Bool.not_eq_true'] at seen
    refine stop?_eq_some_iff.mpr ⟨List.length_pos_iff.mpr some, Nat.pos_of_ne_zero left, seen.2, ?_⟩
    simp [raisedAt, seen.1]
  | case4 attempts written retry flag data some left unseen accepting =>
    have asks := asks_zero (s := ⟨[], sink, flag, retry⟩) (List.length_pos_iff.mpr some) left unseen
    refine ⟨0, .drained, ⟨⟨?_, fun _ wrong => absurd wrong (Nat.not_lt_zero _)⟩, rfl, ?_, ?_, rfl,
      (Bool.or_false _).symm⟩⟩
    · exact stop?_eq_some_iff.mpr ⟨asks, Nat.le_refl _, accepting⟩
    · exact (List.take_length).symm
    · simp [calls, WriteStop.calls, answer, accepted, accepting]
  | case5 attempts written retry flag data some left unseen broken =>
    have asks := asks_zero (s := ⟨[], sink, flag, retry⟩) (List.length_pos_iff.mpr some) left unseen
    refine ⟨0, .broken brokenPipe, ⟨⟨?_, fun _ wrong => absurd wrong (Nat.not_lt_zero _)⟩, rfl,
      ?_, ?_, rfl, (Bool.or_false _).symm⟩⟩
    · refine stop?_eq_some_iff.mpr ⟨asks, ?_, brokenPipe_hard⟩
      simp [answer, broken]
    · rfl
    · simp [calls, WriteStop.calls, answer, accepted, broken]
  | case6 attempts written retry flag data some left unseen event rest flag' limit answer ih =>
    have asks := asks_zero (s := ⟨event :: rest, sink, flag, retry⟩) (List.length_pos_iff.mpr some)
      left unseen
    obtain ⟨index, stop, ends⟩ := ih
    refine ⟨index + 1, stop, .cons rfl (stop?_of_accept rfl asks answer) ?_ ?_ ?_ ?_ ?_ ends⟩
    · simp [behind, answer, WriteReply.interrupted, flag']
    · rw [answer, WriteReply.limit]
    · simp [answer, WriteReply.interrupted]
    · rw [answer, WriteReply.limit]
    · rw [answer, WriteReply.limit]
  | case7 attempts written retry flag data some left unseen event rest flag' e answer interrupted
      ih =>
    have asks := asks_zero (s := ⟨event :: rest, sink, flag, retry⟩) (List.length_pos_iff.mpr some)
      left unseen
    obtain ⟨index, stop, ends⟩ := ih
    exact ⟨index + 1, stop, ends.cons_of_failed rfl asks answer (.inl interrupted) interrupted rfl⟩
  | case8 attempts written retry flag data some left unseen event rest flag' e answer uninterrupted
      blocked ih =>
    have asks := asks_zero (s := ⟨event :: rest, sink, flag, retry⟩) (List.length_pos_iff.mpr some)
      left unseen
    obtain ⟨index, stop, ends⟩ := ih
    exact ⟨index + 1, stop, ends.cons_of_failed rfl asks answer (.inr blocked)
      (Bool.eq_false_iff.mpr uninterrupted) rfl⟩
  | case9 attempts written retry flag data some left unseen event rest flag' e answer uninterrupted
      free =>
    have asks := asks_zero (s := ⟨event :: rest, sink, flag, retry⟩) (List.length_pos_iff.mpr some)
      left unseen
    refine ⟨0, .broken e, ⟨⟨?_, fun _ wrong => absurd wrong (Nat.not_lt_zero _)⟩, rfl, rfl, rfl,
      rfl, ?_⟩⟩
    · exact stop?_eq_some_iff.mpr ⟨asks, answer, Bool.eq_false_iff.mpr uninterrupted,
        Bool.eq_false_iff.mpr free⟩
    · simp [raisedAt, WriteStop.calls, flag']

/-! ### The calls -/

/-- Each call is offered what the calls before it have not accepted, and is made because there is
something left. -/
def Resumes : Bytes → List WriteCall → Prop
  | _, [] => True
  | data, call :: rest =>
      call.offered = data ∧ data ≠ [] ∧ Resumes (data.drop call.reply.limit) rest

/-- The same, for a call wherever it stands. -/
theorem Resumes.of_append {data : Bytes} {front back : List WriteCall} {call : WriteCall}
    (h : Resumes data (front ++ call :: back)) :
    front.flatMap WriteCall.accepted ++ call.offered = data ∧ call.offered ≠ [] := by
  induction front generalizing data with
  | nil => exact ⟨h.1, h.1 ▸ h.2.1⟩
  | cons first front ih =>
    obtain ⟨offered, -, later⟩ := h
    obtain ⟨rest, some⟩ := ih later
    refine ⟨?_, some⟩
    rw [List.flatMap_cons, List.append_assoc, rest, WriteCall.accepted, offered,
      List.take_append_drop]

section Calls

variable (sink : Sink) (attempts written : Nat) (retry : Bool) (flag : CancelFlag) (data : Bytes)
  (plan : List WriteEvent)

theorem resumes_calls :
    Resumes data (writeRun sink attempts written retry flag data plan).calls := by
  fun_induction writeRun sink attempts written retry flag data plan with
  | case1 | case2 | case3 => exact trivial
  | case6 attempts written retry flag data some left unseen event rest flag' limit answer ih =>
    refine ⟨rfl, some, ?_⟩
    rw [answer]
    exact ih
  | case7 attempts written retry flag data some left unseen event rest flag' e answer _ ih
  | case8 attempts written retry flag data some left unseen event rest flag' e answer _ _ ih =>
    refine ⟨rfl, some, ?_⟩
    rw [answer]
    exact ih
  | _ => exact ⟨rfl, ‹_›, trivial⟩

/-- What is sent is what the calls have accepted, in their order. -/
theorem accepted_calls :
    (writeRun sink attempts written retry flag data plan).calls.flatMap WriteCall.accepted =
      (writeRun sink attempts written retry flag data plan).sent := by
  fun_induction writeRun sink attempts written retry flag data plan with
  | case4 => simp [WriteCall.accepted, WriteReply.limit]
  | case6 attempts written retry flag data some left unseen event rest flag' limit answer ih
  | case7 attempts written retry flag data some left unseen event rest flag' e answer _ ih
  | case8 attempts written retry flag data some left unseen event rest flag' e answer _ _ ih =>
    rw [WriteRun.after_calls, WriteRun.after_sent, List.flatMap_cons, ih, WriteCall.accepted,
      answer]
    rfl
  | case9 attempts written retry flag data some left unseen event rest flag' e answer =>
    simp [WriteCall.accepted, answer, WriteReply.limit]
  | _ => rfl

/-- No more calls count than there are attempts, and a run that reports a partial write has made
all of them. -/
theorem counted_calls :
    (writeRun sink attempts written retry flag data plan).calls.countP WriteCall.counts ≤
        attempts ∧
      ∀ total, (writeRun sink attempts written retry flag data plan).reply =
          .error (.partialWrite total) →
        (writeRun sink attempts written retry flag data plan).calls.countP WriteCall.counts =
          attempts := by
  fun_induction writeRun sink attempts written retry flag data plan with
  | case6 attempts written retry flag data some left unseen event rest flag' limit answer ih =>
    have counts : (WriteCall.mk data event.reply).counts = true := by
      rw [WriteCall.counts, answer, WriteReply.interrupted, Bool.not_false]
    obtain ⟨bound, used⟩ := ih
    rw [WriteRun.after_calls, WriteRun.after_reply, List.countP_cons_of_pos counts]
    refine ⟨by omega, fun total partly => ?_⟩
    have := used total partly
    omega
  | case7 attempts written retry flag data some left unseen event rest flag' e answer interrupted
      ih =>
    have free : ¬(WriteCall.mk data event.reply).counts = true := by
      simp [WriteCall.counts, answer, WriteReply.interrupted, interrupted]
    rw [WriteRun.after_calls, WriteRun.after_reply, List.countP_cons_of_neg free]
    exact ih
  | case8 attempts written retry flag data some left unseen event rest flag' e answer
      uninterrupted blocked ih =>
    have counts : (WriteCall.mk data event.reply).counts = true := by
      simp [WriteCall.counts, answer, WriteReply.interrupted, uninterrupted]
    obtain ⟨bound, used⟩ := ih
    rw [WriteRun.after_calls, WriteRun.after_reply, List.countP_cons_of_pos counts]
    refine ⟨by omega, fun total partly => ?_⟩
    have := used total partly
    omega
  | case4 | case5 | case9 =>
    refine ⟨?_, fun total wrong => nomatch wrong⟩
    exact Nat.le_trans List.countP_le_length (Nat.pos_of_ne_zero ‹_›)
  | case2 => exact ⟨Nat.le_refl _, fun _ _ => rfl⟩
  | case1 | case3 => exact ⟨Nat.zero_le _, fun total wrong => nomatch wrong⟩

end Calls

/-! ### The law of a write -/

namespace Endpoint

/-- What a write meets. -/
def writeScript (e : Endpoint) : WriteScript where
  plan := e.outbound.plan
  sink := e.outbound.sink
  flag := e.flag

/-- What is true of a write of some data in so many attempts, and of what it comes back with. -/
structure WriteLaw (e : Endpoint) (data : Bytes) (attempts : Nat) (o : WriteOutcome) : Prop where
  /-- It ends at the first thing that decides it, and leaves the rest of the plan. -/
  decided : ∃ (index : Nat) (stop : WriteStop),
    stop.Happens e.writeScript data.length attempts index ∧
      (∀ (earlier : Nat) (other : WriteStop), earlier ≤ index →
        other.Happens e.writeScript data.length attempts earlier →
        earlier = index ∧ other = stop) ∧
      o.reply = stop.reply (stop.out data.length (e.writeScript.accepted index)) ∧
      o.sent = data.take (stop.out data.length (e.writeScript.accepted index)) ∧
      o.calls = e.writeScript.calls data (stop.calls index) ∧
      o.endpoint.outbound.plan = e.outbound.plan.drop (stop.calls index) ∧
      o.endpoint.flag.raised = e.writeScript.raisedAt (stop.calls index)
  /-- No more calls than there are attempts use one up. -/
  budget : o.calls.countP WriteCall.counts ≤ attempts
  /-- Each call is offered all that the calls before it have not accepted, and none is made when
  nothing is left. -/
  offered : ∀ front call back, o.calls = front ++ call :: back →
    front.flatMap WriteCall.accepted ++ call.offered = data ∧ call.offered ≠ []
  sent : o.sent = o.calls.flatMap WriteCall.accepted
  /-- A partial write is reported when all attempts are used up and something is left. -/
  partly : ∀ written, o.reply = .error (.partialWrite written) →
    o.calls.countP WriteCall.counts = attempts ∧ o.sent.length = written ∧ written < data.length

/-- A write ends at its first stop. -/
theorem exists_first_write (e : Endpoint) (data : Bytes) (attempts : Nat) :
    ∃ index stop, e.writeScript.EndsAt data attempts 0
      (writeRun e.outbound.sink attempts 0 false e.flag data e.outbound.plan) index stop :=
  writeRun_first e.outbound.sink attempts 0 false e.flag data e.outbound.plan

/-- Every write keeps the law. -/
theorem write_law (e : Endpoint) (data : Bytes) (attempts : Nat) :
    e.WriteLaw data attempts (e.write data attempts) where
  decided := by
    obtain ⟨index, stop, ends⟩ := e.exists_first_write data attempts
    refine ⟨index, stop, WriteScript.stop?_eq_some_iff.mp ends.first.found,
      fun _ _ upTo happens => ends.first.unique upTo happens, ?_, ends.sent, ends.calls, ends.plan,
      ends.flag⟩
    exact ends.reply.trans (by rw [Nat.zero_add])
  budget := (counted_calls ..).1
  offered front call back made := by
    have resumes := resumes_calls e.outbound.sink attempts 0 false e.flag data e.outbound.plan
    rw [show (writeRun e.outbound.sink attempts 0 false e.flag data e.outbound.plan).calls =
      front ++ call :: back from made] at resumes
    exact resumes.of_append
  sent := (accepted_calls ..).symm
  partly written report := by
    obtain ⟨total, less⟩ := sent_of_partial _ _ _ _ _ _ _ _ report
    rw [Nat.zero_add] at total
    exact ⟨(counted_calls ..).2 written report, total.symm, total ▸ less⟩

end Endpoint

end SocketDemux
