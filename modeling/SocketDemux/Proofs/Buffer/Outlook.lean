import SocketDemux.Proofs.Buffer.Calls
/-!
# SocketDemux.Proofs.Buffer.Outlook

What a transport **delivers up to its first failure**, and what refills make of it.

A read that needs more bytes than there are to come takes all that the transport delivers, and
comes back with what stands in the way of more: `Endpoint.outlook`. No splitting shows in it. A
call on a buffer reads in small portions instead, each as large as the free room; what it
looks at is the window, the first bytes of what is buffered and what is delivered.

* `Endpoint.delivers`, `Endpoint.fate` — the bytes, and the failure.
* `readRun_portion` — a portion of the outlook leaves the rest of it as the next outlook, unless
  it fills the room. One answer can raise the flag with bytes that are taken in two portions, so
  that behind a portion that fills the room the outlook may be worse; but then the buffer is
  full.
* `refillUntil_outlook` — refills find what is looked for in the window, or the window is
  buffered and they fail: because it is full, or with the fate of the transport.
-/

namespace SocketDemux

theorem Reply.error_ne_ok {ε α : Type} (failure : ε) (value : α) :
    (.error failure : Reply ε α) ≠ .ok value := by
  intro wrong
  cases wrong

theorem Reply.waiting_ne_ok {ε α : Type} (value : α) : (.waiting : Reply ε α) ≠ .ok value := by
  intro wrong
  cases wrong

/-! ### A read that takes all there is -/

/-- The run of a read that needs one byte more than there are to come. -/
def outlookRun (ending : Ending) (deadline : Deadline) (retry : Bool) (flag : CancelFlag)
    (now : Instant) (events : List ReadEvent) : ReadRun :=
  readRun ending deadline ((arrivals events).length + 1) ((arrivals events).length + 1) retry
    flag now events

section Answers

variable (ending : Ending) (deadline : Deadline) {retry : Bool} {flag : CancelFlag}
  (now : Instant) {event : ReadEvent} (rest : List ReadEvent)

/-- Bytes that have arrived are the front of the outlook. -/
theorem outlookRun_data {bytes : Bytes} (unseen : ¬(flag.raised && !retry) = true)
    (answer : event.reply = .data bytes) (some : ¬bytes = []) :
    (outlookRun ending deadline retry flag now (event :: rest)).taken =
        bytes ++ (outlookRun ending deadline false (flag.raiseIf event.cancels) now rest).taken ∧
      (outlookRun ending deadline retry flag now (event :: rest)).reply =
        (outlookRun ending deadline false (flag.raiseIf event.cancels) now rest).reply := by
  have roomy : ¬(bytes ++ arrivals rest).length + 1 < bytes.length := by
    rw [List.length_append]
    omega
  have left : (bytes ++ arrivals rest).length + 1 - bytes.length = (arrivals rest).length + 1 := by
    rw [List.length_append]
    omega
  rw [outlookRun, arrivals_cons, answer, ReadReply.bytes, readRun, if_neg (Nat.succ_ne_zero _),
    if_neg unseen, answer]
  dsimp only
  rw [if_neg some, if_neg roomy, left]
  exact ⟨rfl, rfl⟩

/-- An interruption does not show in it. -/
theorem outlookRun_interrupted {e : IoError} (unseen : ¬(flag.raised && !retry) = true)
    (answer : event.reply = .failed e) (interrupted : e.isInterrupted = true) :
    (outlookRun ending deadline retry flag now (event :: rest)).taken =
        (outlookRun ending deadline true (flag.raiseIf event.cancels) now rest).taken ∧
      (outlookRun ending deadline retry flag now (event :: rest)).reply =
        (outlookRun ending deadline true (flag.raiseIf event.cancels) now rest).reply := by
  rw [outlookRun, arrivals_cons, answer, ReadReply.bytes, readRun, if_neg (Nat.succ_ne_zero _),
    if_neg unseen, answer]
  dsimp only
  rw [if_pos interrupted]
  exact ⟨rfl, rfl⟩

/-- Nor does a wait that goes on, but for the time it takes. -/
theorem outlookRun_waited {e : IoError} {later : Instant}
    (unseen : ¬(flag.raised && !retry) = true) (answer : event.reply = .failed e)
    (uninterrupted : ¬e.isInterrupted = true) (blocked : e.isWouldBlock = true)
    (waited : awaitReady (flag.raiseIf event.cancels) deadline now event.wait = (.ok (), later)) :
    (outlookRun ending deadline retry flag now (event :: rest)).taken =
        (outlookRun ending deadline false (flag.raiseIf event.cancels) later rest).taken ∧
      (outlookRun ending deadline retry flag now (event :: rest)).reply =
        (outlookRun ending deadline false (flag.raiseIf event.cancels) later rest).reply := by
  rw [outlookRun, arrivals_cons, answer, ReadReply.bytes, readRun, if_neg (Nat.succ_ne_zero _),
    if_neg unseen, answer]
  dsimp only
  rw [if_neg uninterrupted, if_pos blocked, waited]
  exact ⟨rfl, rfl⟩

end Answers

/-- What a read of a portion comes to, beside the outlook from where it starts and from where it
ends. -/
inductive Portion (room : Nat) (all portion later : ReadRun) : Prop
  /-- Nothing can be read, and the outlook was nothing else. -/
  | ended (failed : portion.reply ≠ .ok ()) (nothing : all.taken = [])
      (reply : all.reply = portion.reply)
  /-- What is read is the front of the outlook, and the rest is the next one. -/
  | moved (read : portion.reply = .ok ()) (taken : all.taken = portion.taken ++ later.taken)
      (reply : all.reply = later.reply)
  /-- What is read is the front of the outlook, and there is no more room. -/
  | filled (read : portion.reply = .ok ()) (full : portion.taken.length = room)
      (taken : portion.taken <+: all.taken)

/-- An answer that brings nothing leaves the outlook as it is. -/
theorem Portion.of_eq {room : Nat} {all all' portion later : ReadRun} {call : ReadCall}
    (h : Portion room all' portion later)
    (same : all.taken = all'.taken ∧ all.reply = all'.reply) :
    Portion room all (portion.after call []) later := by
  obtain ⟨taken, reply⟩ := same
  cases h with
  | ended failed nothing same => exact .ended failed (taken.trans nothing) (reply.trans same)
  | moved read front same => exact .moved read (taken.trans front) (reply.trans same)
  | filled read full front => exact .filled read full (taken ▸ front)

/-- A read that needs one byte. -/
theorem readRun_portion (ending : Ending) (deadline : Deadline) (room : Nat) {need : Nat}
    (one : need = 1) (retry : Bool) (flag : CancelFlag) (now : Instant)
    (events : List ReadEvent) :
    Portion room (outlookRun ending deadline retry flag now events)
      (readRun ending deadline room need retry flag now events)
      (outlookRun ending deadline false
        (readRun ending deadline room need retry flag now events).flag
        (readRun ending deadline room need retry flag now events).now
        (readRun ending deadline room need retry flag now events).events) := by
  fun_induction readRun ending deadline room need retry flag now events with
  | case1 => cases one
  | case2 events room need retry flag now some seen =>
    have all : outlookRun ending deadline retry flag now events =
        ⟨.error .terminationRequested, [], [], events, flag, now⟩ := by
      rw [outlookRun, readRun.eq_def, if_neg (Nat.succ_ne_zero _), if_pos seen]
    rw [all]
    exact .ended (Reply.error_ne_ok _ _) rfl rfl
  | case3 room need retry flag now some unseen finished =>
    refine .ended (Reply.error_ne_ok _ _) ?_ ?_
    · simp [outlookRun, readRun, unseen, finished]
    · simp [outlookRun, readRun, unseen, finished]
  | case4 room need retry flag now some unseen quiet =>
    refine .ended (awaitNothing_ne_ok _ _ _) ?_ ?_
    · simp [outlookRun, readRun, unseen, quiet]
    · simp [outlookRun, readRun, unseen, quiet]
  | case5 room need retry flag now some unseen event rest flag' answer =>
    refine .ended (Reply.error_ne_ok _ _) ?_ ?_
    · simp [outlookRun, readRun, unseen, answer]
    · simp [outlookRun, readRun, unseen, answer]
  | case6 room need retry flag now some unseen event rest flag' bytes answer more short =>
    obtain ⟨taken, -⟩ := outlookRun_data ending deadline now rest unseen answer more
    refine .filled rfl ?_ ?_
    · exact List.length_take_of_le (Nat.le_of_lt short)
    · rw [taken]
      exact (List.take_prefix room bytes).trans (List.prefix_append ..)
  | case7 room need retry flag now some unseen event rest flag' bytes answer more roomy ih =>
    obtain ⟨taken, reply⟩ := outlookRun_data ending deadline now rest unseen answer more
    -- the bytes are all that is needed, so the portion ends with them
    have met : need - bytes.length = 0 := by
      have := List.length_pos_iff.mpr more
      omega
    rw [met, readRun_zero]
    refine .moved rfl ?_ reply
    rw [ReadRun.after_taken, List.append_nil]
    exact taken
  | case8 room need retry flag now some unseen event rest flag' e answer interrupted ih =>
    exact (ih one).of_eq (outlookRun_interrupted ending deadline now rest unseen answer interrupted)
  | case9 room need retry flag now some unseen event rest flag' e answer uninterrupted blocked
      failure later waited =>
    refine .ended (Reply.error_ne_ok _ _) ?_ ?_
    · simp [outlookRun, readRun, unseen, answer, uninterrupted, blocked, flag', waited]
    · simp [outlookRun, readRun, unseen, answer, uninterrupted, blocked, flag', waited]
  | case10 room need retry flag now some unseen event rest flag' e answer uninterrupted blocked
      later waited ih =>
    exact (ih one).of_eq
      (outlookRun_waited ending deadline now rest unseen answer uninterrupted blocked waited)
  | case11 room need retry flag now some unseen event rest flag' e answer uninterrupted free =>
    refine .ended (Reply.error_ne_ok _ _) ?_ ?_
    · simp [outlookRun, readRun, unseen, answer, uninterrupted, free]
    · simp [outlookRun, readRun, unseen, answer, uninterrupted, free]

/-! ### What is delivered -/

/-- The reply of a call that has no value to give. -/
def Reply.barren {ε α β : Type} : Reply ε α → Reply ε β
  | .error failure => .error failure
  | _ => .waiting

theorem Reply.barren_map {ε α β γ : Type} (reply : Reply ε α) (f : α → β) :
    ((reply.map f).barren : Reply ε γ) = reply.barren := by
  cases reply with
  | _ => rfl

theorem Reply.barren_barren {ε α β γ : Type} (reply : Reply ε α) :
    ((reply.barren : Reply ε β).barren : Reply ε γ) = reply.barren := by
  cases reply with
  | _ => rfl

theorem Reply.barren_ne_ok {ε α β : Type} (reply : Reply ε α) (value : β) :
    reply.barren ≠ .ok value := by
  cases reply with
  | error failure => exact Reply.error_ne_ok _ _
  | _ => exact Reply.waiting_ne_ok _

namespace Endpoint

/-- A read that needs one byte more than there are to come. -/
def outlook (e : Endpoint) (deadline : Deadline) : ReadOutcome :=
  e.readBy (List.replicate (e.arrivals.length + 1) 0) (e.arrivals.length + 1) deadline

/-- What the transport delivers up to its first failure. -/
def delivers (e : Endpoint) (deadline : Deadline) : Bytes := (e.outlook deadline).taken

/-- The failure that stands in the way of more, as the reply of a call. -/
def fate {α : Type} (e : Endpoint) (deadline : Deadline) : Reply SocketError α :=
  (e.outlook deadline).reply.barren

/-- There is always something that stands in the way. -/
theorem outlook_ne_ok (e : Endpoint) (deadline : Deadline) (total : Nat) :
    (e.outlook deadline).reply ≠ .ok total := by
  intro success
  obtain ⟨length, enough⟩ := readBy_ok success
  have whole := congrArg List.length (e.readBy_arrivals
    (List.replicate (e.arrivals.length + 1) 0) (e.arrivals.length + 1) deadline)
  rw [List.length_append] at whole
  omega

/-- What is delivered is the front of what is still to come. -/
theorem delivers_prefix (e : Endpoint) (deadline : Deadline) :
    e.delivers deadline <+: e.arrivals :=
  ⟨_, e.readBy_arrivals _ _ deadline⟩

/-- What there is to come for a read that begins now. -/
def coming (e : Endpoint) (deadline : Deadline) : ReadRun :=
  outlookRun e.inbound.ending deadline false e.flag e.now e.inbound.events

theorem outlook_eq (e : Endpoint) (deadline : Deadline) :
    e.delivers deadline = (e.coming deadline).taken ∧
      ∀ α : Type, (e.fate deadline : Reply SocketError α) = (e.coming deadline).reply.barren := by
  have enough : ¬(List.replicate (e.arrivals.length + 1) (0 : UInt8)).length <
      e.arrivals.length + 1 := by
    rw [List.length_replicate]
    exact Nat.lt_irrefl _
  unfold delivers fate outlook readBy
  rw [if_neg enough, List.length_replicate]
  exact ⟨rfl, fun α => Reply.barren_map ..⟩

end Endpoint

/-! ### One refill -/

namespace StreamBuffer

/-- All that a call with this deadline could look at: what is buffered, and what is delivered. -/
def whole (b : StreamBuffer) (deadline : Deadline) : Bytes :=
  b.storage.data ++ b.endpoint.delivers deadline

/-- What a refill of a buffer with room comes to. -/
inductive Refill (b : StreamBuffer) (deadline : Deadline) (next : StreamBuffer) :
    Reply SocketError Nat → Prop
  /-- Nothing is delivered, and the refill meets with the fate of the transport. -/
  | ended {reply : Reply SocketError Nat} (fate : reply = b.endpoint.fate deadline)
      (nothing : b.endpoint.delivers deadline = []) (data : next.storage.data = b.storage.data) :
      Refill b deadline next reply
  /-- What is buffered and what is delivered is the same as before. -/
  | moved {count : Nat} (whole : next.whole deadline = b.whole deadline)
      (fate : ∀ α : Type,
        (next.endpoint.fate deadline : Reply SocketError α) = b.endpoint.fate deadline) :
      Refill b deadline next (.ok count)
  /-- There is no more room, and what is buffered is the window. -/
  | filled {count : Nat} (full : next.storage.isFull = true)
      (front : next.storage.data <+: b.whole deadline) :
      Refill b deadline next (.ok count)

theorem refill_of_fillBy {b next : StreamBuffer} {deadline : Deadline}
    {reply : Reply SocketError Nat} (room : b.storage.isFull = false)
    (call : b.fillBy deadline = (reply, next)) : Refill b deadline next reply := by
  obtain ⟨data, capacity, -, -⟩ := fillBy_incoming call
  have kept : (∀ count, reply ≠ .ok count) → next.storage.data = b.storage.data := by
    intro unsuccessful
    rw [data, incoming_eq_nil call unsuccessful, List.append_nil]
  obtain ⟨delivers, fate⟩ := b.endpoint.outlook_eq deadline
  obtain ⟨delivers', fate'⟩ := next.endpoint.outlook_eq deadline
  have fits : ¬b.storage.spare.length < 1 := Nat.not_lt.mpr (Storage.one_le_length_spare room)
  have portion := readRun_portion b.endpoint.inbound.ending deadline b.storage.spare.length rfl
    false b.endpoint.flag b.endpoint.now b.endpoint.inbound.events
  unfold incoming at data
  unfold fillBy at call
  unfold Endpoint.readBy at call data
  rw [if_neg (Bool.eq_false_iff.mp room), if_neg fits] at call data
  dsimp only at call data
  generalize readRun b.endpoint.inbound.ending deadline b.storage.spare.length 1 false
    b.endpoint.flag b.endpoint.now b.endpoint.inbound.events = run at call data portion
  cases portion with
  | ended failed nothing same =>
    have barren : (b.endpoint.fate deadline : Reply SocketError Nat) = run.reply.barren :=
      (fate Nat).trans (congrArg Reply.barren same)
    cases answer : run.reply with
    | ok value => exact absurd answer failed
    | error failure =>
      rw [answer] at call barren
      cases call
      exact .ended barren.symm (delivers.trans nothing) (kept (Reply.error_ne_ok _))
    | waiting =>
      rw [answer] at call barren
      cases call
      exact .ended barren.symm (delivers.trans nothing) (kept Reply.waiting_ne_ok)
  | moved read taken same =>
    rw [read] at call
    cases call
    refine .moved ?_ fun α => ?_
    · rw [whole, whole, delivers, data, List.append_assoc]
      exact congrArg (b.storage.data ++ ·) ((congrArg (run.taken ++ ·) delivers').trans taken.symm)
    · rw [fate, fate']
      exact (congrArg Reply.barren same).symm
  | filled read full front =>
    rw [read] at call
    cases call
    have filled := b.storage.filled_le
    refine .filled ?_ ?_
    · rw [Storage.isFull_iff, capacity, data, List.length_append, full, Storage.length_spare,
        Storage.length_data, Storage.capacity]
      omega
    · rw [data, whole, delivers]
      exact (List.prefix_append_right_inj _).mpr front

/-! ### Refills for something that is looked for -/

/-- The reply of whoever finds nothing in a window of so many bytes: it is full, or the
transport delivers no more. -/
def windowReply {α : Type} (b : StreamBuffer) (deadline : Deadline) : Reply SocketError α :=
  if b.storage.capacity ≤ (b.whole deadline).length then
    .error (.bufferExhausted b.storage.capacity)
  else b.endpoint.fate deadline

theorem barren_windowReply {α β : Type} (b : StreamBuffer) (deadline : Deadline) :
    (b.windowReply deadline : Reply SocketError α).barren =
      (b.windowReply deadline : Reply SocketError β) := by
  unfold windowReply
  split
  · rfl
  · exact Reply.barren_barren _

theorem windowReply_ne_ok {α : Type} (b : StreamBuffer) (deadline : Deadline) (value : α) :
    b.windowReply deadline ≠ .ok value := by
  unfold windowReply
  split
  · exact Reply.error_ne_ok _ _
  · exact Reply.barren_ne_ok _ _

/-- A full buffer is not refilled. -/
theorem refillUntil_of_full {goal : Storage → Bool} {b : StreamBuffer}
    (full : b.storage.isFull = true) (unmet : ¬goal b.storage = true) (deadline : Deadline) :
    b.refillUntil goal deadline = (.error (.bufferExhausted b.storage.capacity), b) := by
  have call : b.fillBy deadline = (.error (.bufferExhausted b.storage.capacity), b) := if_pos full
  rw [refillUntil, if_neg unmet]
  split
  · next wrong =>
    rw [call] at wrong
    cases wrong
  · next failed =>
    rw [call] at failed
    cases failed
    rfl
  · next wrong =>
    rw [call] at wrong
    cases wrong

/-- A refill that does not succeed finds the whole window buffered. -/
theorem window_of_fillBy {b next : StreamBuffer} {deadline : Deadline}
    {reply : Reply SocketError Nat} (call : b.fillBy deadline = (reply, next))
    (unsuccessful : ∀ count, reply ≠ .ok count) :
    reply.barren = (b.windowReply deadline : Reply SocketError Unit) ∧
      next.storage.data = b.storage.data ∧
      b.storage.data = (b.whole deadline).take b.storage.capacity := by
  obtain ⟨data, -, -, -⟩ := fillBy_incoming call
  rw [incoming_eq_nil call unsuccessful, List.append_nil] at data
  unfold windowReply whole
  cases full : b.storage.isFull with
  | true =>
    have length := (Storage.isFull_iff _).mp full
    rw [fillBy, if_pos full] at call
    cases call
    rw [List.length_append, if_pos (by omega), ← length, List.take_left]
    exact ⟨rfl, rfl, rfl⟩
  | false =>
    have room := Storage.one_le_length_spare full
    rw [Storage.length_spare, ← Storage.length_data] at room
    cases refill_of_fillBy full call with
    | ended fate nothing =>
      rw [nothing, List.append_nil, if_neg (by omega), List.take_of_length_le (by omega), fate]
      exact ⟨Reply.barren_barren _, data, rfl⟩
    | moved | filled => exact absurd rfl (unsuccessful _)

/-- Refills for something that is looked for in the buffered bytes: it is found, or it is not in
the window, and then the window is buffered. -/
theorem refillUntil_outlook (found : Bytes → Bool) (b : StreamBuffer) (deadline : Deadline) :
    (∃ next unread, b.refillUntil (fun s => found s.data) deadline = (.ok (), next) ∧
        found next.storage.data = true ∧ next.storage.data ++ unread = b.whole deadline) ∨
      ∃ next, b.refillUntil (fun s => found s.data) deadline = (b.windowReply deadline, next) ∧
        found next.storage.data = false ∧
        next.storage.data = (b.whole deadline).take b.storage.capacity := by
  generalize goal : (fun s : Storage => found s.data) = search
  fun_induction refillUntil search b deadline with
  | case1 b met =>
    subst goal
    exact .inl ⟨b, _, rfl, met, rfl⟩
  | case2 b unmet count next call ih =>
    subst goal
    obtain ⟨-, capacity, -, -⟩ := fillBy_incoming call
    have room : b.storage.isFull = false := by
      cases full : b.storage.isFull with
      | false => rfl
      | true =>
        rw [fillBy, if_pos full] at call
        cases call
    cases refill_of_fillBy room call with
    | ended fate => exact absurd fate.symm (Reply.barren_ne_ok _ _)
    | moved whole fate =>
      -- the refill moves bytes from the transport to the buffer, and the window stays
      unfold windowReply at ih ⊢
      rw [← whole, ← capacity, ← fate]
      exact ih
    | filled full front =>
      obtain ⟨rest, whole⟩ := front
      have length := (Storage.isFull_iff _).mp full
      by_cases met : found next.storage.data = true
      · refine .inl ⟨next, rest, ?_, met, whole⟩
        rw [refillUntil, if_pos met]
      · refine .inr ⟨next, ?_, Bool.eq_false_iff.mpr met, ?_⟩
        · rw [refillUntil_of_full full met, windowReply, ← whole, List.length_append,
            if_pos (by omega), capacity]
        · rw [← whole, ← capacity, ← length, List.take_left]
  | case3 b unmet failure next call =>
    subst goal
    obtain ⟨reply, same, window⟩ := window_of_fillBy call (Reply.error_ne_ok _)
    exact .inr ⟨next, by rw [← reply]; rfl, by rw [same]; simpa using unmet, same.trans window⟩
  | case4 b unmet next call =>
    subst goal
    obtain ⟨reply, same, window⟩ := window_of_fillBy call Reply.waiting_ne_ok
    exact .inr ⟨next, by rw [← reply]; rfl, by rw [same]; simpa using unmet, same.trans window⟩

/-- What a call leaves unread is what it has not taken of what is delivered. -/
theorem HandsOut.taken {b next : StreamBuffer} {handed unread : Bytes} {deadline : Deadline}
    (moved : HandsOut b handed next)
    (all : handed ++ next.storage.data ++ unread = b.whole deadline) :
    ∃ taken, taken ++ unread = b.endpoint.delivers deadline ∧
      taken ++ next.endpoint.arrivals = b.endpoint.arrivals := by
  obtain ⟨taken, stream, balance⟩ := moved.balance
  refine ⟨taken, ?_, stream⟩
  rw [← balance, List.append_assoc] at all
  exact List.append_cancel_left all

/-- A record is taken off when refills succeed, and else the reply is theirs. -/
theorem takeWhen_of_barren {goal : Storage → Bool} {size : Storage → Nat} {b next : StreamBuffer}
    {deadline : Deadline} {reply : Reply SocketError Unit}
    (call : b.refillUntil goal deadline = (reply, next)) (unsuccessful : reply ≠ .ok ()) :
    b.takeWhen goal size deadline = (reply.barren, next) := by
  rw [takeWhen, call]
  cases reply with
  | ok => exact absurd rfl unsuccessful
  | error failure => rfl
  | waiting => rfl

end StreamBuffer

end SocketDemux
