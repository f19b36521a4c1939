import SocketDemux.Proofs.Endpoint.Writing
/-!
# SocketDemux.Proofs.Endpoint.Attempts

**Attempts add up.** A write with so many attempts, and with so many more if they have run out,
is one write with all of them: a partial write is the one report that a caller can go on from,
and nothing of the loop but its data, its plan and its flag is needed to do so.

* `WriteOutcome.resume` — going on with the rest of the data where a write has run out of
  attempts.
* `writeRun_add` — the loop, by induction on the run with the first attempts. An interrupted
  write is repeated within its attempt, so attempts run out only between two of them.
* `attempts_add_up` — the same for writes, with the law of each of them.
-/

namespace SocketDemux

/-- Counts bytes that were written before. -/
def SocketError.addWritten (before : Nat) : SocketError → SocketError
  | .partialWrite written => .partialWrite (before + written)
  | failure => failure

/-- Goes on behind a write that has run out of attempts; any other is final. -/
def WriteOutcome.resume (first : WriteOutcome) (data : Bytes) (attempts : Nat) : WriteOutcome :=
  match first.reply with
  | .error (.partialWrite written) =>
      let second := first.endpoint.write (data.drop written) attempts
      { reply := second.reply.mapError (.addWritten written)
        sent := first.sent ++ second.sent
        calls := first.calls ++ second.calls
        endpoint := second.endpoint }
  | _ => first

/-! ### The loop -/

section Answers

variable {sink : Sink} {attempts written : Nat} {retry : Bool} {flag : CancelFlag} {data : Bytes}
  {event : WriteEvent} {rest : List WriteEvent} (some : ¬data = []) (left : ¬attempts = 0)
  (unseen : ¬(flag.raised && !retry) = true)

include some left unseen

theorem writeRun_of_accept {limit : Nat} (answer : event.reply = .accept limit) :
    writeRun sink attempts written retry flag data (event :: rest) =
      (writeRun sink (attempts - 1) (written + min limit data.length) false
        (flag.raiseIf event.cancels) (data.drop limit) rest).after ⟨data, event.reply⟩
        (data.take limit) := by
  rw [writeRun, if_neg some, if_neg left, if_neg unseen]
  dsimp only
  rw [answer]

theorem writeRun_of_interrupted {e : IoError} (answer : event.reply = .failed e)
    (interrupted : e.isInterrupted = true) :
    writeRun sink attempts written retry flag data (event :: rest) =
      (writeRun sink attempts written true (flag.raiseIf event.cancels) data rest).after
        ⟨data, event.reply⟩ [] := by
  rw [writeRun, if_neg some, if_neg left, if_neg unseen]
  dsimp only
  rw [answer]
  exact if_pos interrupted

theorem writeRun_of_blocked {e : IoError} (answer : event.reply = .failed e)
    (uninterrupted : ¬e.isInterrupted = true) (blocked : e.isWouldBlock = true) :
    writeRun sink attempts written retry flag data (event :: rest) =
      (writeRun sink (attempts - 1) written false (flag.raiseIf event.cancels) data rest).after
        ⟨data, event.reply⟩ [] := by
  rw [writeRun, if_neg some, if_neg left, if_neg unseen]
  dsimp only
  rw [answer]
  dsimp only
  rw [if_neg uninterrupted, if_pos blocked]

theorem writeRun_of_broken {e : IoError} (answer : event.reply = .failed e)
    (uninterrupted : ¬e.isInterrupted = true) (free : ¬e.isWouldBlock = true) :
    writeRun sink attempts written retry flag data (event :: rest) =
      ⟨.error (.failed .write e), [], [⟨data, event.reply⟩], rest, flag.raiseIf event.cancels⟩ := by
  rw [writeRun, if_neg some, if_neg left, if_neg unseen]
  dsimp only
  rw [answer]
  dsimp only
  rw [if_neg uninterrupted, if_neg free]

end Answers

/-- A run behind another one. -/
def WriteRun.behind (second first : WriteRun) : WriteRun :=
  { second with
    sent := first.sent ++ second.sent
    calls := first.calls ++ second.calls }

/-- Goes on behind a run that has run out of attempts. -/
def WriteRun.resume (first : WriteRun) (sink : Sink) (data : Bytes) (attempts : Nat) : WriteRun :=
  match first.reply with
  | .error (.partialWrite written) =>
      (writeRun sink attempts written false first.flag (data.drop first.sent.length)
        first.plan).behind first
  | _ => first

/-- One more call in front makes no difference to how a run goes on. -/
theorem WriteRun.resume_after {data data' bytes : Bytes} (run : WriteRun) (sink : Sink)
    (call : WriteCall) (attempts : Nat) (left : data.drop bytes.length = data') :
    (run.after call bytes).resume sink data attempts =
      (run.resume sink data' attempts).after call bytes := by
  subst left
  unfold resume
  rw [after_reply]
  split
  · simp [behind, after, List.append_assoc]
  · rfl

/-- A run with more attempts is the run with the first of them, and what follows when they have
run out. -/
theorem writeRun_add (sink : Sink) (first more written : Nat) (retry : Bool) (flag : CancelFlag)
    (data : Bytes) (plan : List WriteEvent) (left : retry = true → first ≠ 0) :
    writeRun sink (first + more) written retry flag data plan =
      (writeRun sink first written retry flag data plan).resume sink data more := by
  fun_induction writeRun sink first written retry flag data plan with
  | case1 plan first written retry flag =>
    rw [writeRun.eq_def, if_pos rfl]
    rfl
  | case2 plan written retry flag data some =>
    cases retry with
    | true => exact absurd rfl (left rfl)
    | false =>
      rw [Nat.zero_add]
      rfl
  | case3 plan first written retry flag data some attempts seen =>
    rw [writeRun.eq_def, if_neg some, if_neg (by omega), if_pos seen]
    rfl
  | case4 first written retry flag data some attempts unseen accepting =>
    rw [writeRun.eq_def, if_neg some, if_neg (by omega), if_neg unseen, accepting]
    rfl
  | case5 first written retry flag data some attempts unseen broken =>
    rw [writeRun.eq_def, if_neg some, if_neg (by omega), if_neg unseen, broken]
    rfl
  | case6 first written retry flag data some attempts unseen event rest flag' limit answer ih =>
    have fewer : first + more - 1 = first - 1 + more := by omega
    have unsent : data.drop (data.take limit).length = data.drop limit := by simp
    rw [writeRun_of_accept some (by omega) unseen answer, fewer, ih Bool.noConfusion,
      WriteRun.resume_after _ _ _ _ unsent]
  | case7 first written retry flag data some attempts unseen event rest flag' e answer interrupted
      ih =>
    have whole : data.drop ([] : Bytes).length = data := List.drop_zero
    rw [writeRun_of_interrupted some (by omega) unseen answer interrupted, ih (fun _ => attempts),
      WriteRun.resume_after _ _ _ _ whole]
  | case8 first written retry flag data some attempts unseen event rest flag' e answer
      uninterrupted blocked ih =>
    have fewer : first + more - 1 = first - 1 + more := by omega
    have whole : data.drop ([] : Bytes).length = data := List.drop_zero
    rw [writeRun_of_blocked some (by omega) unseen answer uninterrupted blocked, fewer,
      ih Bool.noConfusion, WriteRun.resume_after _ _ _ _ whole]
  | case9 first written retry flag data some attempts unseen event rest flag' e answer
      uninterrupted free =>
    rw [writeRun_of_broken some (by omega) unseen answer uninterrupted free]
    rfl

/-- What was written before shows in the count of a partial write only. -/
theorem writeRun_written (sink : Sink) (attempts before written : Nat) (retry : Bool)
    (flag : CancelFlag) (data : Bytes) (plan : List WriteEvent) :
    writeRun sink attempts (before + written) retry flag data plan =
      { writeRun sink attempts written retry flag data plan with
        reply := (writeRun sink attempts written retry flag data plan).reply.mapError
          (.addWritten before) } := by
  fun_induction writeRun sink attempts written retry flag data plan with
  | case1 plan attempts written retry flag =>
    rw [writeRun.eq_def, if_pos rfl]
    rfl
  | case2 plan written retry flag data some =>
    rw [writeRun.eq_def, if_neg some, if_pos rfl]
    rfl
  | case3 plan attempts written retry flag data some left seen =>
    rw [writeRun.eq_def, if_neg some, if_neg left, if_pos seen]
    rfl
  | case4 attempts written retry flag data some left unseen accepting =>
    rw [writeRun.eq_def, if_neg some, if_neg left, if_neg unseen, accepting]
    rfl
  | case5 attempts written retry flag data some left unseen broken =>
    rw [writeRun.eq_def, if_neg some, if_neg left, if_neg unseen, broken]
    rfl
  | case6 attempts written retry flag data some left unseen event rest flag' limit answer ih =>
    rw [writeRun_of_accept some left unseen answer, Nat.add_assoc, ih]
    rfl
  | case7 attempts written retry flag data some left unseen event rest flag' e answer interrupted
      ih =>
    rw [writeRun_of_interrupted some left unseen answer interrupted, ih]
    rfl
  | case8 attempts written retry flag data some left unseen event rest flag' e answer
      uninterrupted blocked ih =>
    rw [writeRun_of_blocked some left unseen answer uninterrupted blocked, ih]
    rfl
  | case9 attempts written retry flag data some left unseen event rest flag' e answer
      uninterrupted free =>
    rw [writeRun_of_broken some left unseen answer uninterrupted free]
    rfl

/-! ### Writes -/

namespace Endpoint

variable (e : Endpoint) (data : Bytes)

/-- What a write comes back with behind a run of the loop. -/
def wrote (run : WriteRun) : WriteOutcome where
  reply := run.reply
  sent := run.sent
  calls := run.calls
  endpoint :=
    { e with
      outbound :=
        { e.outbound with
          plan := run.plan
          accepted := e.outbound.accepted ++ run.sent }
      flag := run.flag }

theorem write_eq_wrote (attempts : Nat) :
    e.write data attempts =
      e.wrote (writeRun e.outbound.sink attempts 0 false e.flag data e.outbound.plan) := rfl

/-- A write goes on as its run does. -/
theorem resume_wrote (run : WriteRun) (attempts : Nat)
    (counted : ∀ written, run.reply = .error (.partialWrite written) →
      written = run.sent.length) :
    (e.wrote run).resume data attempts = e.wrote (run.resume e.outbound.sink data attempts) := by
  have same : (e.wrote run).reply = run.reply := rfl
  unfold WriteOutcome.resume WriteRun.resume
  rw [same]
  split
  · next written partly =>
    -- the second write starts at zero, and the loop where the first one has stopped
    have zero := writeRun_written e.outbound.sink attempts written 0 false run.flag
      (data.drop written) run.plan
    rw [Nat.add_zero] at zero
    rw [← counted written partly, zero]
    simp [wrote, WriteRun.behind, write_eq_wrote, List.append_assoc]
  · rfl

/-- A write with more attempts is the write with the first of them, and what follows if they run
out. -/
theorem write_add (first more : Nat) :
    e.write data (first + more) = (e.write data first).resume data more := by
  have run := writeRun_add e.outbound.sink first more 0 false e.flag data e.outbound.plan
    Bool.noConfusion
  rw [write_eq_wrote, write_eq_wrote, run, resume_wrote]
  intro written partly
  have total := (sent_of_partial _ _ _ _ _ _ _ _ partly).1
  rwa [Nat.zero_add] at total

/-- **Attempts add up.** Take any endpoint, with any answers of the transport to come and
cancellation at any of them, and any data. A write with `first + more` attempts is the write with
`first` of them and, exactly if that reports a partial write, another one of the rest of the data
with `more` attempts, its count put on top of the first one's: the same result, the same bytes
sent by the same calls, and the same endpoint, with its plan and its flag.

And every write keeps the law: it makes no more calls that use up an attempt than it has
attempts, offers to each what the ones before it have not accepted, makes none when nothing is
left, and reports a partial write only when all attempts are used up and something is left. -/
theorem attempts_add_up :
    (∀ first more, e.write data (first + more) = (e.write data first).resume data more) ∧
      ∀ attempts, e.WriteLaw data attempts (e.write data attempts) :=
  ⟨e.write_add data, e.write_law data⟩

/-- Accepts a byte a time, with an interruption in between. -/
def stutteringTransport : Endpoint where
  outbound :=
    { plan := [⟨.accept 1, false⟩, ⟨.failed (.os 4), false⟩, ⟨.accept 1, false⟩] }

/-- Two bytes go out in two attempts, and the third one in one more. -/
theorem stutteringTransport_attempts :
    (stutteringTransport.write [1, 2, 3] 2).reply = .error (.partialWrite 2) ∧
      stutteringTransport.write [1, 2, 3] 3 =
        (stutteringTransport.write [1, 2, 3] 2).resume [1, 2, 3] 1 ∧
      ((stutteringTransport.write [1, 2, 3] 2).resume [1, 2, 3] 1).sent = [1, 2, 3] ∧
      stutteringTransport.WriteLaw [1, 2, 3] 2 (stutteringTransport.write [1, 2, 3] 2) := by
  obtain ⟨add, law⟩ := attempts_add_up stutteringTransport [1, 2, 3]
  exact ⟨rfl, add 2 1, rfl, law 2⟩

end Endpoint

end SocketDemux
