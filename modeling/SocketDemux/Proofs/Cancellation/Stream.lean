import SocketDemux.Endpoint.Stream
import SocketDemux.Proofs.Cancellation.Endpoint
/-!
# SocketDemux.Proofs.Cancellation.Stream

**Cancellation at the stream interface** of an endpoint, where every failure is an input/output
error: that of cancellation is `cancelled`.

* `readSome_of_raised`, `writeSome_of_raised` and the loops on top of them — what a call on a
  cancelled endpoint comes back with.
* `Endpoint.Blames` — the errors that the transport or a poll is about to fail with. They come
  out of the stream interface as they are; so `cancelled` means that the endpoint is cancelled,
  unless the transport itself has this very error to give (`readSome_unasked` and so on).
-/

namespace SocketDemux

/-! ### Calls on a cancelled endpoint -/

/-- How the stream interface tells that cancellation was requested. -/
def cancelled : IoError := .carrying .other .terminationRequested

theorem cancelled_not_interrupted : cancelled.isInterrupted = false := by
  simp [cancelled, IoError.isInterrupted]

namespace Endpoint

section Cancelled

variable {e : Endpoint} (raised : e.flag.raised = true)

include raised

theorem readSome_of_raised {room : Nat} (some : room ≠ 0) :
    e.readSome room = (.error cancelled, e) := by
  rw [readSome, if_neg some, read_of_raised raised (Nat.le_refl 1) (by simp; omega)]
  rfl

theorem writeSome_of_raised {data : Bytes} (some : data ≠ []) :
    e.writeSome data = (.error cancelled, e) := by
  rw [writeSome, write_of_raised raised some e.options.writeAttempts_pos]
  rfl

theorem readFull_of_raised {count : Nat} (some : count ≠ 0) :
    e.readFull count = ⟨.error cancelled, [], e⟩ := by
  rw [readFull, dif_neg some]
  split
  · next got next answer =>
    rw [readSome_of_raised raised some] at answer
    cases answer
  · next error next answer =>
    rw [readSome_of_raised raised some] at answer
    cases answer
    rw [dif_neg (by simp [cancelled_not_interrupted])]
  · next next answer =>
    rw [readSome_of_raised raised some] at answer
    cases answer

theorem writeFull_of_raised {data : Bytes} (some : data ≠ []) :
    e.writeFull data = (.error cancelled, e) := by
  rw [writeFull, dif_neg some]
  split
  · next count next answer =>
    rw [writeSome_of_raised raised some] at answer
    cases answer
  · next error next answer =>
    rw [writeSome_of_raised raised some] at answer
    cases answer
    rw [dif_neg (by simp [cancelled_not_interrupted])]

theorem readToEnd_of_raised {ρ : Type} (policy : RoomPolicy ρ) (state : ρ) :
    e.readToEnd policy state = ⟨.error cancelled, [], e⟩ := by
  have some : policy.room state ≠ 0 := Nat.pos_iff_ne_zero.mp (policy.room_pos state)
  rw [readToEnd]
  split
  · next got next answer =>
    rw [readSome_of_raised raised some] at answer
    cases answer
  · next error next answer =>
    rw [readSome_of_raised raised some] at answer
    cases answer
    rw [dif_neg (by simp [cancelled_not_interrupted])]
  · next next answer =>
    rw [readSome_of_raised raised some] at answer
    cases answer

end Cancelled

end Endpoint

/-! ### Where `cancelled` comes from -/

/-- The transport is about to fail a read, or a poll a wait, with this very error. -/
def ReadEvent.Blames (event : ReadEvent) (error : IoError) : Prop :=
  event.reply = .failed error ∨ event.wait.ends = .failed error

/-- A wait fails with what its poll fails with. -/
theorem awaitReady_blames {flag : CancelFlag} {deadline : Deadline} {now : Instant} {wait : Wait}
    {operation : Operation} {error : IoError}
    (told : (awaitReady flag deadline now wait).1 = .error (.failed operation error)) :
    wait.ends = .failed error := by
  have failed : (wait.run deadline now).2.failure? = some error := by
    rw [Pause.awaitReady_fst] at told
    cases failed : (wait.run deadline now).2.failure? with
    | some e =>
      rw [failed] at told
      cases told
      rfl
    | none =>
      rw [failed] at told
      dsimp only at told
      split at told
      · cases told
      · split at told <;> cases told
  have ends : (wait.run deadline now).2 = .failed error := by
    cases ends : (wait.run deadline now).2 with
    | failed e =>
      rw [ends] at failed
      simp only [WaitEnd.failure?] at failed
      split at failed
      · cases failed
      · rw [Option.some.inj failed]
    | ready | idle =>
      rw [ends] at failed
      cases failed
  unfold Wait.run at ends
  split at ends
  · exact ends
  · split at ends
    · exact ends
    · cases ends

/-- An error that comes out of the read loop was among its events, and so was every error
among the events that it leaves. -/
theorem readRun_blames {ending : Ending} {deadline : Deadline} {room need : Nat} {retry : Bool}
    {flag : CancelFlag} {now : Instant} {events : List ReadEvent} {error : IoError} :
    (∃ event ∈ (readRun ending deadline room need retry flag now events).events,
        event.Blames error) ∨
      (∃ operation, (readRun ending deadline room need retry flag now events).reply =
        .error (.failed operation error)) →
    ∃ event ∈ events, event.Blames error := by
  fun_induction readRun ending deadline room need retry flag now events with
  | case1 events | case2 events =>
    rintro (left | ⟨operation, told⟩)
    · exact left
    · cases told
  | case3 =>
    rintro (left | ⟨operation, told⟩)
    · exact left
    · cases told
  | case4 room need retry flag now =>
    rintro (left | ⟨operation, told⟩)
    · exact left
    · dsimp only [awaitNothing] at told
      split at told
      · cases told
      · split at told <;> cases told
  | case5 room need retry flag now some unnoticed event rest =>
    rintro (⟨other, member, blames⟩ | ⟨operation, told⟩)
    · exact ⟨other, List.mem_cons_of_mem _ member, blames⟩
    · cases told
  | case6 room need retry flag now some unnoticed event rest raised bytes data =>
    rintro (⟨other, member, blames⟩ | ⟨operation, told⟩)
    · rcases List.mem_cons.mp member with rfl | member
      · rcases blames with replied | waited
        · cases replied
        · exact ⟨event, List.mem_cons_self, .inr waited⟩
      · exact ⟨other, List.mem_cons_of_mem _ member, blames⟩
    · cases told
  | case7 room need retry flag now some unnoticed event rest raised bytes data present fits ih =>
    intro h
    obtain ⟨other, member, blames⟩ := ih h
    exact ⟨other, List.mem_cons_of_mem _ member, blames⟩
  | case8 room need retry flag now some unnoticed event rest raised e failed interrupted ih =>
    intro h
    obtain ⟨other, member, blames⟩ := ih h
    exact ⟨other, List.mem_cons_of_mem _ member, blames⟩
  | case9 room need retry flag now some unnoticed event rest raised e failed interrupted blocked
      failure later waited =>
    rintro (⟨other, member, blames⟩ | ⟨operation, told⟩)
    · exact ⟨other, List.mem_cons_of_mem _ member, blames⟩
    · cases told
      exact ⟨event, List.mem_cons_self, .inr (awaitReady_blames (congrArg Prod.fst waited))⟩
  | case10 room need retry flag now some unnoticed event rest raised e failed interrupted blocked
      later waited ih =>
    intro h
    obtain ⟨other, member, blames⟩ := ih h
    exact ⟨other, List.mem_cons_of_mem _ member, blames⟩
  | case11 room need retry flag now some unnoticed event rest raised e failed =>
    rintro (⟨other, member, blames⟩ | ⟨operation, told⟩)
    · exact ⟨other, List.mem_cons_of_mem _ member, blames⟩
    · cases told
      exact ⟨event, List.mem_cons_self, .inl failed⟩

/-- The same for the write loop; the error of a broken pipe is its own. -/
theorem writeRun_blames {sink : Sink} {attempts written : Nat} {retry : Bool} {flag : CancelFlag}
    {data : Bytes} {plan : List WriteEvent} {error : IoError} (other : error ≠ brokenPipe) :
    (∃ event ∈ (writeRun sink attempts written retry flag data plan).plan,
        event.reply = .failed error) ∨
      (∃ operation, (writeRun sink attempts written retry flag data plan).reply =
        .error (.failed operation error)) →
    ∃ event ∈ plan, event.reply = .failed error := by
  fun_induction writeRun sink attempts written retry flag data plan with
  | case1 plan | case2 plan | case3 plan =>
    rintro (left | ⟨operation, told⟩)
    · exact left
    · cases told
  | case4 =>
    rintro (left | ⟨operation, told⟩)
    · exact left
    · cases told
  | case5 =>
    rintro (left | ⟨operation, told⟩)
    · exact left
    · cases told
      exact absurd rfl other
  | case6 attempts written retry flag data some left unnoticed event rest raised limit accepts ih =>
    intro h
    obtain ⟨later, member, blames⟩ := ih h
    exact ⟨later, List.mem_cons_of_mem _ member, blames⟩
  | case7 attempts written retry flag data some left unnoticed event rest raised e failed
      interrupted ih =>
    intro h
    obtain ⟨later, member, blames⟩ := ih h
    exact ⟨later, List.mem_cons_of_mem _ member, blames⟩
  | case8 attempts written retry flag data some left unnoticed event rest raised e failed
      interrupted blocked ih =>
    intro h
    obtain ⟨later, member, blames⟩ := ih h
    exact ⟨later, List.mem_cons_of_mem _ member, blames⟩
  | case9 attempts written retry flag data some left unnoticed event rest raised e failed =>
    rintro (⟨later, member, blames⟩ | ⟨operation, told⟩)
    · exact ⟨later, List.mem_cons_of_mem _ member, blames⟩
    · cases told
      exact ⟨event, List.mem_cons_self, failed⟩

/-- A failure that looks like cancellation at the stream interface. -/
theorem toIo_eq_cancelled {failure : SocketError} (looks : failure.toIo = cancelled) :
    failure = .terminationRequested ∨ ∃ operation, failure = .failed operation cancelled := by
  cases failure with
  | failed operation error => exact .inr ⟨operation, by rw [← looks]; rfl⟩
  | terminationRequested => exact .inl rfl
  | _ => simp [SocketError.toIo, cancelled] at looks

namespace Endpoint

/-- Some answer of the transport, or some poll, is going to be this very error. -/
def Blames (e : Endpoint) (error : IoError) : Prop :=
  (∃ event ∈ e.inbound.events, event.Blames error) ∨
    ∃ event ∈ e.outbound.plan, event.reply = .failed error

/-- Why a call that led from `e` to `next` comes back with `cancelled`. -/
def Explains (e next : Endpoint) : Prop := next.flag.raised = true ∨ e.Blames cancelled

variable {e next : Endpoint}

/-- A read makes up no errors: those it fails with, and those it leaves, were there before. -/
theorem Blames.of_read {target : Bytes} {need : Nat} {timeout : Timeout} {error : IoError}
    (fits : need ≤ target.length) :
    (e.read target need timeout).endpoint.Blames error ∨
      (∃ operation, (e.read target need timeout).reply = .error (.failed operation error)) →
    e.Blames error := by
  simp only [read, readBy, if_neg (Nat.not_lt.mpr fits)]
  rintro ((left | planned) | ⟨operation, told⟩)
  · exact .inl (readRun_blames (.inl left))
  · exact .inr planned
  · exact .inl (readRun_blames (.inr ⟨operation, Reply.map_eq_error_iff.mp told⟩))

/-- A write makes up no errors but that of a broken pipe. -/
theorem Blames.of_write {data : Bytes} {attempts : Nat} {error : IoError}
    (other : error ≠ brokenPipe) :
    (e.write data attempts).endpoint.Blames error ∨
      (∃ operation, (e.write data attempts).reply = .error (.failed operation error)) →
    e.Blames error := by
  simp only [write]
  rintro ((arriving | left) | told)
  · exact .inl arriving
  · exact .inr (writeRun_blames other (.inl left))
  · exact .inr (writeRun_blames other (.inr told))

theorem Blames.of_readSome {room : Nat} {error : IoError} {reply : Reply IoError Bytes}
    (answer : e.readSome room = (reply, next)) (blames : next.Blames error) : e.Blames error := by
  unfold readSome at answer
  split at answer
  · cases answer
    exact blames
  · next some =>
    cases answer
    exact Blames.of_read (by simp; omega) (.inl blames)

theorem Blames.of_writeSome {data : Bytes} {error : IoError} {reply : Except IoError Nat}
    (other : error ≠ brokenPipe) (answer : e.writeSome data = (reply, next))
    (blames : next.Blames error) : e.Blames error := by
  unfold writeSome at answer
  cases answer
  exact Blames.of_write other (.inl blames)

/-- One read tells of cancellation only if there is an explanation. -/
theorem readSome_unasked {room : Nat} (told : e.readSome room = (.error cancelled, next)) :
    e.Explains next := by
  unfold readSome at told
  split at told
  · cases told
  · next some =>
    obtain ⟨reply, rfl⟩ := Prod.mk.inj told
    cases outcome : (e.read (List.replicate room 0) 1 e.options.readTimeout).reply with
    | ok count =>
      rw [outcome] at reply
      cases reply
    | waiting =>
      rw [outcome] at reply
      cases reply
    | error failure =>
      rw [outcome] at reply
      rcases toIo_eq_cancelled (Reply.error.inj reply) with rfl | ⟨operation, rfl⟩
      · exact .inl (raised_of_read outcome)
      · exact .inr (Blames.of_read (by simp; omega) (.inr ⟨operation, outcome⟩))

theorem cancelled_ne_brokenPipe : cancelled ≠ brokenPipe := by
  simp [cancelled, brokenPipe]

/-- So does one write. -/
theorem writeSome_unasked {data : Bytes} (told : e.writeSome data = (.error cancelled, next)) :
    e.Explains next := by
  unfold writeSome at told
  obtain ⟨reply, rfl⟩ := Prod.mk.inj told
  split at reply
  · cases reply
  · cases reply
  · next failure _ outcome =>
    rcases toIo_eq_cancelled (Except.error.inj reply) with rfl | ⟨operation, rfl⟩
    · exact .inl (raised_of_write outcome)
    · exact .inr (Blames.of_write cancelled_ne_brokenPipe (.inr ⟨operation, outcome⟩))

/-- The first call of a loop explains what a later one explains. -/
theorem Explains.of_readSome {room : Nat} {reply : Reply IoError Bytes} {last : Endpoint}
    (answer : e.readSome room = (reply, next)) (explains : next.Explains last) :
    e.Explains last :=
  explains.imp_right (Blames.of_readSome answer)

theorem Explains.of_writeSome {data : Bytes} {reply : Except IoError Nat} {last : Endpoint}
    (answer : e.writeSome data = (reply, next)) (explains : next.Explains last) :
    e.Explains last :=
  explains.imp_right (Blames.of_writeSome cancelled_ne_brokenPipe answer)

/-- The loops make up nothing either. -/
theorem readFull_unasked {count : Nat} (told : (e.readFull count).reply = .error cancelled) :
    e.Explains (e.readFull count).endpoint := by
  fun_induction readFull e count with
  | case1 => cases told
  | case2 => cases told
  | case3 e count some got next answer present ih => exact (ih told).of_readSome answer
  | case4 e count some error next answer interrupted ih => exact (ih told).of_readSome answer
  | case5 e count some error next answer =>
    cases told
    exact readSome_unasked answer
  | case6 => cases told

theorem writeFull_unasked {data : Bytes} (told : (e.writeFull data).1 = .error cancelled) :
    e.Explains (e.writeFull data).2 := by
  fun_induction writeFull e data with
  | case1 => cases told
  | case2 => cases told
  | case3 e data some count next answer present ih => exact (ih told).of_writeSome answer
  | case4 e data some error next answer interrupted ih => exact (ih told).of_writeSome answer
  | case5 e data some error next answer =>
    cases told
    exact writeSome_unasked answer

theorem readToEnd_unasked {ρ : Type} {policy : RoomPolicy ρ} {state : ρ}
    (told : (e.readToEnd policy state).reply = .error cancelled) :
    e.Explains (e.readToEnd policy state).endpoint := by
  fun_induction readToEnd policy state e with
  | case1 => cases told
  | case2 state e got next answer present ih => exact (ih told).of_readSome answer
  | case3 state e error next answer interrupted ih => exact (ih told).of_readSome answer
  | case4 state e error next answer =>
    cases told
    exact readSome_unasked answer
  | case5 => cases told

end Endpoint

end SocketDemux
