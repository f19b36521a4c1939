import SocketDemux.Demux.Basic
import SocketDemux.Endpoint.Stream
/-!
# SocketDemux.Proofs.Endpoint.Wire

**Wire integrity**: what a sequence of writes puts on the wire, and what its answers say
about that.

Three loops are nested: an attempt that is interrupted is repeated, a write makes several
attempts, and the loop that writes all of some data makes several writes. Each of them goes
on behind the bytes that the transport has accepted, so the wire carries a first part of
every call's data, one call after the other.

* `sent_eq_iff` — a bounded write succeeds exactly if all of its data is out.
* `Round`, `Round.Exact` — one call of the stream interface, and what its answer means.
* `Rounds`, `exists_rounds` — the loop that writes everything is a list of such calls; each
  that succeeds brings it closer to its end. A count in the error that ends it is about the
  last of them alone (`partly_of_last`).
* `SendCall`, `Demux.sends` — any sequence of calls, on the endpoint itself or by way of the
  buffer and the demultiplexer on top of it.
* `wire_is_concatenation` — the wire after such a sequence.
-/

namespace SocketDemux

/-! ### One bounded write -/

section BoundedWrite

variable (sink : Sink) (attempts written : Nat) (retry : Bool) (flag : CancelFlag)
  (data : Bytes) (plan : List WriteEvent)

/-- A run that fails leaves something unsent. -/
theorem sent_lt_of_error {failure : SocketError}
    (h : (writeRun sink attempts written retry flag data plan).reply = .error failure) :
    (writeRun sink attempts written retry flag data plan).sent.length < data.length := by
  fun_induction writeRun sink attempts written retry flag data plan with
  | case1 => cases h
  | case4 => cases h
  | case6 attempts written retry flag data _ _ _ event rest _ limit _ ih =>
    have unsent := ih h
    simp only [List.length_drop] at unsent
    simp only [WriteRun.after_sent, List.length_append, List.length_take]
    omega
  | case7 _ _ _ _ _ _ _ _ _ _ _ _ _ _ ih => exact ih h
  | case8 _ _ _ _ _ _ _ _ _ _ _ _ _ _ _ ih => exact ih h
  | _ => exact List.length_pos_iff.mpr ‹_›

/-- A run succeeds exactly if it has sent everything. -/
theorem sent_eq_iff :
    (writeRun sink attempts written retry flag data plan).reply = .ok () ↔
      (writeRun sink attempts written retry flag data plan).sent = data := by
  constructor
  · exact sent_of_ok sink attempts written retry flag data plan
  · intro everything
    cases reply : (writeRun sink attempts written retry flag data plan).reply with
    | ok _ => rfl
    | error failure =>
      have unsent := sent_lt_of_error sink attempts written retry flag data plan reply
      rw [everything] at unsent
      exact absurd unsent (Nat.lt_irrefl _)

/-- A run makes a call for every planned answer that it uses up, and one more at most; it
makes none more if its attempts are used up. -/
theorem calls_of_writeRun :
    (writeRun sink attempts written retry flag data plan).calls.length +
        (writeRun sink attempts written retry flag data plan).plan.length ≤ plan.length + 1 ∧
      ∀ total,
        (writeRun sink attempts written retry flag data plan).reply =
            .error (.partialWrite total) →
        (writeRun sink attempts written retry flag data plan).calls.length +
          (writeRun sink attempts written retry flag data plan).plan.length = plan.length := by
  fun_induction writeRun sink attempts written retry flag data plan with
  | case6 _ _ _ _ _ _ _ _ _ _ _ _ _ ih
  | case7 _ _ _ _ _ _ _ _ _ _ _ _ _ _ ih
  | case8 _ _ _ _ _ _ _ _ _ _ _ _ _ _ _ ih =>
    obtain ⟨bound, used⟩ := ih
    refine ⟨?_, fun total h => ?_⟩
    · simp only [WriteRun.after_calls, WriteRun.after_plan, List.length_cons]
      omega
    · have same := used total h
      simp only [WriteRun.after_calls, WriteRun.after_plan, List.length_cons]
      omega
  | case9 =>
    refine ⟨?_, by simp⟩
    simp only [List.length_cons, List.length_nil]
    omega
  | _ => simp

/-- A run that fails because of the transport makes the call that has failed. -/
theorem exists_failed_call {op : Operation} {cause : IoError}
    (h : (writeRun sink attempts written retry flag data plan).reply =
      .error (.failed op cause)) :
    ∃ call ∈ (writeRun sink attempts written retry flag data plan).calls,
      call.reply = .failed cause := by
  fun_induction writeRun sink attempts written retry flag data plan with
  | case6 _ _ _ _ _ _ _ _ _ _ _ _ _ ih
  | case7 _ _ _ _ _ _ _ _ _ _ _ _ _ _ ih
  | case8 _ _ _ _ _ _ _ _ _ _ _ _ _ _ _ ih =>
    obtain ⟨call, member, failed⟩ := ih h
    exact ⟨call, List.mem_cons_of_mem _ member, failed⟩
  | case5 =>
    cases h
    exact ⟨_, List.mem_singleton_self _, rfl⟩
  | case9 =>
    cases h
    exact ⟨_, List.mem_singleton_self _, by assumption⟩
  | _ => cases h

end BoundedWrite

/-! ### One call of the stream interface -/

/-- One call that writes some of the bytes it is given. -/
structure Round where
  offered : Bytes
  /-- The bytes that have gone out. -/
  part : Bytes
  /-- The transport writes that were made. -/
  calls : List WriteCall
  answer : Except IoError Nat

/-- What the answer of a call says about the bytes that have gone out. An error that carries
a partial write is a report of this library, unless the transport has failed with the
very same error. -/
structure Round.Exact (r : Round) : Prop where
  front : r.part <+: r.offered
  all : r.answer = .ok r.offered.length ↔ r.part = r.offered
  some : ∀ count, r.answer = .ok count →
    r.part.length = count ∧ (r.offered ≠ [] → 1 ≤ count)
  partly : ∀ kind written, r.answer = .error (.carrying kind (.partialWrite written)) →
    (r.part.length = written ∧ written < r.offered.length) ∨
      ∃ call ∈ r.calls, call.reply = .failed (.carrying kind (.partialWrite written))

namespace Endpoint

variable {e next last : Endpoint} {data : Bytes}

/-- The bytes that the transport has accepted, the oldest first. -/
def wire (e : Endpoint) : Bytes := e.outbound.accepted

/-- A call that writes some of `data`. -/
def round (e : Endpoint) (data : Bytes) : Round :=
  let outcome := e.write data e.options.writeAttempts
  ⟨data, outcome.sent, outcome.calls, (e.writeSome data).1⟩

theorem prefix_write (e : Endpoint) (data : Bytes) (attempts : Nat) :
    (e.write data attempts).sent <+: data :=
  sent_append ..

theorem wire_writeSome (e : Endpoint) (data : Bytes) :
    (e.writeSome data).2.wire = e.wire ++ (e.round data).part := rfl

/-- Every call is exact about what it has sent. -/
theorem round_exact (e : Endpoint) (data : Bytes) : (e.round data).Exact := by
  have front := e.prefix_write data e.options.writeAttempts
  have all := sent_eq_iff e.outbound.sink e.options.writeAttempts 0 false e.flag data
    e.outbound.plan
  have counts : ∀ count, (e.writeSome data).1 = .ok count →
      (e.round data).part.length = count ∧ (data ≠ [] → 1 ≤ count) := by
    intro count succeeded
    unfold writeSome at succeeded
    dsimp only at succeeded
    split at succeeded
    · next everything =>
      cases succeeded
      refine ⟨?_, fun present => List.length_pos_iff.mpr present⟩
      exact congrArg List.length (all.mp everything)
    · next written reply =>
      cases succeeded
      obtain ⟨total, -⟩ := sent_of_partial _ _ _ _ _ _ _ _ reply
      refine ⟨?_, fun _ => Nat.succ_pos written⟩
      rw [Nat.zero_add] at total
      exact total.symm
    · cases succeeded
  refine ⟨front, ?_, counts, ?_⟩
  · constructor
    · intro succeeded
      exact front.eq_of_length (counts _ succeeded).1
    · intro everything
      show (e.writeSome data).1 = _
      unfold writeSome
      have reply : (e.write data e.options.writeAttempts).reply = .ok () := all.mpr everything
      simp only [reply]
      rfl
  · intro kind written failed
    replace failed : (e.writeSome data).1 = _ := failed
    unfold writeSome at failed
    dsimp only at failed
    split at failed
    · cases failed
    · cases failed
    · next failure _ reply =>
      cases failure with
      | failed op cause =>
        cases failed
        exact .inr (exists_failed_call _ _ _ _ _ _ _ reply)
      | partialWrite total =>
        cases failed
        obtain ⟨total, less⟩ := sent_of_partial _ _ _ _ _ _ _ _ reply
        rw [Nat.zero_add] at total
        exact .inl ⟨total.symm, total ▸ less⟩
      | _ => cases failed

/-- A call that is given something never reports that nothing went out: that is an error. -/
theorem one_le_of_writeSome {count : Nat} (more : data ≠ [])
    (call : e.writeSome data = (.ok count, next)) : 1 ≤ count :=
  ((e.round_exact data).some count (congrArg Prod.fst call)).2 more

/-- A call makes a transport write for every planned answer that it uses up, and one more at
most; it makes none more if it succeeds with a part of its data. -/
theorem calls_round {reply : Except IoError Nat} (call : e.writeSome data = (reply, next)) :
    (e.round data).calls.length + next.outbound.plan.length ≤ e.outbound.plan.length + 1 ∧
      ∀ count, reply = .ok count → count < data.length →
        (e.round data).calls.length + next.outbound.plan.length = e.outbound.plan.length := by
  obtain ⟨bound, used⟩ := calls_of_writeRun e.outbound.sink e.options.writeAttempts 0 false
    e.flag data e.outbound.plan
  obtain ⟨answer, rfl⟩ := Prod.mk.inj call
  refine ⟨bound, ?_⟩
  rintro count rfl less
  split at answer
  · cases answer
    exact absurd less (Nat.lt_irrefl _)
  · next written reply => exact used _ reply
  · cases answer

end Endpoint

/-! ### Writing everything -/

/-- The calls that the loop makes which writes all of its data. -/
inductive Rounds : Endpoint → Bytes → List Round → Except IoError Unit → Endpoint → Prop
  /-- There is nothing left to write. -/
  | done (e : Endpoint) : Rounds e [] [] (.ok ()) e
  /-- The loop goes on behind what a call has sent. -/
  | again {e next last : Endpoint} {data : Bytes} {count : Nat} {rounds : List Round}
      {reply : Except IoError Unit} (more : data ≠ [])
      (call : e.writeSome data = (.ok count, next))
      (rest : Rounds next (data.drop count) rounds reply last) :
      Rounds e data (e.round data :: rounds) reply last
  /-- The loop fails like the call that fails. -/
  | failed {e next : Endpoint} {data : Bytes} {error : IoError} (more : data ≠ [])
      (call : e.writeSome data = (.error error, next)) :
      Rounds e data [e.round data] (.error error) next

/-- The loop makes such calls and no others: none succeeds without having sent anything, and
none fails with an interruption. -/
theorem exists_rounds (e : Endpoint) (data : Bytes) :
    ∃ rounds, Rounds e data rounds (e.writeFull data).1 (e.writeFull data).2 := by
  fun_induction Endpoint.writeFull e data with
  | case1 e => exact ⟨[], .done e⟩
  | case2 e data more next call =>
    exact absurd (Endpoint.one_le_of_writeSome more call) (by decide)
  | case3 e data more count next call _ ih =>
    obtain ⟨rounds, rest⟩ := ih
    exact ⟨_, .again more call rest⟩
  | case4 e data more error next call again =>
    exact absurd (of_decide_eq_true again) (Endpoint.writeSome_error_kind call)
  | case5 e data more error next call =>
    exact ⟨_, .failed more call⟩

namespace Rounds

variable {e last : Endpoint} {data : Bytes} {rounds : List Round} {reply : Except IoError Unit}

/-- Every call is exact about its own part of the data. -/
theorem exact (h : Rounds e data rounds reply last) : ∀ round ∈ rounds, round.Exact := by
  induction h with
  | done e =>
    intro round member
    cases member
  | @again e _ _ data _ _ _ _ _ _ ih =>
    intro round member
    rcases List.mem_cons.mp member with rfl | later
    · exact e.round_exact data
    · exact ih round later
  | @failed e _ data =>
    intro round member
    rw [List.mem_singleton] at member
    subst member
    exact e.round_exact data

/-- The wire grows by what the calls have sent, one after the other. -/
theorem wire (h : Rounds e data rounds reply last) :
    last.wire = e.wire ++ rounds.flatMap Round.part := by
  induction h with
  | done e => simp
  | @again e next last data count rounds reply more call rest ih =>
    have grown := e.wire_writeSome data
    rw [call] at grown
    rw [ih, grown, List.flatMap_cons, List.append_assoc]
  | @failed e next data error more call =>
    have grown := e.wire_writeSome data
    rw [call] at grown
    simp [grown]

/-- They have sent a first part of the data, and all of it exactly if the loop succeeds. -/
theorem front (h : Rounds e data rounds reply last) :
    rounds.flatMap Round.part <+: data ∧
      (reply = .ok () ↔ rounds.flatMap Round.part = data) := by
  induction h with
  | done e => simp
  | @again e next last data count rounds reply more call rest ih =>
    obtain ⟨front, all⟩ := ih
    -- the first call has sent the bytes that the loop goes on behind
    have exact_ := e.round_exact data
    have sent : (e.round data).part = data.take count := by
      have length := (exact_.some count (congrArg Prod.fst call)).1
      rw [List.prefix_iff_eq_take.mp exact_.front, length]
      rfl
    rw [List.flatMap_cons, sent]
    refine ⟨?_, all.trans ?_⟩
    · have whole := List.take_append_drop count data
      obtain ⟨unsent, rest⟩ := front
      refine ⟨unsent, ?_⟩
      rw [List.append_assoc, rest, whole]
    · constructor
      · intro rest
        rw [rest, List.take_append_drop]
      · intro whole
        apply @List.append_cancel_left _ (data.take count)
        rw [whole, List.take_append_drop]
  | @failed e next data error more call =>
    have exact_ := e.round_exact data
    rw [List.flatMap_cons, List.flatMap_nil, List.append_nil]
    refine ⟨exact_.front, ?_⟩
    constructor
    · intro wrong
      cases wrong
    · intro everything
      have succeeded := exact_.all.mpr everything
      have failed : (e.round data).answer = .error error := congrArg Prod.fst call
      rw [failed] at succeeded
      cases succeeded

/-- Every call but a last one that fails sends something, so there are no more of them than
bytes. -/
theorem length_le (h : Rounds e data rounds reply last) : rounds.length ≤ data.length := by
  induction h with
  | done e => exact Nat.le_refl _
  | @again e next last data count rounds reply more call rest ih =>
    have progress := Endpoint.one_le_of_writeSome more call
    have present := List.length_pos_iff.mpr more
    rw [List.length_drop] at ih
    rw [List.length_cons]
    omega
  | failed more => exact List.length_pos_iff.mpr more

/-- The whole loop makes a transport write for every planned answer that it uses up, and one
more at most. -/
theorem calls_le (h : Rounds e data rounds reply last) :
    (rounds.flatMap Round.calls).length + last.outbound.plan.length ≤
      e.outbound.plan.length + 1 := by
  induction h with
  | done e => simp
  | @again e next last data count rounds reply more call rest ih =>
    obtain ⟨bound, used⟩ := Endpoint.calls_round call
    rw [List.flatMap_cons, List.length_append]
    by_cases less : count < data.length
    · have same := used count rfl less
      omega
    · -- the loop is at its end
      rw [List.drop_of_length_le (Nat.not_lt.mp less)] at rest
      cases rest with
      | done => simpa using bound
      | again wrong => exact absurd rfl wrong
      | failed wrong => exact absurd rfl wrong
  | failed more call => simpa using (Endpoint.calls_round call).1

/-- A loop that fails gives the error of its last call. -/
theorem last_of_error {error : IoError} (h : Rounds e data rounds (.error error) last) :
    ∃ front round, rounds = front ++ [round] ∧ round.answer = .error error := by
  generalize failed : (.error error : Except IoError Unit) = reply at h
  induction h with
  | done e => cases failed
  | @again e next last data count rounds reply more call rest ih =>
    obtain ⟨front, round, rfl, answer⟩ := ih failed
    exact ⟨e.round data :: front, round, rfl, answer⟩
  | @failed e next data other more call =>
    cases failed
    exact ⟨[], e.round data, rfl, congrArg Prod.fst call⟩

/-- A partial write inside the error of a loop counts from where its last call began. -/
theorem partly_of_last {kind : ErrorKind} {written : Nat}
    (h : Rounds e data rounds (.error (.carrying kind (.partialWrite written))) last) :
    ∃ front round, rounds = front ++ [round] ∧
      ((rounds.flatMap Round.part).length = (front.flatMap Round.part).length + written ∧
          written < round.offered.length ∨
        ∃ call ∈ round.calls, call.reply = .failed (.carrying kind (.partialWrite written))) := by
  obtain ⟨front, round, rfl, answer⟩ := h.last_of_error
  have exact_ := h.exact round (List.mem_append_right _ (List.mem_singleton_self _))
  refine ⟨front, round, rfl, ?_⟩
  rcases exact_.partly kind written answer with ⟨total, less⟩ | foreign
  · refine .inl ⟨?_, less⟩
    rw [List.flatMap_append, List.flatMap_singleton, List.length_append, total]
  · exact .inr foreign

end Rounds

/-! ### A sequence of calls -/

/-- A call that writes to an endpoint. -/
inductive SendCall
  /-- In a bounded number of attempts. -/
  | write (data : Bytes) (attempts : Nat)
  /-- Some of the data, at the stream interface. -/
  | writeSome (data : Bytes)
  /-- All of the data, at the stream interface. -/
  | writeFull (data : Bytes)
  /-- By way of the buffer on top of the endpoint. -/
  | throughBuffer (data : Bytes)
  /-- By way of the demultiplexer on top of that. -/
  | throughDemux (data : Bytes)
  /-- Somebody requests cancellation between two calls. -/
  | cancel
  deriving Repr, DecidableEq

/-- What a call is to put on the wire. -/
def SendCall.data : SendCall → Bytes
  | write data _ | writeSome data | writeFull data | throughBuffer data | throughDemux data => data
  | cancel => []

/-- What a call comes back with. -/
inductive SendAnswer
  /-- Everything is out, or a failure. -/
  | whole (reply : Except SocketError Unit)
  /-- So many bytes are out, or an error. -/
  | counted (reply : Except IoError Nat)
  /-- The loop has come to its end, or an error. -/
  | looped (reply : Except IoError Unit)
  | cancelled (raised : Bool)

/-- One call of a sequence: the endpoint before and after it, and its answer. -/
structure Sent where
  call : SendCall
  before : Endpoint
  after : Endpoint
  answer : SendAnswer

namespace Sent

/-- What the call has put on the wire: all that is there now and was not there before. -/
def part (s : Sent) : Bytes := s.after.wire.drop s.before.wire.length

/-- The loop that writes everything, as the list of calls that it makes. -/
structure Looped (s : Sent) (reply : Except IoError Unit) (rounds : List Round) : Prop where
  all : reply = .ok () ↔ s.part = s.call.data
  ran : Rounds s.before s.call.data rounds reply s.after
  part : s.part = rounds.flatMap Round.part
  each : ∀ round ∈ rounds, round.Exact
  few : rounds.length ≤ s.call.data.length
  calls : (rounds.flatMap Round.calls).length ≤ s.before.outbound.plan.length + 1
  /-- It fails with the error of its last call. -/
  last : ∀ error, reply = .error error →
    ∃ front round, rounds = front ++ [round] ∧ round.answer = .error error
  /-- So a partial write inside its error leaves out what the calls before that one have sent. -/
  partly : ∀ kind written, reply = .error (.carrying kind (.partialWrite written)) →
    ∃ front round, rounds = front ++ [round] ∧
      (s.part.length = (front.flatMap Round.part).length + written ∧
          written < round.offered.length ∨
        ∃ call ∈ round.calls, call.reply = .failed (.carrying kind (.partialWrite written)))

/-- What the answer of a call says about the bytes that it has put on the wire. -/
def Exact (s : Sent) : Prop :=
  match s.answer with
  | .whole reply =>
      (reply = .ok () ↔ s.part = s.call.data) ∧
        ∀ written, reply = .error (.partialWrite written) →
          s.part.length = written ∧ written < s.call.data.length
  | .counted reply =>
      (s.before.round s.call.data).Exact ∧
        s.before.round s.call.data =
          ⟨s.call.data, s.part, (s.before.round s.call.data).calls, reply⟩
  | .looped reply => ∃ rounds, s.Looped reply rounds
  | .cancelled _ => s.part = []

/-- A call has put `part` on the wire if the wire has grown by that. -/
theorem part_of_grown {s : Sent} {part : Bytes} (grown : s.after.wire = s.before.wire ++ part) :
    s.part = part := by
  unfold Sent.part
  rw [grown, List.drop_left]

end Sent

namespace Demux

variable {κ : Type}

/-- What a call comes back with, and the demultiplexer afterwards. -/
def send (d : Demux κ) : SendCall → SendAnswer × Demux κ
  | .write data attempts =>
      let outcome := d.buffer.endpoint.write data attempts
      (.whole outcome.reply, d.setEndpoint outcome.endpoint)
  | .writeSome data =>
      let (reply, next) := d.buffer.endpoint.writeSome data
      (.counted reply, d.setEndpoint next)
  | .writeFull data =>
      let (reply, next) := d.buffer.endpoint.writeFull data
      (.looped reply, d.setEndpoint next)
  | .throughBuffer data =>
      let (reply, buffer) := d.buffer.write data
      (.whole reply, { d with buffer := buffer })
  | .throughDemux data =>
      let (reply, next) := d.write data
      (.whole reply, next)
  | .cancel =>
      let (raised, next) := d.requestCancellation
      (.cancelled raised, next)

/-- One call after the other. -/
def sends (d : Demux κ) : List SendCall → List Sent × Demux κ
  | [] => ([], d)
  | call :: rest =>
      let (answer, next) := d.send call
      let (others, last) := next.sends rest
      (⟨call, d.buffer.endpoint, next.buffer.endpoint, answer⟩ :: others, last)

/-- What is recorded of a call. -/
def sent (d : Demux κ) (call : SendCall) : Sent :=
  ⟨call, d.buffer.endpoint, (d.send call).2.buffer.endpoint, (d.send call).1⟩

theorem sends_cons (d : Demux κ) (call : SendCall) (rest : List SendCall) :
    d.sends (call :: rest) =
      (d.sent call :: ((d.send call).2.sends rest).1, ((d.send call).2.sends rest).2) := rfl

/-- A bounded write puts a first part of its data on the wire, and is exact about it, whoever
it is made by. -/
theorem exact_of_write {s : Sent} {attempts : Nat}
    (after : s.after = (s.before.write s.call.data attempts).endpoint)
    (answer : s.answer = .whole (s.before.write s.call.data attempts).reply) :
    s.after.wire = s.before.wire ++ s.part ∧ s.part <+: s.call.data ∧ s.Exact := by
  have grown : s.after.wire =
      s.before.wire ++ (s.before.write s.call.data attempts).sent := by
    rw [after]
    rfl
  have same := Sent.part_of_grown grown
  refine ⟨?_, ?_, ?_⟩
  · rw [same]
    exact grown
  · rw [same]
    exact s.before.prefix_write s.call.data attempts
  · unfold Sent.Exact
    rw [answer, same]
    refine ⟨sent_eq_iff .., ?_⟩
    intro written reply
    obtain ⟨total, less⟩ := sent_of_partial _ _ _ _ _ _ _ _ reply
    rw [Nat.zero_add] at total
    exact ⟨total.symm, total ▸ less⟩

/-- Every call puts a first part of its data on the wire, and is exact about it. -/
theorem sent_exact (d : Demux κ) (call : SendCall) :
    (d.sent call).after.wire = (d.sent call).before.wire ++ (d.sent call).part ∧
      (d.sent call).part <+: call.data ∧ (d.sent call).Exact := by
  cases call with
  | write data attempts => exact exact_of_write rfl rfl
  | throughBuffer data => exact exact_of_write rfl rfl
  | throughDemux data => exact exact_of_write rfl rfl
  | writeSome data =>
    have round := d.buffer.endpoint.round_exact data
    have same : (d.sent (.writeSome data)).part = (d.buffer.endpoint.round data).part :=
      Sent.part_of_grown rfl
    refine ⟨?_, ?_, round, ?_⟩
    · rw [same]
      rfl
    · rw [same]
      exact round.front
    · rw [same]
      rfl
  | writeFull data =>
    obtain ⟨rounds, h⟩ := exists_rounds d.buffer.endpoint data
    have same : (d.sent (.writeFull data)).part = rounds.flatMap Round.part :=
      Sent.part_of_grown h.wire
    obtain ⟨front, all⟩ := h.front
    refine ⟨?_, ?_, rounds, ?_⟩
    · rw [same]
      exact h.wire
    · rw [same]
      exact front
    · exact {
        all := by rw [same]; exact all
        ran := h
        part := same
        each := h.exact
        few := h.length_le
        calls := Nat.le_trans (Nat.le_add_right _ _) h.calls_le
        last := by
          intro error failed
          rw [failed] at h
          exact h.last_of_error
        partly := by
          intro kind written failed
          rw [failed] at h
          rw [same]
          exact h.partly_of_last }
  | cancel =>
    have same : (d.sent .cancel).part = [] :=
      Sent.part_of_grown (List.append_nil _).symm
    refine ⟨?_, ?_, same⟩
    · rw [same]
      exact (List.append_nil _).symm
    · rw [same]
      exact List.nil_prefix

end Demux

/-! ### The wire -/

/-- **Wire integrity.** Take an endpoint with any answers of the transport to come, and any
sequence of calls that write to it, directly or by way of the buffer and the demultiplexer on
top of it, with cancellation requested at any moment. What the transport has accepted by then
is what it had accepted before, followed by one first part of every call's data, in the order
of the calls. The answer of every call tells whether its part is all of its data, and a count in
it is exact about the part; only inside an error of the loop that writes everything, a count is
about the last call of that loop. -/
theorem wire_is_concatenation {κ : Type} {d last : Demux κ} {calls : List SendCall}
    {records : List Sent} (ran : d.sends calls = (records, last)) :
    records.map Sent.call = calls ∧
      last.buffer.endpoint.wire = d.buffer.endpoint.wire ++ records.flatMap Sent.part ∧
      ∀ sent ∈ records, sent.part <+: sent.call.data ∧ sent.Exact := by
  induction calls generalizing d records with
  | nil =>
    cases ran
    refine ⟨rfl, (List.append_nil _).symm, ?_⟩
    intro sent member
    cases member
  | cons call rest ih =>
    rw [Demux.sends_cons] at ran
    obtain ⟨rfl, rfl⟩ := Prod.mk.inj ran
    obtain ⟨grown, front, exact_⟩ := d.sent_exact call
    obtain ⟨called, wire, others⟩ := ih rfl
    refine ⟨?_, ?_, ?_⟩
    · rw [List.map_cons, called]
      rfl
    · rw [wire, List.flatMap_cons, ← List.append_assoc]
      exact congrArg (· ++ _) grown
    · intro sent member
      rcases List.mem_cons.mp member with rfl | later
      · exact ⟨front, exact_⟩
      · exact others sent later

/-- Takes one byte, and none in the three writes behind it. -/
def stuckTransport : Endpoint where
  outbound :=
    { plan := [⟨.accept 1, false⟩, ⟨.accept 0, false⟩, ⟨.accept 0, false⟩, ⟨.accept 0, false⟩] }

/-- The loop has put a byte on the wire, and its error carries a partial write of no bytes: its
second call has sent none. -/
theorem loop_counts_its_last_call :
    ∃ sent last,
      (Demux.ofBuffer (.wrap stuckTransport 4) : Demux Delimiter).sends [.writeFull [97, 98]] =
          ([sent], last) ∧
        sent.answer = .looped (.error (.carrying .writeZero (.partialWrite 0))) ∧
        sent.part = [97] := by
  have failed : (stuckTransport.writeFull [97, 98]).1 =
      .error (.carrying .writeZero (.partialWrite 0)) := by with_unfolding_all rfl
  exact ⟨_, _, rfl, congrArg SendAnswer.looped failed, by decide +kernel⟩

/-- A transport that takes its time: short writes, an interruption in the middle, writes
that would block or that accept nothing, and cancellation behind the last one. -/
def pickyTransport : Endpoint where
  outbound :=
    { plan :=
        [⟨.accept 1, false⟩, ⟨.failed (.os 4), false⟩, ⟨.accept 1, false⟩,
          ⟨.failed (.os 11), false⟩, ⟨.accept 1, false⟩,
          ⟨.accept 2, false⟩, ⟨.accept 0, false⟩, ⟨.accept 9, false⟩,
          ⟨.accept 1, true⟩] }

/-- Five writes through it, by all ways. The last one is cancelled behind its first byte. -/
theorem pickyTransport_wire :
    ∃ records last,
      (Demux.ofBuffer (.wrap pickyTransport 4) : Demux Delimiter).sends
          [.write [1, 2, 3] 2, .writeSome [4, 5], .writeFull [6, 7, 8], .throughBuffer [],
            .throughDemux [9, 10]] = (records, last) ∧
      records.map Sent.part = [[1, 2], [4], [6, 7, 8], [], [9]] ∧
      last.buffer.endpoint.wire = [1, 2, 4, 6, 7, 8, 9] ∧
      ∀ sent ∈ records, sent.part <+: sent.call.data ∧ sent.Exact := by
  cases ran : (Demux.ofBuffer (.wrap pickyTransport 4) : Demux Delimiter).sends
      [.write [1, 2, 3] 2, .writeSome [4, 5], .writeFull [6, 7, 8], .throughBuffer [],
        .throughDemux [9, 10]] with
  | mk records last =>
    have parts : ((Demux.ofBuffer (.wrap pickyTransport 4) : Demux Delimiter).sends
      [.write [1, 2, 3] 2, .writeSome [4, 5], .writeFull [6, 7, 8], .throughBuffer [],
        .throughDemux [9, 10]]).1.map Sent.part = [[1, 2], [4], [6, 7, 8], [], [9]] := by
      decide +kernel
    rw [ran] at parts
    obtain ⟨-, wire, exact_⟩ := wire_is_concatenation ran
    refine ⟨records, last, rfl, parts, ?_, exact_⟩
    rw [wire, List.flatMap_def, parts]
    rfl

end SocketDemux
