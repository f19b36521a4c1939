import SocketDemux.Proofs.Buffer.Outlook
import SocketDemux.Proofs.Endpoint.Reading
/-!
# SocketDemux.Proofs.Buffer.Counted

**Reads of so many bytes**, as cuts of the whole.

The whole is what is buffered, followed by what the transport delivers up to its first failure.
A read that asks for an amount the buffer can hold refills only as long as it holds less than
that, so it never asks a full buffer for more: it finds the amount in the whole, or meets with
the fate of the transport when all of the whole is buffered.

* `exists_first_failure` — what the transport delivers, and its fate, said from its answers.
* `refillUntil_amount` — refills for an amount.
* `ExactLaw`, `IntoLaw` — what is true of a read of exactly so many bytes, and of a read into a
  target.
* `readInto_eq_readExact` — the two agree where the target is as long as what it needs.
* `counted_reads_lawful` — all of it.
-/

namespace SocketDemux

/-- Is this about room that a buffer lacks, or about bytes that it lacks? -/
def SocketError.IsShortage : SocketError → Prop
  | .bufferExhausted _ | .outOfRange _ _ => True
  | _ => False

/-! ### The first failure -/

namespace Endpoint

/-- What the transport delivers are the bytes of the answers before its first failure, and its
fate is that failure. -/
theorem exists_first_failure (e : Endpoint) (timeout : Timeout) :
    ∃ index stop, stop ≠ .enough ∧
      (e.script timeout).First (e.arrivals.length + 1) index stop ∧
      e.delivers (timeout.deadline e.now) = (e.script timeout).brought index ∧
      ∀ α : Type, (e.fate (timeout.deadline e.now) : Reply SocketError α) = stop.reply.barren := by
  have fits : e.arrivals.length + 1 ≤ (List.replicate (e.arrivals.length + 1) (0 : UInt8)).length :=
    Nat.le_of_eq List.length_replicate.symm
  obtain ⟨index, stop, first, reply, -, taken⟩ := e.exists_first_read timeout fits
  have less : ((e.script timeout).brought index).length ≤ e.arrivals.length :=
    (e.script timeout).length_brought_le index
  refine ⟨index, stop, ?_, first, ?_, fun α => ?_⟩
  · rintro rfl
    exact e.outlook_ne_ok _ _ reply
  · rw [List.length_replicate, List.take_of_length_le (by omega)] at taken
    exact taken
  · exact (congrArg Reply.barren reply).trans (Reply.barren_map _ _)

/-- The transport is never short of room or of buffered bytes. -/
theorem fate_sized {α : Type} {e : Endpoint} {timeout : Timeout} {failure : SocketError}
    (failed : (e.fate (timeout.deadline e.now) : Reply SocketError α) = .error failure) :
    ¬failure.IsShortage := by
  obtain ⟨index, stop, -, -, -, fate⟩ := e.exists_first_failure timeout
  rw [fate] at failed
  cases stop with
  | enough | waiting => cases failed
  | _ =>
    cases failed
    exact id

end Endpoint

namespace StreamBuffer

/-! ### Refills for an amount -/

/-- Every buffer has room for a byte. -/
theorem one_le_capacity_wrap (e : Endpoint) (capacity : Nat) :
    1 ≤ (wrap e capacity).storage.capacity := by
  have word : 1 ≤ wordMax := by decide
  rw [wrap, Storage.capacity_withCapacity]
  omega

theorem length_data_le_whole (b : StreamBuffer) (deadline : Deadline) :
    b.storage.data.length ≤ (b.whole deadline).length := by
  rw [whole, List.length_append]
  exact Nat.le_add_right _ _

/-- Refills for an amount that fits: it is there, or all of the whole is buffered and is not
enough. What is there already is not asked of the transport. -/
theorem refillUntil_amount {b : StreamBuffer} {amount : Nat} (fits : amount ≤ b.storage.capacity)
    (deadline : Deadline) :
    (∃ next unread,
        b.refillUntil (fun s => decide (amount ≤ s.length)) deadline = (.ok (), next) ∧
        amount ≤ next.storage.filled ∧ next.storage.data ++ unread = b.whole deadline ∧
        (amount ≤ b.storage.data.length → next.endpoint = b.endpoint)) ∨
      ∃ next,
        b.refillUntil (fun s => decide (amount ≤ s.length)) deadline =
          (b.endpoint.fate deadline, next) ∧
        (b.whole deadline).length < amount ∧ next.storage.data = b.whole deadline := by
  have goal : (fun s : Storage => decide (amount ≤ s.length)) =
      fun s => decide (amount ≤ s.data.length) := by
    funext s
    rw [Storage.length_data]
    rfl
  rw [goal]
  rcases refillUntil_outlook (fun data => decide (amount ≤ data.length)) b deadline with
    ⟨next, unread, call, met, all⟩ | ⟨next, call, missing, window⟩
  · refine .inl ⟨next, unread, call, ?_, all, ?_⟩
    · rw [← Storage.length_data]
      exact of_decide_eq_true met
    · intro buffered
      rw [refillUntil, if_pos (decide_eq_true buffered)] at call
      cases call
      rfl
  · have short := Nat.lt_of_not_le (of_decide_eq_false missing)
    rw [window, List.length_take] at short
    -- a full window would hold the amount, so the whole is what is short
    have less : (b.whole deadline).length < b.storage.capacity := by omega
    rw [List.take_of_length_le (Nat.le_of_lt less)] at window
    rw [windowReply, if_neg (Nat.not_le.mpr less)] at call
    exact .inr ⟨next, call, by omega, window⟩

/-- Behind the first `count` bytes of the whole, all is buffered or unread. -/
def LeavesRest (b : StreamBuffer) (deadline : Deadline) (count : Nat) (next : StreamBuffer) :
    Prop :=
  ∃ taken unread, taken ++ unread = b.endpoint.delivers deadline ∧
    taken ++ next.endpoint.arrivals = b.endpoint.arrivals ∧
    next.storage.data ++ unread = (b.whole deadline).drop count

/-- What is taken off the buffered bytes is taken off the whole. -/
theorem leavesRest_of_shift {goal : Storage → Bool} {b next : StreamBuffer} {deadline : Deadline}
    {reply : Reply SocketError Unit} {unread : Bytes} {count : Nat}
    (call : b.refillUntil goal deadline = (reply, next))
    (all : next.storage.data ++ unread = b.whole deadline) (there : count ≤ next.storage.filled) :
    next.storage.data.take count = (b.whole deadline).take count ∧
      count ≤ (b.whole deadline).length ∧
      b.LeavesRest deadline count { next with storage := next.storage.shift count } := by
  have refilled := handsOut_refillUntil goal b deadline
  rw [call] at refilled
  have moved := refilled.trans (handsOut_shift next count)
  rw [← Storage.length_data] at there
  have front : next.storage.data.take count = (b.whole deadline).take count := by
    rw [← all, List.take_append_of_le_length there]
  have left : (next.storage.shift count).data ++ unread = (b.whole deadline).drop count := by
    rw [← all, List.drop_append_of_le_length there, Storage.data_shift]
  have both : (b.whole deadline).take count ++ (next.storage.shift count).data ++ unread =
      b.whole deadline := by
    rw [List.append_assoc, left, List.take_append_drop]
  refine ⟨front, ?_, ?_⟩
  · rw [← all, List.length_append]
    exact Nat.le_add_right_of_le there
  · rw [List.nil_append, front] at moved
    obtain ⟨taken, delivered, stream⟩ := moved.taken both
    exact ⟨taken, unread, delivered, stream, left⟩

/-! ### Exactly so many bytes -/

/-- What is true of a read of exactly `count` bytes. -/
structure ExactLaw (b : StreamBuffer) (count : Nat) (deadline : Deadline)
    (reply : Reply SocketError Bytes) (next : StreamBuffer) : Prop where
  /-- More than the buffer holds is refused without a look at anything. -/
  refused : b.storage.capacity < count →
    reply = .error (.requestTooLarge count b.storage.capacity) ∧ next = b
  /-- If the whole has as many bytes, its front is read, and the rest is buffered or unread. -/
  read : count ≤ b.storage.capacity → count ≤ (b.whole deadline).length →
    reply = .ok ((b.whole deadline).take count) ∧ b.LeavesRest deadline count next
  /-- What is buffered already is not asked of the transport. -/
  ready : count ≤ b.storage.data.length → next.endpoint = b.endpoint
  /-- Else the call meets with the fate of the transport, and the whole is buffered. -/
  failed : count ≤ b.storage.capacity → (b.whole deadline).length < count →
    reply = b.endpoint.fate deadline ∧ next.storage.data = b.whole deadline
  /-- It never runs out of room, and never takes off more than is buffered. -/
  sized : ∀ failure, reply = .error failure → ¬failure.IsShortage
  /-- No byte is lost. -/
  moved : HandsOut b reply.handed next

section Exact

variable {b next : StreamBuffer} {count : Nat} {timeout : Timeout} {deadline : Deadline}
  (limit : timeout.deadline b.endpoint.now = deadline)

theorem readExact_of_lt (more : b.storage.capacity < count) (timeout : Timeout) :
    b.readExact count timeout = (.error (.requestTooLarge count b.storage.capacity), b) :=
  if_pos more

include limit

theorem readExact_of_amount (fits : count ≤ b.storage.capacity)
    (call : b.refillUntil (fun s => decide (count ≤ s.length)) deadline = (.ok (), next))
    (enough : count ≤ next.storage.filled) :
    b.readExact count timeout =
      (.ok (next.storage.data.take count), { next with storage := next.storage.shift count }) := by
  subst limit
  rw [readExact, if_neg (Nat.not_lt.mpr fits), takeWhen, call]
  dsimp only [pop]
  rw [Storage.pop_of_le enough]
  rfl

theorem readExact_of_fate (fits : count ≤ b.storage.capacity)
    (call : b.refillUntil (fun s => decide (count ≤ s.length)) deadline =
      (b.endpoint.fate deadline, next)) :
    b.readExact count timeout = (b.endpoint.fate deadline, next) := by
  subst limit
  rw [readExact, if_neg (Nat.not_lt.mpr fits), takeWhen_of_barren call (Reply.barren_ne_ok _ _)]
  exact congrArg (·, next) (Reply.barren_barren _)

theorem readExact_law (count : Nat) :
    b.ExactLaw count deadline (b.readExact count timeout).1 (b.readExact count timeout).2 := by
  have moved := b.handsOut_readExact count timeout
  by_cases more : b.storage.capacity < count
  · rw [readExact_of_lt more timeout] at moved ⊢
    exact
      { refused := fun _ => ⟨rfl, rfl⟩
        read := fun fits => absurd more (Nat.not_lt.mpr fits)
        ready := fun _ => rfl
        failed := fun fits => absurd more (Nat.not_lt.mpr fits)
        sized := by
          rintro failure ⟨⟩
          exact id
        moved := moved }
  have fits := Nat.not_lt.mp more
  rcases refillUntil_amount fits deadline with
    ⟨next, unread, call, enough, all, ready⟩ | ⟨next, call, short, whole⟩
  · obtain ⟨front, present, rest⟩ := leavesRest_of_shift call all enough
    rw [readExact_of_amount limit fits call enough, front] at moved ⊢
    exact
      { refused := fun wrong => absurd wrong more
        read := fun _ _ => ⟨rfl, rest⟩
        ready := ready
        failed := fun _ short => absurd present (Nat.not_le.mpr short)
        sized := fun _ wrong => nomatch wrong
        moved := moved }
  · have buffered := b.length_data_le_whole deadline
    rw [readExact_of_fate limit fits call] at moved ⊢
    exact
      { refused := fun wrong => absurd wrong more
        read := fun _ present => absurd present (Nat.not_le.mpr short)
        ready := fun there => absurd there (by omega)
        failed := fun _ _ => ⟨rfl, whole⟩
        sized := by
          subst limit
          exact fun _ failed => Endpoint.fate_sized failed
        moved := moved }

end Exact

/-! ### Into a target -/

/-- What is true of a read into a target that has room, of at least `need` bytes. -/
structure IntoLaw (b : StreamBuffer) (target : Bytes) (need : Nat) (deadline : Deadline)
    (o : MoveOutcome) : Prop where
  /-- To need more than the buffer holds is refused without a look at anything. -/
  refused : b.storage.capacity < need →
    o = ⟨.error (.requestTooLarge need b.storage.capacity), target, b⟩
  /-- If the whole has what is needed, its front is moved to the front of the target: what is
  needed or more, as far as the target has room. The rest is buffered or unread. -/
  read : need ≤ b.storage.capacity → max need 1 ≤ (b.whole deadline).length →
    ∃ count, o.reply = .ok count ∧ min (max need 1) target.length ≤ count ∧
      count ≤ target.length ∧ count ≤ (b.whole deadline).length ∧
      o.target = (b.whole deadline).take count ++ target.drop count ∧
      b.LeavesRest deadline count o.buffer
  /-- What is buffered already is not asked of the transport. -/
  ready : max need 1 ≤ b.storage.data.length → o.buffer.endpoint = b.endpoint
  /-- Else the call meets with the fate of the transport, and the whole is buffered. -/
  failed : need ≤ b.storage.capacity → (b.whole deadline).length < max need 1 →
    o.reply = b.endpoint.fate deadline ∧ o.target = target ∧
      o.buffer.storage.data = b.whole deadline
  /-- It never runs out of room, and never takes off more than is buffered. -/
  sized : ∀ failure, o.reply = .error failure → ¬failure.IsShortage
  /-- No byte is lost. -/
  moved : HandsOut b (BufferAnswer.moved o.reply o.target).handed o.buffer

/-- To hold something, and what is needed, is to hold an amount. -/
theorem goal_readInto (need : Nat) :
    (fun s : Storage => !s.isEmpty && decide (need ≤ s.length)) =
      fun s => decide (max need 1 ≤ s.length) := by
  funext s
  have empty : s.isEmpty = decide (s.length = 0) := rfl
  rw [empty, Bool.eq_iff_iff]
  simp only [Bool.and_eq_true, Bool.not_eq_true', decide_eq_false_iff_not, decide_eq_true_eq]
  omega

section Into

variable {b next : StreamBuffer} {target : Bytes} {need : Nat} {timeout : Timeout}
  {deadline : Deadline}

/-- A target without room takes nothing, whatever is needed. -/
theorem readInto_of_nil (b : StreamBuffer) (need : Nat) (timeout : Timeout) :
    b.readInto [] need timeout = ⟨.ok 0, [], b⟩ := rfl

theorem readInto_of_lt (some : target ≠ []) (more : b.storage.capacity < need)
    (timeout : Timeout) :
    b.readInto target need timeout =
      ⟨.error (.requestTooLarge need b.storage.capacity), target, b⟩ := by
  rw [readInto, if_neg some, if_pos more]

variable (limit : timeout.deadline b.endpoint.now = deadline) (some : target ≠ [])

include limit some

theorem readInto_of_amount {count : Nat} (fits : need ≤ b.storage.capacity)
    (call : b.refillUntil (fun s => decide (max need 1 ≤ s.length)) deadline = (.ok (), next))
    (amount : min next.storage.filled target.length = count) :
    b.readInto target need timeout =
      ⟨.ok count, next.storage.data.take count ++ target.drop count,
        { next with storage := next.storage.shift count }⟩ := by
  subst limit amount
  have length : (next.storage.data.take (min next.storage.filled target.length)).length =
      min next.storage.filled target.length := by
    rw [List.length_take, Storage.length_data]
    omega
  have discarded : next.storage.discard (min next.storage.filled target.length) =
      (.ok (), next.storage.shift (min next.storage.filled target.length)) :=
    Storage.discard_of_le (Nat.min_le_left _ _)
  rw [readInto, if_neg some, if_neg (Nat.not_lt.mpr fits), goal_readInto, call]
  dsimp only [Storage.length]
  rw [discarded]
  dsimp only [overwrite]
  rw [length]

theorem readInto_of_fate (fits : need ≤ b.storage.capacity)
    (call : b.refillUntil (fun s => decide (max need 1 ≤ s.length)) deadline =
      (b.endpoint.fate deadline, next)) :
    b.readInto target need timeout = ⟨b.endpoint.fate deadline, target, next⟩ := by
  subst limit
  rw [readInto, if_neg some, if_neg (Nat.not_lt.mpr fits), goal_readInto, call]
  unfold Endpoint.fate
  cases (b.endpoint.outlook (timeout.deadline b.endpoint.now)).reply with
  | ok | error | waiting => rfl

theorem readInto_law (room : 1 ≤ b.storage.capacity) (need : Nat) :
    b.IntoLaw target need deadline (b.readInto target need timeout) := by
  have moved : HandsOut b (BufferAnswer.moved (b.readInto target need timeout).reply
      (b.readInto target need timeout).target).handed (b.readInto target need timeout).buffer :=
    b.handsOut_answer (.readInto target need timeout)
  by_cases more : b.storage.capacity < need
  · rw [readInto_of_lt some more timeout] at moved ⊢
    exact
      { refused := fun _ => rfl
        read := fun fits => absurd more (Nat.not_lt.mpr fits)
        ready := fun _ => rfl
        failed := fun fits => absurd more (Nat.not_lt.mpr fits)
        sized := by
          rintro failure ⟨⟩
          exact id
        moved := moved }
  have fits := Nat.not_lt.mp more
  rcases refillUntil_amount (Nat.max_le.mpr ⟨fits, room⟩) deadline with
    ⟨next, unread, call, enough, all, ready⟩ | ⟨next, call, short, whole⟩
  · -- as many bytes are moved as are buffered by then, if the target has room for them
    generalize amount : min next.storage.filled target.length = count
    have there : count ≤ next.storage.filled := amount ▸ Nat.min_le_left _ _
    obtain ⟨front, present, rest⟩ := leavesRest_of_shift call all there
    obtain ⟨-, reached, -⟩ := leavesRest_of_shift call all enough
    rw [readInto_of_amount limit some fits call amount, front] at moved ⊢
    exact
      { refused := fun wrong => absurd wrong more
        read := fun _ _ => ⟨count, rfl, by omega, by omega, present, rfl, rest⟩
        ready := ready
        failed := fun _ short => absurd reached (Nat.not_le.mpr short)
        sized := fun _ wrong => nomatch wrong
        moved := moved }
  · have buffered := b.length_data_le_whole deadline
    rw [readInto_of_fate limit some fits call] at moved ⊢
    exact
      { refused := fun wrong => absurd wrong more
        read := fun _ present => absurd present (Nat.not_le.mpr short)
        ready := fun there => absurd there (by omega)
        failed := fun _ _ => ⟨rfl, rfl, whole⟩
        sized := by
          subst limit
          exact fun _ failed => Endpoint.fate_sized failed
        moved := moved }

end Into

/-! ### Both -/

/-- What a record comes to in a target of its length. -/
def MoveOutcome.ofRecord (target : Bytes) : Reply SocketError Bytes × StreamBuffer → MoveOutcome
  | (.ok bytes, next) => ⟨.ok bytes.length, bytes, next⟩
  | (.error failure, next) => ⟨.error failure, target, next⟩
  | (.waiting, next) => ⟨.waiting, target, next⟩

end StreamBuffer

/-- To drop nothing changes nothing, not even the free room. -/
theorem Storage.shift_zero (s : Storage) : s.shift 0 = s := by
  obtain ⟨cells, filled, filled_le, length_cells_le⟩ := s
  have kept : moveToFront cells 0 filled = cells := by
    rw [moveToFront, overwrite, List.drop_zero, List.length_take_of_le filled_le,
      List.take_append_drop]
  simp only [shift, kept, Nat.sub_zero]

namespace StreamBuffer

/-- A read of exactly nothing takes nothing. -/
theorem readExact_zero (b : StreamBuffer) (timeout : Timeout) :
    b.readExact 0 timeout = (.ok [], b) := by
  have call : b.refillUntil (fun s => decide (0 ≤ s.length)) (timeout.deadline b.endpoint.now) =
      (.ok (), b) := by
    rw [refillUntil, if_pos (decide_eq_true (Nat.zero_le _))]
  rw [readExact_of_amount rfl (Nat.zero_le _) call (Nat.zero_le _), Storage.shift_zero]
  rfl

/-- A read that needs as much as its target holds is a read of exactly that much. -/
theorem readInto_eq_readExact (b : StreamBuffer) (target : Bytes) (timeout : Timeout) :
    b.readInto target target.length timeout =
      .ofRecord target (b.readExact target.length timeout) := by
  by_cases none : target = []
  · subst none
    rw [readInto_of_nil, List.length_nil, readExact_zero]
    rfl
  by_cases more : b.storage.capacity < target.length
  · rw [readInto_of_lt none more, readExact_of_lt more]
    rfl
  have fits := Nat.not_lt.mp more
  have amount : max target.length 1 = target.length :=
    Nat.max_eq_left (List.length_pos_iff.mpr none)
  rcases refillUntil_amount fits (timeout.deadline b.endpoint.now) with
    ⟨next, unread, call, enough, -⟩ | ⟨next, call, -⟩
  · have length : (next.storage.data.take target.length).length = target.length := by
      rw [List.length_take, Storage.length_data, Nat.min_eq_left enough]
    rw [readExact_of_amount rfl fits call enough]
    rw [← amount] at call
    rw [readInto_of_amount rfl none fits call (Nat.min_eq_right enough), List.drop_length,
      List.append_nil, MoveOutcome.ofRecord, length]
  · rw [readExact_of_fate rfl fits call]
    rw [← amount] at call
    rw [readInto_of_fate rfl none fits call]
    unfold Endpoint.fate
    cases (b.endpoint.outlook (timeout.deadline b.endpoint.now)).reply with
    | ok | error | waiting => rfl

/-- **Reads of so many bytes are cuts of the whole.** Take a buffer that has room for a byte, as
every buffer has that is made, whatever it holds, and any answers of the transport to come. The
bytes that the transport delivers are those of its answers up to the first failure, which is the
fate of the transport. A read of exactly so many bytes, and a read into a target with room, keep
their laws about what is buffered and those bytes; and the two are the same if the target is as
long as what it needs. -/
theorem counted_reads_lawful (b : StreamBuffer) (timeout : Timeout)
    (room : 1 ≤ b.storage.capacity) :
    (∃ index stop, stop ≠ .enough ∧
      (b.endpoint.script timeout).First (b.endpoint.arrivals.length + 1) index stop ∧
      b.endpoint.delivers (timeout.deadline b.endpoint.now) =
        (b.endpoint.script timeout).brought index ∧
      ∀ α : Type, (b.endpoint.fate (timeout.deadline b.endpoint.now) : Reply SocketError α) =
        stop.reply.barren) ∧
    (∀ count, b.ExactLaw count (timeout.deadline b.endpoint.now) (b.readExact count timeout).1
      (b.readExact count timeout).2) ∧
    (∀ target need, target ≠ [] →
      b.IntoLaw target need (timeout.deadline b.endpoint.now) (b.readInto target need timeout)) ∧
    (∀ need, b.readInto [] need timeout = ⟨.ok 0, [], b⟩) ∧
    ∀ target, b.readInto target target.length timeout =
      .ofRecord target (b.readExact target.length timeout) :=
  ⟨b.endpoint.exists_first_failure timeout, readExact_law rfl,
    fun _ need some => readInto_law rfl some room need, fun need => b.readInto_of_nil need timeout,
    fun target => b.readInto_eq_readExact target timeout⟩

/-- Reads of the bytes of `slowRecord`, in a buffer that holds four. Four bytes are read at once;
five are refused; and when the time is up, what has come stays buffered. -/
theorem slowRecord_counted :
    1 ≤ (wrap slowRecord 4).storage.capacity ∧
      (wrap slowRecord 4).ExactLaw 4 none (.ok [97, 10, 98, 99])
        ((wrap slowRecord 4).readExact 4 none).2 ∧
      ((wrap slowRecord 4).readExact 5 none).1 = .error (.requestTooLarge 5 4) ∧
      (wrap slowRecord 4).IntoLaw [0, 0, 0, 0, 0] 4 (some 20)
        ((wrap slowRecord 4).readInto [0, 0, 0, 0, 0] 4 (some ⟨20⟩)) ∧
      ((wrap slowRecord 4).readInto [0, 0, 0, 0, 0] 4 (some ⟨20⟩)).reply =
        .error .readTimeout ∧
      ((wrap slowRecord 4).readInto [0, 0, 0, 0, 0] 4 (some ⟨20⟩)).buffer.storage.data =
        [97, 10, 98] ∧
      (wrap slowRecord 4).readInto [0, 0, 0, 0] 4 none =
        .ofRecord [0, 0, 0, 0] ((wrap slowRecord 4).readExact 4 none) := by
  have facts : ((wrap slowRecord 4).readExact 4 none).1 = .ok [97, 10, 98, 99] ∧
      ((wrap slowRecord 4).readExact 5 none).1 = .error (.requestTooLarge 5 4) ∧
      ((wrap slowRecord 4).readInto [0, 0, 0, 0, 0] 4 (some ⟨20⟩)).reply =
        .error .readTimeout ∧
      ((wrap slowRecord 4).readInto [0, 0, 0, 0, 0] 4 (some ⟨20⟩)).buffer.storage.data =
        [97, 10, 98] := by
    decide +kernel
  obtain ⟨four, five, late, kept⟩ := facts
  have room := one_le_capacity_wrap slowRecord 4
  obtain ⟨-, exactly, -, -, agree⟩ := counted_reads_lawful (wrap slowRecord 4) none room
  obtain ⟨-, -, into, -, -⟩ := counted_reads_lawful (wrap slowRecord 4) (some ⟨20⟩) room
  refine ⟨room, ?_, five, into [0, 0, 0, 0, 0] 4 (List.cons_ne_nil _ _), late, kept,
    agree [0, 0, 0, 0]⟩
  rw [← four]
  exact exactly 4

end StreamBuffer

end SocketDemux
