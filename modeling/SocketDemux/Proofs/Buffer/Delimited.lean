import SocketDemux.Proofs.Buffer.Outlook
import SocketDemux.Proofs.Buffer.Records
/-!
# SocketDemux.Proofs.Buffer.Delimited

A **read up to a delimiter**, as a search in the window.

The call searches the buffered bytes from their start, refills, and searches again. What it
comes back with can be said without that: the whole is what is buffered, followed by what the
transport delivers up to its first failure, and the window is as much of the whole as the buffer
holds.

* `UntilLaw`, `readUntil_law` — the record, if the window has a delimiter; if not, the failure,
  with the window left in the buffer.
* `readUntil_congr` — so two splittings of the same bytes make no difference.
* `records_of_readUntil` — one call takes one record off those of the stream, or none; so calls
  that fail in between, because their time is up, cost nothing (`records_of_calls`).
* `readUntil_refines` — all of it.
-/

namespace SocketDemux

/-- The record that an answer hands out. -/
def BufferAnswer.record? : BufferAnswer → Option Bytes
  | .record (.ok bytes) => some bytes
  | _ => none

/-- A reply without a value hands nothing out, and is no record. -/
theorem Reply.nothing_of_unsuccessful {reply : Reply SocketError Bytes}
    (unsuccessful : ∀ record, reply ≠ .ok record) :
    reply.handed = [] ∧ (BufferAnswer.record reply).record? = none := by
  cases reply with
  | ok record => exact absurd rfl (unsuccessful record)
  | error failure => exact ⟨rfl, rfl⟩
  | waiting => exact ⟨rfl, rfl⟩

theorem BufferAnswer.filterMap_record?_cons (answer : BufferAnswer) (rest : List BufferAnswer) :
    (answer :: rest).filterMap record? = answer.record?.toList ++ rest.filterMap record? := by
  rw [List.filterMap_cons]
  cases answer.record? with
  | none => rfl
  | some bytes => rfl

namespace StreamBuffer

/-- What is true of a read up to a delimiter. -/
structure UntilLaw (b : StreamBuffer) (delimiter : UInt8) (deadline : Deadline)
    (reply : Reply SocketError Bytes) (next : StreamBuffer) : Prop where
  /-- A delimiter that is within reach ends the record. -/
  found : ∀ position, (b.whole deadline).findIdx? (· = delimiter) = some position →
    position < b.storage.capacity →
    reply = .ok ((b.whole deadline).take (position + 1)) ∧
      ∃ taken unread, taken ++ unread = b.endpoint.delivers deadline ∧
        taken ++ next.endpoint.arrivals = b.endpoint.arrivals ∧
        next.storage.data ++ unread = (b.whole deadline).drop (position + 1)
  /-- Without one the buffer fills up, -/
  exhausted : (∀ position, (b.whole deadline).findIdx? (· = delimiter) = some position →
      b.storage.capacity ≤ position) →
    b.storage.capacity ≤ (b.whole deadline).length →
    reply = .error (.bufferExhausted b.storage.capacity) ∧
      next.storage.data = (b.whole deadline).take b.storage.capacity
  /-- or the call meets with the fate of the transport, and all that it has delivered is
  buffered. -/
  failed : (∀ position, (b.whole deadline).findIdx? (· = delimiter) = some position →
      b.storage.capacity ≤ position) →
    (b.whole deadline).length < b.storage.capacity →
    reply = b.endpoint.fate deadline ∧ next.storage.data = b.whole deadline
  /-- No byte is lost. -/
  moved : HandsOut b reply.handed next

section OneCall

variable {b next : StreamBuffer} {delimiter : UInt8} {timeout : Timeout} {deadline : Deadline}
  (limit : timeout.deadline b.endpoint.now = deadline)

include limit

/-- A record is what stands in front of the first delimiter, and that; what is left behind it is
buffered or unread. -/
theorem readUntil_of_search {unread : Bytes}
    (call : b.refillUntil (fun s => (s.find delimiter).isSome) deadline = (.ok (), next))
    (all : next.storage.data ++ unread = b.whole deadline) :
    ∃ position last, (b.whole deadline).findIdx? (· = delimiter) = some position ∧
      position < b.storage.capacity ∧
      b.readUntil delimiter timeout = (.ok ((b.whole deadline).take (position + 1)), last) ∧
      last.storage.data ++ unread = (b.whole deadline).drop (position + 1) := by
  subst limit
  obtain ⟨position, found⟩ := Option.isSome_iff_exists.mp (goal_of_refillUntil call)
  obtain ⟨inside, read⟩ := readUntil_of_found call found
  have refilled := handsOut_refillUntil (fun s => (s.find delimiter).isSome) b
    (timeout.deadline b.endpoint.now)
  rw [call] at refilled
  have fits : next.storage.data.length ≤ b.storage.capacity := by
    rw [← refilled.capacity, Storage.length_data]
    exact next.storage.filled_le
  refine ⟨position, { next with storage := next.storage.shift (position + 1) }, ?_,
    Nat.lt_of_lt_of_le inside fits, ?_, ?_⟩
  · -- what is buffered is the front of the whole
    rw [Storage.find] at found
    rw [← all, List.findIdx?_append, found]
    rfl
  · rw [← all, List.take_append_of_le_length inside]
    exact read
  · rw [← all, List.drop_append_of_le_length inside, Storage.data_shift]

/-- Without a delimiter in the window, the call comes back with the window buffered. -/
theorem readUntil_of_window
    (call : b.refillUntil (fun s => (s.find delimiter).isSome) deadline =
      (b.windowReply deadline, next)) :
    b.readUntil delimiter timeout = (b.windowReply deadline, next) := by
  subst limit
  rw [readUntil, takeWhen_of_barren call (b.windowReply_ne_ok _ ()), barren_windowReply]

/-- What a call comes back with: there is a delimiter within reach, or not. -/
theorem readUntil_cases (delimiter : UInt8) :
    (∃ position next unread, (b.whole deadline).findIdx? (· = delimiter) = some position ∧
        position < b.storage.capacity ∧
        b.readUntil delimiter timeout = (.ok ((b.whole deadline).take (position + 1)), next) ∧
        next.storage.data ++ unread = (b.whole deadline).drop (position + 1)) ∨
      ∃ next,
        ((b.whole deadline).take b.storage.capacity).findIdx? (· = delimiter) = none ∧
        b.readUntil delimiter timeout = (b.windowReply deadline, next) ∧
        next.storage.data = (b.whole deadline).take b.storage.capacity := by
  rcases refillUntil_outlook (fun data => (data.findIdx? (· = delimiter)).isSome) b deadline with
    ⟨next, unread, call, -, all⟩ | ⟨next, call, missing, window⟩
  · obtain ⟨position, last, found, inside, read, left⟩ := readUntil_of_search limit call all
    exact .inl ⟨position, last, unread, found, inside, read, left⟩
  · refine .inr ⟨next, ?_, readUntil_of_window limit call, window⟩
    rw [← window]
    simpa using missing

/-- Every call keeps the law. -/
theorem readUntil_law (delimiter : UInt8) :
    b.UntilLaw delimiter deadline (b.readUntil delimiter timeout).1
      (b.readUntil delimiter timeout).2 := by
  have moved := b.handsOut_readUntil delimiter timeout
  rcases readUntil_cases limit delimiter with
    ⟨position, next, unread, found, inside, read, left⟩ | ⟨next, missing, read, window⟩
  · rw [read] at moved ⊢
    have outOfReach : ¬∀ other, (b.whole deadline).findIdx? (· = delimiter) = some other →
        b.storage.capacity ≤ other :=
      fun all => absurd (all position found) (Nat.not_le.mpr inside)
    refine ⟨?_, fun wrong => absurd wrong outOfReach, fun wrong => absurd wrong outOfReach, moved⟩
    intro other first _
    rw [found] at first
    cases first
    have all : (b.whole deadline).take (position + 1) ++ next.storage.data ++ unread =
        b.whole deadline := by
      rw [List.append_assoc, left, List.take_append_drop]
    obtain ⟨taken, delivered, stream⟩ := moved.taken all
    exact ⟨rfl, taken, unread, delivered, stream, left⟩
  · rw [read] at moved ⊢
    refine ⟨?_, ?_, ?_, moved⟩
    · intro position found inside
      rw [List.findIdx?_take, found] at missing
      simp [inside] at missing
    · intro _ full
      exact ⟨if_pos full, window⟩
    · intro _ short
      rw [List.take_of_length_le (Nat.le_of_lt short)] at window
      exact ⟨if_neg (Nat.not_le.mpr short), window⟩

/-- The reply, as a function of the whole, the capacity and the fate. -/
theorem readUntil_fst (delimiter : UInt8) :
    (b.readUntil delimiter timeout).1 =
      match ((b.whole deadline).take b.storage.capacity).findIdx? (· = delimiter) with
      | some position => .ok ((b.whole deadline).take (position + 1))
      | none => b.windowReply deadline := by
  rcases readUntil_cases limit delimiter with
    ⟨position, next, unread, found, inside, read, -⟩ | ⟨next, missing, read, -⟩
  · rw [read, List.findIdx?_take, found]
    simp [inside]
  · rw [read, missing]

end OneCall

/-- It does not matter how the bytes are split that the transport delivers. -/
theorem readUntil_congr {b b' : StreamBuffer} {timeout timeout' : Timeout} (delimiter : UInt8)
    (data : b'.storage.data = b.storage.data)
    (capacity : b'.storage.capacity = b.storage.capacity)
    (delivers : b'.endpoint.delivers (timeout'.deadline b'.endpoint.now) =
      b.endpoint.delivers (timeout.deadline b.endpoint.now))
    (fate : (b'.endpoint.fate (timeout'.deadline b'.endpoint.now) : Reply SocketError Bytes) =
      b.endpoint.fate (timeout.deadline b.endpoint.now)) :
    (b'.readUntil delimiter timeout').1 = (b.readUntil delimiter timeout).1 := by
  rw [readUntil_fst rfl, readUntil_fst rfl]
  unfold windowReply whole
  rw [data, capacity, delivers, fate]

/-! ### One call after the other -/

/-- What was there to read is what is handed out, what is buffered then, and what is still to
come. -/
theorem HandsOut.stream {b next : StreamBuffer} {handed : Bytes} (moved : HandsOut b handed next) :
    b.storage.data ++ b.endpoint.arrivals =
      handed ++ (next.storage.data ++ next.endpoint.arrivals) := by
  obtain ⟨taken, stream, balance⟩ := moved.balance
  rw [← stream, ← List.append_assoc, balance, List.append_assoc]

section Records

variable {b next : StreamBuffer} {delimiter : UInt8} {timeout : Timeout}
  {reply : Reply SocketError Bytes}

/-- A call that succeeds takes the first record off those of the stream; any other leaves them
all. -/
theorem records_of_readUntil (call : b.readUntil delimiter timeout = (reply, next)) :
    records delimiter b.storage.capacity (b.storage.data ++ b.endpoint.arrivals) =
        (BufferAnswer.record reply).record?.toList ++
          records delimiter next.storage.capacity (next.storage.data ++ next.endpoint.arrivals) ∧
      behindRecords delimiter b.storage.capacity (b.storage.data ++ b.endpoint.arrivals) =
        behindRecords delimiter next.storage.capacity
          (next.storage.data ++ next.endpoint.arrivals) := by
  generalize limit : timeout.deadline b.endpoint.now = deadline
  have moved := b.handsOut_readUntil delimiter timeout
  rw [call] at moved
  have stream := moved.stream
  rw [moved.capacity]
  rcases readUntil_cases limit delimiter with
    ⟨position, _, unread, found, inside, read, left⟩ | ⟨_, missing, read, window⟩
  · rw [read] at call
    cases call
    obtain ⟨later, whole⟩ := b.endpoint.delivers_prefix deadline
    have all : b.storage.data ++ b.endpoint.arrivals = b.whole deadline ++ later := by
      rw [← whole, StreamBuffer.whole, List.append_assoc]
    have found' : ((b.storage.data ++ b.endpoint.arrivals).take b.storage.capacity).findIdx?
        (· = delimiter) = some position := by
      rw [all, List.findIdx?_take, List.findIdx?_append, found]
      simp [inside]
    have present : position < (b.whole deadline).length :=
      (List.findIdx?_eq_some_iff_getElem.mp found).1
    have front : (b.storage.data ++ b.endpoint.arrivals).take (position + 1) =
        (b.whole deadline).take (position + 1) := by
      rw [all, List.take_append_of_le_length present]
    have back : (b.storage.data ++ b.endpoint.arrivals).drop (position + 1) =
        next.storage.data ++ next.endpoint.arrivals := by
      have split := List.take_append_drop (position + 1) (b.storage.data ++ b.endpoint.arrivals)
      rw [front] at split
      exact List.append_cancel_left (split.trans stream)
    obtain ⟨first, behind⟩ := records_of_found found'
    rw [first, behind, front, back]
    exact ⟨rfl, rfl⟩
  · -- nothing is handed out, so the stream is as it was
    rw [read] at call
    cases call
    obtain ⟨nothing, none⟩ := Reply.nothing_of_unsuccessful (b.windowReply_ne_ok deadline)
    rw [nothing] at stream
    rw [stream, none]
    exact ⟨rfl, rfl⟩

/-- A call that does not succeed, with the buffer full or nothing more to come, leaves no
record. -/
theorem records_eq_nil_of_readUntil (call : b.readUntil delimiter timeout = (reply, next))
    (unsuccessful : ∀ record, reply ≠ .ok record)
    (spent : next.endpoint.arrivals = [] ∨ next.storage.isFull = true) :
    records delimiter next.storage.capacity (next.storage.data ++ next.endpoint.arrivals) = [] ∧
      (behindRecords delimiter next.storage.capacity
        (next.storage.data ++ next.endpoint.arrivals)).take next.storage.capacity =
          next.storage.data := by
  generalize limit : timeout.deadline b.endpoint.now = deadline
  have moved := b.handsOut_readUntil delimiter timeout
  rw [call] at moved
  have window : (next.storage.data ++ next.endpoint.arrivals).take next.storage.capacity =
      next.storage.data := by
    have fits : next.storage.data.length ≤ next.storage.capacity := by
      rw [Storage.length_data]
      exact next.storage.filled_le
    rcases spent with nothing | full
    · rw [nothing, List.append_nil, List.take_of_length_le fits]
    · rw [← (Storage.isFull_iff _).mp full, List.take_left]
  rcases readUntil_cases limit delimiter with
    ⟨_, _, _, -, -, read, -⟩ | ⟨_, missing, read, buffered⟩
  · rw [read] at call
    cases call
    exact absurd rfl (unsuccessful _)
  · rw [read] at call
    cases call
    rw [← buffered, ← window] at missing
    obtain ⟨nothing, behind⟩ := records_of_missing missing
    rw [nothing, behind]
    exact ⟨rfl, window⟩

/-- So do any number of calls: what they have handed out are the first records of the stream. -/
theorem records_of_calls {timeouts : List Timeout} {answers : List BufferAnswer}
    (ran : b.answers (timeouts.map (.readUntil delimiter ·)) = (answers, next)) :
    records delimiter b.storage.capacity (b.storage.data ++ b.endpoint.arrivals) =
        answers.filterMap BufferAnswer.record? ++
          records delimiter next.storage.capacity (next.storage.data ++ next.endpoint.arrivals) ∧
      behindRecords delimiter b.storage.capacity (b.storage.data ++ b.endpoint.arrivals) =
        behindRecords delimiter next.storage.capacity
          (next.storage.data ++ next.endpoint.arrivals) := by
  induction timeouts generalizing b answers with
  | nil =>
    cases ran
    exact ⟨rfl, rfl⟩
  | cons timeout rest ih =>
    rw [List.map_cons, StreamBuffer.answers] at ran
    cases ran
    obtain ⟨first, behind⟩ := records_of_readUntil (Prod.eta (b.readUntil delimiter timeout)).symm
    obtain ⟨others, behind'⟩ := ih rfl
    refine ⟨?_, behind.trans behind'⟩
    rw [BufferAnswer.filterMap_record?_cons, List.append_assoc, first]
    exact congrArg (_ ++ ·) others

end Records

/-- The same bytes, to a caller who never runs out of time. -/
structure Uninterrupted (b calm : StreamBuffer) (fin : StreamEnd) : Prop where
  brings : calm.Brings fin b.endpoint.arrivals
  data : calm.storage.data = b.storage.data
  capacity : calm.storage.capacity = b.storage.capacity

/-- **A read up to a delimiter is a search in the window.** -/
theorem readUntil_refines (b : StreamBuffer) (delimiter : UInt8) :
    (∀ timeout, b.UntilLaw delimiter (timeout.deadline b.endpoint.now)
      (b.readUntil delimiter timeout).1 (b.readUntil delimiter timeout).2) ∧
    (∀ (b' : StreamBuffer) (timeout timeout' : Timeout),
      b'.storage.data = b.storage.data → b'.storage.capacity = b.storage.capacity →
      b'.endpoint.delivers (timeout'.deadline b'.endpoint.now) =
        b.endpoint.delivers (timeout.deadline b.endpoint.now) →
      (b'.endpoint.fate (timeout'.deadline b'.endpoint.now) : Reply SocketError Bytes) =
        b.endpoint.fate (timeout.deadline b.endpoint.now) →
      (b'.readUntil delimiter timeout').1 = (b.readUntil delimiter timeout).1) ∧
    ∀ (timeouts : List Timeout) (answers : List BufferAnswer) (next calm : StreamBuffer)
      (fin : StreamEnd),
      b.answers (timeouts.map (.readUntil delimiter ·)) = (answers, next) →
      b.Uninterrupted calm fin →
      (calm.readRecords delimiter none).records =
          answers.filterMap BufferAnswer.record? ++
            records delimiter next.storage.capacity
              (next.storage.data ++ next.endpoint.arrivals) ∧
        ∀ timeout reply last, next.readUntil delimiter timeout = (reply, last) →
          (∀ record, reply ≠ .ok record) →
          (last.endpoint.arrivals = [] ∨ last.storage.isFull = true) →
          answers.filterMap BufferAnswer.record? = (calm.readRecords delimiter none).records ∧
            last.storage.data = (calm.readRecords delimiter none).buffer.storage.data := by
  refine ⟨fun _ => readUntil_law rfl delimiter,
    fun _ _ _ data capacity => readUntil_congr delimiter data capacity, ?_⟩
  intro timeouts answers next calm fin ran uninterrupted
  obtain ⟨got, behind⟩ := records_of_calls ran
  obtain ⟨all, -, leftover⟩ := uninterrupted.brings.readRecords_eq (.inl rfl) delimiter
  rw [uninterrupted.data, uninterrupted.capacity] at all leftover
  refine ⟨all.trans got, ?_⟩
  intro timeout reply last call unsuccessful spent
  obtain ⟨nothing, left⟩ := records_eq_nil_of_readUntil call unsuccessful spent
  obtain ⟨same, behind'⟩ := records_of_readUntil call
  obtain ⟨-, none⟩ := Reply.nothing_of_unsuccessful unsuccessful
  have capacity := (handsOut_answers b (timeouts.map (.readUntil delimiter ·))).capacity
  have capacity' := (next.handsOut_readUntil delimiter timeout).capacity
  rw [ran] at capacity
  rw [call] at capacity'
  rw [none, nothing] at same
  constructor
  · rw [all, got, same]
    exact (List.append_nil _).symm
  · rw [leftover, behind, behind', ← capacity, ← capacity']
    exact left.symm

/-- The bytes of `slowRecord`, all at once. -/
def calmRecord : StreamBuffer :=
  .wrap { inbound := { events := [⟨.data [97, 10, 98, 99, 10], false, {}⟩], ending := .ended } } 4

theorem slowRecord_uninterrupted : (wrap slowRecord 4).Uninterrupted calmRecord .closed where
  brings := by
    have carries : Carries .closed .ended ([97, 10, 98, 99, 10] ++ [])
        [⟨.data [97, 10, 98, 99, 10], false, {}⟩] :=
      .data (List.cons_ne_nil _ _) (.ended rfl rfl)
    exact ⟨rfl, carries⟩
  data := rfl
  capacity := rfl

/-- A call that runs out of time in between makes no difference. -/
theorem slowRecord_until :
    ∃ answers next,
      (wrap slowRecord 4).answers
          ([some ⟨20⟩, some ⟨20⟩, none].map (.readUntil 10 ·)) = (answers, next) ∧
      answers =
        [.record (.ok [97, 10]), .record (.error .readTimeout), .record (.ok [98, 99, 10])] ∧
      (next.readUntil 10 none).1 = .error (.failed .read (.os 104)) ∧
      answers.filterMap BufferAnswer.record? = (calmRecord.readRecords 10 none).records ∧
      (wrap slowRecord 4).UntilLaw 10 (some 20) (.ok [97, 10])
        ((wrap slowRecord 4).readUntil 10 (some ⟨20⟩)).2 := by
  have facts : ((wrap slowRecord 4).answers
        ([some ⟨20⟩, some ⟨20⟩, none].map (.readUntil 10 ·))).1 =
          [.record (.ok [97, 10]), .record (.error .readTimeout), .record (.ok [98, 99, 10])] ∧
      (((wrap slowRecord 4).answers
        ([some ⟨20⟩, some ⟨20⟩, none].map (.readUntil 10 ·))).2.readUntil 10 none).1 =
          .error (.failed .read (.os 104)) ∧
      (((wrap slowRecord 4).answers
        ([some ⟨20⟩, some ⟨20⟩, none].map (.readUntil 10 ·))).2.readUntil 10
          none).2.endpoint.arrivals = [] ∧
      ((wrap slowRecord 4).readUntil 10 (some ⟨20⟩)).1 = .ok [97, 10] := by
    decide +kernel
  cases ran : (wrap slowRecord 4).answers ([some ⟨20⟩, some ⟨20⟩, none].map (.readUntil 10 ·)) with
  | mk answers next =>
    rw [ran] at facts
    obtain ⟨given, broken, spent, first⟩ := facts
    obtain ⟨law, -, calls⟩ := readUntil_refines (wrap slowRecord 4) 10
    obtain ⟨-, later⟩ := calls _ answers next calmRecord .closed ran slowRecord_uninterrupted
    obtain ⟨same, -⟩ := later none _ _ (Prod.eta _).symm
      (by rw [broken]; exact fun _ wrong => nomatch wrong) (.inl spent)
    refine ⟨answers, next, rfl, given, broken, same, ?_⟩
    rw [← first]
    exact law (some ⟨20⟩)

end StreamBuffer

end SocketDemux
