import SocketDemux.Proofs.Buffer.Calls
import SocketDemux.Proofs.Buffer.Carries
/-!
# SocketDemux.Proofs.Buffer.Records

**Records behind a delimiter**, as the pieces of a stream that is there as a whole.

A reader that takes one record after the other searches, refills, and searches again,
until a record is there, or the buffer is full, or the stream has ended. What it finds
does not depend on the reads that bring the stream: the first delimiter of the bytes
buffered so far is the first one of the window, which is as much of the stream as the
buffer can hold.

* `pieces` — a stream, cut behind every delimiter; `records` are those in front of the
  first one that has no delimiter within the window, and `behindRecords` is what follows.
* `records_of_found`, `records_of_missing` — their recursion on the window, in which every
  way of framing the stream can be compared with them.
* `StreamBuffer.readRecords` — a reader that takes one record after the other until a call
  does not succeed; `Brings.readRecords_eq` says what it gets.
-/

namespace SocketDemux

/-! ### The pieces of a stream -/

/-- A stream, cut behind every delimiter. -/
def pieces (delimiter : UInt8) : Bytes → List Bytes
  | [] => []
  | byte :: rest =>
      if byte = delimiter then [byte] :: pieces delimiter rest
      else
        match pieces delimiter rest with
        | [] => [[byte]]
        | first :: others => (byte :: first) :: others

/-- Has this piece a delimiter among its first `capacity` bytes? -/
def endsWithin (delimiter : UInt8) (capacity : Nat) (piece : Bytes) : Bool :=
  decide (delimiter ∈ piece.take capacity)

/-- The pieces in front of the first one that has no delimiter among its first `capacity`
bytes. -/
def records (delimiter : UInt8) (capacity : Nat) (stream : Bytes) : List Bytes :=
  (pieces delimiter stream).takeWhile (endsWithin delimiter capacity)

/-- What is behind the records. -/
def behindRecords (delimiter : UInt8) (capacity : Nat) (stream : Bytes) : Bytes :=
  ((pieces delimiter stream).dropWhile (endsWithin delimiter capacity)).flatten

/-- The failure of whoever finds nothing in a window of so many bytes: it is full, or the
stream ends in it. -/
def windowFailure (capacity : Nat) (fault : SocketError) (stream : Bytes) : SocketError :=
  if capacity ≤ stream.length then .bufferExhausted capacity else fault

/-- Nothing but cuts are made. -/
theorem flatten_pieces (delimiter : UInt8) (stream : Bytes) :
    (pieces delimiter stream).flatten = stream := by
  induction stream with
  | nil => rfl
  | cons byte rest ih =>
    rw [pieces]
    split
    · rw [List.flatten_cons, ih]
      rfl
    · split
      · next none =>
        rw [none] at ih
        subst ih
        rfl
      · next first others some =>
        rw [some, List.flatten_cons] at ih
        rw [List.flatten_cons, List.cons_append, ih]

variable {delimiter : UInt8} {capacity position : Nat} {stream : Bytes}

/-- The first piece ends with the first delimiter. -/
theorem pieces_of_found (found : stream.findIdx? (· = delimiter) = some position) :
    pieces delimiter stream =
      stream.take (position + 1) :: pieces delimiter (stream.drop (position + 1)) := by
  induction stream generalizing position with
  | nil => cases found
  | cons byte rest ih =>
    rw [List.findIdx?_cons] at found
    by_cases same : byte = delimiter
    · rw [if_pos (by simp [same])] at found
      cases found
      rw [pieces, if_pos same]
      rfl
    · rw [if_neg (by simp [same]), Option.map_eq_some_iff] at found
      obtain ⟨position, found, rfl⟩ := found
      rw [pieces, if_neg same, ih found]
      rfl

/-- The records, and what is behind them, are the stream. -/
theorem flatten_records (delimiter : UInt8) (capacity : Nat) (stream : Bytes) :
    (records delimiter capacity stream).flatten ++ behindRecords delimiter capacity stream =
      stream := by
  rw [records, behindRecords, ← List.flatten_append, List.takeWhile_append_dropWhile,
    flatten_pieces]

/-- A delimiter in the window ends the first piece. -/
theorem first_of_found (found : (stream.take capacity).findIdx? (· = delimiter) = some position) :
    position < stream.length ∧ stream.findIdx? (· = delimiter) = some position ∧
      endsWithin delimiter capacity (stream.take (position + 1)) = true := by
  obtain ⟨inside, same, -⟩ := List.findIdx?_eq_some_iff_getElem.mp found
  rw [decide_eq_true_eq, List.getElem_take] at same
  rw [List.length_take] at inside
  refine ⟨by omega, ?_, ?_⟩
  · rw [← List.take_append_drop capacity stream, List.findIdx?_append, found]
    rfl
  · rw [endsWithin, decide_eq_true_eq, List.take_take, List.mem_take_iff_getElem]
    exact ⟨position, by omega, same⟩

/-- Without a delimiter in the window, the first piece does not end within it. -/
theorem not_endsWithin_of_missing
    (missing : (stream.take capacity).findIdx? (· = delimiter) = none) {first : Bytes}
    {others : List Bytes} (whole : pieces delimiter stream = first :: others) :
    endsWithin delimiter capacity first = false := by
  rw [endsWithin, decide_eq_false_iff_not]
  intro inside
  have present : delimiter ∈ stream.take capacity := by
    rw [← flatten_pieces delimiter stream, whole, List.flatten_cons, List.take_append]
    exact List.mem_append_left _ inside
  have apart := List.findIdx?_eq_none_iff.mp missing delimiter present
  simp at apart

/-- The record that ends with the first delimiter of the window comes first. -/
theorem records_of_found (found : (stream.take capacity).findIdx? (· = delimiter) = some position) :
    records delimiter capacity stream =
        stream.take (position + 1) :: records delimiter capacity (stream.drop (position + 1)) ∧
      behindRecords delimiter capacity stream =
        behindRecords delimiter capacity (stream.drop (position + 1)) := by
  obtain ⟨-, first, ends⟩ := first_of_found found
  constructor
  · rw [records, pieces_of_found first, List.takeWhile_cons, if_pos ends]
    rfl
  · rw [behindRecords, pieces_of_found first, List.dropWhile_cons, if_pos ends]
    rfl

/-- Without a delimiter in the window, there is no record. -/
theorem records_of_missing (missing : (stream.take capacity).findIdx? (· = delimiter) = none) :
    records delimiter capacity stream = [] ∧
      behindRecords delimiter capacity stream = stream := by
  have empty : records delimiter capacity stream = [] := by
    rw [records]
    cases whole : pieces delimiter stream with
    | nil => rfl
    | cons first others =>
      rw [List.takeWhile_cons, not_endsWithin_of_missing missing whole]
      rfl
  have same := flatten_records delimiter capacity stream
  rw [empty] at same
  exact ⟨empty, same⟩

/-! ### Reads that never wait -/

/-- No read finds nothing at the moment, so that nobody has to wait. -/
def Prompt (events : List ReadEvent) : Prop :=
  ∀ event ∈ events, ∀ error, event.reply = .failed error → error.isWouldBlock = false

theorem Prompt.tail {event : ReadEvent} {rest : List ReadEvent} (prompt : Prompt (event :: rest)) :
    Prompt rest :=
  fun later mem => prompt later (List.mem_cons_of_mem _ mem)

/-- Where nobody has to wait, a deadline makes no difference. -/
theorem readRun_of_prompt {fin : StreamEnd} {ending : Ending} {events : List ReadEvent}
    {flag : CancelFlag} (carries : Carries fin ending stream events) (down : flag.raised = false)
    (prompt : Prompt events) (deadline : Deadline) (room : Nat) (retry : Bool) (now : Instant) :
    readRun ending deadline room 1 retry flag now events =
        readRun ending none room 1 retry flag now events ∧
      Prompt (readRun ending none room 1 retry flag now events).events := by
  induction carries generalizing retry flag with
  | ended _ finished =>
    subst finished
    simp [readRun, down, Prompt]
  | closed => simp [readRun, down, prompt.tail]
  | @broken error uninterrupted unblocked =>
    simp [readRun, down, uninterrupted, unblocked, prompt.tail]
  | @data bytes stream wait rest news =>
    by_cases large : room < bytes.length
    · have later : Prompt (⟨.data (bytes.drop room), false, wait⟩ :: rest) := by
        intro event mem error failed
        rcases List.mem_cons.mp mem with rfl | mem
        · cases failed
        · exact prompt.tail event mem error failed
      simp [readRun, down, news, large, later]
    · have met : 1 - bytes.length = 0 := by
        have := List.length_pos_iff.mpr news
        omega
      simp [readRun, down, news, large, met, readRun_zero, prompt.tail]
  | @interrupted stream error wait rest interrupted carries ih =>
    have lowered : (flag.raiseIf false).raised = false := by simp [down]
    obtain ⟨same, later⟩ := ih lowered prompt.tail true
    simp [readRun, down, interrupted, same, later]
  | @blocked stream error wait rest blocked =>
    -- this is what no prompt transport answers
    have unblocked := prompt _ (List.mem_cons_self ..) error rfl
    rw [blocked] at unblocked
    cases unblocked

namespace StreamBuffer

/-- A caller waits as long as it takes, or never has to wait. -/
def Patient (b : StreamBuffer) (timeout : Timeout) : Prop :=
  timeout = none ∨ Prompt b.endpoint.inbound.events

variable {b : StreamBuffer} {fin : StreamEnd} {timeout : Timeout}

/-- For a patient caller, a refill is one without a deadline, and leaves him patient. -/
theorem Brings.fillBy_of_patient (brings : b.Brings fin stream) (patient : b.Patient timeout)
    (start : Instant) :
    b.fillBy (timeout.deadline start) = b.fillBy none ∧ (b.fillBy none).2.Patient timeout := by
  rcases patient with rfl | prompt
  · exact ⟨rfl, .inl rfl⟩
  · obtain ⟨same, later⟩ := readRun_of_prompt brings.carries brings.down prompt
      (timeout.deadline start) b.storage.spare.length false b.endpoint.now
    have read : b.endpoint.readBy b.storage.spare 1 (timeout.deadline start) =
        b.endpoint.readBy b.storage.spare 1 none := by
      unfold Endpoint.readBy
      rw [same]
    unfold StreamBuffer.fillBy
    rw [read]
    refine ⟨rfl, .inr ?_⟩
    by_cases full : b.storage.isFull = true
    · rw [if_pos full]
      exact prompt
    · have fits := Nat.not_lt.mpr (Storage.one_le_length_spare (by simpa using full))
      have after : (b.endpoint.readBy b.storage.spare 1 none).endpoint.inbound.events =
          (readRun b.endpoint.inbound.ending none b.storage.spare.length 1 false b.endpoint.flag
            b.endpoint.now b.endpoint.inbound.events).events := by
        unfold Endpoint.readBy
        rw [if_neg fits]
      rw [if_neg full]
      rw [← after] at later
      dsimp only
      split
      · exact later
      · exact later
      · exact later

/-- A refill fails with the whole window buffered. -/
theorem Brings.window_of_fillBy {next : StreamBuffer} {failure : SocketError}
    (brings : b.Brings fin stream) (call : b.fillBy none = (.error failure, next)) :
    failure = windowFailure b.storage.capacity fin.failure (b.storage.data ++ stream) ∧
      next.storage.data = b.storage.data ∧
      b.storage.data = (b.storage.data ++ stream).take b.storage.capacity := by
  obtain ⟨data, -, -, -⟩ := fillBy_incoming call
  rw [incoming_eq_nil call (fun _ wrong => nomatch wrong), List.append_nil] at data
  unfold windowFailure
  rcases brings.fillBy_cases call with ⟨same, full⟩ | ⟨same, rfl, room⟩ | ⟨_, _, wrong, -⟩
  · cases same
    rw [List.length_append, if_pos (by omega), ← full, List.take_left]
    exact ⟨rfl, data, rfl⟩
  · cases same
    rw [List.append_nil, if_neg (by omega), List.take_of_length_le (by omega)]
    exact ⟨rfl, data, rfl⟩
  · cases wrong

/-- Refills for something that is looked for in the buffered bytes: it is found, or it is
not in the window, and then the window is full or the stream ends in it. -/
theorem Brings.refillUntil_cases (brings : b.Brings fin stream) (patient : b.Patient timeout)
    (found : Bytes → Bool) (start : Instant) :
    (∃ next rest, refillUntil (fun s => found s.data) b (timeout.deadline start) = (.ok (), next) ∧
        found next.storage.data = true ∧ next.storage.data ++ rest = b.storage.data ++ stream ∧
        next.storage.capacity = b.storage.capacity ∧ next.Brings fin rest ∧
        next.Patient timeout) ∨
      ∃ next, refillUntil (fun s => found s.data) b (timeout.deadline start) =
          (.error (windowFailure b.storage.capacity fin.failure (b.storage.data ++ stream)), next) ∧
        found next.storage.data = false ∧
        next.storage.data = (b.storage.data ++ stream).take b.storage.capacity := by
  generalize limit : timeout.deadline start = deadline
  generalize goal : (fun s : Storage => found s.data) = search
  fun_induction refillUntil search b deadline generalizing stream with
  | case1 b met =>
    subst goal
    exact .inl ⟨b, stream, rfl, met, rfl, rfl, brings, patient⟩
  | case2 b unmet count next call ih =>
    subst goal limit
    obtain ⟨same, later⟩ := brings.fillBy_of_patient patient start
    rw [same] at call
    rw [call] at later
    obtain ⟨data, capacity, -, -⟩ := fillBy_incoming call
    rcases brings.fillBy_cases call with ⟨wrong, -⟩ | ⟨wrong, -⟩ | ⟨_, rest, -, taken, brings'⟩
    · cases wrong
    · cases wrong
    · -- the refill moves bytes from the stream to the buffer, and the window stays
      have whole : next.storage.data ++ rest = b.storage.data ++ stream := by
        rw [data, List.append_assoc, taken]
      rw [← whole, ← capacity]
      exact ih brings' later
  | case3 b unmet failure next call =>
    subst goal limit
    rw [(brings.fillBy_of_patient patient start).1] at call
    obtain ⟨reason, same, window⟩ := brings.window_of_fillBy call
    refine .inr ⟨next, by rw [reason], ?_, same.trans window⟩
    rw [same]
    simpa using unmet
  | case4 b unmet next call =>
    subst limit
    rw [(brings.fillBy_of_patient patient start).1] at call
    rcases brings.fillBy_cases call with ⟨wrong, -⟩ | ⟨wrong, -⟩ | ⟨_, _, wrong, -⟩
    all_goals cases wrong

/-! ### One record after the other -/

/-- What a reader has got who takes records until a call does not succeed. -/
structure RecordRun where
  records : List Bytes := []
  reply : Reply SocketError Bytes
  buffer : StreamBuffer

/-- The same, behind an earlier record. -/
def RecordRun.after (run : RecordRun) (record : Bytes) : RecordRun :=
  { run with records := record :: run.records }

/-- Refills that succeed have met their goal. -/
theorem goal_of_refillUntil {goal : Storage → Bool} {next : StreamBuffer} {deadline : Deadline}
    (call : b.refillUntil goal deadline = (.ok (), next)) : goal next.storage = true := by
  fun_induction refillUntil goal b deadline with
  | case1 b met =>
    cases call
    exact met
  | case2 b unmet count middle _ ih => exact ih call
  | case3 => cases call
  | case4 => cases call

/-- The record is what stands in front of the first delimiter, and that. -/
theorem readUntil_of_found {next : StreamBuffer} {position : Nat}
    (call : b.refillUntil (fun s => (s.find delimiter).isSome)
      (timeout.deadline b.endpoint.now) = (.ok (), next))
    (found : next.storage.find delimiter = some position) :
    position < next.storage.data.length ∧
      b.readUntil delimiter timeout =
        (.ok (next.storage.data.take (position + 1)),
          { next with storage := next.storage.shift (position + 1) }) := by
  have inside : position < next.storage.data.length :=
    (List.findIdx?_eq_some_iff_getElem.mp found).1
  have enough : position + 1 ≤ next.storage.filled := by
    rw [Storage.length_data] at inside
    exact inside
  refine ⟨inside, ?_⟩
  rw [readUntil, takeWhen, call]
  simp only [recordLength, found, pop]
  rw [Storage.pop_of_le enough]
  rfl

/-- A record is never empty. -/
theorem readUntil_ne_nil {next : StreamBuffer} {record : Bytes}
    (call : b.readUntil delimiter timeout = (.ok record, next)) : record ≠ [] := by
  cases refilled : b.refillUntil (fun s => (s.find delimiter).isSome)
      (timeout.deadline b.endpoint.now) with
  | mk reply middle =>
    cases reply with
    | ok _ =>
      obtain ⟨position, found⟩ := Option.isSome_iff_exists.mp (goal_of_refillUntil refilled)
      obtain ⟨inside, read⟩ := readUntil_of_found refilled found
      rw [read] at call
      cases call
      rw [← List.length_pos_iff, List.length_take]
      omega
    | error failure =>
      rw [readUntil, takeWhen, refilled] at call
      cases call
    | waiting =>
      rw [readUntil, takeWhen, refilled] at call
      cases call

/-- Takes one record after the other, each with this time budget, until a call does not
succeed. -/
def readRecords (b : StreamBuffer) (delimiter : UInt8) (timeout : Timeout) : RecordRun :=
  match _call : b.readUntil delimiter timeout with
  | (.ok record, next) => (next.readRecords delimiter timeout).after record
  | (.error failure, next) => { reply := .error failure, buffer := next }
  | (.waiting, next) => { reply := .waiting, buffer := next }
termination_by b.storage.data.length + b.endpoint.arrivals.length
decreasing_by
  have moved := b.handsOut_readUntil delimiter timeout
  rw [_call] at moved
  obtain ⟨brought, stream, moved⟩ := moved.balance
  have := List.length_pos_iff.mpr (readUntil_ne_nil _call)
  have := congrArg List.length stream
  have := congrArg List.length moved
  simp only [Reply.handed, List.length_append] at *
  omega

/-- A call of a patient caller takes what stands in front of the first delimiter of the
window, or fails with the whole window buffered. -/
theorem Brings.readUntil_cases (brings : b.Brings fin stream) (patient : b.Patient timeout)
    (delimiter : UInt8) :
    (∃ position next rest,
        ((b.storage.data ++ stream).take b.storage.capacity).findIdx? (· = delimiter) =
          some position ∧
        b.readUntil delimiter timeout =
          (.ok ((b.storage.data ++ stream).take (position + 1)), next) ∧
        next.storage.data ++ rest = (b.storage.data ++ stream).drop (position + 1) ∧
        next.storage.capacity = b.storage.capacity ∧ next.Brings fin rest ∧
        next.Patient timeout) ∨
      ∃ next,
        ((b.storage.data ++ stream).take b.storage.capacity).findIdx? (· = delimiter) = none ∧
        b.readUntil delimiter timeout =
          (.error (windowFailure b.storage.capacity fin.failure (b.storage.data ++ stream)), next) ∧
        next.storage.data = (b.storage.data ++ stream).take b.storage.capacity := by
  rcases brings.refillUntil_cases patient (fun data => (data.findIdx? (· = delimiter)).isSome)
      b.endpoint.now with
    ⟨next, rest, call, found, whole, capacity, brings', later⟩ | ⟨next, call, missing, window⟩
  · obtain ⟨position, found⟩ := Option.isSome_iff_exists.mp found
    obtain ⟨inside, read⟩ := readUntil_of_found call found
    have fits : next.storage.data.length ≤ b.storage.capacity := by
      rw [← capacity, Storage.length_data]
      exact next.storage.filled_le
    refine .inl ⟨position, { next with storage := next.storage.shift (position + 1) }, rest,
      ?_, ?_, ?_, ?_, ?_, later⟩
    · -- what is buffered is the front of the window
      rw [← whole, List.take_append, List.take_of_length_le fits, List.findIdx?_append, found]
      rfl
    · rw [← whole, List.take_append_of_le_length inside]
      exact read
    · dsimp only
      rw [← whole, List.drop_append_of_le_length inside, Storage.data_shift]
    · exact (Storage.capacity_shift ..).trans capacity
    · exact ⟨brings'.down, brings'.carries⟩
  · refine .inr ⟨next, ?_, ?_, window⟩
    · rw [← window]
      simpa using missing
    · rw [readUntil, takeWhen]
      rw [show b.refillUntil (fun s => (s.find delimiter).isSome)
        (timeout.deadline b.endpoint.now) = _ from call]

/-- **What a reader gets.** A patient reader gets the records of what is buffered and what
is still to come; then a call fails, with the window behind them left in the buffer. -/
theorem Brings.readRecords_eq (brings : b.Brings fin stream) (patient : b.Patient timeout)
    (delimiter : UInt8) :
    (b.readRecords delimiter timeout).records =
        records delimiter b.storage.capacity (b.storage.data ++ stream) ∧
      (b.readRecords delimiter timeout).reply =
        .error (windowFailure b.storage.capacity fin.failure
          (behindRecords delimiter b.storage.capacity (b.storage.data ++ stream))) ∧
      (b.readRecords delimiter timeout).buffer.storage.data =
        (behindRecords delimiter b.storage.capacity (b.storage.data ++ stream)).take
          b.storage.capacity := by
  fun_induction readRecords b delimiter timeout generalizing stream with
  | case1 b record next call ih =>
    rcases brings.readUntil_cases patient delimiter with
      ⟨position, _, rest, found, read, whole, capacity, brings', later⟩ | ⟨_, -, read, -⟩
    · rw [read] at call
      cases call
      obtain ⟨first, behind⟩ := records_of_found found
      obtain ⟨others, reply, leftover⟩ := ih brings' later
      rw [whole, capacity] at others reply leftover
      rw [first, behind]
      exact ⟨congrArg (_ :: ·) others, reply, leftover⟩
    · rw [read] at call
      cases call
  | case2 b failure next call =>
    rcases brings.readUntil_cases patient delimiter with
      ⟨_, _, _, -, read, -⟩ | ⟨_, missing, read, leftover⟩
    · rw [read] at call
      cases call
    · rw [read] at call
      cases call
      obtain ⟨none, behind⟩ := records_of_missing missing
      rw [none, behind]
      exact ⟨rfl, rfl, leftover⟩
  | case3 b next call =>
    rcases brings.readUntil_cases patient delimiter with ⟨_, _, _, -, read, -⟩ | ⟨_, -, read, -⟩
    all_goals
      rw [read] at call
      cases call

end StreamBuffer

end SocketDemux
