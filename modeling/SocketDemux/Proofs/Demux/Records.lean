import SocketDemux.Proofs.Buffer.Records
import SocketDemux.Proofs.Demux.Chunking
/-!
# SocketDemux.Proofs.Demux.Records

**Two ways to records**: a demultiplexer with one delimiter, and a reader who takes one
record after the other from a buffer.

The worker of the demultiplexer refills first and then cuts all it can; the reader
searches first and refills when there is nothing. They meet in what either makes of the
whole stream: `frame` for the worker and `records` for the reader, which are the same for
one delimiter (`frame_delimiter`), down to what is left over and to the failure.
-/

namespace SocketDemux

/-- A delimiter is asked alone: the first turn is its own. -/
theorem firstTurn?_delimiter (delimiter : UInt8) (data : Bytes) :
    firstTurn? [Delimiter.mk delimiter] data =
      (data.findIdx? (· = delimiter)).map fun position =>
        (0, .ok ⟨position + 1, true, Nat.succ_pos position⟩) := by
  rw [firstTurn?, Delimiter.turn?_eq]
  cases data.findIdx? (· = delimiter) with
  | none => rfl
  | some position => rfl

/-- **One delimiter frames a stream into its records.** -/
theorem frame_delimiter (delimiter : UInt8) (capacity : Nat) (fault : SocketError)
    (stream : Bytes) :
    cutsAmong (frame [Delimiter.mk delimiter] capacity fault stream).removals 0 =
        records delimiter capacity stream ∧
      (frame [Delimiter.mk delimiter] capacity fault stream).leftover =
        (behindRecords delimiter capacity stream).take capacity ∧
      (frame [Delimiter.mk delimiter] capacity fault stream).failure =
        windowFailure capacity fault (behindRecords delimiter capacity stream) := by
  fun_induction frame [Delimiter.mk delimiter] capacity fault stream with
  | case1 stream empty =>
    have missing : (stream.take capacity).findIdx? (· = delimiter) = none := by
      rw [empty]
      rfl
    obtain ⟨none, behind⟩ := records_of_missing missing
    rw [none, behind]
    exact ⟨rfl, rfl, rfl⟩
  | case2 stream present index span first ih =>
    rw [firstTurn?_delimiter, Option.map_eq_some_iff] at first
    obtain ⟨position, found, same⟩ := first
    cases same
    obtain ⟨cut, behind⟩ := records_of_found found
    obtain ⟨cuts, leftover, failure⟩ := ih
    rw [cut, behind, ← cuts]
    exact ⟨rfl, leftover, failure⟩
  | case3 stream present declined =>
    have missing : (stream.take capacity).findIdx? (· = delimiter) = none := by
      cases found : (stream.take capacity).findIdx? (· = delimiter) with
      | none => rfl
      | some position =>
        refine absurd ?_ (declined 0 ⟨position + 1, true, Nat.succ_pos position⟩)
        rw [firstTurn?_delimiter, found]
        rfl
    obtain ⟨none, behind⟩ := records_of_missing missing
    rw [none, behind]
    exact ⟨rfl, rfl, rfl⟩

/-- **Two ways to records.** A demultiplexer whose only condition is a delimiter, and a
reader who takes one record after the other, have buffers of the same capacity, empty at
the start, and transports that bring the same stream and its end in whatever reads. If
nobody stops the demultiplexer, and the reader is patient, both get the same records: the
pieces of the stream, cut behind every delimiter, that stand in front of the first one
without a delimiter among its first `capacity` bytes. Both then fail in the same way,
because the window behind the records is full or because the stream ends in it, and both
leave that window in the buffer. -/
theorem demultiplexer_and_reader_agree {delimiter : UInt8} {worker reader : StreamBuffer}
    {fin : StreamEnd} {stream : Bytes} (brings₁ : worker.Brings fin stream)
    (brings₂ : reader.Brings fin stream) (empty₁ : worker.storage.data = [])
    (empty₂ : reader.storage.data = [])
    (capacity : worker.storage.capacity = reader.storage.capacity) {timeout : Timeout}
    (patient : reader.Patient timeout) {readers : List Reader} {actions : List (Action Delimiter)}
    (quiet : ∀ action ∈ actions, action.Quiet) {s : System Delimiter} {h : History}
    (ran : (System.mk (Demux.launch worker [Delimiter.mk delimiter]) [] readers).trace {} actions =
      some (s, h)) :
    (h.givenTo ⟨0⟩ ++ s.demux.settle.queues.queued ⟨0⟩ =
        records delimiter reader.storage.capacity stream ∧
      (reader.readRecords delimiter timeout).records =
        records delimiter reader.storage.capacity stream) ∧
    (∃ failure, failure = windowFailure reader.storage.capacity fin.failure
          (behindRecords delimiter reader.storage.capacity stream) ∧
        s.demux.settle.workerEnd? = some (.failed failure) ∧
        s.demux.settle.queues.terminal = some failure.copy ∧
        (reader.readRecords delimiter timeout).reply = .error failure) ∧
    s.demux.settle.buffer.storage.data =
        (behindRecords delimiter reader.storage.capacity stream).take reader.storage.capacity ∧
      (reader.readRecords delimiter timeout).buffer.storage.data =
        (behindRecords delimiter reader.storage.capacity stream).take reader.storage.capacity := by
  obtain ⟨ended, terminal, leftover, delivered⟩ :=
    settle_eq_frame (Delimiter.prefixStable ⟨delimiter⟩) brings₁ empty₁ quiet ran
  obtain ⟨cuts, window, failure⟩ :=
    frame_delimiter delimiter worker.storage.capacity fin.failure stream
  obtain ⟨taken, reply, left⟩ := brings₂.readRecords_eq patient delimiter
  rw [empty₂, List.nil_append] at taken reply left
  rw [capacity] at ended terminal leftover delivered cuts window failure
  rw [failure] at ended terminal
  refine ⟨⟨?_, taken⟩, ⟨_, rfl, ended, terminal, reply⟩, leftover.trans window, left⟩
  rw [delivered ⟨0⟩]
  exact cuts

/-- The lines of one stream come out the same at a demultiplexer that gets them in pieces
and at a reader who gets them at once and whose calls never have to wait; the front of
the third line is left over in both buffers. -/
theorem lines_read_as_demultiplexed :
    ∃ s h,
      (System.mk (Demux.launch linesInPieces [Delimiter.mk 10]) [] []).trace {}
        [.work, .callRead ⟨0⟩ .blocking, .work, .work, .work, .work, .work, .goOnRead 0,
          .goOnRead 0] = some (s, h) ∧
      h.givenTo ⟨0⟩ ++ s.demux.settle.queues.queued ⟨0⟩ = [[97, 10], [98, 10]] ∧
      (linesAtOnce.readRecords 10 (some .zero)).records = [[97, 10], [98, 10]] ∧
      s.demux.settle.workerEnd? = some (.failed .closed) ∧
      (linesAtOnce.readRecords 10 (some .zero)).reply = .error .closed ∧
      s.demux.settle.buffer.storage.data = [99] ∧
      (linesAtOnce.readRecords 10 (some .zero)).buffer.storage.data = [99] := by
  have possible : ((System.mk (Demux.launch linesInPieces [Delimiter.mk 10]) [] []).trace {}
      [.work, .callRead ⟨0⟩ .blocking, .work, .work, .work, .work, .work, .goOnRead 0,
        .goOnRead 0]).isSome = true := by decide
  obtain ⟨⟨s, h⟩, ran⟩ := Option.isSome_iff_exists.mp possible
  have quiet : ∀ action ∈ ([.work, .callRead ⟨0⟩ .blocking, .work, .work, .work, .work, .work,
      .goOnRead 0, .goOnRead 0] : List (Action Delimiter)), action.Quiet := by decide
  have patient : linesAtOnce.Patient (some .zero) := by
    refine .inr ?_
    intro event mem error failed
    cases List.mem_singleton.mp mem
    cases failed
  obtain ⟨⟨delivered, taken⟩, ⟨failure, reason, ended, -, reply⟩, leftover, left⟩ :=
    demultiplexer_and_reader_agree linesInPieces_brings linesAtOnce_brings (by decide)
      (by decide) (by decide) patient quiet ran
  exact ⟨s, h, ran, delivered, taken, by rw [ended, reason]; rfl, by rw [reply, reason]; rfl,
    leftover, left⟩

end SocketDemux
