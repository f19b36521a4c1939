import SocketDemux.Proofs.Endpoint.Wire
import SocketDemux.Proofs.Endpoint.Writing
/-!
# SocketDemux.Proofs.Endpoint.Reports

What the **stream interface** says of a write, and what has gone out.

Code that writes to any stream relies on two things: a call that succeeds with a count has sent
exactly so many bytes, and a call that fails has sent none. The first is always true here. The
second is true of a call whose attempts are used up with nothing accepted; but a call that is
cancelled, or that finds the transport broken, fails whatever its attempts before that have sent,
and its error does not say how much that was.

* `Promised`, `Endpoint.KeepsContract` — the two things, said of the wire.
* `WriteStop.report`, `exists_first_report` — what a call says, depending on what ends its write.
* `keepsContract_iff` — a call keeps the contract unless it is cancelled or fails behind an answer
  that accepts something.
* `keepsContract_of_one_attempt`, `exists_broken_contract` — so one attempt is always safe, and
  no greater number is.
* `reported_exactly_iff` — all that a call says, and when it is the truth.
-/

namespace SocketDemux

/-- Does it end a write without a word about what has gone out? -/
def WriteStop.silent : WriteStop → Bool
  | cancelled | broken _ => true
  | _ => false

/-- What the stream interface says about a write of so many bytes that ends like this, when the
answers before that accept `accepted` of them. -/
def WriteStop.report (size accepted : Nat) : WriteStop → Except IoError Nat
  | finished | drained => .ok size
  | spent => if accepted = 0 then .error (SocketError.partialWrite 0).toIo else .ok accepted
  | cancelled => .error SocketError.terminationRequested.toIo
  | broken e => .error (SocketError.failed .write e).toIo

/-- What a stream promises of a call that writes some of its data: a count means that exactly so
many bytes have gone out, and at least one; an error means that none has. -/
def Promised (data before after : Bytes) : Except IoError Nat → Prop
  | .ok count => 1 ≤ count ∧ count ≤ data.length ∧ after = before ++ data.take count
  | .error _ => after = before

instance (data before after : Bytes) : DecidablePred (Promised data before after)
  | .ok count => inferInstanceAs (Decidable (1 ≤ count ∧ count ≤ data.length ∧ _))
  | .error _ => inferInstanceAs (Decidable (after = before))

namespace WriteScript

variable {s : WriteScript} {attempts index : Nat} {data : Bytes} {stop : WriteStop}

/-- A silent stop is met while there are attempts left. -/
theorem used_lt_of_silent (happens : stop.Happens s data.length attempts index)
    (silent : stop.silent = true) : s.used index < attempts := by
  cases stop with
  | cancelled => exact happens.2.1
  | broken e => exact happens.1.2.1
  | finished | spent | drained => cases silent

/-- Something left is more than what has been accepted. -/
theorem out_of_lt (stop : WriteStop) (more : s.accepted index < data.length)
    (asked : stop ≠ .drained) :
    stop.out data.length (s.accepted index) = s.accepted index := by
  cases stop with
  | drained => exact absurd rfl asked
  | _ => exact Nat.min_eq_left (Nat.le_of_lt more)

/-- The promise is kept unless something has gone out before a silent stop. -/
theorem promised_iff (some : data ≠ []) (happens : stop.Happens s data.length attempts index)
    (before : Bytes) :
    Promised data before (before ++ data.take (stop.out data.length (s.accepted index)))
        (stop.report data.length (s.accepted index)) ↔
      (stop.silent = true → s.accepted index = 0) := by
  have one : 1 ≤ data.length := List.length_pos_iff.mpr some
  have nothing : before ++ data.take (s.accepted index) = before ↔ s.accepted index = 0 := by
    rw [List.append_right_eq_self, List.take_eq_nil_iff, or_iff_left some]
  cases stop with
  | finished =>
    have everything : WriteStop.finished.out data.length (s.accepted index) = data.length :=
      Nat.min_eq_right happens
    rw [everything]
    exact iff_of_true ⟨one, Nat.le_refl _, rfl⟩ Bool.noConfusion
  | drained => exact iff_of_true ⟨one, Nat.le_refl _, rfl⟩ Bool.noConfusion
  | spent =>
    rw [out_of_lt .spent happens.1 nofun, WriteStop.report]
    refine iff_of_true ?_ Bool.noConfusion
    split
    · next none => exact nothing.mpr none
    · next moved => exact ⟨Nat.pos_of_ne_zero moved, Nat.le_of_lt happens.1, rfl⟩
  | cancelled =>
    rw [out_of_lt .cancelled happens.1 nofun]
    exact ⟨fun kept _ => nothing.mp kept, fun quiet => nothing.mpr (quiet rfl)⟩
  | broken e =>
    rw [out_of_lt (.broken e) happens.1.1 nofun]
    exact ⟨fun kept _ => nothing.mp kept, fun quiet => nothing.mpr (quiet rfl)⟩

/-- A count is not silence. -/
theorem not_silent_of_report {size accepted count : Nat}
    (counted : stop.report size accepted = .ok count) : ¬stop.silent = true := by
  cases stop with
  | cancelled | broken e => cases counted
  | finished | spent | drained => exact Bool.noConfusion

/-- A call that fails has not sent everything. -/
theorem lt_of_report {accepted : Nat} {error : IoError}
    (happens : stop.Happens s data.length attempts index)
    (failed : stop.report data.length accepted = .error error) :
    s.accepted index < data.length ∧ stop ≠ .drained := by
  cases stop with
  | finished | drained => cases failed
  | spent => exact ⟨happens.1, nofun⟩
  | cancelled => exact ⟨happens.1, nofun⟩
  | broken e => exact ⟨happens.1.1, nofun⟩

/-- What is accepted costs attempts. -/
theorem accepted_eq_zero_of_used (none : s.used index = 0) : s.accepted index = 0 := by
  unfold used at none
  unfold accepted
  generalize s.plan.take index = before at none ⊢
  induction before with
  | nil => rfl
  | cons event rest ih =>
    rw [List.countP_cons] at none
    obtain ⟨later, free⟩ := Nat.add_eq_zero_iff.mp none
    rw [List.foldr_cons, ih later]
    cases answer : event.reply with
    | accept limit => simp [answer, WriteReply.interrupted] at free
    | failed e => rfl

end WriteScript

namespace Endpoint

/-- The call keeps the promise. -/
def KeepsContract (e : Endpoint) (data : Bytes) : Prop :=
  Promised data e.wire (e.writeSome data).2.wire (e.writeSome data).1

instance (e : Endpoint) (data : Bytes) : Decidable (e.KeepsContract data) :=
  inferInstanceAs (Decidable (Promised ..))

variable {e : Endpoint} {data : Bytes}

/-- A call says what its first stop says, and puts on the wire what the answers before that have
accepted. -/
theorem exists_first_report (e : Endpoint) (data : Bytes) :
    ∃ index stop, e.writeScript.First data.length e.options.writeAttempts index stop ∧
      (e.writeSome data).1 = stop.report data.length (e.writeScript.accepted index) ∧
      (e.writeSome data).2.wire =
        e.wire ++ data.take (stop.out data.length (e.writeScript.accepted index)) := by
  obtain ⟨index, stop, ends⟩ := e.exists_first_write data e.options.writeAttempts
  refine ⟨index, stop, ends.first, ?_, congrArg (e.wire ++ ·) ends.sent⟩
  have reply : (e.write data e.options.writeAttempts).reply =
      stop.reply (stop.out data.length (e.writeScript.accepted index)) :=
    ends.reply.trans (by rw [Nat.zero_add])
  have happens := WriteScript.stop?_eq_some_iff.mp ends.first.found
  unfold writeSome
  dsimp only
  rw [reply]
  cases stop with
  | finished => rfl
  | drained => rfl
  | cancelled => rfl
  | broken error => rfl
  | spent =>
    rw [WriteScript.out_of_lt .spent happens.1 nofun]
    cases accepted : e.writeScript.accepted index with
    | zero => rfl
    | succ written => rfl

/-- A call keeps the contract unless it is cancelled or fails behind an answer that accepts
something. -/
theorem keepsContract_iff (some : data ≠ []) :
    e.KeepsContract data ↔ ∀ index stop,
      e.writeScript.First data.length e.options.writeAttempts index stop →
      stop.silent = true → e.writeScript.accepted index = 0 := by
  obtain ⟨index, stop, first, said, sent⟩ := e.exists_first_report data
  have kept := WriteScript.promised_iff some (WriteScript.stop?_eq_some_iff.mp first.found) e.wire
  unfold KeepsContract
  rw [said, sent, kept]
  constructor
  · intro quiet other others same
    obtain ⟨rfl, rfl⟩ := first.eq same
    exact quiet
  · intro all
    exact all index stop first

/-- With a single attempt, nothing comes behind an answer that accepts something. -/
theorem keepsContract_of_one_attempt (some : data ≠ []) (one : e.options.writeAttempts = 1) :
    e.KeepsContract data := by
  refine (keepsContract_iff some).mpr ?_
  intro index stop first silent
  have happens := WriteScript.stop?_eq_some_iff.mp first.found
  have left := WriteScript.used_lt_of_silent happens silent
  rw [one] at left
  exact WriteScript.accepted_eq_zero_of_used (Nat.lt_one_iff.mp left)

/-- A transport that accepts one byte, and then finds that nobody reads. -/
def torn (options : EndpointOptions) : Endpoint where
  outbound := { plan := [⟨.accept 1, false⟩, ⟨.failed brokenPipe, false⟩] }
  options := options

/-- A transport that accepts one byte while somebody cancels. -/
def cutShort : Endpoint where
  outbound := { plan := [⟨.accept 1, true⟩] }

/-- With more attempts than one there is a transport for which a call breaks the contract,
whatever it is to write, unless it is no more than a byte. -/
theorem exists_broken_contract (options : EndpointOptions) (more : 1 < options.writeAttempts)
    (long : 1 < data.length) : ∃ e : Endpoint, e.options = options ∧ ¬e.KeepsContract data := by
  refine ⟨torn options, rfl, ?_⟩
  have some : data ≠ [] := List.ne_nil_of_length_pos (Nat.zero_lt_of_lt long)
  have at0 : (torn options).writeScript.Asks data.length options.writeAttempts 0 :=
    ⟨Nat.zero_lt_of_lt long, Nat.zero_lt_of_lt more, .inr rfl⟩
  have at1 : (torn options).writeScript.Asks data.length options.writeAttempts 1 :=
    ⟨long, more, .inr rfl⟩
  have first : (torn options).writeScript.First data.length options.writeAttempts 1
      (.broken brokenPipe) := by
    refine ⟨WriteScript.stop?_eq_some_iff.mpr ⟨at1, rfl, WriteScript.brokenPipe_hard⟩, ?_⟩
    intro earlier before
    obtain rfl := Nat.lt_one_iff.mp before
    exact WriteScript.stop?_of_accept rfl at0 rfl
  intro kept
  exact absurd ((keepsContract_iff some).mp kept 1 _ first rfl) Nat.one_ne_zero

/-- One byte is out, and then the transport fails, or somebody cancels: both calls fail, and
neither says so. -/
theorem first_byte_unreported :
    ((torn default).writeSome [0x61, 0x62]).1 = .error brokenPipe ∧
      ((torn default).writeSome [0x61, 0x62]).2.wire = [0x61] ∧
      ¬(torn default).KeepsContract [0x61, 0x62] ∧
      (cutShort.writeSome [0x61, 0x62]).1 = .error SocketError.terminationRequested.toIo ∧
      (cutShort.writeSome [0x61, 0x62]).2.wire = [0x61] ∧
      ¬cutShort.KeepsContract [0x61, 0x62] :=
  ⟨rfl, rfl, by decide, rfl, rfl, by decide⟩

/-- **What a write reports.** Take an endpoint with any number of attempts in its options, any
answers of the transport to come, and some data. A call of the stream interface that succeeds has
sent exactly as many bytes as it says, one at least. One that fails has sent what the answers
before its first stop have accepted, which is not everything; and none of it, as it should, unless
that stop is a cancellation or a failure of the transport and something was accepted before. -/
theorem reported_exactly_iff (e : Endpoint) (data : Bytes) (some : data ≠ []) :
    (∀ count, (e.writeSome data).1 = .ok count →
        1 ≤ count ∧ count ≤ data.length ∧
          (e.writeSome data).2.wire = e.wire ++ data.take count) ∧
      (∀ error, (e.writeSome data).1 = .error error → ∃ index stop,
        e.writeScript.First data.length e.options.writeAttempts index stop ∧
          .error error = stop.report data.length (e.writeScript.accepted index) ∧
          e.writeScript.accepted index < data.length ∧
          (e.writeSome data).2.wire = e.wire ++ data.take (e.writeScript.accepted index)) ∧
      (e.KeepsContract data ↔ ∀ index stop,
        e.writeScript.First data.length e.options.writeAttempts index stop →
        stop.silent = true → e.writeScript.accepted index = 0) := by
  obtain ⟨index, stop, first, said, sent⟩ := e.exists_first_report data
  have happens := WriteScript.stop?_eq_some_iff.mp first.found
  refine ⟨?_, ?_, keepsContract_iff some⟩
  · intro count counted
    rw [said] at counted
    have kept := (WriteScript.promised_iff some happens e.wire).mpr
      fun silent => absurd silent (WriteScript.not_silent_of_report counted)
    rw [counted, ← sent] at kept
    exact kept
  · intro error failed
    rw [said] at failed
    obtain ⟨more, asked⟩ := WriteScript.lt_of_report happens failed
    rw [WriteScript.out_of_lt stop more asked] at sent
    exact ⟨index, stop, first, failed.symm, more, sent⟩

/-- The transport that fails behind its first byte: with two attempts the call fails, behind an
answer that accepts a byte; with one it says that a byte is out. -/
theorem torn_reported :
    ([0x61, 0x62] : Bytes) ≠ [] ∧
      (∃ index stop, (torn default).writeScript.First 2 2 index stop ∧
        .error brokenPipe = stop.report 2 ((torn default).writeScript.accepted index) ∧
        (torn default).writeScript.accepted index < 2 ∧
        ((torn default).writeSome [0x61, 0x62]).2.wire =
          [0x61, 0x62].take ((torn default).writeScript.accepted index)) ∧
      (let single := torn (EndpointOptions.setWriteAttempts default 1)
      (single.writeSome [0x61, 0x62]).1 = .ok 1 ∧ 1 ≤ 1 ∧ 1 ≤ 2 ∧
        (single.writeSome [0x61, 0x62]).2.wire = [0x61]) := by
  have some : ([0x61, 0x62] : Bytes) ≠ [] := by decide
  refine ⟨some, ?_, rfl, ?_⟩
  · exact (reported_exactly_iff (torn default) _ some).2.1 brokenPipe rfl
  · exact (reported_exactly_iff (torn (EndpointOptions.setWriteAttempts default 1)) _ some).1 1 rfl

end Endpoint

end SocketDemux
