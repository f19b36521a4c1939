import SocketDemux.Proofs.Cancellation.Datagram
import SocketDemux.Proofs.Cancellation.Network
import SocketDemux.Proofs.Cancellation.Stream
/-!
# SocketDemux.Proofs.Cancellation.Obedience

**All sockets obey their cancellers.**

* `Endpoint.Obeys`, `Listener.Obeys`, `Datagram.Obeys`, `Network.Obeys` — what cancellation means
  for the calls of the program: each of them is a run of the shared socket; on a cancelled socket
  it fails with the failure of cancellation, and neither takes nor sends anything; on no other
  socket does it fail like that.
* `cancellation_obeyed` — it is so for every socket, and every kind of socket can be cancelled
  while threads share it.
-/

namespace SocketDemux

/-! ### What a canceller may rely on -/

/-- What cancellation means for the calls on an endpoint. -/
structure Endpoint.Obeys (e : Endpoint) : Prop where
  /-- A read is a run of the shared endpoint, and has taken what it reports. -/
  reads : ∀ target need timeout, ∃ frame,
    SocketKind.endpoint.Performs e (.read target need timeout)
        (e.read target need timeout).endpoint frame
        ((e.read target need timeout).reply.map fun _ => ()) ∧
      frame.taken = (e.read target need timeout).taken
  writes : ∀ data attempts, ∃ frame, SocketKind.endpoint.Performs e (.write data attempts)
    (e.write data attempts).endpoint frame (.ofExcept (e.write data attempts).reply)
  read_refused : e.flag.raised = true → ∀ target need timeout, 1 ≤ need → need ≤ target.length →
    e.read target need timeout = ⟨.error .terminationRequested, target, [], [], e⟩
  write_refused : e.flag.raised = true → ∀ data attempts, data ≠ [] → 1 ≤ attempts →
    e.write data attempts = ⟨.error .terminationRequested, [], [], e⟩
  readSome_refused : e.flag.raised = true → ∀ room, room ≠ 0 →
    e.readSome room = (.error cancelled, e)
  writeSome_refused : e.flag.raised = true → ∀ data, data ≠ [] →
    e.writeSome data = (.error cancelled, e)
  readFull_refused : e.flag.raised = true → ∀ count, count ≠ 0 →
    e.readFull count = ⟨.error cancelled, [], e⟩
  writeFull_refused : e.flag.raised = true → ∀ data, data ≠ [] →
    e.writeFull data = (.error cancelled, e)
  readToEnd_refused : e.flag.raised = true → ∀ {ρ : Type} (policy : RoomPolicy ρ) (state : ρ),
    e.readToEnd policy state = ⟨.error cancelled, [], e⟩
  /-- A reader that waits when the endpoint is cancelled is told so. -/
  read_across : ∀ target need, (e.read target need none).reply = .waiting →
    (e.readAcrossCancellation target need).1.reply = .error .terminationRequested
  read_asked : ∀ target need timeout,
    (e.read target need timeout).reply = .error .terminationRequested →
    (e.read target need timeout).endpoint.flag.raised = true
  write_asked : ∀ data attempts, (e.write data attempts).reply = .error .terminationRequested →
    (e.write data attempts).endpoint.flag.raised = true
  readSome_asked : ∀ room next, e.readSome room = (.error cancelled, next) → e.Explains next
  writeSome_asked : ∀ data next, e.writeSome data = (.error cancelled, next) → e.Explains next
  readFull_asked : ∀ count, (e.readFull count).reply = .error cancelled →
    e.Explains (e.readFull count).endpoint
  writeFull_asked : ∀ data, (e.writeFull data).1 = .error cancelled →
    e.Explains (e.writeFull data).2
  readToEnd_asked : ∀ {ρ : Type} (policy : RoomPolicy ρ) (state : ρ),
    (e.readToEnd policy state).reply = .error cancelled →
    e.Explains (e.readToEnd policy state).endpoint

/-- What cancellation means for the calls on a listener. -/
structure Listener.Obeys {γ : Type} (l : Listener γ) : Prop where
  /-- A call is a run of the shared listener, and has taken the connection that it reports. -/
  accepts : ∀ session timeout, ∃ frame, (SocketKind.listener γ).Performs l ⟨session, timeout⟩
      (l.accept session timeout).listener frame
      ((l.accept session timeout).reply.map fun _ => ()) ∧
    frame.taken = (l.accept session timeout).taken
  accept_refused : l.flag.raised = true → ∀ session timeout,
    l.accept session timeout = { reply := .error .terminationRequested, listener := l }
  accept_asked : ∀ session timeout,
    (l.accept session timeout).reply = .error .terminationRequested →
    (l.accept session timeout).listener.flag.raised = true

/-- What cancellation means for the calls on a datagram socket. -/
structure Datagram.Obeys (s : Datagram) : Prop where
  /-- A read is a run of the shared socket, and has got the datagram that it hands over. -/
  reads : ∀ timeout, ∃ frame, SocketKind.datagram.Performs s (.read timeout) (s.read timeout).2
      frame ((s.read timeout).1.map fun _ => ()) ∧
    ∀ packet, (s.read timeout).1 = .ok packet ↔ frame.got = some packet
  writes : ∀ data, ∃ frame, SocketKind.datagram.Performs s (.write data) (s.write data).2 frame
    (.ofExcept (s.write data).1)
  read_refused : s.flag.raised = true → ∀ timeout,
    s.read timeout = (.error .terminationRequested, s)
  write_refused : s.flag.raised = true → ∀ data, s.write data = (.error .terminationRequested, s)
  /-- A reader that waits when the socket is cancelled is told so. -/
  read_across : (s.read none).1 = .waiting →
    s.readAcrossCancellation.1 = .error .terminationRequested
  read_asked : ∀ timeout, (s.read timeout).1 = .error .terminationRequested →
    (s.read timeout).2.flag.raised = true
  write_asked : ∀ data, (s.write data).1 = .error .terminationRequested →
    (s.write data).2.flag.raised = true

/-- What cancellation means in a network. -/
structure Network.Obeys (n : Network) : Prop where
  /-- Whoever waits for a connection when the listener is cancelled is told so. -/
  accept_across : ∀ number binding, (n.accept number binding none).1 = .waiting →
    (n.acceptAcrossCancellation number binding).1 = .error .terminationRequested
  /-- Only the listener's own flag makes its calls fail like that. -/
  accept_asked : ∀ number binding timeout, number < n.bindings.length →
    (n.accept number binding timeout).1 = .error .terminationRequested →
    ∃ after, (n.accept number binding timeout).2.binding? number = some after ∧
      after.listener.flag.raised = true
  /-- An endpoint that connects is nobody's to cancel yet. -/
  connect_unasked : ∀ number connection maker timeout,
    (n.finishConnect number connection maker timeout).1 ≠ .error .terminationRequested

/-! ### Readers that wait -/

/-- A read that waits asks for something that its target has room for. -/
theorem Endpoint.asks_of_waiting {e : Endpoint} {target : Bytes} {need : Nat} {timeout : Timeout}
    (waits : (e.read target need timeout).reply = .waiting) :
    1 ≤ need ∧ need ≤ target.length := by
  simp only [read, readBy] at waits
  split at waits
  · cases waits
  · next fits =>
    refine ⟨?_, Nat.not_lt.mp fits⟩
    cases need with
    | zero =>
      unfold readRun at waits
      cases waits
    | succ more => exact Nat.succ_pos more

theorem Endpoint.read_across {e : Endpoint} {target : Bytes} {need : Nat}
    (waits : (e.read target need none).reply = .waiting) :
    (e.readAcrossCancellation target need).1.reply = .error .terminationRequested := by
  obtain ⟨some, fits⟩ := asks_of_waiting waits
  unfold readAcrossCancellation
  simp only [waits, requestCancellation]
  rw [read_of_raised (CancelFlag.raised_raise e.flag) some fits]

theorem Datagram.read_across {s : Datagram} (waits : (s.read none).1 = .waiting) :
    s.readAcrossCancellation.1 = .error .terminationRequested := by
  unfold readAcrossCancellation
  simp only [waits, requestCancellation]
  rw [read_of_raised (CancelFlag.raised_raise s.flag)]

/-! ### Every socket -/

theorem Endpoint.obeys (e : Endpoint) : e.Obeys where
  reads := e.performs_read
  writes := e.performs_write
  read_refused raised _ _ timeout some fits := read_of_raised raised some fits timeout
  write_refused raised _ _ some left := write_of_raised raised some left
  readSome_refused raised _ some := readSome_of_raised raised some
  writeSome_refused raised _ some := writeSome_of_raised raised some
  readFull_refused raised _ some := readFull_of_raised raised some
  writeFull_refused raised _ some := writeFull_of_raised raised some
  readToEnd_refused raised _ policy state := readToEnd_of_raised raised policy state
  read_across _ _ := read_across
  read_asked _ _ _ := raised_of_read
  write_asked _ _ := raised_of_write
  readSome_asked _ _ := readSome_unasked
  writeSome_asked _ _ := writeSome_unasked
  readFull_asked _ := readFull_unasked
  writeFull_asked _ := writeFull_unasked
  readToEnd_asked _ _ := readToEnd_unasked

theorem Listener.obeys {γ : Type} (l : Listener γ) : l.Obeys where
  accepts := l.performs_accept
  accept_refused raised session timeout := l.accept_of_raised session timeout raised
  accept_asked := l.raised_of_accept

theorem Datagram.obeys (s : Datagram) : s.Obeys where
  reads := s.performs_read
  writes := s.performs_write
  read_refused raised timeout := read_of_raised raised timeout
  write_refused raised data := write_of_raised raised data
  read_across := read_across
  read_asked _ := raised_of_read
  write_asked _ := raised_of_write

theorem Network.obeys (n : Network) : n.Obeys where
  accept_across number _ := n.accept_across number
  accept_asked number _ _ placed := n.raised_of_accept number placed
  connect_unasked := n.finishConnect_unasked

/-- **Cancellation is one-shot, sticky and never spurious**: every kind of socket can be
cancelled while threads share it, and every socket obeys. -/
theorem cancellation_obeyed (γ : Type) :
    (SocketKind.endpoint.Cancellable ∧ (SocketKind.listener γ).Cancellable ∧
        SocketKind.datagram.Cancellable) ∧
      (∀ e : Endpoint, e.Obeys) ∧ (∀ l : Listener γ, l.Obeys) ∧ (∀ s : Datagram, s.Obeys) ∧
      ∀ n : Network, n.Obeys :=
  ⟨⟨SocketKind.endpoint.cancellable, (SocketKind.listener γ).cancellable,
      SocketKind.datagram.cancellable⟩,
    Endpoint.obeys, Listener.obeys, Datagram.obeys, Network.obeys⟩

/-- An endpoint where three bytes wait. -/
def crowdedEndpoint : Endpoint := { inbound := ⟨[{ reply := .data [1, 2, 3] }], .quiet⟩ }

/-- A listener where a connection waits. -/
def crowdedListener : Listener Nat :=
  { options := default, incoming := [{ reply := .connection 7 }] }

/-- A datagram socket where a datagram waits. -/
def crowdedDatagram : Datagram :=
  { Datagram.bind .connected 4 default with inbox := [{ reply := .packet ⟨[1, 2], 0⟩ }] }

/-- A read begins, cancellation is requested, the read goes on, and cancellation is requested
once more: the bytes that wait are not read, and only the first request raises the flag. Calls
that begin afterwards take nothing either. -/
theorem crowdedSockets_obey :
    (∃ y, SocketKind.endpoint.run ⟨crowdedEndpoint, [], []⟩
        [.call (.read [0, 0] 1 none), .request, .goOn 0, .request] = some y ∧
      y.answers = [true, false] ∧
      y.calls = [.returned (.error .terminationRequested) (.reading none 2 1 [])] ∧
      y.socket.flag.raised = true) ∧
    crowdedEndpoint.requestCancellation.2.readSome 2 =
      (.error cancelled, crowdedEndpoint.requestCancellation.2) ∧
    crowdedListener.stopAccepting.2.accept (fun _ => .ok {}) none =
      { reply := .error .terminationRequested, listener := crowdedListener.stopAccepting.2 } ∧
    crowdedDatagram.requestCancellation.2.read none =
      (.error .terminationRequested, crowdedDatagram.requestCancellation.2) := by
  obtain ⟨⟨endpoints, -, -⟩, endpoint, listener, datagram, -⟩ := cancellation_obeyed Nat
  have ran : SocketKind.endpoint.run ⟨crowdedEndpoint, [], []⟩
      [.call (.read [0, 0] 1 none), .request, .goOn 0, .request] =
        some ⟨crowdedEndpoint.requestCancellation.2,
          [.returned (.error .terminationRequested) (.reading none 2 1 [])], [true, false]⟩ := rfl
  refine ⟨⟨_, ran, rfl, rfl, ?_⟩, ?_, ?_, ?_⟩
  · exact endpoints.unasked ran _ _ (List.mem_singleton_self _) rfl
  · exact (endpoint _).readSome_refused rfl 2 (by decide)
  · exact (listener _).accept_refused rfl _ _
  · exact (datagram _).read_refused rfl none

end SocketDemux
