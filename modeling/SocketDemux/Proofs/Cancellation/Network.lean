import SocketDemux.Network.Basic
import SocketDemux.Proofs.Cancellation.Listener
/-!
# SocketDemux.Proofs.Cancellation.Network

**Cancellation in a network**: the listener of a network is the listener that is cancelled, and
an endpoint that connects cannot be cancelled.

* `exists_session`, `raised_of_accept` — a call of `accept` in a network answers as its listener
  does, and leaves that listener in its place; so it fails because of cancellation only if this
  listener is cancelled.
* `accept_of_raised`, `accept_across` — on a cancelled listener it does.
* `handshakeRun_unasked`, `finishConnect_unasked` — the handshake of an endpoint that connects
  never ends like that, whatever is cancelled meanwhile.
-/

namespace SocketDemux

/-- A handshake that nobody cancels does not end because of cancellation. -/
theorem handshakeRun_unasked {ending : HandshakeEnding} {deadline : Deadline}
    {interval : Duration} {flag : CancelFlag} {now : Instant} {steps : List HandshakeEvent} :
    flag.raised = false → (∀ step ∈ steps, step.cancels = false) →
      (handshakeRun ending deadline interval flag now steps).reply ≠
        .error .terminationRequested := by
  fun_induction handshakeRun ending deadline interval flag now steps with
  | case1 | case3 | case4 | case5 => simp [handshakeTimedOut]
  | case2 flag now =>
    intro lowered _
    simp only [stallHandshake, lowered, if_false, Bool.false_eq_true]
    split
    · simp [handshakeTimedOut]
    · split
      · simp
      · simp [handshakeTimedOut]
  | case6 flag now step rest raised blocked inTime failure later paused =>
    intro lowered quiet told
    have down : raised.raised = false := by
      rw [CancelFlag.raised_raiseIf, lowered, quiet step List.mem_cons_self]
      rfl
    refine Pause.finish_of_lowered down now (.between deadline interval step.pause) ?_
    rw [Pause.finish_between paused]
    exact told
  | case7 flag now step rest raised blocked inTime later paused ih =>
    intro lowered quiet
    refine ih ?_ fun other member => quiet other (List.mem_cons_of_mem _ member)
    rw [CancelFlag.raised_raiseIf, lowered, quiet step List.mem_cons_self]
    rfl

namespace Network

variable (n : Network) (number : Nat)

/-- What is written down of a call: the reply and the listener are those of the listener's own
call. -/
theorem exists_session {binding : Binding} (placed : number < n.bindings.length)
    (timeout : Timeout) :
    ∃ session, (n.accept number binding timeout).1 =
        (binding.listener.accept session timeout).reply ∧
      ((n.accept number binding timeout).2.binding? number).map (·.listener) =
        some (binding.listener.accept session timeout).listener := by
  refine ⟨_, rfl, ?_⟩
  have kept : ∀ {ended : Network} {new : Binding}, ended.bindings = n.bindings →
      ((ended.setBinding number (some new)).binding? number) = some new := by
    intro ended new same
    simp [setBinding, binding?, same, placed]
  unfold accept
  dsimp only
  rw [kept]
  · rfl
  · split
    · split <;> rfl
    · split <;> rfl
    · split <;> rfl

/-- A call on a cancelled listener fails on the spot. -/
theorem accept_of_raised {binding : Binding} (raised : binding.listener.flag.raised = true)
    (timeout : Timeout) :
    (n.accept number binding timeout).1 = .error .terminationRequested := by
  unfold accept
  dsimp only
  rw [Listener.accept_of_raised _ _ _ raised]

/-- No other call fails like that. -/
theorem raised_of_accept {binding : Binding} (placed : number < n.bindings.length)
    {timeout : Timeout}
    (told : (n.accept number binding timeout).1 = .error .terminationRequested) :
    ∃ after, (n.accept number binding timeout).2.binding? number = some after ∧
      after.listener.flag.raised = true := by
  obtain ⟨session, reply, placed⟩ := n.exists_session number placed timeout
  obtain ⟨after, there, same⟩ := Option.map_eq_some_iff.mp placed
  refine ⟨after, there, ?_⟩
  rw [same]
  exact Listener.raised_of_accept _ session timeout (reply.symm.trans told)

/-- Whoever waits for a connection when the listener is cancelled is told so. -/
theorem accept_across {binding : Binding} (waits : (n.accept number binding none).1 = .waiting) :
    (n.acceptAcrossCancellation number binding).1 = .error .terminationRequested := by
  unfold acceptAcrossCancellation
  simp only [waits]
  exact accept_of_raised _ _ rfl _

/-- An endpoint that connects is nobody's to cancel yet. -/
theorem finishConnect_unasked (connection : Nat) (maker : SessionMaker) (timeout : Timeout) :
    (n.finishConnect number connection maker timeout).1 ≠ .error .terminationRequested := by
  unfold finishConnect
  split
  · simp
  · next link found =>
    split
    · simp
    · next script made =>
      have unasked : (handshakeRun script.ending (timeout.deadline link.left.now) connectInterval {}
          link.left.now (script.steps.map fun step => { step with cancels := false })).reply ≠
            .error .terminationRequested := by
        refine handshakeRun_unasked rfl fun step member => ?_
        obtain ⟨planned, -, rfl⟩ := List.mem_map.mp member
        rfl
      dsimp only
      split
      · simp
      · next failure failed =>
        rw [failed] at unasked
        intro told
        exact unasked (congrArg Reply.error (Reply.error.inj told))
      · simp

end Network

end SocketDemux
