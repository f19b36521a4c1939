import SocketDemux.Listener.Basic
import SocketDemux.Proofs.Listener.Handshake
/-!
# SocketDemux.Proofs.Listener.Accepting

**Who is let in**: what a sequence of calls of `accept` does with the connections that arrive
at a listener that makes secure sessions.

* `connections`, `Listener.waiting` — the connections that nobody has taken yet.
* `Accepting` — everything that one call can do: find no connection, take one for which no
  session can be made, or take one and drive its handshake.
* `Accepted`, `Accepted.Lawful` — a call with the listener before it, and what is true of it.
* `ListenerCall`, `Listener.serve` — calls, arrivals and cancellation in any order.
* `finished_connections_in_order` — no connection is handed out unfinished, none is passed
  over, and none is handed out after it has failed.
-/

namespace SocketDemux

variable {γ : Type}

/-! ### Connections on their way -/

/-- The connection that an answer brings, if it brings one. -/
def AcceptReply.connection? : AcceptReply γ → Option γ
  | .connection found => some found
  | .failed _ => none

/-- The connections that are going to be found, the oldest first. -/
def connections (incoming : List (AcceptEvent γ)) : List γ :=
  incoming.filterMap (·.reply.connection?)

theorem connections_cons (event : AcceptEvent γ) (rest : List (AcceptEvent γ)) :
    connections (event :: rest) = event.reply.connection?.toList ++ connections rest := by
  unfold connections
  rw [List.filterMap_cons]
  cases event.reply.connection? with
  | none => rfl
  | some connection => rfl

/-- The connection that a reply hands over. -/
def Reply.value? {ε α : Type} : Reply ε α → Option α
  | .ok value => some value
  | _ => none

@[simp] theorem Reply.value?_ok {ε α : Type} (value : α) :
    (Reply.ok value : Reply ε α).value? = some value := rfl

@[simp] theorem Reply.value?_error {ε α : Type} (error : ε) :
    (Reply.error error : Reply ε α).value? = none := rfl

@[simp] theorem Reply.value?_waiting {ε α : Type} :
    (Reply.waiting : Reply ε α).value? = none := rfl

/-- Looking for a connection takes the oldest one, or none. -/
theorem acceptRun_connections (deadline : Deadline) (retry : Bool) (flag : CancelFlag)
    (now : Instant) (incoming : List (AcceptEvent γ)) :
    (acceptRun deadline retry flag now incoming).reply.value?.toList ++
        connections (acceptRun deadline retry flag now incoming).incoming =
      connections incoming := by
  fun_induction acceptRun deadline retry flag now incoming with
  | case1 => rfl
  | case2 => rfl
  | case3 => rfl
  | case4 retry flag now _ event rest _ connection found =>
    rw [connections_cons, found]
    rfl
  | case5 retry flag now _ event rest _ error failed _ ih =>
    rw [connections_cons, failed]
    exact ih
  | case6 retry flag now _ event rest _ error failed _ _ failure later _ =>
    rw [connections_cons, failed]
    rfl
  | case7 retry flag now _ event rest _ error failed _ _ later _ ih =>
    rw [connections_cons, failed]
    exact ih
  | case8 retry flag now _ event rest _ error failed =>
    rw [connections_cons, failed]
    rfl

/-- A flag that is up is seen before anything else. -/
theorem acceptRun_of_raised {flag : CancelFlag} (raised : flag.raised = true)
    (deadline : Deadline) (now : Instant) (incoming : List (AcceptEvent γ)) :
    acceptRun deadline false flag now incoming =
      ⟨.error .terminationRequested, incoming, flag, now⟩ := by
  unfold acceptRun
  simp [raised]

/-! ### One call -/

namespace Listener

/-- The connections that nobody has taken yet, the oldest first. -/
def waiting (l : Listener γ) : List γ := connections l.incoming

/-- The first part of a call: the search for a connection. -/
def search (l : Listener γ) (timeout : Timeout) : AcceptRun γ :=
  acceptRun (timeout.deadline l.now) false l.flag l.now l.incoming

/-- The listener after the search. -/
def searched (l : Listener γ) (timeout : Timeout) : Listener γ :=
  { l with
    incoming := (l.search timeout).incoming
    flag := (l.search timeout).flag
    now := (l.search timeout).now }

/-- The second part of a call: the handshake of the connection that was found. -/
def shake (l : Listener γ) (timeout : Timeout) (script : HandshakeScript) : HandshakeRun :=
  handshakeRun script.ending (timeout.deadline l.now) l.options.handshakeInterval
    (l.search timeout).flag (l.search timeout).now script.steps

/-- What the search leaves behind what it takes. -/
theorem search_waiting (l : Listener γ) (timeout : Timeout) :
    (l.search timeout).reply.value?.toList ++ (l.searched timeout).waiting = l.waiting :=
  acceptRun_connections ..

section Branches

variable (l : Listener γ) (session : γ → Except IoError HandshakeScript) (timeout : Timeout)

/-- A search that fails is the end of the call. -/
theorem accept_of_error {failure : SocketError}
    (found : (l.search timeout).reply = .error failure) :
    l.accept session timeout = { reply := .error failure, listener := l.searched timeout } := by
  unfold search at found
  unfold accept
  simp only [found]
  rfl

/-- So is one that waits. -/
theorem accept_of_waiting (found : (l.search timeout).reply = .waiting) :
    l.accept session timeout = { reply := .waiting, listener := l.searched timeout } := by
  unfold search at found
  unfold accept
  simp only [found]
  rfl

/-- What follows a search that has found a connection. -/
theorem accept_of_ok {connection : γ} (found : (l.search timeout).reply = .ok connection) :
    l.accept session timeout =
      if l.secure then
        match session connection with
        | .error e =>
            { reply := .error (.failed .handshake e)
              taken := some connection
              listener := l.searched timeout }
        | .ok script =>
            { reply := (l.shake timeout script).reply.map fun _ => connection
              taken := some connection
              answers := (l.shake timeout script).answers
              rest := some (l.shake timeout script).rest
              listener :=
                { l.searched timeout with
                  flag := (l.shake timeout script).flag
                  now := (l.shake timeout script).now } }
      else
        { reply := .ok connection
          taken := some connection
          listener := l.searched timeout } := by
  unfold search at found
  unfold accept
  simp only [found]
  rfl

end Branches

@[simp] theorem waiting_arrive (l : Listener γ) (connection : γ) :
    (l.arrive connection).waiting = l.waiting ++ [connection] := by
  simp [waiting, arrive, connections, AcceptReply.connection?]

end Listener

/-- Everything that a call on a listener with sessions can do. -/
inductive Accepting (l : Listener γ) (session : γ → Except IoError HandshakeScript)
    (timeout : Timeout) : AcceptOutcome γ → Prop
  /-- It finds no connection. -/
  | missed (reply : Reply SocketError γ) (missing : reply.value? = none)
      (found : (l.search timeout).reply = reply) :
      Accepting l session timeout { reply := reply, listener := l.searched timeout }
  /-- It takes a connection for which no session can be made. -/
  | refused {connection : γ} {e : IoError} (found : (l.search timeout).reply = .ok connection)
      (refuses : session connection = .error e) :
      Accepting l session timeout
        { reply := .error (.failed .handshake e)
          taken := some connection
          listener := l.searched timeout }
  /-- It takes a connection and drives its handshake. -/
  | shaken {connection : γ} {script : HandshakeScript}
      (found : (l.search timeout).reply = .ok connection)
      (made : session connection = .ok script) :
      Accepting l session timeout
        { reply := (l.shake timeout script).reply.map fun _ => connection
          taken := some connection
          answers := (l.shake timeout script).answers
          rest := some (l.shake timeout script).rest
          listener :=
            { l.searched timeout with
              flag := (l.shake timeout script).flag
              now := (l.shake timeout script).now } }

/-- A call does nothing else. -/
theorem accepting_accept {l : Listener γ} (secure : l.secure = true)
    (session : γ → Except IoError HandshakeScript) (timeout : Timeout) :
    Accepting l session timeout (l.accept session timeout) := by
  cases found : (l.search timeout).reply with
  | error failure =>
    rw [l.accept_of_error session timeout found]
    exact .missed _ rfl found
  | waiting =>
    rw [l.accept_of_waiting session timeout found]
    exact .missed _ rfl found
  | ok connection =>
    rw [l.accept_of_ok session timeout found, if_pos secure]
    cases made : session connection with
    | error e => exact .refused found made
    | ok script => exact .shaken found made

/-- A call of `accept`: the listener before it, and its outcome. -/
structure Accepted (γ : Type) where
  session : γ → Except IoError HandshakeScript
  timeout : Timeout
  before : Listener γ
  outcome : AcceptOutcome γ

/-- What is true of a call. -/
structure Accepted.Lawful (a : Accepted γ) : Prop where
  /-- It takes the oldest connection that nobody has taken yet, or none. -/
  oldest : a.outcome.taken.toList ++ a.outcome.listener.waiting = a.before.waiting
  /-- Of a listener that is cancelled already it takes none, and leaves all as it is. -/
  cancelled : a.before.flag.raised = true →
    a.outcome.reply = .error .terminationRequested ∧ a.outcome.taken = none ∧
      a.outcome.listener = a.before
  /-- It hands a connection out exactly if it has taken this connection and made a session
  for it, and the last step of that session's handshake has completed it. -/
  returned : ∀ connection, a.outcome.reply = .ok connection ↔
    a.outcome.taken = some connection ∧
      ∃ script, a.session connection = .ok script ∧ a.outcome.answers.getLast? = some .done
  /-- Without a session there is no handshake, and the call fails. -/
  refused : ∀ connection e, a.outcome.taken = some connection →
    a.session connection = .error e →
    a.outcome.reply = .error (.failed .handshake e) ∧ a.outcome.answers = []
  /-- The handshake is driven with what is left of the time of the call, from the moment on
  at which the connection was found. -/
  shaken : ∀ connection script, a.outcome.taken = some connection →
    a.session connection = .ok script →
    HandshakeLaw script (a.timeout.deadline a.before.now) a.before.options.handshakeInterval
      (a.before.search a.timeout).flag (a.before.search a.timeout).now a.outcome.answers
      (a.outcome.reply.map fun _ => ())

/-- A connection that is not handed over is not there. -/
theorem Reply.value?_eq_none_iff {ε α : Type} {reply : Reply ε α} :
    reply.value? = none ↔ ∀ value, reply ≠ .ok value := by
  cases reply with
  | ok value => simp
  | error e => simp
  | waiting => simp

/-- Every call on a listener with sessions is lawful. -/
theorem lawful_accept {l : Listener γ} (secure : l.secure = true)
    (session : γ → Except IoError HandshakeScript) (timeout : Timeout) :
    Accepted.Lawful ⟨session, timeout, l, l.accept session timeout⟩ := by
  have step := accepting_accept secure session timeout
  have left := l.search_waiting timeout
  have early : l.flag.raised = true → l.search timeout =
      ⟨.error .terminationRequested, l.incoming, l.flag, l.now⟩ := fun raised =>
    acceptRun_of_raised raised ..
  generalize l.accept session timeout = outcome at step ⊢
  cases step with
  | missed reply missing found =>
    rw [found, missing] at left
    refine ⟨left, ?_, ?_, ?_, ?_⟩
    · intro raised
      rw [early raised] at found
      refine ⟨found.symm, rfl, ?_⟩
      show l.searched timeout = l
      unfold Listener.searched
      rw [early raised]
    · intro connection
      constructor
      · intro wrong
        exact absurd wrong (Reply.value?_eq_none_iff.mp missing connection)
      · rintro ⟨wrong, -⟩
        cases wrong
    · intro connection e wrong
      cases wrong
    · intro connection script wrong
      cases wrong
  | @refused connection e found refuses =>
    rw [found] at left
    refine ⟨left, ?_, ?_, ?_, ?_⟩
    · intro raised
      rw [early raised] at found
      cases found
    · intro other
      constructor
      · intro wrong
        cases wrong
      · rintro ⟨-, script, -, wrong⟩
        cases wrong
    · intro other e' same refuses'
      cases same
      replace refuses' : session connection = .error e' := refuses'
      rw [refuses] at refuses'
      cases refuses'
      exact ⟨rfl, rfl⟩
    · intro other script same made
      cases same
      replace made : session connection = .ok script := made
      rw [refuses] at made
      cases made
  | @shaken connection script found made =>
    rw [found] at left
    have law := handshakeRun_law script.ending (timeout.deadline l.now)
      l.options.handshakeInterval (l.search timeout).flag (l.search timeout).now script.steps
    refine ⟨left, ?_, ?_, ?_, ?_⟩
    · intro raised
      rw [early raised] at found
      cases found
    · intro other
      rw [Reply.map_const_eq_ok_iff]
      constructor
      · rintro ⟨⟨⟨⟩, complete⟩, rfl⟩
        exact ⟨rfl, script, made, law.done.mp complete⟩
      · rintro ⟨same, -, -, complete⟩
        exact ⟨⟨(), law.done.mpr complete⟩, Option.some.inj same⟩
    · intro other e same refuses
      cases same
      replace refuses : session connection = .error e := refuses
      rw [made] at refuses
      cases refuses
    · intro other script' same made'
      cases same
      replace made' : session connection = .ok script' := made'
      rw [made] at made'
      cases made'
      rw [Reply.map_const_unit]
      exact law

/-! ### A sequence of calls -/

/-- What happens at a listener. -/
inductive ListenerCall (γ : Type)
  /-- Somebody waits for the next connection. The sessions are those that will be made
  during this call. -/
  | accept (session : γ → Except IoError HandshakeScript) (timeout : Timeout)
  /-- A connection arrives. -/
  | arrive (connection : γ)
  /-- Somebody cancels the listener. -/
  | stop

/-- The connections that arrive, in their order. -/
def arrivedIn : List (ListenerCall γ) → List γ
  | [] => []
  | .arrive connection :: rest => connection :: arrivedIn rest
  | _ :: rest => arrivedIn rest

/-- What the calls of `accept` ask for, in their order. -/
def acceptedIn : List (ListenerCall γ) →
    List ((γ → Except IoError HandshakeScript) × Timeout)
  | [] => []
  | .accept session timeout :: rest => (session, timeout) :: acceptedIn rest
  | _ :: rest => acceptedIn rest

namespace Listener

/-- One thing after the other. -/
def serve (l : Listener γ) : List (ListenerCall γ) → List (Accepted γ) × Listener γ
  | [] => ([], l)
  | .accept session timeout :: rest =>
      let outcome := l.accept session timeout
      let (others, last) := outcome.listener.serve rest
      (⟨session, timeout, l, outcome⟩ :: others, last)
  | .arrive connection :: rest => (l.arrive connection).serve rest
  | .stop :: rest => l.stopAccepting.2.serve rest

theorem serve_accept (l : Listener γ) (session : γ → Except IoError HandshakeScript)
    (timeout : Timeout) (rest : List (ListenerCall γ)) :
    l.serve (.accept session timeout :: rest) =
      (⟨session, timeout, l, l.accept session timeout⟩ ::
          ((l.accept session timeout).listener.serve rest).1,
        ((l.accept session timeout).listener.serve rest).2) := rfl

/-- A listener makes sessions, or does not, for ever. -/
theorem secure_accept {l : Listener γ} (secure : l.secure = true)
    (session : γ → Except IoError HandshakeScript) (timeout : Timeout) :
    (l.accept session timeout).listener.secure = true := by
  have step := accepting_accept secure session timeout
  generalize l.accept session timeout = outcome at step ⊢
  cases step with
  | missed => exact secure
  | refused => exact secure
  | shaken => exact secure

/-- Every call is lawful, and the connections that have been taken are those that have
arrived, without those that still wait. -/
theorem serve_lawful {l last : Listener γ} {calls : List (ListenerCall γ)}
    {records : List (Accepted γ)} (secure : l.secure = true)
    (served : l.serve calls = (records, last)) :
    records.map (fun a => (a.session, a.timeout)) = acceptedIn calls ∧
      (∀ a ∈ records, a.Lawful) ∧
      records.filterMap (·.outcome.taken) ++ last.waiting = l.waiting ++ arrivedIn calls := by
  induction calls generalizing l records with
  | nil =>
    cases served
    refine ⟨rfl, ?_, (List.append_nil _).symm⟩
    intro a member
    cases member
  | cons call rest ih =>
    cases call with
    | accept session timeout =>
      rw [serve_accept] at served
      obtain ⟨rfl, rfl⟩ := Prod.mk.inj served
      have lawful := lawful_accept secure session timeout
      obtain ⟨asked, others, balance⟩ := ih (secure_accept secure session timeout) rfl
      refine ⟨?_, ?_, ?_⟩
      · rw [List.map_cons, asked]
        rfl
      · intro a member
        rcases List.mem_cons.mp member with rfl | later
        · exact lawful
        · exact others a later
      · have oldest := lawful.oldest
        dsimp only at oldest
        rw [← oldest, List.append_assoc]
        show _ = _ ++ ((l.accept session timeout).listener.waiting ++ arrivedIn rest)
        rw [← balance, List.filterMap_cons]
        cases (l.accept session timeout).taken with
        | none => rfl
        | some connection => rfl
    | arrive connection =>
      obtain ⟨asked, others, balance⟩ := ih (l := l.arrive connection) secure served
      refine ⟨asked, others, ?_⟩
      rw [balance, waiting_arrive, List.append_assoc]
      rfl
    | stop => exact ih (l := l.stopAccepting.2) secure served

end Listener

/-! ### Who is let in -/

/-- **Finished connections, in order.** Take a listener with sessions, and any sequence of
calls, arrivals and cancellations, with any sessions and time budgets. The connections that
calls have taken, followed by those that still wait, are the ones that waited at first,
followed by those that have arrived since. Every call is lawful; so it hands out only the
connection that it has taken, and only if its own handshake is complete. If connections can be
told apart, no call hands out what an earlier call has taken, whatever became of it. -/
theorem finished_connections_in_order {l last : Listener γ} {calls : List (ListenerCall γ)}
    {records : List (Accepted γ)} (secure : l.secure = true)
    (served : l.serve calls = (records, last)) :
    records.map (fun a => (a.session, a.timeout)) = acceptedIn calls ∧
      (∀ a ∈ records, a.Lawful) ∧
      records.filterMap (·.outcome.taken) ++ last.waiting = l.waiting ++ arrivedIn calls ∧
      ((l.waiting ++ arrivedIn calls).Nodup →
        records.Pairwise fun earlier later => ∀ connection,
          earlier.outcome.taken = some connection → later.outcome.reply ≠ .ok connection) := by
  obtain ⟨asked, lawful, balance⟩ := Listener.serve_lawful secure served
  refine ⟨asked, lawful, balance, ?_⟩
  intro distinct
  rw [← balance] at distinct
  have apart := List.pairwise_filterMap.mp (List.nodup_append.mp distinct).1
  refine apart.imp_of_mem ?_
  intro earlier later _ member differ connection taken returned
  have again := ((lawful later member).returned connection).mp returned
  exact differ connection taken connection again.1 rfl

/-- A door at which two connections wait. -/
def busyDoor : Listener Nat where
  options := default
  secure := true
  incoming :=
    [{ reply := .connection 1 }, { reply := .failed (.os 11), wait := { lasts := 30 } },
      { reply := .connection 2 }]

/-- The sessions of its connections: none for the first one; the second one needs two steps;
while the third one blocks, the listener is cancelled. -/
def busySession : Nat → Except IoError HandshakeScript
  | 1 => .error (.os 24)
  | 2 => .ok { steps := [{ reply := .wouldBlock }, { reply := .done }] }
  | _ => .ok { steps := [{ reply := .wouldBlock, cancels := true }, { reply := .done }] }

/-- A third connection arrives, and later a fourth one, while somebody accepts. -/
def busyDay : List (ListenerCall Nat) :=
  [.accept busySession none, .arrive 3, .accept busySession (some ⟨60000000⟩),
    .accept busySession none, .arrive 4, .accept busySession none]

/-- The first connection fails, the second one is handed out within the time of its call, the
third one fails although its session is about to complete, and the last one stays where it
is. -/
theorem busyDoor_served :
    ∃ records last, busyDoor.serve busyDay = (records, last) ∧
      records.map (·.outcome.reply) =
        [.error (.failed .handshake (.os 24)), .ok 2, .error .terminationRequested,
          .error .terminationRequested] ∧
      records.filterMap (·.outcome.taken) = [1, 2, 3] ∧ last.waiting = [4] ∧
      (∀ a ∈ records, a.Lawful) ∧
      records.Pairwise fun earlier later => ∀ connection,
        earlier.outcome.taken = some connection → later.outcome.reply ≠ .ok connection := by
  have replies : (busyDoor.serve busyDay).1.map (·.outcome.reply) =
      [.error (.failed .handshake (.os 24)), .ok 2, .error .terminationRequested,
        .error .terminationRequested] := by
    decide +kernel
  have taken : (busyDoor.serve busyDay).1.filterMap (·.outcome.taken) = [1, 2, 3] := by
    decide +kernel
  cases served : busyDoor.serve busyDay with
  | mk records last =>
    rw [served] at replies taken
    obtain ⟨-, lawful, balance, once⟩ := finished_connections_in_order rfl served
    refine ⟨records, last, rfl, replies, taken, ?_, lawful, once (by decide)⟩
    rw [taken] at balance
    exact List.append_cancel_left balance

end SocketDemux
