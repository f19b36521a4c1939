import SocketDemux.Proofs.Demux.UnitView
/-!
# SocketDemux.Proofs.Demux.Wakeups

**No lost wake-up**: a reader is never left waiting while there is a fragment for it.

To wait is to take a unit, and to pop is to take a fragment, under two different locks. So
units and fragments of a handle drift apart, in both directions: a reader that does not
wait leaves a unit without a fragment behind, and one that has waited, but not popped yet,
has taken a unit whose fragment is still queued. What holds all the time is that every
queued fragment has a unit, or a reader who has taken one for it.

Who has taken a unit does not show in the state of a system, nor which reader got which
fragment in which order. So a run carries a `Ledger` of one handle along (`System.watch`,
as `System.trace` carries a history). It is the same run without one (`System.map_watch`).

* `Ledger.Covers`, `Ledger.Holds`, `Ledger.Returns` — the numbers, the readers and the
  fragments on record, and what each entry does to them.
* `Ledger.Tallies` — the invariant that is made of them; `Tallies.act` is its step, and
  `Tallies.watch` carries it through a run.
* `System.Regular.timeout_inv` — when the time of a reader runs out.
-/

namespace SocketDemux

/-- What has happened to one handle in a run that the last state does not show. -/
structure Ledger where
  /-- The fragments that were delivered, the oldest first. -/
  delivered : List Bytes := []
  /-- The fragments that were returned, the oldest first, each with the reader that got
  it. -/
  returned : List (Nat × Bytes) := []
  /-- The readers that have taken a unit and not popped yet. -/
  holders : List Nat := []
  /-- How many deliveries have found the counter of units at its maximum. -/
  overflows : Nat := 0
  deriving Repr, DecidableEq

namespace Ledger

/-- A fragment was delivered while there were so many units. -/
def deliver (l : Ledger) (units : Nat) (fragment : Bytes) : Ledger :=
  { l with
    delivered := l.delivered ++ [fragment]
    overflows := if units = wordMax then l.overflows + 1 else l.overflows }

/-- A reader has gone on while there were so many units. -/
def advance (l : Ledger) (units index : Nat) (before after : Reader) : Ledger :=
  match before.phase, after.phase with
  | .waiting, .claimed => if 0 < units then { l with holders := index :: l.holders } else l
  | .claimed, .returned (.ok fragment) =>
      { l with
        holders := l.holders.erase index
        returned := l.returned ++ [(index, fragment)] }
  | .claimed, _ => { l with holders := l.holders.erase index }
  | _, _ => l

end Ledger

variable {κ : Type}

namespace System

/-- The ledger of a handle after one more action. -/
def enter (handle : Handle) (l : Ledger) (s next : System κ) : Action κ → Ledger
  | .work =>
      match s.demux.delivery? handle with
      | some fragment => l.deliver (s.demux.queues.units handle) fragment
      | none => l
  | .goOnRead index =>
      match s.readers[index]?, next.readers[index]? with
      | some before, some after =>
          if before.handle = handle then
            l.advance (s.demux.queues.units handle) index before after
          else l
      | _, _ => l
  | _ => l

/-- The state after a sequence of actions, and the ledger of a handle by then. -/
def watch [Condition κ] (handle : Handle) :
    System κ → Ledger → List (Action κ) → Option (System κ × Ledger)
  | s, l, [] => some (s, l)
  | s, l, action :: rest =>
      match s.act action with
      | none => none
      | some next => next.watch handle (enter handle l s next action) rest

/-- A run is a run with a ledger, without the ledger. -/
theorem map_watch [Condition κ] (handle : Handle) (s : System κ) (l : Ledger)
    (actions : List (Action κ)) : (s.watch handle l actions).map (·.1) = s.run actions := by
  induction actions generalizing s l with
  | nil => rfl
  | cons action rest ih =>
    rw [watch, run]
    cases s.act action with
    | none => rfl
    | some next => exact ih next _

end System

/-- The reader has returned this fragment of the handle. -/
def Reader.Got (handle : Handle) (fragment : Bytes) (reader : Reader) : Prop :=
  reader.handle = handle ∧ reader.phase = .returned (.ok fragment)

/-! ### The numbers -/

namespace Ledger

/-- Every queued fragment has a unit, or a reader that has taken one, or was delivered when
the counter of units was at its maximum; and it was not before that many deliveries. -/
structure Covers (l : Ledger) (queued units : Nat) : Prop where
  covered : queued ≤ units + l.holders.length + l.overflows
  word : units ≤ wordMax
  minted : units ≤ l.delivered.length
  overflowed : l.overflows ≠ 0 → wordMax < l.delivered.length

namespace Covers

variable {l : Ledger} {queued units : Nat}

/-- A fragment is delivered with a unit, if there is room for one. -/
theorem deliver (covers : l.Covers queued units) (fragment : Bytes) :
    (l.deliver units fragment).Covers (queued + 1) (saturatingAdd units 1) := by
  obtain ⟨covered, word, minted, overflowed⟩ := covers
  by_cases full : units = wordMax
  · have stuck : saturatingAdd units 1 = wordMax := by
      rw [saturatingAdd, if_neg (by omega)]
    rw [stuck, Ledger.deliver, if_pos full]
    refine ⟨?_, Nat.le_refl _, ?_, fun _ => ?_⟩
    · show queued + 1 ≤ wordMax + l.holders.length + (l.overflows + 1)
      omega
    · rw [List.length_append]
      omega
    · rw [List.length_append, List.length_singleton]
      omega
  · rw [saturatingAdd_eq (by omega), Ledger.deliver, if_neg full]
    refine ⟨?_, by omega, ?_, fun some => ?_⟩
    · show queued + 1 ≤ units + 1 + l.holders.length + l.overflows
      omega
    · rw [List.length_append, List.length_singleton]
      omega
    · have := overflowed some
      rw [List.length_append]
      omega

/-- A unit that is taken is in the hands of a reader. -/
theorem take (covers : l.Covers queued units) (present : 0 < units) (index : Nat) :
    Covers { l with holders := index :: l.holders } queued (units - 1) := by
  obtain ⟨covered, word, minted, overflowed⟩ := covers
  refine ⟨?_, by omega, ?_, overflowed⟩
  · show queued ≤ units - 1 + (l.holders.length + 1) + l.overflows
    omega
  · show units - 1 ≤ l.delivered.length
    omega

/-- A reader that pops uses up its unit, and takes a fragment if there is one. -/
theorem pop (covers : l.Covers queued units) (index : Nat) (returned : List (Nat × Bytes)) :
    Covers { l with holders := l.holders.erase index, returned := returned }
      (queued - 1) units := by
  obtain ⟨covered, word, minted, overflowed⟩ := covers
  refine ⟨?_, word, minted, overflowed⟩
  show queued - 1 ≤ units + (l.holders.erase index).length + l.overflows
  have := List.le_length_erase (l := l.holders) (a := index)
  omega

end Covers

/-! ### The readers -/

/-- Those who hold a unit are readers of the handle that are about to pop. -/
structure Holds (handle : Handle) (l : Ledger) (readers : List Reader) : Prop where
  distinct : l.holders.Nodup
  claimed : ∀ index ∈ l.holders, ∃ reader, readers[index]? = some reader ∧
    reader.handle = handle ∧ reader.phase = .claimed

namespace Holds

variable {handle : Handle} {l : Ledger} {readers : List Reader} {index : Nat}
  {before after : Reader}

/-- A reader in another phase holds nothing. -/
theorem not_mem (holds : l.Holds handle readers) (there : readers[index]? = some before)
    (elsewhere : before.handle = handle → before.phase ≠ .claimed) : index ∉ l.holders := by
  intro member
  obtain ⟨reader, same, mine, claimed⟩ := holds.claimed index member
  rw [there] at same
  cases same
  exact elsewhere mine claimed

/-- Others may call meanwhile. -/
theorem call (holds : l.Holds handle readers) (reader : Reader) :
    l.Holds handle (readers ++ [reader]) where
  distinct := holds.distinct
  claimed index member := by
    obtain ⟨holder, there, mine, claimed⟩ := holds.claimed index member
    refine ⟨holder, ?_, mine, claimed⟩
    rw [List.getElem?_append_left (List.getElem?_eq_some_iff.mp there).1]
    exact there

/-- A reader that goes on touches nobody else. -/
theorem claimed_set (holds : l.Holds handle readers) {other : Nat} (member : other ∈ l.holders)
    (different : other ≠ index) (after : Reader) :
    ∃ reader, (readers.set index after)[other]? = some reader ∧ reader.handle = handle ∧
      reader.phase = .claimed := by
  rw [List.getElem?_set_ne different.symm]
  exact holds.claimed other member

/-- One that holds nothing may go on. -/
theorem pass (holds : l.Holds handle readers) (empty : index ∉ l.holders) (after : Reader) :
    l.Holds handle (readers.set index after) where
  distinct := holds.distinct
  claimed other member := by
    refine holds.claimed_set member ?_ after
    rintro rfl
    exact empty member

/-- A reader takes a unit. -/
theorem take (holds : l.Holds handle readers) (empty : index ∉ l.holders)
    (inside : index < readers.length) (mine : after.handle = handle)
    (claimed : after.phase = .claimed) :
    Holds handle { l with holders := index :: l.holders } (readers.set index after) where
  distinct := List.nodup_cons.mpr ⟨empty, holds.distinct⟩
  claimed other member := by
    by_cases same : other = index
    · subst same
      exact ⟨after, List.getElem?_set_self inside, mine, claimed⟩
    · exact holds.claimed_set ((List.mem_cons.mp member).resolve_left same) same after

/-- A reader that pops holds nothing any more. -/
theorem pop (holds : l.Holds handle readers) (index : Nat) (after : Reader)
    (returned : List (Nat × Bytes)) :
    Holds handle { l with holders := l.holders.erase index, returned := returned }
      (readers.set index after) where
  distinct := holds.distinct.erase index
  claimed other member := by
    obtain ⟨different, member⟩ := holds.distinct.mem_erase_iff.mp member
    exact holds.claimed_set member different after

end Holds

/-! ### The fragments -/

/-- What was returned, and then what is queued, is what was delivered; and whoever has
returned a fragment is on record, once. -/
structure Returns (handle : Handle) (l : Ledger) (readers : List Reader) (queued : List Bytes) :
    Prop where
  order : l.returned.map (·.2) ++ queued = l.delivered
  once : (l.returned.map (·.1)).Nodup
  got : ∀ index fragment, (index, fragment) ∈ l.returned ↔
    ∃ reader, readers[index]? = some reader ∧ reader.Got handle fragment

namespace Returns

variable {handle : Handle} {l : Ledger} {readers : List Reader} {queued : List Bytes}
  {index : Nat} {before after : Reader} {fragment : Bytes}

/-- A fragment that is delivered comes last. -/
theorem deliver (returns : l.Returns handle readers queued) (units : Nat) (fragment : Bytes) :
    (l.deliver units fragment).Returns handle readers (queued ++ [fragment]) where
  order := by
    rw [Ledger.deliver, ← returns.order, List.append_assoc]
  once := returns.once
  got := returns.got

/-- Others may call meanwhile. -/
theorem call (returns : l.Returns handle readers queued) {reader : Reader}
    (going : ∀ fragment, ¬reader.Got handle fragment) :
    l.Returns handle (readers ++ [reader]) queued where
  order := returns.order
  once := returns.once
  got index fragment := by
    rw [returns.got]
    constructor
    · rintro ⟨old, there, got⟩
      refine ⟨old, ?_, got⟩
      rw [List.getElem?_append_left (List.getElem?_eq_some_iff.mp there).1]
      exact there
    · rintro ⟨old, there, got⟩
      rw [List.getElem?_append] at there
      split at there
      · exact ⟨old, there, got⟩
      · rw [List.getElem?_singleton] at there
        split at there
        · cases there
          exact absurd got (going fragment)
        · cases there

/-- A reader that had nothing may go on, and have nothing still. -/
theorem pass (returns : l.Returns handle readers queued) (there : readers[index]? = some before)
    (going : ∀ fragment, ¬before.Got handle fragment)
    (still : ∀ fragment, ¬after.Got handle fragment) :
    l.Returns handle (readers.set index after) queued where
  order := returns.order
  once := returns.once
  got other fragment := by
    rw [returns.got]
    by_cases same : other = index
    · subst same
      rw [there, List.getElem?_set_self (List.getElem?_eq_some_iff.mp there).1]
      constructor
      · rintro ⟨reader, same, got⟩
        cases same
        exact absurd got (going fragment)
      · rintro ⟨reader, same, got⟩
        cases same
        exact absurd got (still fragment)
    · rw [List.getElem?_set_ne (Ne.symm same)]

/-- A reader returns the oldest fragment, and is on record for it. -/
theorem give (returns : l.Returns handle readers (fragment :: queued))
    (there : readers[index]? = some before) (going : ∀ fragment, ¬before.Got handle fragment)
    (got : after.Got handle fragment) (holders : List Nat) :
    Returns handle
      { l with holders := holders, returned := l.returned ++ [(index, fragment)] }
      (readers.set index after) queued where
  order := by
    rw [List.map_append, List.append_assoc]
    exact returns.order
  once := by
    rw [List.map_append, List.nodup_append]
    refine ⟨returns.once, List.nodup_cons.mpr ⟨List.not_mem_nil, .nil⟩, ?_⟩
    intro earlier member new only same
    -- it would have returned before
    rw [List.map_singleton, List.mem_singleton] at only
    subst only same
    obtain ⟨⟨who, old⟩, recorded, mine⟩ := List.mem_map.mp member
    cases mine
    obtain ⟨reader, same, had⟩ := (returns.got who old).mp recorded
    rw [there] at same
    cases same
    exact going old had
  got other old := by
    rw [List.mem_append, returns.got, List.mem_singleton]
    by_cases same : other = index
    · subst same
      rw [there, List.getElem?_set_self (List.getElem?_eq_some_iff.mp there).1]
      constructor
      · rintro (⟨reader, same, had⟩ | new)
        · cases same
          exact absurd had (going old)
        · cases new
          exact ⟨after, rfl, got⟩
      · rintro ⟨reader, same, has⟩
        cases same
        have same : old = fragment := by
          have phase := got.2.symm.trans has.2
          cases phase
          rfl
        exact .inr (by rw [same])
    · rw [List.getElem?_set_ne (Ne.symm same)]
      constructor
      · rintro (had | new)
        · exact had
        · cases new
          exact absurd rfl same
      · exact .inl

end Returns

/-! ### The invariant -/

/-- The ledger of a handle and the state of the system agree. -/
structure Tallies (handle : Handle) (l : Ledger) (s : System κ) : Prop where
  regular : s.Regular
  covers : l.Covers (s.demux.queues.queued handle).length (s.demux.queues.units handle)
  holds : l.Holds handle s.readers
  returns : l.Returns handle s.readers (s.demux.queues.queued handle)

namespace Tallies

variable {handle : Handle} {l : Ledger} {s next : System κ}

theorem fresh (handle : Handle) (buffer : StreamBuffer) :
    Tallies handle {} (System.fresh buffer : System κ) where
  regular := System.regular_fresh buffer
  covers := ⟨Nat.zero_le _, Nat.zero_le _, Nat.zero_le _, fun wrong => absurd rfl wrong⟩
  holds := ⟨.nil, fun index member => nomatch member⟩
  returns := by
    refine ⟨rfl, .nil, fun index fragment => ?_⟩
    constructor
    · intro member
      cases member
    · rintro ⟨reader, there, -⟩
      cases there

/-- Nothing has happened to the handle or to a reader. -/
theorem unmoved (tallies : Tallies handle l s) (regular : next.Regular)
    (queued : next.demux.queues.queued handle = s.demux.queues.queued handle)
    (units : next.demux.queues.units handle = s.demux.queues.units handle)
    (readers : next.readers = s.readers) : Tallies handle l next where
  regular := regular
  covers := by
    rw [queued, units]
    exact tallies.covers
  holds := by
    rw [readers]
    exact tallies.holds
  returns := by
    rw [queued, readers]
    exact tallies.returns

/-- The worker delivers a fragment, or does nothing that concerns the handle. -/
theorem work [Condition κ] (tallies : Tallies handle l s)
    (regular : System.Regular { s with demux := s.demux.step.2 }) :
    Tallies handle (System.enter handle l s { s with demux := s.demux.step.2 } .work)
      { s with demux := s.demux.step.2 } := by
  simp only [System.enter]
  rcases tallies.regular.demux.step_supply handle with
    ⟨fragment, supplied, queued, units⟩ | ⟨nothing, queued, units⟩
  · rw [supplied]
    refine ⟨regular, ?_, ⟨tallies.holds.distinct, tallies.holds.claimed⟩, ?_⟩
    · rw [queued, units, List.length_append]
      exact tallies.covers.deliver fragment
    · rw [queued]
      exact tallies.returns.deliver _ fragment
  · rw [nothing]
    exact tallies.unmoved regular queued units rfl

/-- A reader goes on that does not hold a unit, and gets nothing from the handle. -/
theorem pass (tallies : Tallies handle l s) {index : Nat} {before after : Reader} {q : Queues}
    (regular : System.Regular
      { s with
        demux := { s.demux with queues := q }
        readers := s.readers.set index after })
    (there : s.readers[index]? = some before)
    (elsewhere : before.handle = handle → before.phase = .waiting)
    (still : ∀ fragment, ¬after.Got handle fragment)
    (queued : q.queued handle = s.demux.queues.queued handle)
    (units : q.units handle = s.demux.queues.units handle) :
    Tallies handle l
      { s with
        demux := { s.demux with queues := q }
        readers := s.readers.set index after } where
  regular := regular
  covers := by
    rw [queued, units]
    exact tallies.covers
  holds := by
    refine tallies.holds.pass (tallies.holds.not_mem there fun mine => ?_) after
    rw [elsewhere mine]
    exact fun wrong => nomatch wrong
  returns := by
    rw [queued]
    refine tallies.returns.pass there (fun fragment got => ?_) still
    have phase := elsewhere got.1
    rw [got.2] at phase
    cases phase

/-- A reader pops, and there is nothing. -/
theorem miss (tallies : Tallies handle l s) {index : Nat} {before after : Reader}
    (regular : System.Regular { s with readers := s.readers.set index after })
    (there : s.readers[index]? = some before) (claimed : before.phase = .claimed)
    (still : ∀ fragment, ¬after.Got handle fragment)
    (empty : s.demux.queues.queued handle = []) :
    Tallies handle { l with holders := l.holders.erase index }
      { s with readers := s.readers.set index after } where
  regular := regular
  covers := by
    have covers := tallies.covers.pop index l.returned
    rw [empty] at covers ⊢
    exact covers
  holds := tallies.holds.pop index after l.returned
  returns := by
    have same := tallies.returns.pass there
      (fun _ got => nomatch claimed.symm.trans got.2) still
    exact ⟨same.order, same.once, same.got⟩

/-- A reader of the handle makes its next step. -/
theorem read (tallies : Tallies handle l s) {index : Nat} {before after : Reader} {q : Queues}
    (regular : System.Regular
      { s with
        demux := { s.demux with queues := q }
        readers := s.readers.set index after })
    (there : s.readers[index]? = some before) (mine : before.handle = handle)
    (step : ReadStep s.demux.queues before after q) :
    Tallies handle (l.advance (s.demux.queues.units handle) index before after)
      { s with
        demux := { s.demux with queues := q }
        readers := s.readers.set index after } := by
  have inside : index < s.readers.length := (List.getElem?_eq_some_iff.mp there).1
  subst mine
  cases step with
  | unknown phase absent =>
    rw [Ledger.advance, phase]
    exact tallies.pass regular there (fun _ => phase) (fun _ got => nomatch got.2) rfl rfl
  | @passed slot signal phase found passed =>
    have units := Queues.units_of_slot found
    have left := Queues.units_setSignal found signal before.handle
    have queued := Queues.queued_setSignal s.demux.queues before.handle before.handle signal
    rw [if_pos rfl] at left
    rw [Ledger.advance, phase]
    dsimp only
    rcases Signal.pass?_cases passed with ⟨present, rfl⟩ | ⟨none, -, rfl⟩
    · -- it takes a unit
      rw [← units] at present
      rw [if_pos present]
      refine ⟨regular, ?_, ?_, ?_⟩
      · dsimp only
        rw [queued, left, ← units]
        exact tallies.covers.take present index
      · refine tallies.holds.take (tallies.holds.not_mem there fun _ => ?_) inside rfl rfl
        rw [phase]
        exact fun wrong => nomatch wrong
      · have still : ∀ fragment, ¬Reader.Got before.handle fragment
            { before with phase := .claimed } := fun _ got => nomatch got.2
        have same := tallies.returns.pass there
          (fun _ got => nomatch phase.symm.trans got.2) still
        dsimp only
        rw [queued]
        exact ⟨same.order, same.once, same.got⟩
    · -- it finds the signal closed
      rw [← units] at none
      rw [if_neg (by omega)]
      refine tallies.pass regular there (fun _ => phase) (fun _ got => nomatch got.2) queued ?_
      rw [left, units]
  | again phase mode pop =>
    obtain ⟨-, empty⟩ := Queues.queued_of_pop_error pop
    rw [Ledger.advance, phase]
    exact tallies.miss regular there phase (fun _ got => nomatch got.2) empty
  | @returned reply next phase pop =>
    have units := Queues.units_pop pop before.handle
    rw [Ledger.advance, phase]
    cases reply with
    | error failure =>
      obtain ⟨rfl, empty⟩ := Queues.queued_of_pop_error pop
      exact tallies.miss regular there phase (fun _ got => nomatch got.2) empty
    | ok fragment =>
      -- it returns the oldest fragment
      have taken := Queues.queued_of_pop_ok pop
      refine ⟨regular, ?_, tallies.holds.pop index _ _, ?_⟩
      · have covers := tallies.covers.pop index (l.returned ++ [(index, fragment)])
        rw [taken, List.length_cons, Nat.add_sub_cancel] at covers
        dsimp only
        rw [units]
        exact covers
      · have returns := tallies.returns
        rw [taken] at returns
        have got : Reader.Got before.handle fragment
            { before with phase := .returned (.ok fragment) } := ⟨rfl, rfl⟩
        exact returns.give there (fun _ got => nomatch phase.symm.trans got.2) got _

/-- Every action keeps the ledger and the state in agreement. -/
theorem act [Condition κ] (tallies : Tallies handle l s) {action : Action κ}
    (acted : s.act action = some next) :
    Tallies handle (System.enter handle l s next action) next := by
  have regular := tallies.regular.act acted
  cases action with
  | register condition =>
    cases acted
    have view := s.demux.queues.view_addSlot handle
    refine tallies.unmoved regular ?_ ?_ rfl
    · show (s.demux.register condition).2.queues.queued handle = _
      unfold Demux.register
      split
      · exact view.1
      · rfl
    · show (s.demux.register condition).2.queues.units handle = _
      unfold Demux.register
      split
      · exact view.2
      · rfl
  | start =>
    cases acted
    have same : s.demux.start.2.queues = s.demux.queues := by
      unfold Demux.start
      split
      · rfl
      · rfl
    refine tallies.unmoved regular ?_ ?_ rfl
    · rw [same]
    · rw [same]
  | work =>
    cases acted
    exact tallies.work regular
  | cancel | callStop =>
    cases acted
    exact tallies.unmoved regular rfl rfl rfl
  | goOnStop index =>
    obtain ⟨phase, after, d, -, stepped, rfl⟩ := System.act_goOnStop acted
    cases System.stopStep_inv stepped with
    | returned =>
      exact tallies.unmoved regular (Queues.queued_terminate _ _ handle)
        (Queues.units_terminate _ _ handle) rfl
    | _ => exact tallies.unmoved regular rfl rfl rfl
  | callRead target mode =>
    cases acted
    refine ⟨regular, tallies.covers, tallies.holds.call _, tallies.returns.call ?_⟩
    intro fragment got
    have phase := got.2
    cases mode with
    | _ => cases phase
  | goOnRead index =>
    obtain ⟨before, after, q, there, stepped, rfl⟩ := System.act_goOnRead acted
    have inside : index < s.readers.length := (List.getElem?_eq_some_iff.mp there).1
    simp only [System.enter, there, List.getElem?_set_self inside]
    by_cases mine : before.handle = handle
    · rw [if_pos mine]
      exact tallies.read regular there mine (System.readStep_inv stepped)
    · rw [if_neg mine]
      obtain ⟨same, queued, units⟩ := (System.readStep_inv stepped).elsewhere mine
      refine tallies.pass regular there (fun wrong => absurd wrong mine) ?_ queued units
      intro fragment got
      exact mine (same.symm.trans got.1)
  | expire index =>
    obtain ⟨before, after, there, expired, rfl⟩ := System.act_expire acted
    obtain ⟨phase, rfl, -⟩ := System.expireStep_inv expired
    exact tallies.pass regular there (fun _ => phase) (fun _ got => nomatch got.2) rfl rfl

/-- So does every run. -/
theorem watch [Condition κ] {t : System κ} {l' : Ledger} {actions : List (Action κ)}
    (tallies : Tallies handle l s) (ran : s.watch handle l actions = some (t, l')) :
    Tallies handle l' t := by
  induction actions generalizing s l with
  | nil =>
    cases ran
    exact tallies
  | cons action rest ih =>
    rw [System.watch] at ran
    cases acted : s.act action with
    | none =>
      rw [acted] at ran
      cases ran
    | some next =>
      rw [acted] at ran
      exact ih (tallies.act acted) ran

end Tallies

end Ledger

/-! ### Readers whose time runs out -/

/-- No pop answers that the reader's time has run out, for no worker ends with that. -/
theorem Demux.Regular.pop_ne_readTimeout {d : Demux κ} (regular : d.Regular) {handle : Handle}
    {next : Queues} : d.queues.pop handle ≠ (.error .readTimeout, next) := by
  intro pop
  unfold Queues.pop at pop
  split at pop
  · cases pop
  · split at pop
    · cases pop
    · split at pop
      · next failure recorded =>
        exact (regular.fatal failure recorded).copy.ne_readTimeout
          (Except.error.inj (Prod.mk.inj pop).1)
      · cases pop

variable [Condition κ] {s next : System κ} {action : Action κ} {index : Nat}
  {before after : Reader}

/-- The time of a reader runs out only while it waits, and there is no unit; and nothing
else happens then. -/
theorem System.Regular.timeout_inv (regular : s.Regular) (acted : s.act action = some next)
    (there : s.readers[index]? = some before) (later : next.readers[index]? = some after)
    (going : ∀ reply, before.phase ≠ .returned reply)
    (timeout : after.phase = .returned (.error .readTimeout)) :
    next.demux = s.demux ∧ before.phase = .waiting ∧
      s.demux.queues.units before.handle = 0 := by
  have other : next.readers[index]? = s.readers[index]? → False := by
    intro same
    rw [same, there] at later
    cases later
    exact going _ timeout
  have inside : index < s.readers.length := (List.getElem?_eq_some_iff.mp there).1
  cases action with
  | register | start | work | cancel | callStop =>
    cases acted
    exact absurd rfl other
  | callRead handle mode =>
    cases acted
    exact absurd (List.getElem?_append_left inside) other
  | goOnStop which =>
    obtain ⟨phase, stop, d, -, -, rfl⟩ := act_goOnStop acted
    exact absurd rfl other
  | goOnRead which =>
    obtain ⟨reader, reached, q, here, stepped, rfl⟩ := act_goOnRead acted
    by_cases same : which = index
    · subst same
      rw [there] at here
      cases here
      rw [List.getElem?_set_self inside] at later
      cases later
      -- what it may return is not that its time has run out
      cases readStep_inv stepped with
      | unknown => cases timeout
      | passed => cases timeout
      | again => cases timeout
      | returned _ pop =>
        cases timeout
        exact absurd pop regular.demux.pop_ne_readTimeout
    · exact absurd (List.getElem?_set_ne same) other
  | expire which =>
    obtain ⟨reader, reached, here, expired, rfl⟩ := act_expire acted
    by_cases same : which = index
    · subst same
      rw [there] at here
      cases here
      obtain ⟨phase, -, slot, found, held⟩ := expireStep_inv expired
      refine ⟨rfl, phase, ?_⟩
      rw [Queues.units_of_slot found]
      exact (Signal.pass?_eq_none held).1
    · exact absurd (List.getElem?_set_ne same) other

/-- **No lost wake-up.** Take any run of a demultiplexer from its making on, with any number
of readers, and the ledger of any handle by then; every run has one (`System.map_watch`). As
long as no delivery has found the counter of units at its maximum, which takes more than
`wordMax` deliveries, every queued fragment has a unit that nobody has taken, or a reader of
the handle that has taken one and not popped yet. So if the time of a reader runs out next,
nothing else happens, and there are other readers for all the queued fragments; none is queued
if no other reader is about to pop. And every fragment that was delivered is queued or was
returned by one reader, in the order of the deliveries. -/
theorem no_lost_wakeup {buffer : StreamBuffer} {handle : Handle} {actions : List (Action κ)}
    {l : Ledger} (ran : (System.fresh buffer).watch handle {} actions = some (s, l)) :
    (l.overflows = 0 → (s.demux.queues.queued handle).length ≤
        s.demux.queues.units handle + l.holders.length) ∧
    (l.delivered.length ≤ wordMax → l.overflows = 0) ∧
    l.Holds handle s.readers ∧
    l.Returns handle s.readers (s.demux.queues.queued handle) ∧
    ∀ action next index before after, s.act action = some next →
      s.readers[index]? = some before → before.handle = handle →
      (∀ reply, before.phase ≠ .returned reply) → next.readers[index]? = some after →
      after.phase = .returned (.error .readTimeout) →
      next.demux = s.demux ∧ index ∉ l.holders ∧
        (l.overflows = 0 → (s.demux.queues.queued handle).length ≤ l.holders.length ∧
          ((∀ other reader, other ≠ index → s.readers[other]? = some reader →
              reader.handle = handle → reader.phase ≠ .claimed) →
            s.demux.queues.queued handle = [])) := by
  have tallies := (Ledger.Tallies.fresh handle buffer).watch ran
  have covered := tallies.covers.covered
  refine ⟨?_, ?_, tallies.holds, tallies.returns, ?_⟩
  · intro room
    omega
  · intro few
    by_cases room : l.overflows = 0
    · exact room
    · have many := tallies.covers.overflowed room
      omega
  · intro action next index before after acted there mine going later timeout
    subst mine
    obtain ⟨same, waiting, empty⟩ := tallies.regular.timeout_inv acted there later going timeout
    have apart : index ∉ l.holders := by
      refine tallies.holds.not_mem there fun _ => ?_
      rw [waiting]
      exact fun wrong => nomatch wrong
    refine ⟨same, apart, fun room => ⟨by omega, fun alone => ?_⟩⟩
    -- whoever holds a unit is about to pop, so nobody does
    have nobody : l.holders = [] := by
      rw [List.eq_nil_iff_forall_not_mem]
      intro other member
      obtain ⟨reader, here, mine, claimed⟩ := tallies.holds.claimed other member
      refine alone other reader ?_ here mine claimed
      rintro rfl
      exact apart member
    rw [nobody] at covered
    apply List.eq_nil_of_length_eq_zero
    simp only [List.length_nil] at covered
    omega

/-- Two lines in one read. -/
def twoLines : StreamBuffer :=
  .wrap { inbound := { events := [⟨.data [97, 10, 98, 10], false, {}⟩] } } 4

/-- A reader takes the first line without waiting, and leaves its unit to another one, who
waits for nothing; a third one takes the unit of the second line, which is queued when the
time of a fourth reader runs out: two readers are about to pop it. -/
theorem twoLines_claimed :
    ∃ s l next, (System.fresh twoLines).watch ⟨0⟩ {}
        [.register (Delimiter.mk 10), .start, .work, .work, .work, .callRead ⟨0⟩ .immediate,
          .goOnRead 0, .callRead ⟨0⟩ .blocking, .goOnRead 1, .work, .work,
          .callRead ⟨0⟩ .blocking, .goOnRead 2, .callRead ⟨0⟩ .blocking] = some (s, l) ∧
      l = { delivered := [[97, 10], [98, 10]], returned := [(0, [97, 10])], holders := [2, 1] } ∧
      s.demux.queues.queued ⟨0⟩ = [[98, 10]] ∧ s.demux.queues.units ⟨0⟩ = 0 ∧
      s.act (.expire 3) = some next ∧ next.demux = s.demux ∧
      (s.demux.queues.queued ⟨0⟩).length ≤ l.holders.length := by
  have possible : ((System.fresh twoLines).watch ⟨0⟩ {}
      [.register (Delimiter.mk 10), .start, .work, .work, .work, .callRead ⟨0⟩ .immediate,
        .goOnRead 0, .callRead ⟨0⟩ .blocking, .goOnRead 1, .work, .work,
        .callRead ⟨0⟩ .blocking, .goOnRead 2, .callRead ⟨0⟩ .blocking]).map
      (fun last => (last.2, last.1.demux.queues.queued ⟨0⟩, last.1.demux.queues.units ⟨0⟩,
        last.1.readers[3]?.map (·.handle), (last.1.act (.expire 3)).isSome)) =
      some ({ delivered := [[97, 10], [98, 10]], returned := [(0, [97, 10])], holders := [2, 1] },
        [[98, 10]], 0, some ⟨0⟩, true) := by decide
  obtain ⟨⟨s, l⟩, ran, facts⟩ := Option.map_eq_some_iff.mp possible
  simp only [Prod.mk.injEq] at facts
  obtain ⟨ledger, queued, units, handle, expires⟩ := facts
  obtain ⟨next, acted⟩ := Option.isSome_iff_exists.mp expires
  obtain ⟨before, after, there, expired, same⟩ := System.act_expire acted
  obtain ⟨phase, returned, -⟩ := System.expireStep_inv expired
  have inside : 3 < s.readers.length := (List.getElem?_eq_some_iff.mp there).1
  have mine : before.handle = ⟨0⟩ := by
    rw [there] at handle
    exact Option.some.inj handle
  have later : next.readers[3]? = some after := by
    rw [same]
    exact List.getElem?_set_self inside
  obtain ⟨-, -, -, -, timeouts⟩ := no_lost_wakeup ran
  obtain ⟨unmoved, -, covered⟩ := timeouts _ next 3 before after acted there mine
    (fun _ wrong => nomatch phase.symm.trans wrong) later (by rw [returned])
  refine ⟨s, l, next, ran, ledger, queued, units, acted, unmoved, ?_⟩
  exact (covered (by rw [ledger])).1

end SocketDemux
