import PipelinedMachine.Proofs.Core.Interruption
import PipelinedMachine.Proofs.Core.Reads

/-!
# The search for a handler, tick by tick

An interrupt that is pending in a core stays pending until a search for its handler begins, and a
search goes from one phase to the next until the jump to the handler is dispatched.  This file says
so of a single tick, whatever is at the other end of the link.

* `Core.Steady.pending` — a signal is kept, or a search begins;
* `Core.Searched` — everything that a tick can do to a search;
* **`Core.Steady.searched`** — the list is complete;
* `Core.Steady.ip_of_jump` — the tick after a jump has been dispatched enters the handler.
-/

namespace PipelinedMachine

open Interconnect

/-! ## Turns -/

namespace Standing.Turn

variable {near : Terminal} {path after : Datapath} {standing later : Standing}
  {issue : Option Dispatch} {outcome : CoreOutcome}

/-- A pending interrupt stays pending until it is entered. -/
lemma pending (turn : Turn near path standing later after issue outcome)
    (sound : standing.Sound path.registers path.stages)
    (pending : standing.interruptPending = true) :
    later.interruptPending = true
      ∨ standing.fetch.searching = none ∧ later.fetch.searching = some .askId := by
  cases turn with
  | resolved fetch between here supply =>
    have reading : standing.fetch.searching = none := by
      by_contra searching
      simp [sound.searching searching] at here
    rw [enter]
    split
    · exact Or.inr ⟨reading, rfl⟩
    · exact Or.inl pending
  | stalled | issued | returned | undecodable | stray | trapped | worked => exact Or.inl pending

/-- A search begins at its beginning. -/
lemma begins (turn : Turn near path standing later after issue outcome)
    (reading : standing.fetch.searching = none) :
    later.fetch.searching = none ∨ later.fetch.searching = some .askId := by
  cases turn with
  | resolved fetch between here supply =>
    rw [enter]
    split
    · exact Or.inr rfl
    · exact Or.inl (supply.searching_eq_none reading)
  | stalled _ _ _ supply | issued _ _ _ _ _ _ supply | returned _ _ _ _ supply
  | undecodable _ _ _ _ _ supply | stray _ _ _ _ supply | trapped _ _ _ _ _ supply
  | worked _ _ _ _ _ supply => exact Or.inl (supply.searching_eq_none reading)

/-- While a handler is looked for, a tick is fetch's turn, and at the end of the search the dispatch
of the jump. -/
lemma searched {breakpoint : Option Word}
    (turn : Turn near path standing later after issue (.ok breakpoint))
    (sound : standing.Sound path.registers path.stages)
    (searching : standing.fetch.searching ≠ none) :
    ∃ between, Fetch.Turn near path standing.fetch later.fetch between
      ∧ between.bus = after.bus
      ∧ ∀ handler, later.fetch.ahead
          = [⟨path.registers.ip, (Assembler.jump handler).encode⟩] →
        later.fetch.passed = [] →
        later.occupancy
          = .branch ⟨⟨path.registers.ip, (Assembler.jump handler).encode⟩, .jump handler⟩ := by
  have stage := sound.searching searching
  generalize result : (Except.ok breakpoint : CoreOutcome) = outcome at turn
  cases turn with
  | undecodable | stray | trapped => contradiction
  | stalled fetch between here supply missing =>
    refine ⟨between, supply, rfl, fun handler ahead _ => ?_⟩
    rw [Fetch.find?, ahead, supply.registers_eq, List.find?_cons_of_pos (by simp)] at missing
    contradiction
  | issued fetch between entry instruction occupancy here supply found decoded taken =>
    refine ⟨between, supply, rfl, fun handler ahead _ => ?_⟩
    rw [Fetch.find?, ahead, supply.registers_eq, List.find?_cons_of_pos (by simp),
      Option.some.injEq] at found
    subst found
    rw [Instruction.decode_encode, Except.ok.injEq] at decoded
    subst decoded
    exact (Option.some.inj taken).symm
  | returned fetch between entry here supply found decoded =>
    obtain ⟨handler, rfl, decodes⟩ := exists_jump_of_find? sound searching supply found
    simp [decodes] at decoded
  | resolved _ _ here | worked _ _ _ _ here => simp [here] at stage

/-- A jump moves the instruction pointer. -/
lemma ip_of_jump (turn : Turn near path standing later after issue outcome) {entry : Fetched}
    {handler : Word} (jumping : standing.occupancy = .branch ⟨entry, .jump handler⟩) :
    after.registers.ip = handler := by
  cases turn with
  | resolved fetch between here supply =>
    change between.registers.ip = _
    rw [supply.registers_eq, Occupancy.resolve_ip, jumping]
    rfl
  | stalled _ _ here | issued _ _ _ _ _ here | returned _ _ _ here | undecodable _ _ _ _ here
  | stray _ _ _ here | trapped _ _ _ _ here => simp [jumping] at here
  | worked _ _ _ _ here => simp [jumping, Occupancy.stage] at here

end Standing.Turn

/-! ## Cores -/

namespace Core

/-- Everything that a tick can do to a search, with `bus` as it is before the tick. -/
inductive Searched (bus : Interconnect) (core later : Core) : HandlerSearch → Prop where
  /-- The link has not taken the question yet, or the answer has not come. -/
  | waits (phase : HandlerSearch) (same : later.pipeline.fetch.searching = some phase) :
      Searched bus core later phase
  | asksId (next : later.pipeline.fetch.searching = some .awaitId) : Searched bus core later .askId
  | getsId (answer : Message)
      (came : bus.answer? core.terminal AddressMap.lastInterrupt = some answer)
      (fresh : core.pipeline.fetch.outstanding ≠ some AddressMap.lastInterrupt)
      (next : later.pipeline.fetch.searching = some (.askHandler answer.value)) :
      Searched bus core later .awaitId
  | asksHandler (id : Word) (next : later.pipeline.fetch.searching = some (.awaitHandler id)) :
      Searched bus core later (.askHandler id)
  | getsHandler (id : Word) (answer : Message)
      (came : bus.answer? core.terminal (AddressMap.vectorStart + id) = some answer)
      (fresh : core.pipeline.fetch.outstanding ≠ some (AddressMap.vectorStart + id))
      (next : later.pipeline.fetch.searching = none)
      (dispatched : later.pipeline.branch = some
        ⟨⟨core.registers.ip, (Assembler.jump answer.value).encode⟩, .jump answer.value⟩) :
      Searched bus core later (.awaitHandler id)

namespace Steady

variable {core later : Core} {env rest : Environment} {breakpoint : Option Word}

/-- A tick without a fault is a turn that leaves the core steady. -/
lemma exists_turn (steady : core.Steady) (ticked : core.tick env = (later, rest, .ok breakpoint)) :
    ∃ standing standing' after, core.StandsAs standing
      ∧ later.StandsAs standing' ∧ after.bus = rest.bus ∧ after.registers = later.registers
      ∧ Standing.Turn core.terminal (core.path env) (standing.signal (env.lines.take core.id).1)
          standing' after (core.issue? env) (.ok breakpoint) := by
  obtain ⟨standing, stands, requesting⟩ := steady
  obtain ⟨standing', after, outcome, equal, turn⟩ := Core.exists_turn stands env
  rw [ticked] at equal
  obtain ⟨rfl, rfl, rfl⟩ := by simpa only [Prod.mk.injEq] using equal
  exact ⟨standing, standing', after, stands, ⟨rfl, turn.sound (stands.sound.signal _)⟩, rfl, rfl,
    turn⟩

/-- A signal stays pending until a search begins. -/
theorem pending (steady : core.Steady) (ticked : core.tick env = (later, rest, .ok breakpoint))
    (signalled : env.lines.isRaised core.id = true ∨ core.pipeline.interruptPending = true) :
    later.pipeline.interruptPending = true
      ∨ core.pipeline.fetch.searching = none
        ∧ later.pipeline.fetch.searching = some .askId := by
  obtain ⟨standing, standing', after, stands, stands', -, -, turn⟩ := steady.exists_turn ticked
  have pending : (standing.signal (env.lines.take core.id).1).interruptPending = true := by
    rw [Standing.signal, InterruptLines.take]
    rcases signalled with raised | pending
    · rw [if_pos raised]
      rfl
    · rw [stands.pipeline] at pending
      split <;> split <;> first | exact pending | rfl
  have kept := turn.pending (stands.sound.signal _) pending
  rw [Standing.signal_fetch] at kept
  rwa [stands.pipeline, stands'.pipeline]

/-- A search begins at its beginning. -/
lemma begins (steady : core.Steady) (ticked : core.tick env = (later, rest, .ok breakpoint))
    (reading : core.pipeline.fetch.searching = none) :
    later.pipeline.fetch.searching = none
      ∨ later.pipeline.fetch.searching = some .askId := by
  obtain ⟨standing, standing', after, stands, stands', -, -, turn⟩ := steady.exists_turn ticked
  rw [stands.pipeline] at reading
  rw [stands'.pipeline]
  exact turn.begins (by rwa [Standing.signal_fetch])

/-- While a handler is looked for, a tick of the core is a turn of fetch, and at the end of the
search the dispatch of the jump. -/
lemma exists_supply (steady : core.Steady)
    (ticked : core.tick env = (later, rest, .ok breakpoint))
    (searching : core.pipeline.fetch.searching ≠ none) :
    (core.pipeline.fetch.ahead = [] ∧ core.pipeline.fetch.passed = [])
      ∧ ∃ path between, path.bus = env.bus ∧ path.registers = core.registers
        ∧ between.bus = rest.bus
        ∧ Fetch.Turn core.terminal path core.pipeline.fetch later.pipeline.fetch between
        ∧ ∀ handler, later.pipeline.fetch.ahead
            = [⟨core.registers.ip, (Assembler.jump handler).encode⟩] →
          later.pipeline.fetch.passed = [] →
          later.pipeline.branch = some
            ⟨⟨core.registers.ip, (Assembler.jump handler).encode⟩, .jump handler⟩ := by
  obtain ⟨standing, standing', after, stands, stands', bus, -, turn⟩ := steady.exists_turn ticked
  have own : core.pipeline.fetch = standing.fetch := by
    rw [stands.pipeline, Standing.pipeline_fetch]
  have now : later.pipeline.fetch = standing'.fetch := by
    rw [stands'.pipeline, Standing.pipeline_fetch]
  rw [own] at searching
  obtain ⟨between, supply, left, dispatched⟩ := turn.searched (stands.sound.signal _)
    (by simpa using searching)
  rw [Standing.signal_fetch] at supply
  rw [own, now]
  refine ⟨stands.sound.forgotten searching, core.path env, between, rfl, rfl, left.trans bus,
    supply, fun handler ahead passed => ?_⟩
  rw [stands'.pipeline, Standing.pipeline, dispatched handler ahead passed]
  rfl

/-- What a tick does to a search is one of the things listed. -/
theorem searched (steady : core.Steady) (ticked : core.tick env = (later, rest, .ok breakpoint))
    {phase : HandlerSearch} (searching : core.pipeline.fetch.searching = some phase) :
    Searched env.bus core later phase := by
  obtain ⟨⟨ahead, passed⟩, path, between, bus, registers, -, supply, dispatched⟩ :=
    steady.exists_supply ticked (by simp [searching])
  rw [← bus]
  generalize supplied : later.pipeline.fetch = fetch at supply dispatched
  cases supply with
  | received _ _ reading | awaited _ reading | asked _ _ reading | refused _ reading
  | satisfied reading =>
    rw [reading] at searching
    contradiction
  | searched _ _ _ same fresh step =>
    obtain rfl := Option.some.inj (searching.symm.trans same)
    have apart {address : Word} {answer : Message}
        (came : path.bus.answer? core.terminal address = some answer) :
        core.pipeline.fetch.outstanding ≠ some address := fun outstanding => by
      rw [fresh address outstanding] at came
      contradiction
    cases step with
    | askedId => exact .asksId (by rw [supplied])
    | gotId answer came => exact .getsId answer came (apart came) (by rw [supplied])
    | askedHandler id => exact .asksHandler id (by rw [supplied])
    | gotHandler id answer came =>
      exact .getsHandler id answer came (apart came) (by rw [supplied])
        (dispatched answer.value (by rw [ahead, registers]; rfl) passed)
    | waited => exact .waits _ (by rw [supplied]; exact searching)
  | dropped _ address answer _ _ same outstanding came step =>
    obtain rfl := Option.some.inj (searching.symm.trans same)
    -- the stale answer was all that waited
    have nothing (address : Word) (answer : Message) :
        (path.bus.clear core.terminal).answer? core.terminal address ≠ some answer := by
      rw [answer?, message?_clear]
      simp
    cases step with
    | askedId => exact .asksId (by rw [supplied])
    | gotId answer came => exact absurd came (nothing _ _)
    | askedHandler id => exact .asksHandler id (by rw [supplied])
    | gotHandler id answer came => exact absurd came (nothing _ _)
    | waited => exact .waits _ (by rw [supplied]; exact searching)

/-- The tick after a jump has been dispatched moves the instruction pointer. -/
theorem ip_of_jump (steady : core.Steady) (ticked : core.tick env = (later, rest, .ok breakpoint))
    {entry : Fetched} {handler : Word}
    (jumping : core.pipeline.branch = some ⟨entry, .jump handler⟩) :
    later.registers.ip = handler := by
  obtain ⟨standing, standing', after, stands, -, -, registers, turn⟩ := steady.exists_turn ticked
  rw [stands.pipeline] at jumping
  have held : standing.occupancy = .branch ⟨entry, .jump handler⟩ := by
    cases here : standing.occupancy <;> simp_all [Standing.pipeline, Occupancy.branch?]
  rw [← registers]
  exact turn.ip_of_jump (by rwa [Standing.signal_occupancy])

end Steady

end Core

end PipelinedMachine
