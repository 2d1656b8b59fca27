import PipelinedMachine.Proofs.Core.Exclusion

/-!
# Interrupts between instructions

An interrupt may be signalled in any tick: while a load waits for its answer, while a push is handed
from unit to unit, while another handler runs.  It is entered only where one instruction has ended
and the next has not begun, and a handler leaves everything but the registers it writes as it found
it.  This file follows a core through whole runs, with the links, the lines and the memory behind
them free to do anything in every tick.

* `Core.Run` — the ticks of a core from its reset on, of which only the last can end in a fault;
* `Core.Run.Enters`, `Core.Run.Completes`, `Core.Run.Returns` — a tick enters an interrupt, ends an
  instruction, or dispatches a return from a handler;
* `Core.Boundary` — what an entry finds and leaves behind;
* `Core.Run.interruptsAtomic` — **entry and return are atomic**.

Two invariants carry it.  `Standing.Attributed` says which instruction the units are at work on, so
that an entry knows what comes next in program order.  `Standing.Acquiring` holds from an entry up
to the jump to the handler.
-/

namespace PipelinedMachine

/-! ## Program order -/

/-- Where execution goes on after an instruction.  After a return from a handler that is not for the
registers to say. -/
def Instruction.successor? (instruction : Instruction) (registers : RegisterFile) : Option Word :=
  match instruction with
  | .nop => some registers.ip
  | .branch taken => some (taken.next registers).ip
  | .alu _ | .load _ | .store _ | .stack _ | .interrupt (.request _) => some registers.advance.ip
  | .interrupt .handlerReturn => none

namespace Occupancy

/-- Where the branch unit moves the instruction pointer once the units are done. -/
def successor (occupancy : Occupancy) (registers : RegisterFile) : Word :=
  match occupancy with
  | branch held => (held.instruction.next registers).ip
  | _ => registers.advance.ip

lemma resolve_ip (occupancy : Occupancy) (path : Datapath) :
    (occupancy.resolve path).registers.ip = occupancy.successor path.registers := by
  cases occupancy <;> rfl

lemma successor_of_ofInstruction? {entry : Fetched} {instruction : Instruction}
    {occupancy : Occupancy} (taken : ofInstruction? entry instruction = some occupancy)
    (busy : occupancy.stage ≠ .dispatch) (registers : RegisterFile) :
    instruction.successor? registers = some (occupancy.successor registers) := by
  rcases instruction with _ | _ | _ | _ | _ | (_ | _) | _ <;>
    simp only [ofInstruction?, Option.some.injEq, reduceCtorEq] at taken <;> subst taken
  case nop => simp [stage] at busy
  all_goals rfl

lemma ne_done_of_ofInstruction? {entry : Fetched} {instruction : Instruction}
    {occupancy : Occupancy} (taken : ofInstruction? entry instruction = some occupancy) :
    occupancy ≠ .done := by
  rcases instruction with _ | _ | _ | _ | _ | (_ | _) | _ <;>
    simp only [ofInstruction?, Option.some.injEq, reduceCtorEq] at taken <;> subst taken <;> simp

/-- In the branch stage only a branch is still in a unit. -/
lemma exists_entry_of_branchPredict {occupancy : Occupancy}
    (here : occupancy.stage = .branchPredict) (busy : occupancy ≠ .done) :
    ∃ entry, occupancy.entry? = some entry := by
  cases occupancy with
  | branch held => exact ⟨held.entry, rfl⟩
  | done => exact absurd rfl busy
  | idle | alu | load | store | stack | request => simp [stage] at here

section Work

variable {terminal : Terminal} {path after : Datapath} {occupancy later : Occupancy}

/-- No unit of the execution stage holds a branch, neither before its turn nor after it. -/
lemma Work.successor_eq (work : Work terminal path occupancy later after)
    (registers : RegisterFile) : later.successor registers = occupancy.successor registers := by
  cases work <;> rfl

lemma Work.exists_entry (work : Work terminal path occupancy later after) :
    ∃ entry, occupancy.entry? = some entry := by
  cases work <;> exact ⟨_, rfl⟩

end Work

end Occupancy

/-! ## One tick -/

namespace Standing

/-- The units are at work on the instruction that was dispatched last, which stands at the
instruction pointer.  While a handler is looked for, its interrupt is being handled. -/
structure Attributed (standing : Standing) (registers : RegisterFile) : Prop where
  working : standing.occupancy.stage ≠ .dispatch → ∃ entry instruction,
    standing.dispatched = some entry ∧ entry.address = registers.ip
      ∧ entry.code.decode = .ok instruction
      ∧ ∀ file, instruction.successor? file = some (standing.occupancy.successor file)
  handling : standing.fetch.searching ≠ none → standing.inInterrupt = true

/-- The handler of an interrupt is being looked for, or the jump to it is in the branch unit. -/
def Acquiring (standing : Standing) (ip : Word) : Prop :=
  standing.inInterrupt = true ∧ standing.savedIp = ip
    ∧ (standing.occupancy = .idle ∧ standing.fetch.searching ≠ none
      ∨ ∃ handler, standing.occupancy
          = .branch ⟨⟨ip, (Assembler.jump handler).encode⟩, .jump handler⟩)

section Turn

variable {terminal : Terminal} {standing later : Standing} {path after : Datapath}
  {issue : Option Dispatch} {outcome : CoreOutcome}

lemma Attributed.signal {registers : RegisterFile} (attributed : standing.Attributed registers)
    (raised : Bool) : (standing.signal raised).Attributed registers where
  working := by simpa using attributed.working
  handling := by simpa using attributed.handling

lemma Turn.attributed {breakpoint : Option Word}
    (turn : Turn terminal path standing later after issue (.ok breakpoint))
    (sound : standing.Sound path.registers path.stages)
    (attributed : standing.Attributed path.registers) : later.Attributed after.registers := by
  generalize result : (Except.ok breakpoint : CoreOutcome) = outcome at turn
  have handling {fetch : Fetch} {between before : Datapath}
      (supply : Fetch.Turn terminal before standing.fetch fetch between)
      (searching : fetch.searching ≠ none) : standing.inInterrupt = true := by
    refine attributed.handling fun reading => ?_
    exact searching (supply.searching_eq_none reading)
  cases turn with
  | undecodable | stray | trapped => contradiction
  | stalled fetch between here supply missing =>
    refine ⟨fun busy => absurd ?_ busy, handling supply⟩
    simp [here, Occupancy.stage]
  | issued fetch between entry instruction occupancy here supply found decoded taken =>
    refine ⟨fun busy => ?_, handling supply⟩
    exact ⟨entry, instruction, rfl, (Fetch.mem_of_find? found).1, decoded,
      Occupancy.successor_of_ofInstruction? taken busy⟩
  | returned fetch between entry here supply found decoded running =>
    have reading := (supply.forgotten sound.forgotten).searching_eq_none found
    refine ⟨fun busy => absurd ?_ busy, fun searching => absurd reading searching⟩
    simp [here, Occupancy.stage]
  | resolved fetch between here supply =>
    rw [enter]
    split
    · exact ⟨fun busy => absurd rfl busy, fun _ => rfl⟩
    · exact ⟨fun busy => absurd rfl busy, handling supply⟩
  | worked fetch between final occupancy here supply work =>
    refine ⟨fun _ => ?_, handling supply⟩
    obtain ⟨entry, instruction, last, address, decoded, order⟩ :=
      attributed.working (by simp [here])
    refine ⟨entry, instruction, last, ?_, decoded, fun file => ?_⟩
    · rw [address, ← supply.registers_eq, ← work.ip_eq]
      rfl
    · rw [order, work.successor_eq]

/-- A search begins in the step to the next instruction, and nowhere else. -/
lemma Turn.entered (turn : Turn terminal path standing later after issue outcome)
    (reading : standing.fetch.searching = none) (searching : later.fetch.searching ≠ none) :
    standing.occupancy.stage = .branchPredict ∧ standing.inInterrupt = false
      ∧ after.registers.ip = standing.occupancy.successor path.registers
      ∧ (∃ breakpoint, outcome = .ok breakpoint)
      ∧ later.occupancy = .idle ∧ later.Acquiring after.registers.ip := by
  cases turn with
  | stalled fetch _ _ supply | issued fetch _ _ _ _ _ supply | returned fetch _ _ _ supply
  | undecodable fetch _ _ _ _ supply | stray fetch _ _ _ supply | trapped fetch _ _ _ _ supply
  | worked fetch _ _ _ _ supply =>
    exact absurd (supply.searching_eq_none reading) searching
  | resolved fetch between here supply =>
    have moved : between.registers.ip = standing.occupancy.successor path.registers := by
      rw [supply.registers_eq, Occupancy.resolve_ip]
    rw [enter] at searching ⊢
    split at searching
    · next due =>
      rw [if_pos due]
      have free : standing.inInterrupt = false := by
        simp only [Bool.and_eq_true, Bool.not_eq_true'] at due
        exact due.2
      exact ⟨here, free, moved, ⟨_, rfl⟩, rfl, rfl, rfl, Or.inl ⟨rfl, searching⟩⟩
    · exact absurd (supply.searching_eq_none reading) searching

/-- An interrupt that is handled from now on has just been entered. -/
lemma Turn.searching_of_inInterrupt (turn : Turn terminal path standing later after issue outcome)
    (free : standing.inInterrupt = false) (handling : later.inInterrupt = true) :
    later.fetch.searching ≠ none := by
  cases turn with
  | resolved fetch between here supply =>
    rw [enter] at handling ⊢
    split at handling
    · next due =>
      rw [if_pos due]
      simp [Fetch.beginSearch]
    · simp [free] at handling
  | returned => simp at handling
  | stalled | issued | undecodable | stray | trapped | worked => simp [free] at handling

/-- While an interrupt is being handled, no other is entered. -/
lemma Turn.handling (turn : Turn terminal path standing later after issue outcome)
    (handling : standing.inInterrupt = true) :
    later.savedIp = standing.savedIp
      ∧ (standing.fetch.searching = none → later.fetch.searching = none) := by
  cases turn with
  | stalled _ _ _ supply | issued _ _ _ _ _ _ supply | returned _ _ _ _ supply
  | undecodable _ _ _ _ _ supply | stray _ _ _ _ supply | trapped _ _ _ _ _ supply
  | worked _ _ _ _ _ supply =>
    exact ⟨rfl, supply.searching_eq_none⟩
  | resolved fetch between here supply =>
    rw [enter, if_neg (by simp [handling])]
    exact ⟨rfl, supply.searching_eq_none⟩

/-- A return from a handler ends it, and is a fault where no handler runs. -/
lemma Turn.of_handlerReturn {dispatch : Dispatch}
    (turn : Turn terminal path standing later after (some dispatch) outcome)
    (decoded : dispatch.entry.code.decode = .ok (.interrupt .handlerReturn)) :
    standing.inInterrupt = true ∧ outcome = .ok none ∧ later.inInterrupt = false
        ∧ later.occupancy = .idle ∧ after.registers = path.registers.jump standing.savedIp
      ∨ standing.inInterrupt = false
        ∧ outcome = .error (dispatch.entry.fault .returnOutsideInterrupt) := by
  cases turn with
  | issued fetch between entry instruction occupancy here supply found decoded' taken =>
    rw [decoded, Except.ok.injEq] at decoded'
    subst decoded'
    simp [Occupancy.ofInstruction?] at taken
  | returned fetch between entry here supply found decoded' running =>
    refine Or.inl ⟨running, rfl, rfl, here, ?_⟩
    rw [← supply.registers_eq]
    rfl
  | undecodable fetch between entry cause here supply found decoded' =>
    rw [decoded] at decoded'
    contradiction
  | stray fetch between entry here supply found decoded' running =>
    exact Or.inr ⟨running, rfl⟩

/-- At the end of a search the jump to the handler is found, and it is an instruction. -/
lemma exists_jump_of_find? (sound : standing.Sound path.registers path.stages)
    (searching : standing.fetch.searching ≠ none) {fetch : Fetch}
    (supply : Fetch.Turn terminal path standing.fetch fetch after) {entry : Fetched}
    (found : fetch.find? after.registers.ip = some entry) :
    ∃ handler, entry = ⟨path.registers.ip, (Assembler.jump handler).encode⟩
      ∧ entry.code.decode = .ok (.branch (.jump handler)) := by
  obtain ⟨phase, phase_eq⟩ := Option.ne_none_iff_exists'.mp searching
  have member := Fetch.mem_line_of_find? found
  rcases supply.line_eq_of_search phase_eq sound.forgotten with
    ⟨_, vacant⟩ | ⟨handler, _, passed, ahead⟩
  · simp [vacant] at member
  · obtain rfl : entry = ⟨path.registers.ip, (Assembler.jump handler).encode⟩ := by
      simpa [Fetch.line, passed, ahead] using member
    exact ⟨handler, rfl, Instruction.decode_encode _⟩

/-- As long as nothing is found the search goes on. -/
lemma searching_of_find?_eq_none (sound : standing.Sound path.registers path.stages)
    (searching : standing.fetch.searching ≠ none) {fetch : Fetch}
    (supply : Fetch.Turn terminal path standing.fetch fetch after)
    (missing : fetch.find? after.registers.ip = none) : fetch.searching ≠ none := by
  obtain ⟨phase, phase_eq⟩ := Option.ne_none_iff_exists'.mp searching
  rcases supply.line_eq_of_search phase_eq sound.forgotten with
    ⟨ongoing, _⟩ | ⟨handler, _, _, ahead⟩
  · exact ongoing
  · rw [supply.registers_eq, Fetch.find?, ahead, List.find?_cons_of_pos (by simp)] at missing
    contradiction

/-- While the search goes on nothing happens to the registers, and what it ends with is the jump. -/
lemma Turn.acquiring (turn : Turn terminal path standing later after issue outcome)
    (sound : standing.Sound path.registers path.stages)
    (handling : standing.inInterrupt = true) (savedIp : standing.savedIp = path.registers.ip)
    (idle : standing.occupancy = .idle) (searching : standing.fetch.searching ≠ none) :
    (∃ breakpoint, outcome = .ok breakpoint) ∧ later.Acquiring after.registers.ip
      ∧ after.registers = path.registers := by
  cases turn with
  | stalled fetch between here supply missing =>
    have same := supply.registers_eq
    have ongoing := searching_of_find?_eq_none sound searching supply missing
    refine ⟨⟨_, rfl⟩, ⟨handling, ?_, Or.inl ⟨idle, ongoing⟩⟩, same⟩
    exact savedIp.trans (congrArg RegisterFile.ip same.symm)
  | issued fetch between entry instruction occupancy here supply found decoded taken =>
    have same := supply.registers_eq
    obtain ⟨handler, rfl, decodes⟩ := exists_jump_of_find? sound searching supply found
    rw [decodes, Except.ok.injEq] at decoded
    subst decoded
    obtain rfl := Option.some.inj taken
    refine ⟨⟨_, rfl⟩, ⟨handling, ?_, Or.inr ⟨handler, ?_⟩⟩, same⟩
    · exact savedIp.trans (congrArg RegisterFile.ip same.symm)
    · change _ = Occupancy.branch ⟨⟨between.registers.ip, _⟩, _⟩
      rw [same]
  | returned fetch between entry here supply found decoded
  | stray fetch between entry here supply found decoded =>
    obtain ⟨handler, rfl, decodes⟩ := exists_jump_of_find? sound searching supply found
    simp [decodes] at decoded
  | undecodable fetch between entry cause here supply found decoded =>
    obtain ⟨handler, rfl, decodes⟩ := exists_jump_of_find? sound searching supply found
    simp [decodes] at decoded
  | resolved _ _ here | worked _ _ _ _ here => simp [idle, Occupancy.stage] at here
  | trapped _ _ _ _ here => simp [idle] at here

/-- The jump moves the instruction pointer and nothing else. -/
lemma Turn.jumped (turn : Turn terminal path standing later after issue outcome)
    (handling : standing.inInterrupt = true) {entry : Fetched} {handler : Word}
    (jumping : standing.occupancy = .branch ⟨entry, .jump handler⟩) :
    (∃ breakpoint, outcome = .ok breakpoint) ∧ later.occupancy = .idle
      ∧ after.registers = path.registers.jump handler := by
  cases turn with
  | resolved fetch between here supply =>
    refine ⟨⟨_, rfl⟩, ?_, ?_⟩
    · rw [enter, if_neg (by simp [handling])]
    · change between.registers = _
      rw [supply.registers_eq, jumping]
      rfl
  | stalled _ _ here | issued _ _ _ _ _ here | returned _ _ _ here | undecodable _ _ _ _ here
  | stray _ _ _ here | trapped _ _ _ _ here => simp [jumping] at here
  | worked _ _ _ _ here => simp [jumping, Occupancy.stage] at here

/-- Before an instruction counts as done it has been in a unit. -/
lemma Turn.exists_entry_of_done (turn : Turn terminal path standing later after issue outcome)
    (busy : standing.occupancy ≠ .done) (done : later.occupancy = .done) :
    ∃ entry, standing.occupancy.entry? = some entry := by
  cases turn with
  | stalled | returned | undecodable | stray => exact absurd done busy
  | issued _ _ _ _ _ _ _ _ _ taken =>
    exact absurd done (Occupancy.ne_done_of_ofInstruction? taken)
  | resolved fetch between here supply =>
    rw [enter] at done
    split at done <;> simp at done
  | trapped _ _ held _ here => exact ⟨held.entry, by rw [here]; rfl⟩
  | worked _ _ _ _ _ _ work => exact work.exists_entry

end Turn

end Standing

/-! ## Runs of a core -/

namespace Core

/-- The core after so many ticks, each in an environment of its own. -/
def after (core : Core) (env : Nat → Environment) : Nat → Core
  | 0 => core
  | n + 1 => ((core.after env n).tick (env n)).1

/-- The ticks of a core from its reset on.  The links, the lines and the counters of every tick are
arbitrary.  A fault ends the run, so only the last tick can have one. -/
structure Run where
  id : Nat
  terminal : Terminal
  entry : Word
  env : Nat → Environment
  /-- Number of ticks. -/
  length : Nat
  live : ∀ i, i + 1 < length →
    ∃ breakpoint, (((reset id terminal entry).after env i).tick (env i)).2.2 = .ok breakpoint

namespace Run

variable (run : Run) (i : Nat)

/-- The core after the first `i` ticks. -/
def core : Core := (reset run.id run.terminal run.entry).after run.env i

/-- What tick `i` reports, the first tick being number 0. -/
def outcome : CoreOutcome := ((run.core i).tick (run.env i)).2.2

/-- What tick `i` dispatches. -/
def issue? : Option Dispatch := (run.core i).issue? (run.env i)

/-- Tick `i` enters an interrupt: the search for its handler begins. -/
def Enters : Prop :=
  (run.core i).pipeline.fetch.searching = none
    ∧ (run.core (i + 1)).pipeline.fetch.searching ≠ none

/-- Tick `i` ends an instruction: no unit holds it any more. -/
def Completes (entry : Fetched) : Prop :=
  (∃ breakpoint, run.outcome i = .ok breakpoint) ∧ entry ∈ (run.core i).pipeline.held
    ∧ entry ∉ (run.core (i + 1)).pipeline.held

/-- Tick `i` dispatches a return from a handler. -/
def Returns (dispatch : Dispatch) : Prop :=
  run.issue? i = some dispatch ∧ dispatch.entry.code.decode = .ok (.interrupt .handlerReturn)

end Run

/-- What an entry finds and what it leaves behind. -/
structure Boundary (before after : Core) : Prop where
  /-- The tick ends the stage in which the instruction pointer moves. -/
  stages : before.stages.current = .branchPredict ∧ after.stages.current = .dispatch
  /-- At most the branch that is being resolved was still in a unit, and now there is nothing. -/
  vacant : before.pipeline.executing = [] ∧ after.pipeline.held = []
  reading : LoadUnit.outstanding? before.pipeline.load = none
    ∧ LoadUnit.outstanding? after.pipeline.load = none
  handling : before.pipeline.inInterrupt = false ∧ after.pipeline.inInterrupt = true
  /-- What is saved is where execution goes on after the instruction dispatched last. -/
  next : ∃ entry instruction, before.pipeline.dispatched = some entry
    ∧ entry.address = before.registers.ip ∧ entry.code.decode = .ok instruction
    ∧ instruction.successor? before.registers = some after.pipeline.savedIp
  saved : after.pipeline.savedIp = after.registers.ip

/-- Entry and return are atomic with respect to instructions. -/
structure Run.InterruptsAtomic (run : Run) : Prop where
  /-- An interrupt is entered between two instructions. -/
  entering : ∀ i < run.length, run.Enters i → Boundary (run.core i) (run.core (i + 1))
  /-- Until an instruction completes, the registers stay as the entry left them. -/
  acquisition : ∀ i j, run.Enters i → i < j → j ≤ run.length →
    (∀ k, i < k → k < j → ∀ entry, ¬ run.Completes k entry) →
      (run.core j).registers = (run.core (i + 1)).registers
  /-- The first instruction to complete is the jump to the handler. -/
  jump : ∀ i j entry, run.Enters i → i < j → j < run.length →
    (∀ k, i < k → k < j → ∀ entry, ¬ run.Completes k entry) → run.Completes j entry →
      ∃ handler,
        entry = ⟨(run.core (i + 1)).pipeline.savedIp, (Assembler.jump handler).encode⟩
          ∧ (run.core (j + 1)).registers = (run.core (i + 1)).registers.jump handler
  /-- While an interrupt is being handled, no other is entered. -/
  handling : ∀ i < run.length, (run.core i).pipeline.inInterrupt = true →
    (run.core (i + 1)).pipeline.savedIp = (run.core i).pipeline.savedIp ∧ ¬ run.Enters i
  /-- A return goes back to where the interrupt was entered, and leaves the other registers as the
  handler left them. -/
  leaving : ∀ i < run.length, ∀ dispatch, run.Returns i dispatch →
    (run.core i).pipeline.inInterrupt = true →
      run.outcome i = .ok none ∧ (run.core (i + 1)).pipeline.inInterrupt = false
        ∧ ∃ e < i, run.Enters e ∧ (∀ k, e < k → k ≤ i → (run.core k).pipeline.inInterrupt = true)
          ∧ (run.core (i + 1)).registers
            = (run.core i).registers.jump (run.core (e + 1)).pipeline.savedIp
  /-- Between a return and the next entry an instruction completes. -/
  progress : ∀ i j dispatch, run.Returns i dispatch → run.Enters j → i < j → j < run.length →
    ∃ k entry, i < k ∧ k ≤ j ∧ run.Completes k entry
  /-- Outside a handler a return is a fault. -/
  stray : ∀ i < run.length, ∀ dispatch, run.Returns i dispatch →
    (run.core i).pipeline.inInterrupt = false →
      run.outcome i = .error (dispatch.entry.fault .returnOutsideInterrupt)

namespace Run

section Ticks

variable {run : Run} {i j : Nat} {standing later : Standing} {after : Datapath}

/-! ### What a tick of a run is -/

/-- The core stands in this situation, and its units are at work on the instruction dispatched
last. -/
def StandsAs (run : Run) (i : Nat) (standing : Standing) : Prop :=
  (run.core i).StandsAs standing ∧ standing.Attributed (run.core i).registers

/-- Tick `i` is a turn from one situation to the other.  The line has been looked at already. -/
structure Ticks (run : Run) (i : Nat) (standing later : Standing) (after : Datapath) : Prop where
  units : (run.core i).pipeline
    = { standing.pipeline with interruptPending := (run.core i).pipeline.interruptPending }
  sound : standing.Sound (run.core i).registers (run.core i).stages
  attributed : standing.Attributed (run.core i).registers
  turn : Standing.Turn (run.core i).terminal ((run.core i).path (run.env i)) standing later after
    (run.issue? i) (run.outcome i)
  next : run.core (i + 1) = ⟨(run.core i).id, (run.core i).terminal, after.registers,
    after.stages, later.pipeline⟩

lemma StandsAs.exists_ticks (stands : run.StandsAs i standing) :
    ∃ raised later after, run.Ticks i (standing.signal raised) later after := by
  obtain ⟨stands, attributed⟩ := stands
  obtain ⟨later, after, outcome, ticked, turn⟩ := Core.exists_turn stands (run.env i)
  have reports : run.outcome i = outcome := by rw [Run.outcome, ticked]
  rw [← reports] at turn
  refine ⟨_, later, after, ?_, stands.sound.signal _, attributed.signal _, turn, ?_⟩
  · rw [stands.pipeline]
    cases ((run.env i).lines.take (run.core i).id).1 <;> rfl
  · change ((run.core i).tick (run.env i)).1 = _
    rw [ticked]

lemma Ticks.stands (ticks : run.Ticks i standing later after)
    (live : ∃ breakpoint, run.outcome i = .ok breakpoint) : run.StandsAs (i + 1) later := by
  obtain ⟨breakpoint, live⟩ := live
  have turn := ticks.turn
  rw [live] at turn
  rw [StandsAs, ticks.next]
  exact ⟨⟨rfl, turn.sound ticks.sound⟩, turn.attributed ticks.sound ticks.attributed⟩

lemma outcome_of_inside (run : Run) (inside : i + 1 < run.length) :
    ∃ breakpoint, run.outcome i = .ok breakpoint :=
  run.live i inside

lemma exists_stands (run : Run) : ∀ i < run.length, ∃ standing, run.StandsAs i standing := by
  intro i
  induction i with
  | zero =>
    intro _
    refine ⟨_, standsAs_reset run.id run.terminal run.entry, ?_, ?_⟩
    · simp [Occupancy.stage]
    · simp
  | succ i previous =>
    intro inside
    obtain ⟨standing, stands⟩ := previous (by omega)
    obtain ⟨raised, later, after, ticks⟩ := stands.exists_ticks
    exact ⟨later, ticks.stands (run.outcome_of_inside inside)⟩

lemma exists_ticks (inside : i < run.length) :
    ∃ standing later after, run.Ticks i standing later after := by
  obtain ⟨standing, stands⟩ := run.exists_stands i inside
  obtain ⟨raised, later, after, ticks⟩ := stands.exists_ticks
  exact ⟨_, later, after, ticks⟩

lemma Ticks.held_eq (ticks : run.Ticks i standing later after) :
    (run.core i).pipeline.held = standing.occupancy.entry?.toList := by
  rw [ticks.units, ← standing.held_pipeline]
  rfl

lemma Ticks.held_next_eq (ticks : run.Ticks i standing later after) :
    (run.core (i + 1)).pipeline.held = later.occupancy.entry?.toList := by
  rw [ticks.next, later.held_pipeline]

/-- An instruction that was in a unit and is in none any more has completed. -/
lemma Ticks.completes (ticks : run.Ticks i standing later after)
    (live : ∃ breakpoint, run.outcome i = .ok breakpoint) {entry : Fetched}
    (before : standing.occupancy.entry? = some entry) (gone : later.occupancy.entry? = none) :
    run.Completes i entry := by
  refine ⟨live, ?_, ?_⟩
  · simp [ticks.held_eq, before]
  · simp [ticks.held_next_eq, gone]

/-! ### Entries -/

lemma Ticks.entered (ticks : run.Ticks i standing later after) (entered : run.Enters i) :
    standing.fetch.searching = none ∧ later.fetch.searching ≠ none := by
  obtain ⟨reading, searching⟩ := entered
  rw [ticks.units] at reading
  rw [ticks.next] at searching
  exact ⟨reading, searching⟩

lemma boundary_of_entered (inside : i < run.length) (entered : run.Enters i) :
    Boundary (run.core i) (run.core (i + 1)) := by
  obtain ⟨standing, later, after, ticks⟩ := run.exists_ticks inside
  obtain ⟨reading, searching⟩ := ticks.entered entered
  obtain ⟨stage, free, moved, live, idle, handling, saved, _⟩ :=
    ticks.turn.entered reading searching
  obtain ⟨stands, _⟩ := ticks.stands live
  have vacant : (run.core (i + 1)).pipeline.held = [] := by
    rw [ticks.held_next_eq, idle]
    rfl
  have unread : later.occupancy.load? = none := by rw [idle]; rfl
  have unread' : standing.occupancy.load? = none := by
    cases here : standing.occupancy <;> simp [here, Occupancy.stage] at stage <;> rfl
  obtain ⟨entry, instruction, last, address, decoded, order⟩ :=
    ticks.attributed.working (by simp [stage])
  refine ⟨⟨?_, ?_⟩, ⟨?_, vacant⟩, ⟨?_, ?_⟩, ⟨?_, ?_⟩,
    ⟨entry, instruction, ?_, address, decoded, ?_⟩, ?_⟩
  · rw [ticks.sound.stages]
    exact stage
  · rw [stands.sound.stages, idle]
    rfl
  · have none := standing.executing_pipeline
    rw [if_neg (by simp [stage])] at none
    rw [ticks.units, ← none]
    rfl
  · rw [ticks.units]
    simp [Standing.pipeline, unread', LoadUnit.outstanding?]
  · rw [ticks.next]
    simp [Standing.pipeline, unread, LoadUnit.outstanding?]
  · rw [ticks.units]
    exact free
  · rw [ticks.next]
    exact handling
  · rw [ticks.units]
    exact last
  · rw [order, ticks.next]
    exact congrArg some (moved.symm.trans saved.symm)
  · rw [ticks.next]
    exact saved

/-- As long as nothing completes after an entry, the handler is being acquired. -/
lemma acquiring_of_entered (entered : run.Enters i) (later : i < j) (inside : j ≤ run.length)
    (quiet : ∀ k, i < k → k < j → ∀ entry, ¬ run.Completes k entry) :
    ∃ standing, run.StandsAs j standing ∧ standing.Acquiring (run.core j).registers.ip
      ∧ (run.core j).registers = (run.core (i + 1)).registers := by
  induction j, later using Nat.le_induction with
  | base =>
    obtain ⟨standing, later, after, ticks⟩ := run.exists_ticks inside
    obtain ⟨reading, searching⟩ := ticks.entered entered
    obtain ⟨_, _, _, live, _, acquiring⟩ := ticks.turn.entered reading searching
    refine ⟨later, ticks.stands live, ?_, rfl⟩
    rw [ticks.next]
    exact acquiring
  | succ j later previous =>
    obtain ⟨standing, stands, ⟨handling, savedIp, acquiring⟩, same⟩ :=
      previous (by omega) fun k after before => quiet k after (by omega)
    obtain ⟨raised, later', after, ticks⟩ := stands.exists_ticks
    rw [← standing.signal_inInterrupt raised] at handling
    rw [← standing.signal_savedIp raised] at savedIp
    rw [← standing.signal_occupancy raised, ← standing.signal_fetch raised] at acquiring
    -- the handler is still searched for, or its jump is in a unit and completes in this tick
    rcases acquiring with ⟨idle, searching⟩ | ⟨handler, jumping⟩
    · obtain ⟨live, ongoing, unchanged⟩ :=
        ticks.turn.acquiring ticks.sound handling savedIp idle searching
      refine ⟨later', ticks.stands live, ?_, ?_⟩
      · rw [ticks.next]
        exact ongoing
      · rw [← same, ticks.next]
        exact unchanged
    · obtain ⟨live, idle, _⟩ := ticks.turn.jumped handling jumping
      have completes := ticks.completes live (by rw [jumping]; rfl) (by rw [idle]; rfl)
      exact absurd completes (quiet j later (by omega) _)

lemma jump_of_entered (entered : run.Enters i) (later : i < j) (inside : j < run.length)
    (quiet : ∀ k, i < k → k < j → ∀ entry, ¬ run.Completes k entry) {entry : Fetched}
    (completes : run.Completes j entry) :
    ∃ handler, entry = ⟨(run.core (i + 1)).pipeline.savedIp, (Assembler.jump handler).encode⟩
      ∧ (run.core (j + 1)).registers = (run.core (i + 1)).registers.jump handler := by
  have saved := (boundary_of_entered (by omega) entered).saved
  obtain ⟨standing, stands, ⟨handling, savedIp, acquiring⟩, same⟩ :=
    acquiring_of_entered entered later (by omega) quiet
  obtain ⟨raised, later', after, ticks⟩ := stands.exists_ticks
  have held : (standing.signal raised).occupancy.entry? = some entry := by
    rw [← Option.mem_toList, ← ticks.held_eq]
    exact completes.2.1
  rw [← standing.signal_inInterrupt raised] at handling
  rw [← standing.signal_occupancy raised] at acquiring
  rcases acquiring with ⟨idle, searching⟩ | ⟨handler, jumping⟩
  · rw [idle] at held
    contradiction
  · obtain ⟨_, _, jumped⟩ := ticks.turn.jumped handling jumping
    rw [jumping] at held
    obtain rfl := Option.some.inj held
    refine ⟨handler, ?_, ?_⟩
    · rw [saved, ← same]
    · rw [ticks.next, ← same]
      exact jumped

/-! ### Handling -/

lemma savedIp_of_handling (inside : i < run.length)
    (handling : (run.core i).pipeline.inInterrupt = true) :
    (run.core (i + 1)).pipeline.savedIp = (run.core i).pipeline.savedIp ∧ ¬ run.Enters i := by
  obtain ⟨standing, later, after, ticks⟩ := run.exists_ticks inside
  rw [ticks.units] at handling
  obtain ⟨savedIp, calm⟩ := ticks.turn.handling handling
  refine ⟨?_, fun entered => ?_⟩
  · rw [ticks.next, ticks.units]
    exact savedIp
  · obtain ⟨reading, searching⟩ := ticks.entered entered
    exact searching (calm reading)

/-- An interrupt that is being handled has been entered, and since then it has been handled. -/
lemma exists_entered (inside : i < run.length)
    (handling : (run.core i).pipeline.inInterrupt = true) :
    ∃ e < i, run.Enters e ∧ (∀ k, e < k → k ≤ i → (run.core k).pipeline.inInterrupt = true)
      ∧ (run.core i).pipeline.savedIp = (run.core (e + 1)).pipeline.savedIp := by
  induction i with
  | zero => simp [core, Core.after, reset] at handling
  | succ i previous =>
    by_cases before : (run.core i).pipeline.inInterrupt = true
    · obtain ⟨e, earlier, entered, since, savedIp⟩ := previous (by omega) before
      refine ⟨e, by omega, entered, fun k after upTo => ?_, ?_⟩
      · rcases Nat.le_succ_iff.mp upTo with upTo | rfl
        · exact since k after upTo
        · exact handling
      · rw [← savedIp, (savedIp_of_handling (by omega) before).1]
    · obtain ⟨standing, later, after, ticks⟩ := run.exists_ticks (i := i) (by omega)
      rw [Bool.not_eq_true, ticks.units] at before
      have reading : standing.fetch.searching = none := by
        by_contra searching
        have := ticks.attributed.handling searching
        exact Bool.noConfusion (before.symm.trans this)
      have searching : later.fetch.searching ≠ none := by
        refine ticks.turn.searching_of_inInterrupt before ?_
        rw [ticks.next] at handling
        exact handling
      refine ⟨i, by omega, ⟨?_, ?_⟩, fun k after upTo => ?_, rfl⟩
      · rw [ticks.units]
        exact reading
      · rw [ticks.next]
        exact searching
      · obtain rfl : k = i + 1 := by omega
        exact handling

/-! ### Returns -/

lemma of_returns (inside : i < run.length) {dispatch : Dispatch}
    (returns : run.Returns i dispatch) :
    ∃ standing later after, run.Ticks i standing later after
      ∧ (standing.inInterrupt = true ∧ run.outcome i = .ok none ∧ later.inInterrupt = false
          ∧ later.occupancy = .idle
          ∧ after.registers = (run.core i).registers.jump standing.savedIp
        ∨ standing.inInterrupt = false
          ∧ run.outcome i = .error (dispatch.entry.fault .returnOutsideInterrupt)) := by
  obtain ⟨standing, later, after, ticks⟩ := run.exists_ticks inside
  obtain ⟨issued, decoded⟩ := returns
  have turn := ticks.turn
  rw [issued] at turn
  exact ⟨standing, later, after, ticks, turn.of_handlerReturn decoded⟩

lemma registers_of_returns (inside : i < run.length) {dispatch : Dispatch}
    (returns : run.Returns i dispatch) (handling : (run.core i).pipeline.inInterrupt = true) :
    run.outcome i = .ok none ∧ (run.core (i + 1)).pipeline.inInterrupt = false
      ∧ (run.core (i + 1)).registers
        = (run.core i).registers.jump (run.core i).pipeline.savedIp := by
  obtain ⟨standing, later, after, ticks, ⟨_, live, free, _, registers⟩ | ⟨stray, _⟩⟩ :=
    of_returns inside returns
  · rw [ticks.next, ticks.units]
    exact ⟨live, free, registers⟩
  · rw [ticks.units] at handling
    exact Bool.noConfusion (stray.symm.trans handling)

lemma fault_of_returns (inside : i < run.length) {dispatch : Dispatch}
    (returns : run.Returns i dispatch) (free : (run.core i).pipeline.inInterrupt = false) :
    run.outcome i = .error (dispatch.entry.fault .returnOutsideInterrupt) := by
  obtain ⟨standing, later, after, ticks, ⟨handling, _⟩ | ⟨_, fault⟩⟩ :=
    of_returns inside returns
  · rw [ticks.units] at free
    exact Bool.noConfusion (free.symm.trans handling)
  · exact fault

/-- After a return nothing counts as done before an instruction has completed. -/
lemma ne_done_of_returns {dispatch : Dispatch} (returns : run.Returns i dispatch) (later : i < j)
    (inside : j < run.length)
    (quiet : ∀ k, i < k → k < j → ∀ entry, ¬ run.Completes k entry) :
    ∃ standing, run.StandsAs j standing ∧ standing.occupancy ≠ .done := by
  induction j, later using Nat.le_induction with
  | base =>
    obtain ⟨standing, later, after, ticks, ⟨_, live, _, idle, _⟩ | ⟨_, fault⟩⟩ :=
      of_returns (by omega) returns
    · exact ⟨later, ticks.stands ⟨_, live⟩, by simp [idle]⟩
    · obtain ⟨breakpoint, live⟩ := run.outcome_of_inside inside
      rw [live] at fault
      contradiction
  | succ j later previous =>
    obtain ⟨standing, stands, busy⟩ :=
      previous (by omega) fun k after before => quiet k after (by omega)
    obtain ⟨raised, later', after, ticks⟩ := stands.exists_ticks
    have live := run.outcome_of_inside inside
    refine ⟨later', ticks.stands live, fun done => ?_⟩
    rw [← standing.signal_occupancy raised] at busy
    obtain ⟨entry, held⟩ := ticks.turn.exists_entry_of_done busy done
    exact quiet j later (by omega) entry (ticks.completes live held (by rw [done]; rfl))

lemma exists_completes (returned : ∃ dispatch, run.Returns i dispatch) (entered : run.Enters j)
    (later : i < j) (inside : j < run.length) :
    ∃ k entry, i < k ∧ k ≤ j ∧ run.Completes k entry := by
  by_contra never
  push Not at never
  obtain ⟨dispatch, returns⟩ := returned
  obtain ⟨standing, stands, busy⟩ := ne_done_of_returns returns later inside
    fun k after before entry => never k entry after (by omega)
  obtain ⟨raised, later', after, ticks⟩ := stands.exists_ticks
  obtain ⟨reading, searching⟩ := ticks.entered entered
  obtain ⟨stage, _, _, live, idle, _⟩ := ticks.turn.entered reading searching
  -- an entry takes place in branch prediction, where a unit that is not done holds something
  rw [← standing.signal_occupancy raised] at busy
  obtain ⟨entry, held⟩ := Occupancy.exists_entry_of_branchPredict stage busy
  exact never j entry later le_rfl (ticks.completes live held (by rw [idle]; rfl))

end Ticks

/-! ## The main result -/

/-- Entry and return are atomic with respect to instructions, in every run. -/
theorem interruptsAtomic (run : Run) : run.InterruptsAtomic where
  entering := fun _ inside => boundary_of_entered inside
  acquisition := by
    intro i j entered later inside quiet
    obtain ⟨_, _, _, same⟩ := acquiring_of_entered entered later inside quiet
    exact same
  jump := fun _ _ _ entered later inside quiet => jump_of_entered entered later inside quiet
  handling := fun _ inside => savedIp_of_handling inside
  leaving := by
    intro i inside dispatch returns handling
    obtain ⟨live, free, registers⟩ := registers_of_returns inside returns handling
    obtain ⟨e, earlier, entered, since, savedIp⟩ := exists_entered inside handling
    refine ⟨live, free, e, earlier, entered, since, ?_⟩
    rw [registers, savedIp]
  progress := fun _ _ dispatch returns => exists_completes ⟨dispatch, returns⟩
  stray := fun _ inside _ => fault_of_returns inside

/-- What waits for the core in each tick of a run in which an interrupt is handled: a block of
instructions, the id of the interrupt, the address of its handler, and the handler. -/
def handledIncoming (i : Nat) : Option Message :=
  let set := Assembler.setLiteral (Assembler.register 1) 7
  let back := Assembler.interruptReturn
  match i with
  | 1 => some (Message.response 0 (assemble [set, set, set, set]).toList)
  | 5 => some (Message.response AddressMap.lastInterrupt [40])
  | 7 => some (Message.response (AddressMap.vectorStart + 40) [100])
  | 9 => some (Message.response 100 (assemble [back, back, back, back]).toList)
  | _ => none

/-- The line is raised in the second tick, and in the two ticks after it the link takes nothing. -/
def handledEnv (i : Nat) : Environment :=
  let free : Channel := Channel.opened 1 Interconnect.messageCapacity
  let incoming := match handledIncoming i with
    | some message => { free with transfer := .delivered message }
    | none => free
  let lines := InterruptLines.quiet 1
  { bus := if i = 2 ∨ i = 3 then ⟨#[]⟩ else ⟨#[free, incoming]⟩
    lines := if i = 1 then lines.raise 0 else lines
    counters := {} }

lemma live_handled : ∀ i < 10,
    (((reset 0 ⟨0⟩ 0).after handledEnv i).tick (handledEnv i)).2.2 = .ok none := by
  decide +kernel

/-- A run in which an interrupt is handled from beginning to end. -/
def handled : Run where
  id := 0
  terminal := ⟨0⟩
  entry := 0
  env := handledEnv
  length := 10
  live := fun i inside => ⟨none, live_handled i (Nat.lt_of_succ_lt inside)⟩

/-- The interrupt is entered in tick 3, the jump to its handler completes in tick 8, and the handler
returns in tick 9. -/
theorem interruptsAtomic_handled :
    handled.InterruptsAtomic ∧ handled.Enters 3
      ∧ handled.Completes 8 ⟨2, (Assembler.jump 100).encode⟩
      ∧ (∃ dispatch, handled.Returns 9 dispatch)
      ∧ (handled.core 9).pipeline.inInterrupt = true ∧ (handled.core 10).registers.ip = 2 := by
  have issued : (handled.issue? 9).map Dispatch.entry
      = some ⟨100, Assembler.interruptReturn.encode⟩ := by decide +kernel
  obtain ⟨dispatch, issued, entry⟩ := Option.map_eq_some_iff.mp issued
  refine ⟨handled.interruptsAtomic, ⟨by decide +kernel, by decide +kernel⟩,
    ⟨⟨none, live_handled 8 (by decide)⟩, by decide +kernel, by decide +kernel⟩,
    ⟨dispatch, issued, ?_⟩, by decide +kernel, by decide +kernel⟩
  rw [entry]
  exact Instruction.decode_encode Assembler.interruptReturn

end Run

end Core

end PipelinedMachine
