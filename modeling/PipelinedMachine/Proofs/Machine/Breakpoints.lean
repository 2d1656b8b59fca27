import PipelinedMachine.Proofs.Core.Turn
import PipelinedMachine.Proofs.Machine.Service

/-!
# What the host learns of breakpoints

A breakpoint is executed by the branch unit of a core, and the outcome of the tick names it.  An
outcome has room for one address, and a fault takes its place.  So a machine with one core reports
every breakpoint that it executes, and a machine with several reports, of those that fall into one
tick, the first core's, and none if a core faults in that tick.  No run that is to end at a
breakpoint goes on past one.

* `Core.break?`, `Machine.breaks` — the breakpoints that a tick executes, core by core;
* `Core.outcome_tick` — a core reports each of its own;
* `Machine.outcome_tick` — what the outcome of a tick says about them;
* `Machine.turns`, `Machine.tick_eq_error_iff` — a tick in which a core faults gives that fault;
* `Machine.EndsAt`, `Machine.runOn_endsAt` — a run that ends at breakpoints;
* **`Machine.breakpoints_reported`** — the addresses reported in a run are the first of every tick
  that does not fault, and they are all of them when nothing coincides;
* `Machine.breakpoint_lost` — two ticks of machines with two cores that lose one.
-/

namespace PipelinedMachine

/-! ## One core -/

/-- The address of the breakpoint that the next tick of a core executes: the branch unit holds it,
and it is the branch unit's turn. -/
def Core.break? (core : Core) : Option Word :=
  if core.stages.current = .branchPredict then
    match core.pipeline.branch with
    | some held => if held.instruction = .breakpoint then some held.entry.address else none
    | none => none
  else none

namespace Fetch

variable {terminal : Terminal} {path after : Datapath} {fetch later : Fetch}

lemma SearchTurn.current_eq {phase : HandlerSearch}
    (step : SearchTurn terminal path fetch phase later after) :
    after.stages.current = path.stages.current := by
  cases step <;> rfl

/-- Fetch can ask for a stage, and the stage of this tick stays what it is. -/
lemma Turn.current_eq (turn : Turn terminal path fetch later after) :
    after.stages.current = path.stages.current := by
  cases turn with
  | received | awaited | asked | refused | satisfied => rfl
  | searched _ _ _ _ _ step => exact step.current_eq
  | dropped _ _ _ _ _ _ _ _ step => exact step.current_eq

end Fetch

namespace Pipeline

/-- The branch unit's turn reports the breakpoint that it executes. -/
lemma resolveBranch_breakpoint (pipeline : Pipeline) (path : Datapath) :
    (pipeline.resolveBranch path).2.2
        = (if path.stages.current = .branchPredict then
            match pipeline.branch with
            | some held => if held.instruction = .breakpoint then some held.entry.address else none
            | none => none
          else none)
      ∧ (pipeline.resolveBranch path).2.1.stages.current = path.stages.current := by
  by_cases here : path.stages.current = .branchPredict
  · cases held : pipeline.branch <;>
      simp [resolveBranch, BranchUnit.tick, Datapath.isIn, here, held, Datapath.request,
        Datapath.record, StageControl.request]
  · simp [Standing.resolveBranch_of_ne here, here]

/-- A tick reports the breakpoint that its branch unit executes.  In that stage no unit faults. -/
lemma outcome_tick (pipeline : Pipeline) (terminal : Terminal) (path : Datapath) :
    (∀ breakpoint, (pipeline.tick terminal path).2.2 = .ok breakpoint →
        breakpoint = (pipeline.resolveBranch path).2.2)
      ∧ ∀ fault, (pipeline.tick terminal path).2.2 = .error fault →
        path.stages.current ≠ .branchPredict := by
  obtain ⟨-, kept⟩ := pipeline.resolveBranch_breakpoint path
  rw [tick]
  generalize pipeline.resolveBranch path = resolved at kept ⊢
  obtain ⟨pipeline, moved, breakpoint⟩ := resolved
  have supply := (Fetch.turn_tick pipeline.fetch terminal moved).current_eq
  change (pipeline.supply terminal moved).2.stages.current = _ at supply
  simp only at kept ⊢
  generalize pipeline.supply terminal moved = supplied at supply ⊢
  obtain ⟨pipeline, after⟩ := supplied
  simp only at supply ⊢
  constructor
  · intro reported ok
    split at ok
    · contradiction
    · split at ok
      · contradiction
      · exact (Except.ok.inj ok).symm
  · intro fault failed here
    have still : after.stages.current = .branchPredict := supply.trans (kept.trans here)
    rw [Standing.dispatch_of_ne (by simp [still])] at failed
    simp only at failed
    rw [Standing.compute_of_ne (by simp [still])] at failed
    contradiction

end Pipeline

/-- **A core reports the breakpoint that it executes**, and does not fault in that tick. -/
theorem Core.outcome_tick (core : Core) (env : Environment) :
    (∀ breakpoint, (core.tick env).2.2 = .ok breakpoint → breakpoint = core.break?)
      ∧ ∀ fault, (core.tick env).2.2 = .error fault → core.break? = none := by
  obtain ⟨id, terminal, registers, stages, pipeline⟩ := core
  obtain ⟨bus, lines, counters⟩ := env
  -- the line that is taken first has no part in it
  have signalled : ∀ raised : Bool,
      (if raised then { pipeline with interruptPending := true } else pipeline).branch
        = pipeline.branch := by
    intro raised
    cases raised <;> rfl
  obtain ⟨ok, failed⟩ := Pipeline.outcome_tick
    (if (lines.take id).1 then { pipeline with interruptPending := true } else pipeline) terminal
    ⟨registers, stages, counters, bus⟩
  refine ⟨fun breakpoint reported => ?_, fun fault faulted => ?_⟩
  · rw [ok breakpoint reported, (Pipeline.resolveBranch_breakpoint _ _).1, signalled]
    rfl
  · rw [break?, if_neg (failed fault faulted)]

/-! ## One tick of a machine -/

namespace Processor

/-- The breakpoints that the cores execute in their turns, in order.  A fault ends the turns. -/
def breaks : List Core → Environment → List Word
  | [], _ => []
  | core :: cores, env =>
    core.break?.toList ++
      match core.tick env with
      | (_, _, .error _) => []
      | (_, rest, .ok _) => breaks cores rest

/-- Of the breakpoints of one tick the first is reported. -/
lemma outcome_tickCores {cores later : List Core} {env rest : Environment}
    {breakpoint : Option Word} (ticked : tickCores cores env = (later, rest, .ok breakpoint)) :
    breakpoint = (breaks cores env).head? := by
  induction cores generalizing later env rest breakpoint with
  | nil =>
    obtain ⟨-, -, rfl⟩ := by simpa only [tickCores, Prod.mk.injEq, Except.ok.injEq] using ticked
    rfl
  | cons core cores ih =>
    have own := core.outcome_tick env
    simp only [tickCores] at ticked
    simp only [breaks]
    generalize core.tick env = turn at own ticked ⊢
    obtain ⟨core', between, fault | first⟩ := turn
    · simp at ticked
    · simp only at ticked
      split at ticked
      · simp at ticked
      · next second _ later' turns =>
        obtain ⟨-, -, rfl⟩ := by simpa only [Prod.mk.injEq, Except.ok.injEq] using ticked
        rw [ih turns, own.1 first rfl, List.head?_append, Option.head?_toList]

/-- The cores that have their turns in a tick, each with what it finds. -/
def turns : List Core → Environment → List (Core × Environment)
  | [], _ => []
  | core :: cores, env =>
    (core, env) ::
      match core.tick env with
      | (_, _, .error _) => []
      | (_, rest, .ok _) => turns cores rest

/-- The turns end in a fault when one of them does, and the fault is its own. -/
lemma tickCores_eq_error_iff {cores : List Core} {env : Environment} {fault : Fault} :
    (tickCores cores env).2.2 = .error fault
      ↔ ∃ turn ∈ turns cores env, (turn.1.tick turn.2).2.2 = .error fault := by
  induction cores generalizing env with
  | nil => simp [tickCores, turns]
  | cons core cores ih =>
    simp only [tickCores, turns, List.mem_cons, exists_eq_or_imp]
    generalize core.tick env = turn
    obtain ⟨core', between, other | first⟩ := turn
    · simp
    · simp only [reduceCtorEq, false_or]
      rw [← ih]
      generalize tickCores cores between = rest
      obtain ⟨cores', after, other | second⟩ := rest <;> simp

/-- A core on its own that faults executes no breakpoint. -/
lemma breaks_of_fault {core later : Core} {env rest : Environment} {fault : Fault}
    (ticked : core.tick env = (later, rest, .error fault)) : breaks [core] env = [] := by
  have own := (core.outcome_tick env).2 fault (by rw [ticked])
  simp [breaks, own, ticked]

lemma length_breaks_single (core : Core) (env : Environment) : (breaks [core] env).length ≤ 1 := by
  rw [breaks, List.length_append]
  split <;> cases core.break? <;> simp [breaks]

end Processor

namespace Machine

/-- The breakpoints that the next tick of a machine executes. -/
def breaks (machine : Machine) : List Word :=
  match machine.fault? with
  | some _ => []
  | none => Processor.breaks machine.processor.cores machine.environment

/-- The outcome of a tick names the first breakpoint that was executed in it. -/
theorem outcome_tick {machine : Machine} {outcome : TickOutcome}
    (live : machine.tick.2 = .ok outcome) : outcome = Machine.outcome machine.breaks.head? := by
  obtain ⟨config, bus, ⟨boot, others, router, controller, lines⟩, ram, hub, rom, display, disk,
    keyboard, counters, fault?, ticks⟩ := machine
  cases fault? with
  | some fault => simp [tick] at live
  | none =>
    simp only [tick, Processor.tick] at live
    generalize cores : Processor.tickAll boot others ⟨bus, lines, counters⟩ = result at live
    obtain ⟨boot', others', ⟨bus', lines', counters'⟩, fault | breakpoint⟩ := result
    · simp at live
    · obtain rfl := Except.ok.inj live
      rw [Processor.outcome_tickCores (Traffic.tickCores_of_tickAll cores)]
      rfl

/-- The cores that have their turns in the next tick of a machine. -/
def turns (machine : Machine) : List (Core × Environment) :=
  match machine.fault? with
  | some _ => []
  | none => Processor.turns machine.processor.cores machine.environment

/-- **A tick in which a core faults gives that fault**, and no other. -/
theorem tick_eq_error_iff {machine : Machine} (running : machine.fault? = none) {fault : Fault} :
    machine.tick.2 = .error fault
      ↔ ∃ turn ∈ machine.turns, (turn.1.tick turn.2).2.2 = .error fault := by
  rw [turns, running]
  change _ ↔ ∃ turn ∈ Processor.turns machine.processor.cores machine.environment, _
  rw [← Processor.tickCores_eq_error_iff]
  obtain ⟨config, bus, ⟨boot, others, router, controller, lines⟩, ram, hub, rom, display, disk,
    keyboard, counters, fault?, ticks⟩ := machine
  obtain rfl : fault? = none := running
  simp only [tick, Processor.tick]
  generalize cores : Processor.tickAll boot others ⟨bus, lines, counters⟩ = result
  change _ ↔ (Processor.tickCores (boot :: others) ⟨bus, lines, counters⟩).2.2 = .error fault
  obtain ⟨boot', others', ⟨bus', lines', counters'⟩, other | breakpoint⟩ := result <;>
    simp [Traffic.tickCores_of_tickAll cores]

/-- A machine with one core executes one breakpoint in a tick at most, and none in a tick that
faults. -/
lemma breaks_of_single {machine : Machine} (single : machine.processor.others = []) :
    machine.breaks.length ≤ 1
      ∧ ∀ fault, machine.tick.2 = .error fault → machine.breaks = [] := by
  obtain ⟨config, bus, ⟨boot, others, router, controller, lines⟩, ram, hub, rom, display, disk,
    keyboard, counters, fault?, ticks⟩ := machine
  obtain rfl : others = [] := single
  cases fault? with
  | some fault => exact ⟨Nat.zero_le _, fun _ _ => rfl⟩
  | none =>
    refine ⟨Processor.length_breaks_single boot _, fun fault failed => ?_⟩
    change Processor.breaks [boot] ⟨bus, lines, counters⟩ = []
    simp only [tick, Processor.tick, Processor.tickAll, Processor.tickCores] at failed
    generalize turn : boot.tick ⟨bus, lines, counters⟩ = result at failed
    obtain ⟨boot', rest, fault' | breakpoint⟩ := result
    · exact Processor.breaks_of_fault turn
    · simp at failed

/-! ## Runs -/

/-- The action does not end in a fault. -/
def lives (machine : Machine) : MachineAction → Bool
  | .tick => machine.tick.2.isOk
  | .load .. | .press _ | .raiseInterrupt _ => true

/-- The breakpoints that an action executes. -/
def executes (machine : Machine) : MachineAction → List Word
  | .tick => machine.breaks
  | .load .. | .press _ | .raiseInterrupt _ => []

/-- The breakpoint that an action reports to the host. -/
def reports? (machine : Machine) : MachineAction → Option Word
  | .tick =>
    match machine.tick.2 with
    | .ok (.breakpoint address) => some address
    | .ok .running | .error _ => none
  | .load .. | .press _ | .raiseInterrupt _ => none

/-- Every breakpoint executed in the first `n` actions, in order. -/
def executed (machine : Machine) (action : Nat → MachineAction) (n : Nat) : List Word :=
  (List.range n).flatMap fun k => (machine.after action k).executes (action k)

/-- Every breakpoint reported in the first `n` actions, in order. -/
def reported (machine : Machine) (action : Nat → MachineAction) (n : Nat) : List Word :=
  (List.range n).filterMap fun k => (machine.after action k).reports? (action k)

/-- What an action reports is the first breakpoint that it executes, unless it ends in a fault. -/
lemma reports?_eq (machine : Machine) (action : MachineAction) :
    machine.reports? action
      = if machine.lives action then (machine.executes action).head? else none := by
  cases action with
  | load | press | raiseInterrupt => rfl
  | tick =>
    obtain ⟨result, given⟩ : ∃ result, machine.tick.2 = result := ⟨_, rfl⟩
    simp only [reports?, lives, executes, given]
    cases result with
    | error fault => rfl
    | ok outcome =>
      rw [outcome_tick given]
      cases machine.breaks.head? <;> rfl

/-- When breakpoints do not coincide with each other or with a fault, an action reports what it
executes. -/
lemma toList_reports? {machine : Machine} {action : MachineAction}
    (alone : (machine.executes action).length ≤ 1)
    (live : machine.lives action = false → machine.executes action = []) :
    (machine.reports? action).toList = machine.executes action := by
  rw [reports?_eq]
  cases lives : machine.lives action with
  | false => rw [live lives]; rfl
  | true =>
    match executed : machine.executes action with
    | [] | [_] => rfl
    | _ :: _ :: _ => simp [executed] at alone

lemma reported_eq_executed {machine : Machine} {action : Nat → MachineAction} {n : Nat}
    (alone : ∀ k < n, ((machine.after action k).executes (action k)).length ≤ 1)
    (live : ∀ k < n, (machine.after action k).lives (action k) = false →
      (machine.after action k).executes (action k) = []) :
    machine.reported action n = machine.executed action n := by
  rw [reported, executed, List.filterMap_eq_flatMap_toList]
  refine List.flatMap_congr fun k inside => ?_
  have inside := List.mem_range.mp inside
  exact toList_reports? (alone k inside) (live k inside)

lemma others_act {machine : Machine} (single : machine.processor.others = [])
    (action : MachineAction) : (machine.act action).processor.others = [] := by
  obtain ⟨config, bus, ⟨boot, others, router, controller, lines⟩, ram, hub, rom, display, disk,
    keyboard, counters, fault?, ticks⟩ := machine
  obtain rfl : others = [] := single
  cases action with
  | load | press | raiseInterrupt => rfl
  | tick =>
    cases fault? with
    | some fault => rfl
    | none =>
      simp only [act, tick, Processor.tick, Processor.tickAll, Processor.tickCores]
      generalize boot.tick ⟨bus, lines, counters⟩ = result
      obtain ⟨boot', rest, fault | breakpoint⟩ := result <;> rfl

lemma others_after {machine : Machine} (single : machine.processor.others = [])
    (action : Nat → MachineAction) (n : Nat) : (machine.after action n).processor.others = [] := by
  induction n with
  | zero => exact single
  | succ n ih => exact others_act ih (action n)

/-- With one core nothing is lost. -/
lemma reported_of_single {machine : Machine} (single : machine.processor.others = [])
    (action : Nat → MachineAction) (n : Nat) :
    machine.reported action n = machine.executed action n := by
  have each (k : Nat) : ((machine.after action k).executes (action k)).length ≤ 1
      ∧ ((machine.after action k).lives (action k) = false →
        (machine.after action k).executes (action k) = []) := by
    obtain ⟨one, none⟩ := breaks_of_single (others_after single action k)
    cases action k with
    | load | press | raiseInterrupt => exact ⟨Nat.zero_le _, fun _ => rfl⟩
    | tick =>
      refine ⟨one, fun dies => ?_⟩
      cases result : (machine.after action k).tick.2 with
      | error fault => exact none fault result
      | ok outcome => simp [lives, result, Except.isOk, Except.toBool] at dies
  exact reported_eq_executed (fun k _ => (each k).1) fun k _ => (each k).2

/-! ## Runs that end at a breakpoint -/

/-- So many ticks in a row. -/
def ticking (machine : Machine) (n : Nat) : Machine := machine.after (fun _ => .tick) n

lemma ticking_succ (machine : Machine) (n : Nat) :
    machine.ticking (n + 1) = machine.tick.1.ticking n := by
  induction n with
  | zero => rfl
  | succ n ih => exact congrArg (fun machine => machine.tick.1) ih

/-- What a run that ends at breakpoints comes to after `m` ticks: none of them but the last executes
a breakpoint, and what the run gives is what the last one gives. -/
structure EndsAt (machine : Machine) (sofar : RunOutcome) (limit m : Nat)
    (result : Machine × Except Fault RunOutcome) : Prop where
  within : m ≤ limit
  state : result.1 = machine.ticking m
  before : ∀ i, i + 1 < m → (machine.ticking i).breaks = []
  idle : m = 0 → result.2 = .ok sofar
  last : ∀ i, i + 1 = m → result.2
    = (machine.ticking i).tick.2.map fun outcome => ⟨sofar.ticks + m, outcome⟩
  /-- The run has not ended early. -/
  ended : m < limit → ∃ i, i + 1 = m
    ∧ ((machine.ticking i).breaks ≠ [] ∨ ∃ fault, (machine.ticking i).tick.2 = .error fault)

lemma runOn_endsAt (machine : Machine) (limit : Nat) (sofar : RunOutcome) :
    ∃ m, machine.EndsAt sofar limit m (runOn .breakpoint limit sofar machine) := by
  induction limit generalizing machine sofar with
  | zero => exact ⟨0, le_rfl, rfl, by omega, fun _ => rfl, by omega, by omega⟩
  | succ limit ih =>
    rw [runOn]
    split
    · next later fault ticked =>
      refine ⟨1, by omega, ?_, by omega, by omega, fun i one => ?_, fun _ => ⟨0, rfl, Or.inr ?_⟩⟩
      · exact (congrArg Prod.fst ticked).symm
      · obtain rfl : i = 0 := by omega
        change _ = machine.tick.2.map _
        rw [ticked]
        rfl
      · exact ⟨fault, congrArg Prod.snd ticked⟩
    · next later outcome ticked =>
      have given : machine.tick.2 = .ok outcome := congrArg Prod.snd ticked
      have reports := outcome_tick given
      obtain rfl : machine.tick.1 = later := congrArg Prod.fst ticked
      simp only
      split
      · next stops =>
        refine ⟨1, by omega, rfl, by omega, by omega, fun i one => ?_,
          fun _ => ⟨0, rfl, Or.inl fun none => ?_⟩⟩
        · obtain rfl : i = 0 := by omega
          change _ = machine.tick.2.map _
          rw [given]
          rfl
        · change machine.breaks = [] at none
          rw [reports, none] at stops
          contradiction
      · next goes =>
        have vacant : machine.breaks = [] := by
          cases here : machine.breaks with
          | nil => rfl
          | cons address _ =>
            rw [reports, here] at goes
            simp [Machine.outcome, RunBoundary.stopsAt] at goes
        obtain ⟨m, ends⟩ := ih machine.tick.1 ⟨sofar.ticks + 1, outcome⟩
        refine ⟨m + 1, ?_, ?_, ?_, ?_, ?_, ?_⟩
        · have := ends.within
          omega
        · rw [ticking_succ]
          exact ends.state
        · rintro (_ | i) inside
          · exact vacant
          · rw [ticking_succ]
            exact ends.before i (by omega)
        · omega
        · rintro (_ | i) one
          · obtain rfl : m = 0 := by omega
            rw [ends.idle rfl]
            change _ = machine.tick.2.map _
            rw [given]
            rfl
          · rw [ticking_succ, ends.last i (by omega), Nat.add_right_comm sofar.ticks 1 m,
              Nat.add_assoc sofar.ticks m 1]
        · intro early
          obtain ⟨i, last, reason⟩ := ends.ended (by omega)
          refine ⟨i + 1, by omega, ?_⟩
          rw [ticking_succ]
          exact reason

/-! ## The main result -/

/-- What the host learns of the breakpoints that are executed in the first `n` actions, and in a run
that ends at one. -/
structure ReportsBreakpoints (machine : Machine) (action : Nat → MachineAction) (n limit : Nat) :
    Prop where
  /-- A tick that does not fault gives the first of its breakpoints, and a tick that executes none
  gives none. -/
  named : ∀ k outcome, (machine.after action k).tick.2 = .ok outcome →
    outcome = Machine.outcome (machine.after action k).breaks.head?
  /-- A tick in which a core faults gives that fault, whatever the cores before it have executed. -/
  faults : ∀ k fault, (machine.after action k).fault? = none →
    ((machine.after action k).tick.2 = .error fault
      ↔ ∃ turn ∈ (machine.after action k).turns, (turn.1.tick turn.2).2.2 = .error fault)
  /-- One report for each action that executes a breakpoint and does not fault. -/
  firsts : machine.reported action n = (List.range n).filterMap fun k =>
    if (machine.after action k).lives (action k) then
      ((machine.after action k).executes (action k)).head?
    else none
  /-- When no two breakpoints fall into one tick, nor a breakpoint and a fault, all are reported. -/
  apart : (∀ k < n, ((machine.after action k).executes (action k)).length ≤ 1) →
    (∀ k < n, (machine.after action k).lives (action k) = false →
      (machine.after action k).executes (action k) = []) →
    machine.reported action n = machine.executed action n
  /-- With one core, all are reported. -/
  single : machine.processor.others = [] → machine.reported action n = machine.executed action n
  /-- A run that is to end at a breakpoint does not go on past one. -/
  ends : ∃ m, machine.EndsAt ⟨0, .running⟩ limit m (machine.run limit .breakpoint)

/-- **The host learns of the first breakpoint of every tick that does not fault**, and of every one
in a machine with one core. -/
theorem breakpoints_reported (machine : Machine) (action : Nat → MachineAction) (n limit : Nat) :
    machine.ReportsBreakpoints action n limit where
  named _ _ given := outcome_tick given
  faults _ _ running := tick_eq_error_iff running
  firsts := by
    rw [reported]
    exact List.filterMap_congr fun k _ => reports?_eq _ (action k)
  apart := reported_eq_executed
  single one := reported_of_single one action n
  ends := runOn_endsAt machine limit ⟨0, .running⟩

/-! ## Two cores -/

/-- Two cores that go round in three breakpoints, the second core two ticks behind. -/
def breakingTwice : Machine :=
  let config := { MachineConfig.fast with entry := AddressMap.ramStart, cores := 2 }
  let program := [Assembler.breakpoint, Assembler.breakpoint, Assembler.breakpoint,
    Assembler.jump AddressMap.ramStart]
  let loaded := (wire config (DiskImage.blank 1)).load AddressMap.ramStart (assemble program)
  (loaded.run 39 .tickLimit).1

/-- A program that reads a word of the disk and, if it is zero, goes round in three breakpoints.  If
not, the program divides by zero. -/
def dividesOrBreaks : List Instruction :=
  let word := Assembler.register 1
  let zero := Assembler.register 2
  let loop := AddressMap.ramStart + 8
  [Assembler.loadLiteral word AddressMap.diskData, Assembler.setLiteral zero 0,
    Assembler.jumpIf .equal word zero loop,
    Assembler.arithmetic .divide (Assembler.register 4) (Assembler.register 4) zero,
    Assembler.breakpoint, Assembler.breakpoint, Assembler.breakpoint, Assembler.jump loop]

/-- A disk whose second word is not zero. -/
def oneWord : DiskImage := ⟨1, (∅ : Std.ExtTreeMap Nat Block).insert 0 (Block.zeros.set 1 1)⟩

/-- Two cores with that program.  The first core reads zero and goes round, and the second is about
to divide. -/
def breakingBesideFault : Machine :=
  let config := { MachineConfig.fast with entry := AddressMap.ramStart, cores := 2 }
  let loaded := (wire config oneWord).load AddressMap.ramStart (assemble dividesOrBreaks)
  (loaded.run 78 .tickLimit).1

/-- One breakpoint takes the place of another, and a fault that of a breakpoint. -/
theorem breakpoint_lost :
    (breakingTwice.breaks = [AddressMap.ramStart + 2, AddressMap.ramStart]
      ∧ breakingTwice.tick.2 = .ok (.breakpoint (AddressMap.ramStart + 2))
      ∧ breakingTwice.reported (fun _ => .tick) 1 ≠ breakingTwice.executed (fun _ => .tick) 1)
    ∧ breakingBesideFault.breaks = [AddressMap.ramStart + 10]
      ∧ breakingBesideFault.tick.2
        = .error ⟨.divideByZero, ⟨AddressMap.ramStart + 6, dividesOrBreaks[3].encode⟩⟩
      ∧ breakingBesideFault.reported (fun _ => .tick) 1
        ≠ breakingBesideFault.executed (fun _ => .tick) 1 := by
  decide +kernel

end Machine

end PipelinedMachine
