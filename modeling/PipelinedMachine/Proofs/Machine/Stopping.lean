import PipelinedMachine.Proofs.Core.Precision
import PipelinedMachine.Proofs.Machine.Service

/-!
# A fault stops the machine

A fault of any core ends the tick before memory, the hub and the devices have had their turns, and
the machine keeps it.  From then on neither ticks nor runs change anything: they give the same fault
again and again, whatever the host does in between.

* `Machine.Stopped` — a machine that has been stopped by a fault, as its host sees it;
* `Machine.Stops` — what a tick that ends in a fault does to the machine;
* `Machine.stops_of_fault` — every such tick does so;
* **`Machine.faults_precise_and_final`** — faults are precise in every run of a core, and final in
  every machine.
-/

namespace PipelinedMachine

namespace Machine

/-! ## A stopped machine -/

/-- The machine has been stopped by `fault`: ticks and runs give it again and change nothing. -/
structure Stopped (machine : Machine) (fault : Fault) : Prop where
  tick : machine.tick = (machine, .error fault)
  run : ∀ limit boundary, 0 < limit → machine.run limit boundary = (machine, .error fault)

lemma stopped_of_fault? {machine : Machine} {fault : Fault}
    (latched : machine.fault? = some fault) : machine.Stopped fault := by
  have tick : machine.tick = (machine, .error fault) := by
    obtain ⟨_, _, _, _, _, _, _, _, _, _, _, _⟩ := machine
    obtain rfl : _ = some fault := latched
    rfl
  refine ⟨tick, fun limit boundary positive => ?_⟩
  obtain ⟨rest, rfl⟩ := Nat.exists_eq_succ_of_ne_zero positive.ne'
  simp only [Machine.run, runOn, tick]

/-- The host can go on loading words, pressing keys and raising interrupts; the fault stays, and so
does the number of ticks. -/
lemma fault?_act {machine : Machine} {fault : Fault} (latched : machine.fault? = some fault)
    (action : MachineAction) :
    (machine.act action).fault? = some fault ∧ (machine.act action).ticks = machine.ticks := by
  cases action with
  | tick =>
    rw [act, (stopped_of_fault? latched).tick]
    exact ⟨latched, rfl⟩
  | load | press | raiseInterrupt => exact ⟨latched, rfl⟩

lemma fault?_after {machine : Machine} {fault : Fault} (latched : machine.fault? = some fault)
    (action : Nat → MachineAction) (n : Nat) :
    (machine.after action n).fault? = some fault
      ∧ (machine.after action n).ticks = machine.ticks := by
  induction n with
  | zero => exact ⟨latched, rfl⟩
  | succ n ih =>
    obtain ⟨still, ticks⟩ := fault?_act ih.1 (action n)
    exact ⟨still, ticks.trans ih.2⟩

/-! ## The tick that stops it -/

/-- The cores' turns end with the fault of one of them. -/
lemma exists_core_of_fault {cores later : List Core} {env rest : Environment} {fault : Fault}
    (faults : Processor.tickCores cores env = (later, rest, .error fault)) :
    ∃ core ∈ cores, ∃ env, (core.tick env).2.2 = .error fault := by
  induction cores generalizing later env rest with
  | nil => simp [Processor.tickCores] at faults
  | cons core cores ih =>
    simp only [Processor.tickCores] at faults
    split at faults
    · next core' env' fault' turn =>
      obtain rfl : fault' = fault := by simpa using (Prod.mk.inj (Prod.mk.inj faults).2).2
      exact ⟨core, List.mem_cons_self, env, by rw [turn]⟩
    · next core' env' breakpoint turn =>
      split at faults
      · next cores' rest' fault' turns =>
        obtain rfl : fault' = fault := by simpa using (Prod.mk.inj (Prod.mk.inj faults).2).2
        obtain ⟨other, member, env, faults⟩ := ih turns
        exact ⟨other, List.mem_cons_of_mem _ member, env, faults⟩
      · simp at faults

/-- What a tick that ends in `fault` does. -/
structure Stops (machine : Machine) (fault : Fault) : Prop where
  /-- The tick does not count. -/
  ticks : machine.tick.1.ticks = machine.ticks
  /-- If the machine was not stopped before, the fault is that of one of its cores. -/
  raised : machine.fault? = none →
    ∃ core ∈ machine.processor.cores, ∃ env, (core.tick env).2.2 = .error fault
  /-- It is the fault of every later tick and run, whatever the host does in between. -/
  final : ∀ action n, (machine.tick.1.after action n).Stopped fault
    ∧ (machine.tick.1.after action n).ticks = machine.ticks

/-- The tick keeps the fault and leaves the number of ticks alone. -/
lemma tick_of_fault {machine : Machine} {fault : Fault} (faults : machine.tick.2 = .error fault) :
    machine.tick.1.fault? = some fault ∧ machine.tick.1.ticks = machine.ticks
      ∧ (machine.fault? = none →
        ∃ core ∈ machine.processor.cores, ∃ env, (core.tick env).2.2 = .error fault) := by
  obtain ⟨config, bus, ⟨boot, others, router, controller, lines⟩, ram, hub, rom, display, disk,
    keyboard, counters, fault?, ticks⟩ := machine
  cases fault? with
  | some latched =>
    obtain rfl : latched = fault := by simpa [tick] using faults
    exact ⟨rfl, rfl, fun running => by contradiction⟩
  | none =>
    simp only [tick, Processor.tick] at faults ⊢
    generalize cores : Processor.tickAll boot others ⟨bus, lines, counters⟩ = result at faults ⊢
    obtain ⟨boot', others', ⟨bus', lines', counters'⟩, found | breakpoint⟩ := result
    · obtain rfl : found = fault := by simpa using faults
      exact ⟨rfl, rfl, fun _ => exists_core_of_fault (Traffic.tickCores_of_tickAll cores)⟩
    · simp at faults

/-- A tick that ends in a fault stops the machine for good. -/
theorem stops_of_fault {machine : Machine} {fault : Fault}
    (faults : machine.tick.2 = .error fault) : machine.Stops fault := by
  obtain ⟨latched, ticks, raised⟩ := tick_of_fault faults
  refine ⟨ticks, raised, fun action n => ?_⟩
  obtain ⟨still, same⟩ := fault?_after latched action n
  exact ⟨stopped_of_fault? still, same.trans ticks⟩

/-! ## Precise and final -/

/-- In every run of a core a fault names the instruction that cannot be carried out, with nothing
but what came before it done; and every machine is stopped by a fault for good. -/
theorem faults_precise_and_final (run : Core.Run) (machine : Machine) :
    run.FaultsPrecise ∧ ∀ fault, machine.tick.2 = .error fault → machine.Stops fault :=
  ⟨run.faultsPrecise, fun _ => stops_of_fault⟩

/-- A program that divides by zero. -/
def divideByZero : List Instruction :=
  let zero := Assembler.register 1
  [Assembler.setLiteral zero 0, Assembler.arithmetic .divide (Assembler.register 2) zero zero]

/-- What waits for a core that fetches this program from address zero. -/
def dividingEnv (i : Nat) : Environment :=
  let free : Channel := Channel.opened 1 Interconnect.messageCapacity
  let incoming := if i = 1
    then { free with transfer := .delivered (.response 0 (assemble divideByZero).toList) }
    else free
  ⟨⟨#[free, incoming]⟩, InterruptLines.quiet 1, {}⟩

/-- A run of a core that divides by zero. -/
def dividingRun : Core.Run where
  id := 0
  terminal := ⟨0⟩
  entry := 0
  env := dividingEnv
  length := 6
  live := by
    have live : ∀ i < 5, (((Core.reset 0 ⟨0⟩ 0).after dividingEnv i).tick (dividingEnv i)).2.2
        = .ok none := by decide +kernel
    exact fun i inside => ⟨none, live i (by omega)⟩

/-- The machine of a core that divides by zero, before the tick in which it does. -/
def dividingMachine : Machine :=
  let config := { MachineConfig.fast with entry := AddressMap.ramStart }
  let loaded := (wire config (DiskImage.blank 1)).load AddressMap.ramStart (assemble divideByZero)
  (loaded.run 32 .tickLimit).1

/-- The core faults at the second instruction, one tick after its dispatch, and so does the
machine. -/
theorem dividing_by_zero :
    (dividingRun.outcome 5 = .error ⟨.divideByZero, ⟨2, divideByZero[1].encode⟩⟩
      ∧ dividingRun.FaultsPrecise)
    ∧ dividingMachine.tick.2
        = .error ⟨.divideByZero, ⟨AddressMap.ramStart + 2, divideByZero[1].encode⟩⟩
      ∧ dividingMachine.Stops
        ⟨.divideByZero, ⟨AddressMap.ramStart + 2, divideByZero[1].encode⟩⟩ := by
  have core : dividingRun.outcome 5 = .error ⟨.divideByZero, ⟨2, divideByZero[1].encode⟩⟩ := by
    decide +kernel
  have machine : dividingMachine.tick.2
      = .error ⟨.divideByZero, ⟨AddressMap.ramStart + 2, divideByZero[1].encode⟩⟩ := by
    decide +kernel
  obtain ⟨precise, stops⟩ := faults_precise_and_final dividingRun dividingMachine
  exact ⟨⟨core, precise⟩, machine, stops _ machine⟩

end Machine

end PipelinedMachine
