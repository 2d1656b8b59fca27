import PipelinedMachine.Core.Access
import PipelinedMachine.Core.Compute
import PipelinedMachine.Core.Fetch
import PipelinedMachine.Instruction.Decode
import PipelinedMachine.Interrupts

/-!
# Cores

A core executes one instruction at a time.  The instruction pointer says which one; fetch supplies
it, dispatch hands it to its unit, the unit executes it over one or more ticks, and the branch unit
moves the instruction pointer on.  Between two instructions, and only there, an interrupt can be
entered.

* `Pipeline` — the units of a core and its interrupt state, with one function for each phase of a
  tick: `resolveBranch`, `supply`, `dispatch`, `execute`, `enterInterrupt`;
* `Pipeline.tick` — the phases in order;
* `Core`, `Core.tick` — a core with its registers, among what the cores of a machine share.

A phase that can fault says so and still gives the state it leaves behind, because a stopped machine
can be inspected.
-/

namespace PipelinedMachine

/-- What a tick of a core gives: the address of a breakpoint it executed, if any, or a fault. -/
abbrev CoreOutcome := Except Fault (Option Word)

/-! ## The units of a core -/

/-- The units of a core and its interrupt state. -/
structure Pipeline where
  fetch : Fetch := {}
  /-- The instruction that was dispatched last. -/
  dispatched : Option Fetched := none
  alu : Slot AluInstruction := none
  load : Option PendingLoad := none
  store : Slot StoreInstruction := none
  branch : Slot BranchInstruction := none
  stack : Slot StackInstruction := none
  request : Slot InterruptRequest := none
  /-- An interrupt has been signalled and not yet entered. -/
  interruptPending : Bool := false
  /-- A handler is running, or being looked for. -/
  inInterrupt : Bool := false
  /-- Where the handler returns to. -/
  savedIp : Word
deriving DecidableEq

namespace Pipeline

/-- The instruction that a unit waits for the link with, otherwise the one dispatched last. -/
def active? (pipeline : Pipeline) : Option Fetched :=
  match pipeline.load, pipeline.store with
  | some pending, _ => some pending.entry
  | none, some held => some held.entry
  | none, none => pipeline.dispatched

/-! ## The phases of a tick -/

/-- The branch unit's turn; the last component is the address of a breakpoint. -/
def resolveBranch (pipeline : Pipeline) (path : Datapath) : Pipeline × Datapath × Option Word :=
  let (branch, path, breakpoint) := BranchUnit.tick pipeline.branch path
  ({ pipeline with branch := branch }, path, breakpoint)

/-- Fetch's turn. -/
def supply (pipeline : Pipeline) (terminal : Terminal) (path : Datapath) : Pipeline × Datapath :=
  let (fetch, path) := pipeline.fetch.tick terminal path
  ({ pipeline with fetch := fetch }, path)

/-- Leaves the running handler: the instructions at hand belong to it and are forgotten, and
execution goes on where it was interrupted. -/
def leaveInterrupt (pipeline : Pipeline) (entry : Fetched) (path : Datapath) :
    Pipeline × Datapath × Option Fault :=
  let pipeline := { pipeline with fetch := pipeline.fetch.flush }
  if pipeline.inInterrupt then
    let path := { path with registers := path.registers.jump pipeline.savedIp }
    ({ pipeline with inInterrupt := false },
      (path.record .instructionsExecuted).request .dispatch, none)
  else (pipeline, path, some (entry.fault .returnOutsideInterrupt))

/-- Hands an instruction to its unit and asks for the unit's stage.  A no-op has no unit: it is
dispatched again and again, and since the stage never changes no interrupt is entered either. -/
def route (pipeline : Pipeline) (entry : Fetched) (instruction : Instruction) (path : Datapath) :
    Pipeline × Datapath × Option Fault :=
  match instruction with
  | .nop => (pipeline, path.request .dispatch, none)
  | .alu alu => ({ pipeline with alu := some ⟨entry, alu⟩ }, path.request .execution, none)
  | .load load =>
    ({ pipeline with load := LoadUnit.accept ⟨entry, load⟩ }, path.request .execution, none)
  | .store store => ({ pipeline with store := some ⟨entry, store⟩ }, path.request .execution, none)
  | .stack stack => ({ pipeline with stack := some ⟨entry, stack⟩ }, path.request .execution, none)
  | .branch branch =>
    ({ pipeline with branch := some ⟨entry, branch⟩ }, path.request .branchPredict, none)
  | .interrupt (.request request) =>
    ({ pipeline with request := some ⟨entry, request⟩ }, path.request .execution, none)
  | .interrupt .handlerReturn => pipeline.leaveInterrupt entry path

/-- Dispatch's turn: finds the next instruction, decodes it and routes it. -/
def dispatch (pipeline : Pipeline) (path : Datapath) : Pipeline × Datapath × Option Fault :=
  match pipeline.fetch.dispatch path with
  | (none, path) => (pipeline, path, none)
  | (some entry, path) =>
    let pipeline := { pipeline with dispatched := some entry }
    match entry.code.decode with
    | .ok instruction => pipeline.route entry instruction path
    | .error cause => (pipeline, path, some (entry.fault cause))

/-- Hands a stack access to the unit that carries it out. -/
def delegate (pipeline : Pipeline) : Delegation → Pipeline
  | .store held => { pipeline with store := some held }
  | .load held => { pipeline with load := LoadUnit.accept held }

/-- The arithmetic unit's turn. -/
def compute (pipeline : Pipeline) (path : Datapath) : Pipeline × Datapath × Option Fault :=
  let (alu, path, fault) := AluUnit.tick pipeline.alu path
  ({ pipeline with alu := alu }, path, fault)

/-- The turns of the units that follow the arithmetic unit. -/
def access (pipeline : Pipeline) (terminal : Terminal) (path : Datapath) : Pipeline × Datapath :=
  let (load, path) := LoadUnit.tick pipeline.load terminal path
  let (store, path) := StoreUnit.tick pipeline.store terminal path
  let (stack, path, delegation) := StackUnit.tick pipeline.stack path.retire
  let pipeline := { pipeline with load := load, store := store, stack := stack }
  let pipeline := match delegation with
    | some access => pipeline.delegate access
    | none => pipeline
  let (request, path) := RequestUnit.tick pipeline.request terminal path
  ({ pipeline with request := request }, path)

/-- Enters a pending interrupt if the next tick begins with a new instruction and no handler is
running. -/
def enterInterrupt (pipeline : Pipeline) (path : Datapath) : Pipeline :=
  if pipeline.interruptPending && !pipeline.inInterrupt && path.stages.entering .dispatch then
    { pipeline with
      savedIp := path.registers.ip
      inInterrupt := true
      interruptPending := false
      fetch := pipeline.fetch.beginSearch }
  else pipeline

/-- The phases of one tick in order.  A fault ends the tick where it happens, before the step to the
next stage. -/
def tick (pipeline : Pipeline) (terminal : Terminal) (path : Datapath) :
    Pipeline × Datapath × CoreOutcome :=
  let (pipeline, path, breakpoint) := pipeline.resolveBranch path
  let (pipeline, path) := pipeline.supply terminal path
  match pipeline.dispatch path with
  | (pipeline, path, some fault) => (pipeline, path, .error fault)
  | (pipeline, path, none) =>
    match pipeline.compute path with
    | (pipeline, path, some fault) => (pipeline, path, .error fault)
    | (pipeline, path, none) =>
      let (pipeline, path) := pipeline.access terminal path
      (pipeline.enterInterrupt path, path.advance, .ok breakpoint)

end Pipeline

/-! ## Cores -/

/-- What the cores of a machine share. -/
structure Environment where
  bus : Interconnect
  lines : InterruptLines
  counters : Counters

/-- One core. -/
structure Core where
  /-- The core's number, which is also that of its interrupt line. -/
  id : Nat
  terminal : Terminal
  registers : RegisterFile
  stages : StageControl := {}
  pipeline : Pipeline

namespace Core

/-- Core `id` behind `terminal`, about to dispatch the instruction at `entry`. -/
def reset (id : Nat) (terminal : Terminal) (entry : Word) : Core where
  id := id
  terminal := terminal
  registers := RegisterFile.reset entry
  pipeline := { savedIp := entry }

/-- One tick of a core.  Its interrupt line is lowered first, and remembered as a pending
interrupt. -/
def tick (core : Core) (env : Environment) : Core × Environment × CoreOutcome :=
  match core, env with
  | ⟨id, terminal, registers, stages, pipeline⟩, ⟨bus, lines, counters⟩ =>
    let (raised, lines) := lines.take id
    let pipeline := if raised then { pipeline with interruptPending := true } else pipeline
    let (pipeline, path, outcome) := pipeline.tick terminal ⟨registers, stages, counters, bus⟩
    (⟨id, terminal, path.registers, path.stages, pipeline⟩, ⟨path.bus, lines, path.counters⟩,
      outcome)

end Core

end PipelinedMachine
