import PipelinedMachine.Proofs.Served.System

/-!
# The sequential machine

What a program means, without links, stages, units or fetching ahead: one step decodes the two words
that memory holds at the instruction pointer and applies the effect of the instruction to the
registers and the memory.

* `Sequential` — registers, memory, and the fault that has stopped the machine;
* `Sequential.execute` — the effect of one instruction;
* `Sequential.step` — **one step**; a machine that has stopped stays as it is;
* `Sequential.states` — the states it goes through.

A no-op leaves everything as it is, the instruction pointer included.  There are no interrupts here,
so a return from a handler is always a fault, and asking for an interrupt only tells the memory.
-/

namespace PipelinedMachine

/-- A machine that executes one instruction after the other. -/
structure Sequential where
  registers : RegisterFile
  memory : Memory
  fault : Option Fault := none

namespace Sequential

/-- About to execute the instruction at `entry`, in a memory that holds `words`. -/
def start (entry : Word) (words : Word → Word) : Sequential where
  registers := RegisterFile.reset entry
  memory := { words := words }

/-- The instruction at the instruction pointer, as memory holds it. -/
def fetched (machine : Sequential) : Fetched :=
  ⟨machine.registers.ip, machine.memory.words machine.registers.ip,
    machine.memory.words (machine.registers.ip + 1)⟩

/-! ## Effects -/

/-- Goes on to the next instruction. -/
def moveOn (machine : Sequential) : Sequential :=
  { machine with registers := machine.registers.advance }

/-- Stops at the instruction. -/
def trap (machine : Sequential) (entry : Fetched) (cause : FaultCause) : Sequential :=
  { machine with fault := some (entry.fault cause) }

/-- Reads a word of memory into a register. -/
def loadInto (machine : Sequential) (target : Register) (address : Word) : Sequential :=
  { machine with
    registers := machine.registers.set target (machine.memory.words address)
    memory := machine.memory.load address }

/-- Writes a word of memory. -/
def storeWord (machine : Sequential) (address value : Word) : Sequential :=
  { machine with memory := machine.memory.store address value }

/-- Moves the stack pointer. -/
def setStack (machine : Sequential) (sp : Word) : Sequential :=
  { machine with registers := machine.registers.setStack sp }

/-- Applies an instruction, whose words are those of `entry`.  A value is pushed at the old top of
the stack and popped from the new one. -/
def execute (machine : Sequential) (entry : Fetched) : Instruction → Sequential
  | .nop => machine
  | .alu instruction =>
    match instruction.evaluate machine.registers with
    | .error cause => machine.trap entry cause
    | .ok none => machine.moveOn
    | .ok (some value) =>
      { machine with registers := machine.registers.set instruction.target value }.moveOn
  | .load .nop => machine.moveOn
  | .load (.load target operand) =>
    (machine.loadInto target (operand.resolve machine.registers)).moveOn
  | .store ⟨source, operand⟩ =>
    (machine.storeWord (operand.resolve machine.registers) (machine.registers.get source)).moveOn
  | .branch instruction => { machine with registers := instruction.next machine.registers }
  | .stack .push => (machine.setStack (machine.registers.sp - 1)).moveOn
  | .stack .pop => (machine.setStack (machine.registers.sp + 1)).moveOn
  | .stack (.pushStore source) =>
    ((machine.storeWord machine.registers.stackTop (machine.registers.get source)).setStack
      (machine.registers.sp - 1)).moveOn
  | .stack (.popLoad target) =>
    let raised := machine.setStack (machine.registers.sp + 1)
    (raised.loadInto target raised.registers.stackTop).moveOn
  | .interrupt (.request (.install id source)) =>
    (machine.storeWord id (machine.registers.get source)).moveOn
  | .interrupt (.request (.raise id)) =>
    { machine with memory := machine.memory.interrupt id }.moveOn
  | .interrupt .handlerReturn => machine.trap entry .returnOutsideInterrupt

/-! ## Steps -/

/-- One step: decode the words at the instruction pointer and apply the instruction. -/
def step (machine : Sequential) : Sequential :=
  match machine.fault with
  | some _ => machine
  | none =>
    match machine.fetched.code.decode with
    | .ok instruction => machine.execute machine.fetched instruction
    | .error cause => machine.trap machine.fetched cause

lemma step_of_decode {machine : Sequential} (running : machine.fault = none) {entry : Fetched}
    (fetched : entry = machine.fetched) {instruction : Instruction}
    (decoded : entry.code.decode = .ok instruction) :
    machine.step = machine.execute entry instruction := by
  subst fetched
  simp only [step, running, decoded]

lemma step_of_fault {machine : Sequential} (running : machine.fault = none) {entry : Fetched}
    (fetched : entry = machine.fetched) {cause : FaultCause}
    (decoded : entry.code.decode = .error cause) : machine.step = machine.trap entry cause := by
  subst fetched
  simp only [step, running, decoded]

/-- The first `count` states, beginning with this one. -/
def states (machine : Sequential) (count : Nat) : List Sequential :=
  (List.range count).map fun k => step^[k] machine

/-- What the machine executes next. -/
def dispatch (machine : Sequential) : Dispatch := ⟨machine.registers, machine.fetched⟩

lemma states_succ (machine : Sequential) (count : Nat) :
    machine.states (count + 1) = machine.states count ++ [step^[count] machine] := by
  simp [states, List.range_succ]

lemma accesses_prefix_execute (machine : Sequential) (entry : Fetched)
    (instruction : Instruction) :
    machine.memory.accesses <+: (machine.execute entry instruction).memory.accesses := by
  rcases instruction with _ | instruction | (_ | _) | _ | _ | ((_ | _) | _) | (_ | _ | _ | _)
  case alu =>
    simp only [execute]
    split <;> exact List.prefix_rfl
  all_goals first | exact List.prefix_rfl | exact List.prefix_append _ _

end Sequential

end PipelinedMachine
