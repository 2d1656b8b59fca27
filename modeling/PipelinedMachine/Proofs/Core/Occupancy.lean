import Mathlib.Tactic.Common
import PipelinedMachine.Core

/-!
# What the units of a core hold

Between two ticks the six units of a core hold at most one instruction, and the stage says which
kind of unit it is in.  `Occupancy` has one case for each of these situations, so it names exactly
the states of the units that can occur.

* `Occupancy` — the situations, with the stage and the instruction of each;
* `Occupancy.ofInstruction?` — where dispatch puts an instruction;
* `Occupancy.Work` — everything that the unit holding an instruction in execution can do;
* `Occupancy.resolve` — the turn of the branch unit.
-/

namespace PipelinedMachine

/-- What the units of a core hold between two ticks. -/
inductive Occupancy where
  /-- Nothing: the next instruction is to be dispatched. -/
  | idle
  /-- Nothing: the instruction pointer has still to move past an instruction that is done. -/
  | done
  | branch (held : Held BranchInstruction)
  | alu (held : Held AluInstruction)
  | load (pending : PendingLoad)
  | store (held : Held StoreInstruction)
  | stack (held : Held StackInstruction)
  | request (held : Held InterruptRequest)

namespace Occupancy

/-- The stage that goes with it. -/
def stage : Occupancy → Stage
  | idle => .dispatch
  | done | branch _ => .branchPredict
  | alu _ | load _ | store _ | stack _ | request _ => .execution

lemma stage_eq_dispatch_iff {occupancy : Occupancy} :
    occupancy.stage = .dispatch ↔ occupancy = idle := by
  cases occupancy <;> simp [stage]

/-- The instruction that is held. -/
def entry? : Occupancy → Option Fetched
  | idle | done => none
  | branch held => some held.entry
  | alu held => some held.entry
  | load pending => some pending.entry
  | store held => some held.entry
  | stack held => some held.entry
  | request held => some held.entry

/-! ## The slots of the units -/

def alu? : Occupancy → Slot AluInstruction
  | alu held => some held
  | _ => none

def load? : Occupancy → Option PendingLoad
  | load pending => some pending
  | _ => none

def store? : Occupancy → Slot StoreInstruction
  | store held => some held
  | _ => none

def branch? : Occupancy → Slot BranchInstruction
  | branch held => some held
  | _ => none

def stack? : Occupancy → Slot StackInstruction
  | stack held => some held
  | _ => none

def request? : Occupancy → Slot InterruptRequest
  | request held => some held
  | _ => none

/-- Where dispatch puts an instruction; none for a return from a handler, which no unit takes. -/
def ofInstruction? (entry : Fetched) : Instruction → Option Occupancy
  | .nop => some idle
  | .alu instruction => some (alu ⟨entry, instruction⟩)
  | .load instruction => some (load { toHeld := ⟨entry, instruction⟩ })
  | .store instruction => some (store ⟨entry, instruction⟩)
  | .branch instruction => some (branch ⟨entry, instruction⟩)
  | .stack instruction => some (stack ⟨entry, instruction⟩)
  | .interrupt (.request instruction) => some (request ⟨entry, instruction⟩)
  | .interrupt .handlerReturn => none

/-! ## The turn of the unit in execution -/

/-- Everything that the unit holding an instruction can do in the execution stage, other than end in
a fault. -/
inductive Work (terminal : Terminal) (path : Datapath) : Occupancy → Occupancy → Datapath → Prop
    where
  | computed (held : Held AluInstruction) (value : Word)
      (result : held.instruction.evaluate path.registers = .ok (some value)) :
      Work terminal path (.alu held) .done (path.write held.instruction.target value).complete
  | computedNothing (held : Held AluInstruction)
      (result : held.instruction.evaluate path.registers = .ok none) :
      Work terminal path (.alu held) .done path.complete
  | loadedNothing (pending : PendingLoad) (form : pending.instruction = .nop) :
      Work terminal path (.load pending) .done path.complete
  | asked (pending : PendingLoad) (target : Register) (operand : MemoryOperand)
      (bus : Interconnect) (form : pending.instruction = .load target operand)
      (fresh : pending.requested = none)
      (sent : path.bus.send? terminal (Message.read (operand.resolve path.registers) 1)
        = some bus) :
      Work terminal path (.load pending)
        (.load { pending with requested := some (operand.resolve path.registers) })
        { path with bus := bus }
  | loaded (pending : PendingLoad) (target : Register) (operand : MemoryOperand) (address : Word)
      (answer : Message) (form : pending.instruction = .load target operand)
      (waiting : pending.requested = some address)
      (came : path.bus.answer? terminal address = some answer) :
      Work terminal path (.load pending) .done
        ((path.clear terminal).write target answer.value).complete
  /-- The link has not taken the read yet, or the answer has not come. -/
  | loadWaits (pending : PendingLoad) :
      Work terminal path (.load pending) (.load pending) (path.record .loadWaits)
  | stored (held : Held StoreInstruction) (bus : Interconnect)
      (sent : path.bus.send? terminal (Message.write
        (held.instruction.address.resolve path.registers)
        (path.registers.get held.instruction.source)) = some bus) :
      Work terminal path (.store held) .done { path with bus := bus }.complete
  | storeWaits (held : Held StoreInstruction) :
      Work terminal path (.store held) (.store held) (path.record .storeWaits)
  | pushed (held : Held StackInstruction) (form : held.instruction = .push) :
      Work terminal path (.stack held) .done
        { path with registers := path.registers.setStack (path.registers.sp - 1) }.complete
  | popped (held : Held StackInstruction) (form : held.instruction = .pop) :
      Work terminal path (.stack held) .done
        { path with registers := path.registers.setStack (path.registers.sp + 1) }.complete
  | pushing (held : Held StackInstruction) (source : Register)
      (form : held.instruction = .pushStore source) :
      Work terminal path (.stack held)
        (.store ⟨held.entry, source, .literal path.registers.stackTop⟩)
        { path with registers := path.registers.setStack (path.registers.sp - 1) }
  | popping (held : Held StackInstruction) (target : Register)
      (form : held.instruction = .popLoad target) :
      Work terminal path (.stack held)
        (.load { toHeld := ⟨held.entry, .load target
          (.literal (path.registers.setStack (path.registers.sp + 1)).stackTop)⟩ })
        { path with registers := path.registers.setStack (path.registers.sp + 1) }
  | requested (held : Held InterruptRequest) (bus : Interconnect)
      (sent : path.bus.send? terminal (held.instruction.message path.registers) = some bus) :
      Work terminal path (.request held) .done { path with bus := bus }.complete
  | requestWaits (held : Held InterruptRequest) :
      Work terminal path (.request held) (.request held) (path.record .interruptWaits)

section Work

variable {terminal : Terminal} {path after : Datapath} {occupancy later : Occupancy}

/-- The unit asks for the stage that goes with what it leaves behind. -/
lemma Work.stages_eq (work : Work terminal path occupancy later after)
    (stages : path.stages = ⟨.execution, .execution⟩) :
    after.stages = ⟨.execution, later.stage⟩ := by
  cases work <;>
    simp only [Datapath.complete, Datapath.record, Datapath.request, Datapath.write,
      Datapath.clear, StageControl.request, stage, stages]

/-- The instruction stays the same, in whichever unit. -/
lemma Work.entry?_eq (work : Work terminal path occupancy later after) :
    later.entry? = occupancy.entry? ∨ later.entry? = none := by
  cases work <;> first | exact Or.inl rfl | exact Or.inr rfl

lemma Work.ip_eq (work : Work terminal path occupancy later after) :
    after.registers.ip = path.registers.ip := by
  cases work <;> rfl

lemma Work.later_ne_idle (work : Work terminal path occupancy later after) :
    later.stage ≠ .dispatch := by
  cases work <;> simp [stage]

end Work

/-! ## The turn of the branch unit -/

/-- The datapath once the instruction pointer has moved to the next instruction. -/
def resolve (occupancy : Occupancy) (path : Datapath) : Datapath :=
  match occupancy with
  | branch held =>
    { (path.request .dispatch).record .instructionsExecuted with
      registers := held.instruction.next path.registers }
  | _ => { path.request .dispatch with registers := path.registers.advance }

lemma resolve_stages (occupancy : Occupancy) {path : Datapath}
    (stages : path.stages = ⟨.branchPredict, .branchPredict⟩) :
    (occupancy.resolve path).stages = ⟨.branchPredict, .dispatch⟩ := by
  simp only [resolve]
  split <;> simp [Datapath.record, Datapath.request, StageControl.request, stages]

lemma resolve_bus (occupancy : Occupancy) (path : Datapath) :
    (occupancy.resolve path).bus = path.bus := by
  simp only [resolve]
  split <;> rfl

/-- The address of the breakpoint that is held, if one is. -/
def breakpoint? : Occupancy → Option Word
  | branch held => if held.instruction = .breakpoint then some held.entry.address else none
  | _ => none

end Occupancy

end PipelinedMachine
