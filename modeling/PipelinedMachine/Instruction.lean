import PipelinedMachine.Register
import PipelinedMachine.Fault

/-!
# Instructions

What an instruction says, after decoding.  There is one type per execution unit, because each unit
holds only its own instructions, and `Instruction` is their sum.

* `Operand`, `MemoryOperand` — where an operand's value and a memory access's address come from;
* `AluInstruction`, `LoadInstruction`, `StoreInstruction`, `BranchInstruction`,
  `InterruptInstruction`, `StackInstruction` — the instructions of each unit;
* `AluInstruction.evaluate`, `MemoryOperand.resolve`, `Condition.holds`, `BranchInstruction.next` —
  what they compute from the registers, apart from any timing.
-/

namespace PipelinedMachine

/-! ## Operands -/

/-- A value: a register's, or one written in the instruction. -/
inductive Operand where
  | register (r : Register)
  | literal (value : Word)
deriving DecidableEq, Repr

/-- The operand's value under the given registers. -/
def Operand.value (operand : Operand) (registers : RegisterFile) : Word :=
  match operand with
  | register r => registers.get r
  | literal value => value

/-- The address of a load or store: written in the instruction, or an offset from a register. -/
inductive MemoryOperand where
  | literal (address : Word)
  | indexed (base : Register) (offset : Word)
deriving DecidableEq, Repr

/-- The address under the given registers; an offset wraps around the address space. -/
def MemoryOperand.resolve (operand : MemoryOperand) (registers : RegisterFile) : Word :=
  match operand with
  | literal address => address
  | indexed base offset => registers.get base + offset

/-! ## Arithmetic -/

/-- The four arithmetic operations. -/
inductive Arithmetic where
  | add
  | subtract
  | multiply
  | divide
deriving DecidableEq, Repr

/-- The result of an operation.  All wrap except division, which rounds toward zero and is undefined
in two cases: a zero divisor, and the one quotient that does not fit in a word. -/
def Arithmetic.apply (operation : Arithmetic) (lhs rhs : Word) : Except FaultCause Word :=
  match operation with
  | add => .ok (lhs + rhs)
  | subtract => .ok (lhs - rhs)
  | multiply => .ok (lhs * rhs)
  | divide =>
    if rhs = 0 then .error .divideByZero
    else if lhs = Int32.minValue ∧ rhs = -1 then .error .divideOverflow
    else .ok (lhs / rhs)

/-- What the arithmetic unit is asked to do.  Only arithmetic can take its operand from a register;
the others always carry the instruction's second word, which a copy and a no-op ignore. -/
inductive AluOperation where
  | nop (literal : Word)
  | set (literal : Word)
  | copy (literal : Word)
  | arithmetic (operation : Arithmetic) (operand : Operand)
deriving DecidableEq, Repr

/-- The operand the instruction carries, used or not. -/
def AluOperation.operand : AluOperation → Operand
  | nop literal | set literal | copy literal => .literal literal
  | arithmetic _ operand => operand

/-- An instruction of the arithmetic unit. -/
structure AluInstruction where
  operation : AluOperation
  /-- The register that takes the result. -/
  target : Register
  /-- The left operand. -/
  source : Register
deriving DecidableEq, Repr

/-- The value for the target register: none for a no-op, or the cause of a trap. -/
def AluInstruction.evaluate (instruction : AluInstruction) (registers : RegisterFile) :
    Except FaultCause (Option Word) :=
  match instruction.operation with
  | .nop _ => .ok none
  | .set literal => .ok (some literal)
  | .copy _ => .ok (some (registers.get instruction.source))
  | .arithmetic operation operand =>
    (operation.apply (registers.get instruction.source) (operand.value registers)).map some

/-! ## Memory access -/

/-- An instruction of the load unit. -/
inductive LoadInstruction where
  | nop
  | load (target : Register) (address : MemoryOperand)
deriving DecidableEq, Repr

/-- An instruction of the store unit. -/
structure StoreInstruction where
  /-- The register whose value is stored. -/
  source : Register
  address : MemoryOperand
deriving DecidableEq, Repr

/-- An instruction of the stack unit.  The plain forms only move the stack pointer. -/
inductive StackInstruction where
  | push
  | pop
  | pushStore (source : Register)
  | popLoad (target : Register)
deriving DecidableEq, Repr

/-! ## Control flow -/

/-- A comparison of two words as signed numbers. -/
inductive Condition where
  | equal
  | notEqual
  | less
  | lessEqual
deriving DecidableEq, Repr

/-- Whether the comparison comes out true. -/
def Condition.holds (condition : Condition) (lhs rhs : Word) : Bool :=
  match condition with
  | equal => lhs == rhs
  | notEqual => lhs != rhs
  | less => lhs < rhs
  | lessEqual => lhs ≤ rhs

/-- An instruction of the branch unit. -/
inductive BranchInstruction where
  | nop
  | jump (target : Word)
  | jumpRegister (base : Register) (offset : Word)
  | compare (condition : Condition) (lhs rhs : Register) (target : Operand)
  /-- Reports its own address to whoever runs the machine. -/
  | breakpoint
deriving DecidableEq, Repr

/-- The registers after the branch: only the instruction pointer moves. -/
def BranchInstruction.next (branch : BranchInstruction) (registers : RegisterFile) :
    RegisterFile :=
  match branch with
  | nop | breakpoint => registers.advance
  | jump target => registers.jump target
  | jumpRegister base offset => registers.jump (registers.get base + offset)
  | compare condition lhs rhs target =>
    if condition.holds (registers.get lhs) (registers.get rhs)
    then registers.jump (target.value registers)
    else registers.advance

/-! ## Interrupts -/

/-- What a program asks of the interrupt controller. -/
inductive InterruptRequest where
  /-- Makes the address held in `source` the handler of interrupt `id`. -/
  | install (id : Word) (source : Register)
  /-- Raises interrupt `id`. -/
  | raise (id : Word)
deriving DecidableEq, Repr

/-- An interrupt instruction: a request, or the end of a handler. -/
inductive InterruptInstruction where
  | request (request : InterruptRequest)
  | handlerReturn
deriving DecidableEq, Repr

/-! ## All instructions -/

/-- A decoded instruction, by the unit that executes it. -/
inductive Instruction where
  /-- Stays where it is: no unit takes it, and the instruction pointer does not move. -/
  | nop
  | alu (instruction : AluInstruction)
  | load (instruction : LoadInstruction)
  | store (instruction : StoreInstruction)
  | branch (instruction : BranchInstruction)
  | interrupt (instruction : InterruptInstruction)
  | stack (instruction : StackInstruction)
deriving DecidableEq, Repr

end PipelinedMachine
