import PipelinedMachine.Instruction.Encoding

/-!
# Assembling programs

Named builders for every form an instruction can take, with the operands in the order in which they
are written, and `assemble`, which lays a program out as words.
-/

namespace PipelinedMachine

namespace Assembler

/-- Register number `i`; past the last one, counting starts again at 0. -/
def register (i : Nat) : Register := ⟨Fin.ofNat registerCount i⟩

/-! ## Arithmetic -/

/-- Stays where it is. -/
def nop : Instruction := .nop

/-- Writes `value` into `target`. -/
def setLiteral (target : Register) (value : Word) : Instruction :=
  .alu ⟨.set value, target, register 0⟩

/-- Copies `source` into `target`. -/
def copy (target source : Register) : Instruction := .alu ⟨.copy 0, target, source⟩

/-- Applies `operation` to two registers. -/
def arithmetic (operation : Arithmetic) (target source other : Register) : Instruction :=
  .alu ⟨.arithmetic operation (.register other), target, source⟩

/-- Applies `operation` to a register and a value. -/
def arithmeticLiteral (operation : Arithmetic) (target source : Register) (value : Word) :
    Instruction :=
  .alu ⟨.arithmetic operation (.literal value), target, source⟩

/-! ## Memory -/

/-- Reads the word at `address` into `target`. -/
def loadLiteral (target : Register) (address : Word) : Instruction :=
  .load (.load target (.literal address))

/-- Reads the word `offset` above the address in `base` into `target`. -/
def loadIndexed (target base : Register) (offset : Word) : Instruction :=
  .load (.load target (.indexed base offset))

/-- Writes `source` to `address`. -/
def storeLiteral (source : Register) (address : Word) : Instruction :=
  .store ⟨source, .literal address⟩

/-- Writes `source` to the word `offset` above the address in `base`. -/
def storeIndexed (base source : Register) (offset : Word) : Instruction :=
  .store ⟨source, .indexed base offset⟩

/-- Moves the stack pointer down by one. -/
def push : Instruction := .stack .push

/-- Moves the stack pointer up by one. -/
def pop : Instruction := .stack .pop

/-- Writes `source` to the top of the stack, then moves the stack pointer down by one. -/
def pushStore (source : Register) : Instruction := .stack (.pushStore source)

/-- Moves the stack pointer up by one, then reads the top of the stack into `target`. -/
def popLoad (target : Register) : Instruction := .stack (.popLoad target)

/-! ## Control flow -/

/-- Continues at `target`. -/
def jump (target : Word) : Instruction := .branch (.jump target)

/-- Continues `offset` above the address in `base`. -/
def jumpRegister (base : Register) (offset : Word) : Instruction :=
  .branch (.jumpRegister base offset)

/-- Continues at `target` if the comparison holds. -/
def jumpIf (condition : Condition) (lhs rhs : Register) (target : Word) : Instruction :=
  .branch (.compare condition lhs rhs (.literal target))

/-- Continues at the address in `target` if the comparison holds. -/
def jumpIfRegister (condition : Condition) (lhs rhs target : Register) : Instruction :=
  .branch (.compare condition lhs rhs (.register target))

/-- Reports a breakpoint. -/
def breakpoint : Instruction := .branch .breakpoint

/-! ## Interrupts -/

/-- Makes the address in `source` the handler of interrupt `id`. -/
def setInterrupt (id : Word) (source : Register) : Instruction :=
  .interrupt (.request (.install id source))

/-- Raises interrupt `id`. -/
def callInterrupt (id : Word) : Instruction := .interrupt (.request (.raise id))

/-- Ends an interrupt handler. -/
def interruptReturn : Instruction := .interrupt .handlerReturn

end Assembler

/-! ## Layout -/

/-- The words of a program, two per instruction, in order. -/
def assemble (program : List Instruction) : Array Word :=
  (program.flatMap fun instruction =>
    [instruction.encode.first, instruction.encode.second]).toArray

end PipelinedMachine
