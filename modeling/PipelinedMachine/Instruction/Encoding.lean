import PipelinedMachine.Instruction

/-!
# Instruction encoding

The first word of an instruction packs four bytes: the unit, the operation within the unit, and two
register operands `a` and `b`.  The second word is a literal, an address, an offset, an interrupt
id or, for some forms, one more register.

* `CodeFields` — the four bytes, with `CodeFields.ofWord` and `CodeFields.toWord`;
* `UnitCode`, `AluCode`, `LoadCode`, `StoreCode`, `BranchCode`, `InterruptCode`, `StackCode` — the
  code numbers of the units and of each unit's operations, as types with `number` and `ofNumber?`;
* `Instruction.encode` — the two words of an instruction, with zero in every field it does not use.
-/

namespace PipelinedMachine

/-! ## The fields of the first word -/

/-- The four bytes of an instruction's first word. -/
structure CodeFields where
  unit : UInt8
  operation : UInt8
  a : UInt8
  b : UInt8
deriving DecidableEq, Repr

namespace CodeFields

/-- The fields of a word, the unit on top. -/
def ofWord (w : Word) : CodeFields := ⟨w.byte3, w.byte2, w.byte1, w.byte0⟩

/-- The word with the given fields. -/
def toWord (fields : CodeFields) : Word :=
  Word.ofBytes fields.unit fields.operation fields.a fields.b

@[simp] theorem ofWord_toWord (fields : CodeFields) : ofWord fields.toWord = fields := by
  simp [ofWord, toWord]

end CodeFields

/-! ## Unit codes -/

/-- The units that the top byte can name. -/
inductive UnitCode where
  | nop
  | alu
  | load
  | store
  | branch
  /-- Instruction fetch, which runs on its own and takes no instructions. -/
  | fetch
  | interrupt
  | stack
deriving DecidableEq, Repr

namespace UnitCode

/-- The code number of the unit. -/
def number : UnitCode → UInt8
  | nop => 0
  | alu => 1
  | load => 2
  | store => 3
  | branch => 4
  | fetch => 5
  | interrupt => 6
  | stack => 7

/-- The unit with the given code number. -/
def ofNumber? : UInt8 → Option UnitCode
  | 0 => some nop
  | 1 => some alu
  | 2 => some load
  | 3 => some store
  | 4 => some branch
  | 5 => some fetch
  | 6 => some interrupt
  | 7 => some stack
  | _ => none

@[simp] theorem ofNumber?_number (unit : UnitCode) : ofNumber? unit.number = some unit := by
  cases unit <;> rfl

end UnitCode

/-! ## Operation codes -/

/-- Whether an operand in the second word is a register's index or the value itself. -/
inductive OperandForm where
  | register
  | literal
deriving DecidableEq, Repr

/-- The form that encodes an operand. -/
def Operand.form : Operand → OperandForm
  | register _ => .register
  | literal _ => .literal

/-- The second word that encodes an operand. -/
def Operand.toWord : Operand → Word
  | register r => r.toWord
  | literal value => value

/-- The operations of the arithmetic unit. -/
inductive AluCode where
  | nop
  | set
  | copy
  | arithmetic (operation : Arithmetic) (form : OperandForm)
deriving DecidableEq, Repr

namespace AluCode

/-- The code number of the operation. -/
def number : AluCode → UInt8
  | nop => 0
  | set => 1
  | arithmetic .add .register => 2
  | arithmetic .add .literal => 3
  | arithmetic .subtract .register => 4
  | arithmetic .subtract .literal => 5
  | arithmetic .multiply .register => 6
  | arithmetic .multiply .literal => 7
  | arithmetic .divide .register => 8
  | arithmetic .divide .literal => 9
  | copy => 10

/-- The operation with the given code number. -/
def ofNumber? : UInt8 → Option AluCode
  | 0 => some nop
  | 1 => some set
  | 2 => some (arithmetic .add .register)
  | 3 => some (arithmetic .add .literal)
  | 4 => some (arithmetic .subtract .register)
  | 5 => some (arithmetic .subtract .literal)
  | 6 => some (arithmetic .multiply .register)
  | 7 => some (arithmetic .multiply .literal)
  | 8 => some (arithmetic .divide .register)
  | 9 => some (arithmetic .divide .literal)
  | 10 => some copy
  | _ => none

@[simp] theorem ofNumber?_number (code : AluCode) : ofNumber? code.number = some code := by
  rcases code with _ | _ | _ | ⟨_ | _ | _ | _, _ | _⟩ <;> rfl

end AluCode

/-- The operations of the load unit. -/
inductive LoadCode where
  | nop
  | indexed
  | literal
deriving DecidableEq, Repr

namespace LoadCode

/-- The code number of the operation. -/
def number : LoadCode → UInt8
  | nop => 0
  | indexed => 1
  | literal => 2

/-- The operation with the given code number. -/
def ofNumber? : UInt8 → Option LoadCode
  | 0 => some nop
  | 1 => some indexed
  | 2 => some literal
  | _ => none

@[simp] theorem ofNumber?_number (code : LoadCode) : ofNumber? code.number = some code := by
  cases code <;> rfl

end LoadCode

/-- The operations of the store unit. -/
inductive StoreCode where
  | indexed
  | literal
deriving DecidableEq, Repr

namespace StoreCode

/-- The code number of the operation. -/
def number : StoreCode → UInt8
  | indexed => 0
  | literal => 1

/-- The operation with the given code number. -/
def ofNumber? : UInt8 → Option StoreCode
  | 0 => some indexed
  | 1 => some literal
  | _ => none

@[simp] theorem ofNumber?_number (code : StoreCode) : ofNumber? code.number = some code := by
  cases code <;> rfl

end StoreCode

/-- The operations of the branch unit. -/
inductive BranchCode where
  | nop
  | jump
  | jumpRegister
  | compare (condition : Condition) (form : OperandForm)
  | breakpoint
deriving DecidableEq, Repr

namespace BranchCode

/-- The code number of the operation. -/
def number : BranchCode → UInt8
  | nop => 0
  | jump => 1
  | compare .notEqual .literal => 2
  | compare .equal .literal => 3
  | compare .lessEqual .literal => 4
  | compare .less .literal => 5
  | breakpoint => 6
  | jumpRegister => 7
  | compare .notEqual .register => 8
  | compare .equal .register => 9
  | compare .lessEqual .register => 10
  | compare .less .register => 11

/-- The operation with the given code number. -/
def ofNumber? : UInt8 → Option BranchCode
  | 0 => some nop
  | 1 => some jump
  | 2 => some (compare .notEqual .literal)
  | 3 => some (compare .equal .literal)
  | 4 => some (compare .lessEqual .literal)
  | 5 => some (compare .less .literal)
  | 6 => some breakpoint
  | 7 => some jumpRegister
  | 8 => some (compare .notEqual .register)
  | 9 => some (compare .equal .register)
  | 10 => some (compare .lessEqual .register)
  | 11 => some (compare .less .register)
  | _ => none

@[simp] theorem ofNumber?_number (code : BranchCode) : ofNumber? code.number = some code := by
  rcases code with _ | _ | _ | ⟨_ | _ | _ | _, _ | _⟩ | _ <;> rfl

end BranchCode

/-- The operations of the interrupt unit. -/
inductive InterruptCode where
  | install
  | raise
  | handlerReturn
deriving DecidableEq, Repr

namespace InterruptCode

/-- The code number of the operation. -/
def number : InterruptCode → UInt8
  | install => 0
  | raise => 1
  | handlerReturn => 2

/-- The operation with the given code number. -/
def ofNumber? : UInt8 → Option InterruptCode
  | 0 => some install
  | 1 => some raise
  | 2 => some handlerReturn
  | _ => none

@[simp] theorem ofNumber?_number (code : InterruptCode) : ofNumber? code.number = some code := by
  cases code <;> rfl

end InterruptCode

/-- The operations of the stack unit. -/
inductive StackCode where
  | pushStore
  | popLoad
  | pop
  | push
deriving DecidableEq, Repr

namespace StackCode

/-- The code number of the operation. -/
def number : StackCode → UInt8
  | pushStore => 0
  | popLoad => 1
  | pop => 2
  | push => 3

/-- The operation with the given code number. -/
def ofNumber? : UInt8 → Option StackCode
  | 0 => some pushStore
  | 1 => some popLoad
  | 2 => some pop
  | 3 => some push
  | _ => none

@[simp] theorem ofNumber?_number (code : StackCode) : ofNumber? code.number = some code := by
  cases code <;> rfl

end StackCode

/-! ## Encoding -/

/-- The first word of an instruction for `unit`. -/
def UnitCode.firstWord (unit : UnitCode) (operation a b : UInt8) : Word :=
  CodeFields.toWord ⟨unit.number, operation, a, b⟩

/-- The code of an arithmetic unit's operation. -/
def AluOperation.code : AluOperation → AluCode
  | nop _ => .nop
  | set _ => .set
  | copy _ => .copy
  | arithmetic operation operand => .arithmetic operation operand.form

namespace Instruction

/-- The two words of an instruction.  Fields that the instruction does not use are zero. -/
def encode : Instruction → CodeWords
  | nop => ⟨0, 0⟩
  | alu ⟨operation, target, source⟩ =>
    ⟨UnitCode.alu.firstWord operation.code.number target.toByte source.toByte,
      operation.operand.toWord⟩
  | load .nop => ⟨UnitCode.load.firstWord LoadCode.nop.number 0 0, 0⟩
  | load (.load target (.literal address)) =>
    ⟨UnitCode.load.firstWord LoadCode.literal.number target.toByte 0, address⟩
  | load (.load target (.indexed base offset)) =>
    ⟨UnitCode.load.firstWord LoadCode.indexed.number target.toByte base.toByte, offset⟩
  | store ⟨source, .literal address⟩ =>
    ⟨UnitCode.store.firstWord StoreCode.literal.number 0 source.toByte, address⟩
  | store ⟨source, .indexed base offset⟩ =>
    ⟨UnitCode.store.firstWord StoreCode.indexed.number base.toByte source.toByte, offset⟩
  | branch .nop => ⟨UnitCode.branch.firstWord BranchCode.nop.number 0 0, 0⟩
  | branch (.jump target) => ⟨UnitCode.branch.firstWord BranchCode.jump.number 0 0, target⟩
  | branch (.jumpRegister base offset) =>
    ⟨UnitCode.branch.firstWord BranchCode.jumpRegister.number 0 base.toByte, offset⟩
  | branch (.compare condition lhs rhs target) =>
    ⟨UnitCode.branch.firstWord (BranchCode.compare condition target.form).number
      lhs.toByte rhs.toByte, target.toWord⟩
  | branch .breakpoint => ⟨UnitCode.branch.firstWord BranchCode.breakpoint.number 0 0, 0⟩
  | interrupt (.request (.install id source)) =>
    ⟨UnitCode.interrupt.firstWord InterruptCode.install.number 0 source.toByte, id⟩
  | interrupt (.request (.raise id)) =>
    ⟨UnitCode.interrupt.firstWord InterruptCode.raise.number 0 0, id⟩
  | interrupt .handlerReturn =>
    ⟨UnitCode.interrupt.firstWord InterruptCode.handlerReturn.number 0 0, 0⟩
  | stack .push => ⟨UnitCode.stack.firstWord StackCode.push.number 0 0, 0⟩
  | stack .pop => ⟨UnitCode.stack.firstWord StackCode.pop.number 0 0, 0⟩
  | stack (.pushStore source) =>
    ⟨UnitCode.stack.firstWord StackCode.pushStore.number 0 0, source.toWord⟩
  | stack (.popLoad target) =>
    ⟨UnitCode.stack.firstWord StackCode.popLoad.number 0 0, target.toWord⟩

end Instruction

end PipelinedMachine
