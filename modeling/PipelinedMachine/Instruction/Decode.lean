import PipelinedMachine.Instruction.Encoding

/-!
# Decoding

`CodeWords.decode` reads an instruction back from its two words, or says what is wrong with them.
Of several defects the first in this order is reported: the unit, the operation, and then the
register operands, which all report the same cause.  Fields that a form does not use are not
looked at, with one exception: every instruction of the arithmetic unit names two registers, so
both are checked even where they have no effect.

Main statement: `Instruction.decode_encode`, decoding gives back every instruction that was encoded.
-/

namespace PipelinedMachine

/-- A register operand in a byte of the first word. -/
def Register.decodeByte (b : UInt8) : Except FaultCause Register :=
  match Register.ofByte? b with
  | some r => .ok r
  | none => .error .registerOutOfRange

@[simp] theorem Register.decodeByte_toByte (r : Register) : decodeByte r.toByte = .ok r := by
  simp [decodeByte]

/-- A register operand in the second word. -/
def Register.decodeWord (w : Word) : Except FaultCause Register :=
  match Register.ofWord? w with
  | some r => .ok r
  | none => .error .registerOutOfRange

@[simp] theorem Register.decodeWord_toWord (r : Register) : decodeWord r.toWord = .ok r := by
  simp [decodeWord]

/-- The operation that `code?` found in a unit's table, if it found one. -/
def FaultCause.requireOperation {Code : Type} (code? : Option Code) : Except FaultCause Code :=
  match code? with
  | some code => .ok code
  | none => .error .unknownOperation

/-- An operand of the given form in the second word. -/
def OperandForm.decode (form : OperandForm) (second : Word) : Except FaultCause Operand :=
  match form with
  | register => return .register (← Register.decodeWord second)
  | literal => return .literal second

@[simp] theorem OperandForm.decode_toWord (operand : Operand) :
    operand.form.decode operand.toWord = .ok operand := by
  cases operand with
  | register r => simp [Operand.form, Operand.toWord, decode, bind, Except.bind, pure, Except.pure]
  | literal value => rfl

/-- The operation of the arithmetic unit that `code` stands for. -/
def AluCode.decode (code : AluCode) (second : Word) : Except FaultCause AluOperation :=
  match code with
  | nop => return .nop second
  | set => return .set second
  | copy => return .copy second
  | arithmetic operation form => return .arithmetic operation (← form.decode second)

@[simp] theorem AluCode.decode_operand (operation : AluOperation) :
    operation.code.decode operation.operand.toWord = .ok operation := by
  cases operation with
  | nop | set | copy => rfl
  | arithmetic operation operand =>
    simp [AluOperation.code, AluOperation.operand, decode, bind, Except.bind, pure, Except.pure]

namespace CodeFields

/-- An instruction of the arithmetic unit. -/
def decodeAlu (fields : CodeFields) (second : Word) : Except FaultCause AluInstruction := do
  let code ← FaultCause.requireOperation (AluCode.ofNumber? fields.operation)
  let operation ← code.decode second
  let target ← Register.decodeByte fields.a
  let source ← Register.decodeByte fields.b
  return ⟨operation, target, source⟩

/-- An instruction of the load unit. -/
def decodeLoad (fields : CodeFields) (second : Word) : Except FaultCause LoadInstruction := do
  match ← FaultCause.requireOperation (LoadCode.ofNumber? fields.operation) with
  | .nop => return .nop
  | .indexed =>
    let base ← Register.decodeByte fields.b
    return .load (← Register.decodeByte fields.a) (.indexed base second)
  | .literal => return .load (← Register.decodeByte fields.a) (.literal second)

/-- An instruction of the store unit. -/
def decodeStore (fields : CodeFields) (second : Word) : Except FaultCause StoreInstruction := do
  match ← FaultCause.requireOperation (StoreCode.ofNumber? fields.operation) with
  | .indexed =>
    let base ← Register.decodeByte fields.a
    return ⟨← Register.decodeByte fields.b, .indexed base second⟩
  | .literal => return ⟨← Register.decodeByte fields.b, .literal second⟩

/-- An instruction of the branch unit. -/
def decodeBranch (fields : CodeFields) (second : Word) : Except FaultCause BranchInstruction := do
  match ← FaultCause.requireOperation (BranchCode.ofNumber? fields.operation) with
  | .nop => return .nop
  | .jump => return .jump second
  | .jumpRegister => return .jumpRegister (← Register.decodeByte fields.b) second
  | .compare condition form =>
    let target ← form.decode second
    let lhs ← Register.decodeByte fields.a
    let rhs ← Register.decodeByte fields.b
    return .compare condition lhs rhs target
  | .breakpoint => return .breakpoint

/-- An instruction of the interrupt unit. -/
def decodeInterrupt (fields : CodeFields) (second : Word) :
    Except FaultCause InterruptInstruction := do
  match ← FaultCause.requireOperation (InterruptCode.ofNumber? fields.operation) with
  | .install => return .request (.install second (← Register.decodeByte fields.b))
  | .raise => return .request (.raise second)
  | .handlerReturn => return .handlerReturn

/-- An instruction of the stack unit. -/
def decodeStack (fields : CodeFields) (second : Word) : Except FaultCause StackInstruction := do
  match ← FaultCause.requireOperation (StackCode.ofNumber? fields.operation) with
  | .push => return .push
  | .pop => return .pop
  | .pushStore => return .pushStore (← Register.decodeWord second)
  | .popLoad => return .popLoad (← Register.decodeWord second)

end CodeFields

/-- The instruction that two words encode, or why they encode none. -/
def CodeWords.decode (code : CodeWords) : Except FaultCause Instruction :=
  let fields := CodeFields.ofWord code.first
  match UnitCode.ofNumber? fields.unit with
  | none => .error .unknownUnit
  | some .nop => .ok .nop
  | some .alu => (fields.decodeAlu code.second).map .alu
  | some .load => (fields.decodeLoad code.second).map .load
  | some .store => (fields.decodeStore code.second).map .store
  | some .branch => (fields.decodeBranch code.second).map .branch
  | some .fetch => .error .reservedUnit
  | some .interrupt => (fields.decodeInterrupt code.second).map .interrupt
  | some .stack => (fields.decodeStack code.second).map .stack

/-- Decoding an encoded instruction gives the instruction back. -/
theorem Instruction.decode_encode (instruction : Instruction) :
    instruction.encode.decode = .ok instruction := by
  rcases instruction with _ | _ | (_ | ⟨_, _ | _⟩) | ⟨_, _ | _⟩ | (_ | _ | _ | _ | _) |
    ((_ | _) | _) | (_ | _ | _ | _)
  case nop => rfl
  all_goals
    simp [encode, UnitCode.firstWord, CodeWords.decode, CodeFields.decodeAlu,
      CodeFields.decodeLoad, CodeFields.decodeStore, CodeFields.decodeBranch,
      CodeFields.decodeInterrupt, CodeFields.decodeStack, FaultCause.requireOperation, bind,
      Except.bind, pure, Except.pure, Except.map]

end PipelinedMachine
