import PipelinedMachine.Instruction.Decode

/-!
# Disassembly

Instructions as text.  A literal and a register are told apart by the `r` of a register's name, so
a mnemonic shared by the literal and the register form of an operation stays unambiguous.

* `Instruction.text` — one decoded instruction;
* `CodeWords.text` — two words as they decode, or why they do not;
* `disassemble` — a listing of a whole sequence of words, two per row.
-/

namespace PipelinedMachine

/-- The operand as it is written. -/
def Operand.text : Operand → String
  | register r => r.text
  | literal value => value.decimal

/-- The address as it is written, in brackets. -/
def MemoryOperand.text : MemoryOperand → String
  | literal address => "[" ++ address.decimal ++ "]"
  | indexed base offset => "[" ++ base.text ++ " + " ++ offset.decimal ++ "]"

/-- The mnemonic of an arithmetic operation. -/
def Arithmetic.mnemonic : Arithmetic → String
  | add => "add"
  | subtract => "sub"
  | multiply => "mul"
  | divide => "div"

/-- The mnemonic of a conditional jump. -/
def Condition.mnemonic : Condition → String
  | equal => "jeq"
  | notEqual => "jne"
  | less => "jlt"
  | lessEqual => "jle"

/-- An arithmetic instruction as it is written. -/
def AluInstruction.text (instruction : AluInstruction) : String :=
  match instruction.operation with
  | .nop _ => "alu.nop"
  | .set literal => "set " ++ instruction.target.text ++ ", " ++ literal.decimal
  | .copy _ => "copy " ++ instruction.target.text ++ ", " ++ instruction.source.text
  | .arithmetic operation operand =>
    operation.mnemonic ++ " " ++ instruction.target.text ++ ", " ++ instruction.source.text ++
      ", " ++ operand.text

/-- A branch as it is written. -/
def BranchInstruction.text : BranchInstruction → String
  | nop => "branch.nop"
  | jump target => "jmp " ++ target.decimal
  | jumpRegister base offset => "jmp " ++ base.text ++ " + " ++ offset.decimal
  | compare condition lhs rhs target =>
    condition.mnemonic ++ " " ++ lhs.text ++ ", " ++ rhs.text ++ ", " ++ target.text
  | breakpoint => "break"

/-- An instruction as it is written. -/
def Instruction.text : Instruction → String
  | nop => "nop"
  | alu instruction => instruction.text
  | load .nop => "load.nop"
  | load (.load target address) => "load " ++ target.text ++ ", " ++ address.text
  | store ⟨source, address⟩ => "store " ++ address.text ++ ", " ++ source.text
  | branch instruction => instruction.text
  | interrupt (.request (.install id source)) => "setint " ++ id.decimal ++ ", " ++ source.text
  | interrupt (.request (.raise id)) => "int " ++ id.decimal
  | interrupt .handlerReturn => "iret"
  | stack .push => "push"
  | stack .pop => "pop"
  | stack (.pushStore source) => "push " ++ source.text
  | stack (.popLoad target) => "pop " ++ target.text

/-- Two code words as text; words that encode no instruction say why. -/
def CodeWords.text (code : CodeWords) : String :=
  match code.decode with
  | .ok instruction => instruction.text
  | .error cause => ".invalid ; " ++ cause.text

/-! ## Listings -/

/-- The row of `words` that starts at index `i`, for code loaded at `origin`.  A word missing at the
end counts as zero. -/
def listingRow (origin : Word) (words : Array Word) (i : Nat) : Fetched where
  address := origin + Int32.ofNat i
  code := ⟨words.getD i 0, words.getD (i + 1) 0⟩

/-- The instructions in `words`, loaded at `origin`, two words to a row. -/
def disassemble (origin : Word) (words : Array Word) : Array Fetched :=
  Array.ofFn fun row : Fin ((words.size + 1) / 2) => listingRow origin words (2 * row)

end PipelinedMachine
