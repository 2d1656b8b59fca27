import PipelinedMachine.Instruction.Assembler
import PipelinedMachine.Instruction.Text
import PipelinedMachine.Proofs.Served.Sequential

/-!
# Listings of programs

A program is a list of calls of the builders.  Assembling lays it out as words, and a listing reads
the words back two at a time.  What comes back is said here of the calls themselves, without the
instructions that the builders make: each `Call` has a text, which is how its row is written, and an
effect, which is what its row does to the registers and the memory.

* `Call` — a call of a builder, with `Call.instruction`, `Call.text` and `Call.effect`;
* `codePairs` — the pairs of a sequence of words, the last word being paired with zero when it is
  left over; `map_code_disassemble` says that the rows of a listing hold these pairs.

Main statement: **`listing_of_program`**, the rows of an assembled program are its calls in order,
and the rows of any words partition them.
-/

namespace PipelinedMachine

/-! ## Calls of the builders -/

/-- A call of a builder, with its operands by their roles. -/
inductive Call where
  | nop
  | setLiteral (target : Register) (value : Word)
  | copy (target source : Register)
  | arithmetic (operation : Arithmetic) (target source other : Register)
  | arithmeticLiteral (operation : Arithmetic) (target source : Register) (value : Word)
  | loadLiteral (target : Register) (address : Word)
  | loadIndexed (target base : Register) (offset : Word)
  | storeLiteral (source : Register) (address : Word)
  | storeIndexed (base source : Register) (offset : Word)
  | push
  | pop
  | pushStore (source : Register)
  | popLoad (target : Register)
  | jump (target : Word)
  | jumpRegister (base : Register) (offset : Word)
  | jumpIf (condition : Condition) (lhs rhs : Register) (target : Word)
  | jumpIfRegister (condition : Condition) (lhs rhs target : Register)
  | breakpoint
  | setInterrupt (id : Word) (source : Register)
  | callInterrupt (id : Word)
  | interruptReturn
deriving DecidableEq, Repr

namespace Call

/-- What the builder returns. -/
def instruction : Call → Instruction
  | nop => Assembler.nop
  | setLiteral target value => Assembler.setLiteral target value
  | copy target source => Assembler.copy target source
  | arithmetic operation target source other =>
    Assembler.arithmetic operation target source other
  | arithmeticLiteral operation target source value =>
    Assembler.arithmeticLiteral operation target source value
  | loadLiteral target address => Assembler.loadLiteral target address
  | loadIndexed target base offset => Assembler.loadIndexed target base offset
  | storeLiteral source address => Assembler.storeLiteral source address
  | storeIndexed base source offset => Assembler.storeIndexed base source offset
  | push => Assembler.push
  | pop => Assembler.pop
  | pushStore source => Assembler.pushStore source
  | popLoad target => Assembler.popLoad target
  | jump target => Assembler.jump target
  | jumpRegister base offset => Assembler.jumpRegister base offset
  | jumpIf condition lhs rhs target => Assembler.jumpIf condition lhs rhs target
  | jumpIfRegister condition lhs rhs target => Assembler.jumpIfRegister condition lhs rhs target
  | breakpoint => Assembler.breakpoint
  | setInterrupt id source => Assembler.setInterrupt id source
  | callInterrupt id => Assembler.callInterrupt id
  | interruptReturn => Assembler.interruptReturn

/-- The row that a listing writes for the call. -/
def text : Call → String
  | nop => "nop"
  | setLiteral target value => "set " ++ target.text ++ ", " ++ value.decimal
  | copy target source => "copy " ++ target.text ++ ", " ++ source.text
  | arithmetic operation target source other =>
    operation.mnemonic ++ " " ++ target.text ++ ", " ++ source.text ++ ", " ++ other.text
  | arithmeticLiteral operation target source value =>
    operation.mnemonic ++ " " ++ target.text ++ ", " ++ source.text ++ ", " ++ value.decimal
  | loadLiteral target address => "load " ++ target.text ++ ", " ++ ("[" ++ address.decimal ++ "]")
  | loadIndexed target base offset =>
    "load " ++ target.text ++ ", " ++ ("[" ++ base.text ++ " + " ++ offset.decimal ++ "]")
  | storeLiteral source address =>
    "store " ++ ("[" ++ address.decimal ++ "]") ++ ", " ++ source.text
  | storeIndexed base source offset =>
    "store " ++ ("[" ++ base.text ++ " + " ++ offset.decimal ++ "]") ++ ", " ++ source.text
  | push => "push"
  | pop => "pop"
  | pushStore source => "push " ++ source.text
  | popLoad target => "pop " ++ target.text
  | jump target => "jmp " ++ target.decimal
  | jumpRegister base offset => "jmp " ++ base.text ++ " + " ++ offset.decimal
  | jumpIf condition lhs rhs target =>
    condition.mnemonic ++ " " ++ lhs.text ++ ", " ++ rhs.text ++ ", " ++ target.decimal
  | jumpIfRegister condition lhs rhs target =>
    condition.mnemonic ++ " " ++ lhs.text ++ ", " ++ rhs.text ++ ", " ++ target.text
  | breakpoint => "break"
  | setInterrupt id source => "setint " ++ id.decimal ++ ", " ++ source.text
  | callInterrupt id => "int " ++ id.decimal
  | interruptReturn => "iret"

section

variable (machine : Sequential) (entry : Fetched)

/-- Writes `value` into `target` and goes on. -/
def put (target : Register) (value : Word) : Sequential :=
  { machine with registers := machine.registers.set target value }.moveOn

/-- Goes on at `target`. -/
def goTo (target : Word) : Sequential :=
  { machine with registers := machine.registers.jump target }

/-- Writes the result of an operation into `target`, or stops at its fault. -/
def putResult (target : Register) : Except FaultCause Word → Sequential
  | .ok value => put machine target value
  | .error cause => machine.trap entry cause

/-- What the call does to a machine, when it stands in memory as `entry`. -/
def effect : Call → Sequential
  | nop => machine
  | setLiteral target value => put machine target value
  | copy target source => put machine target (machine.registers.get source)
  | arithmetic operation target source other =>
    putResult machine entry target
      (operation.apply (machine.registers.get source) (machine.registers.get other))
  | arithmeticLiteral operation target source value =>
    putResult machine entry target (operation.apply (machine.registers.get source) value)
  | loadLiteral target address => (machine.loadInto target address).moveOn
  | loadIndexed target base offset =>
    (machine.loadInto target (machine.registers.get base + offset)).moveOn
  | storeLiteral source address =>
    (machine.storeWord address (machine.registers.get source)).moveOn
  | storeIndexed base source offset =>
    (machine.storeWord (machine.registers.get base + offset) (machine.registers.get source)).moveOn
  | push => (machine.setStack (machine.registers.sp - 1)).moveOn
  | pop => (machine.setStack (machine.registers.sp + 1)).moveOn
  | pushStore source =>
    ((machine.storeWord (AddressMap.ramStart + machine.registers.sp)
      (machine.registers.get source)).setStack (machine.registers.sp - 1)).moveOn
  | popLoad target =>
    ((machine.setStack (machine.registers.sp + 1)).loadInto target
      (AddressMap.ramStart + (machine.registers.sp + 1))).moveOn
  | jump target => goTo machine target
  | jumpRegister base offset => goTo machine (machine.registers.get base + offset)
  | jumpIf condition lhs rhs target =>
    if condition.holds (machine.registers.get lhs) (machine.registers.get rhs)
    then goTo machine target else machine.moveOn
  | jumpIfRegister condition lhs rhs target =>
    if condition.holds (machine.registers.get lhs) (machine.registers.get rhs)
    then goTo machine (machine.registers.get target) else machine.moveOn
  | breakpoint => machine.moveOn
  | setInterrupt id source => (machine.storeWord id (machine.registers.get source)).moveOn
  | callInterrupt id => { machine with memory := machine.memory.interrupt id }.moveOn
  | interruptReturn => machine.trap entry .returnOutsideInterrupt

end

theorem text_instruction (call : Call) : call.instruction.text = call.text := by
  cases call <;> rfl

/-- Each instruction does what its builder says. -/
theorem execute_instruction (call : Call) (machine : Sequential) (entry : Fetched) :
    machine.execute entry call.instruction = call.effect machine entry := by
  cases call with
  | arithmetic operation target source other =>
      simp only [instruction, Assembler.arithmetic, Sequential.execute, AluInstruction.evaluate,
        Operand.value, effect]
      cases operation.apply (machine.registers.get source) (machine.registers.get other) <;> rfl
  | arithmeticLiteral operation target source value =>
      simp only [instruction, Assembler.arithmeticLiteral, Sequential.execute,
        AluInstruction.evaluate, Operand.value, effect]
      cases operation.apply (machine.registers.get source) value <;> rfl
  | jumpIf condition lhs rhs target =>
      simp only [instruction, Assembler.jumpIf, Sequential.execute, BranchInstruction.next, effect]
      split <;> rfl
  | jumpIfRegister condition lhs rhs target =>
      simp only [instruction, Assembler.jumpIfRegister, Sequential.execute, BranchInstruction.next,
        effect]
      split <;> rfl
  | _ => rfl

end Call

/-! ## Words in pairs -/

/-- The words two at a time; a word left over at the end is paired with zero. -/
def codePairs : List Word → List CodeWords
  | first :: second :: rest => ⟨first, second⟩ :: codePairs rest
  | [first] => [⟨first, 0⟩]
  | [] => []

/-- The two words of a row, in order. -/
def CodeWords.words (code : CodeWords) : List Word := [code.first, code.second]

theorem length_codePairs : ∀ words : List Word, (codePairs words).length = (words.length + 1) / 2
  | _ :: _ :: rest => by
      simp only [codePairs, List.length_cons, length_codePairs rest]
      omega
  | [_] => by simp [codePairs]
  | [] => rfl

theorem getElem?_codePairs : ∀ (words : List Word) (row : Nat),
    row < (words.length + 1) / 2 →
      (codePairs words)[row]? = some ⟨words.getD (2 * row) 0, words.getD (2 * row + 1) 0⟩
  | _ :: _ :: _, 0, _ => rfl
  | _ :: _ :: rest, row + 1, inside => by
      have within : row < (rest.length + 1) / 2 := by
        simp only [List.length_cons] at inside
        omega
      rw [codePairs, List.getElem?_cons_succ, getElem?_codePairs rest row within,
        Nat.mul_succ, Nat.add_right_comm]
      rfl
  | [_], row, inside => by
      obtain rfl : row = 0 := by simpa using inside
      rfl
  | [], _, inside => absurd inside (Nat.not_lt_zero _)

/-- The pairs hold the words in order, and a zero after an odd number of them. -/
theorem flatMap_codePairs : ∀ words : List Word,
    (codePairs words).flatMap CodeWords.words =
      words ++ if words.length % 2 = 1 then [0] else []
  | first :: second :: rest => by
      have parity : (rest.length + 2) % 2 = rest.length % 2 := Nat.add_mod_right _ _
      rw [codePairs, List.flatMap_cons, flatMap_codePairs rest]
      simp [CodeWords.words, parity]
  | [_] => rfl
  | [] => rfl

theorem codePairs_flatMap_words : ∀ codes : List CodeWords,
    codePairs (codes.flatMap CodeWords.words) = codes
  | code :: rest => by
      rw [List.flatMap_cons]
      exact congrArg (code :: ·) (codePairs_flatMap_words rest)
  | [] => rfl

/-! ## Rows of a listing -/

/-- The row at an index of a listing that starts at `origin`. -/
def rowAt (origin : Word) (row : Nat) (code : CodeWords) : Fetched :=
  ⟨origin + 2 * Int32.ofNat row, code⟩

/-- The rows of a listing hold the words in pairs, and each stands two words after the one before
it. -/
theorem toList_disassemble (origin : Word) (words : Array Word) :
    (disassemble origin words).toList = (codePairs words.toList).mapIdx (rowAt origin) := by
  apply List.ext_getElem?
  intro row
  rw [List.getElem?_mapIdx]
  by_cases inside : row < (words.size + 1) / 2
  · rw [getElem?_codePairs _ _ (by simpa using inside)]
    simp [disassemble, inside, listingRow, rowAt, Array.getD_eq_getD_getElem?,
      List.getD_eq_getElem?_getD, Int32.ofNat_mul]
  · have none : (codePairs words.toList)[row]? = none :=
      List.getElem?_eq_none (by rw [length_codePairs, Array.length_toList]; omega)
    simp [none, disassemble, inside]

theorem map_code_disassemble (origin : Word) (words : Array Word) :
    (disassemble origin words).toList.map Fetched.code = codePairs words.toList := by
  have same (row : Nat) : Fetched.code ∘ rowAt origin row = id := rfl
  rw [toList_disassemble]
  apply List.ext_getElem?
  simp [same]

theorem address_disassemble (origin : Word) (words : Array Word) {row : Nat}
    (inside : row < (disassemble origin words).size) :
    (disassemble origin words)[row].address = origin + 2 * Int32.ofNat row := by
  simp [disassemble, listingRow, Int32.ofNat_mul]

/-- The words of a program are those of its instructions, and so are their pairs. -/
theorem codePairs_assemble (program : List Instruction) :
    codePairs (assemble program).toList = program.map Instruction.encode := by
  have laid : (assemble program).toList =
      (program.map Instruction.encode).flatMap CodeWords.words := by
    rw [List.flatMap_map]
    rfl
  rw [laid, codePairs_flatMap_words]

/-- What two words say of the call that they were built by: they decode to its instruction, are
written as its text, and have its effect on every machine that is about to execute them. -/
structure Call.Shows (call : Call) (code : CodeWords) : Prop where
  decoded : code.decode = .ok call.instruction
  text : code.text = call.text
  effect : ∀ machine : Sequential, machine.fault = none → machine.fetched.code = code →
    machine.step = call.effect machine machine.fetched

theorem Call.shows_encode (call : Call) : call.Shows call.instruction.encode where
  decoded := call.instruction.decode_encode
  text := by
    rw [CodeWords.text, Instruction.decode_encode]
    exact call.text_instruction
  effect machine running fetched := by
    rw [← call.execute_instruction]
    apply Sequential.step_of_decode running rfl
    rw [fetched, Instruction.decode_encode]

/-- **Assembling and listing agree.**  The listing of an assembled program has one row for each
call, in order and two words apart, with the words that were built; these words decode to the call's
instruction, which has each operand in its role.  The rows of any words partition them in order, a
word left over at the end being paired with zero. -/
theorem listing_of_program (origin : Word) :
    (∀ calls : List Call,
      (disassemble origin (assemble (calls.map Call.instruction))).toList =
        calls.mapIdx fun row call => rowAt origin row call.instruction.encode) ∧
    (∀ call : Call, call.Shows call.instruction.encode) ∧
    ∀ words : Array Word,
      ((disassemble origin words).toList.flatMap fun row => row.code.words) =
        words.toList ++ (if words.size % 2 = 1 then [0] else []) ∧
      (disassemble origin words).size = (words.size + 1) / 2 ∧
      ∀ row : Fin (disassemble origin words).size,
        (disassemble origin words)[row].address = origin + 2 * Int32.ofNat row := by
  refine ⟨fun calls => ?_, Call.shows_encode, fun words => ⟨?_, ?_, fun row => ?_⟩⟩
  · rw [toList_disassemble, codePairs_assemble, List.map_map]
    apply List.ext_getElem?
    intro row
    rw [List.getElem?_mapIdx, List.getElem?_mapIdx, List.getElem?_map, Option.map_map]
    rfl
  · rw [← Array.length_toList, ← flatMap_codePairs, ← map_code_disassemble origin,
      List.flatMap_map]
  · simp [disassemble]
  · exact address_disassemble origin words row.isLt

end PipelinedMachine
