import Mathlib.Tactic.Common
import PipelinedMachine.Instruction.Assembler
import PipelinedMachine.Instruction.Text

/-!
# Reading instructions back from their text

A row of a listing is a mnemonic and its operands.  The mnemonic ends at the first blank and every
operand at the next comma, and no two operands are written alike, so the text tells the mnemonic
and the operands, and these tell the instruction as far as it is written at all.  A few forms have
operands that have no effect and are left out of the text.

* `Piece`, `Phrase` — an operand and a row, before they are written; `Phrase.text_inj` says that
  different rows are written differently;
* `Instruction.phrase` — the row of an instruction, with `Instruction.text_phrase`;
* `Instruction.shown` — the instruction with zero in every operand that its text leaves out;
* `Phrase.instruction?` — the instruction that a row shows.

Main statement: **`CodeWords.text_eq_text_iff`**, two pairs of words have the same text exactly if
they are invalid for the same cause, or show the same instruction.
-/

namespace PipelinedMachine

/-! ## Texts cut at a character -/

/-- The piece of a text in front of the first `mark` is determined by the text, and so is the rest.
There need not be a mark, if nothing follows. -/
lemma append_eq_append_of_mark {mark : Char} {x y s t : List Char} (notin_x : mark ∉ x)
    (notin_y : mark ∉ y) (head_s : ∀ c ∈ s.head?, c = mark) (head_t : ∀ c ∈ t.head?, c = mark)
    (same : x ++ s = y ++ t) : x = y ∧ s = t := by
  have front (z rest : List Char) (notin : mark ∉ z) (head : ∀ c ∈ rest.head?, c = mark) :
      (z ++ rest).takeWhile (· ≠ mark) = z := by
    have passes : ∀ c ∈ z, decide (c ≠ mark) = true := fun c mem =>
      decide_eq_true fun found => notin (found ▸ mem)
    rw [List.takeWhile_append_of_pos passes]
    cases rest with
    | nil => simp
    | cons c rest => simp [head c rfl]
  have fronts : x = y := by rw [← front x s notin_x head_s, same, front y t notin_y head_t]
  exact ⟨fronts, List.append_cancel_left (fronts ▸ same)⟩

/-! ## Registers and numbers -/

/-- A text without any of the characters that set operands apart. -/
def Bare (text : String) : Prop :=
  ∀ c ∈ text.toList, c.isAlphanum = true ∨ c = '-'

lemma Bare.notMem {text : String} (bare : Bare text) {c : Char} (mark : c.isAlphanum = false)
    (sign : c ≠ '-') : c ∉ text.toList := by
  intro mem
  rcases bare c mem with letter | minus
  · exact absurd letter (by simp [mark])
  · exact sign minus

lemma bare_toString (n : Nat) : Bare (toString n) := by
  intro c mem
  have digits : c ∈ Nat.toDigits 10 n := by simpa using mem
  exact .inl (by simp [Char.isAlphanum, Nat.isDigit_of_mem_toDigits (by decide) (by decide) digits])

lemma toString_inj {m n : Nat} : toString m = toString n ↔ m = n := by
  refine ⟨fun same => ?_, fun same => by rw [same]⟩
  rw [Nat.toString_eq_ofList_toDigits, Nat.toString_eq_ofList_toDigits, String.ofList_inj] at same
  calc m = Nat.ofDigitChars 10 (Nat.toDigits 10 m) 0 := Nat.ofDigitChars_ten_toDigits.symm
    _ = Nat.ofDigitChars 10 (Nat.toDigits 10 n) 0 := by rw [same]
    _ = n := Nat.ofDigitChars_ten_toDigits

lemma toString_ne_signed (m n : Nat) : toString m ≠ "-" ++ toString n := by
  intro same
  have sign : '-' ∈ Nat.toDigits 10 m := by simpa using congrArg ('-' ∈ ·.toList) same
  exact absurd (Nat.isDigit_of_mem_toDigits (by decide) (by decide) sign) (by decide)

namespace Register

lemma toList_text (r : Register) : r.text.toList = 'r' :: (toString r.index.val).toList := by
  simp [text]

lemma bare_text (r : Register) : Bare r.text := by
  intro c mem
  rw [toList_text, List.mem_cons] at mem
  rcases mem with rfl | digit
  · exact .inl rfl
  · exact bare_toString _ c digit

lemma text_inj {r other : Register} : r.text = other.text ↔ r = other := by
  refine ⟨fun same => ?_, congrArg text⟩
  have names : toString r.index.val = toString other.index.val := by
    have lists := congrArg String.toList same
    rw [toList_text, toList_text] at lists
    exact String.toList_inj.mp (List.cons.inj lists).2
  exact congrArg mk (Fin.ext (toString_inj.mp names))

end Register

namespace Word

lemma decimal_inj {w other : Word} : w.decimal = other.decimal ↔ w = other := by
  rw [decimal, decimal, ← Int32.toInt_inj]
  refine ⟨fun same => ?_, fun same => by rw [same]⟩
  cases negative : w.toInt <;> cases negative' : other.toInt <;> rw [negative, negative'] at same
  case ofNat.ofNat m n => exact congrArg Int.ofNat (toString_inj.mp same)
  case ofNat.negSucc m n => exact absurd same (toString_ne_signed m (n + 1))
  case negSucc.ofNat m n => exact absurd same.symm (toString_ne_signed n (m + 1))
  case negSucc.negSucc m n =>
    change "-" ++ toString (m + 1) = "-" ++ toString (n + 1) at same
    have digits := toString_inj.mp ((String.append_right_inj _).mp same)
    exact congrArg Int.negSucc (Nat.succ.inj digits)

/-- A number has a digit or a sign in front and digits behind. -/
lemma exists_toList_decimal (w : Word) :
    ∃ n : Nat, w.decimal.toList = (toString n).toList ∨
      w.decimal.toList = '-' :: (toString n).toList := by
  rw [decimal]
  cases w.toInt with
  | ofNat n => exact ⟨n, .inl rfl⟩
  | negSucc n =>
    refine ⟨n + 1, .inr ?_⟩
    rw [show toString (Int.negSucc n) = "-" ++ toString (n + 1) from rfl]
    simp

lemma bare_decimal (w : Word) : Bare w.decimal := by
  obtain ⟨n, plain | signed⟩ := w.exists_toList_decimal
  · intro c mem
    exact bare_toString n c (plain ▸ mem)
  · intro c mem
    rw [signed, List.mem_cons] at mem
    exact mem.elim .inr (bare_toString n c)

/-- No number begins like a register. -/
lemma head?_decimal (w : Word) : w.decimal.toList.head? ≠ some 'r' := by
  intro head
  obtain ⟨n, plain | signed⟩ := w.exists_toList_decimal
  · have mem : 'r' ∈ Nat.toDigits 10 n := by
      simpa [plain] using List.mem_of_mem_head? head
    exact absurd (Nat.isDigit_of_mem_toDigits (by decide) (by decide) mem) (by decide)
  · simp [signed] at head

end Word

/-! ## Operands -/

namespace Operand

lemma bare_text : ∀ operand : Operand, Bare operand.text
  | register r => r.bare_text
  | literal value => value.bare_decimal

lemma text_inj {operand other : Operand} : operand.text = other.text ↔ operand = other := by
  refine ⟨fun same => ?_, congrArg text⟩
  cases operand with
  | register r =>
    cases other with
    | register r' => exact congrArg register (Register.text_inj.mp same)
    | literal value =>
      refine absurd ?_ value.head?_decimal
      rw [show value.decimal = r.text from same.symm, Register.toList_text]
      rfl
  | literal value =>
    cases other with
    | register r =>
      refine absurd ?_ value.head?_decimal
      rw [show value.decimal = r.text from same, Register.toList_text]
      rfl
    | literal value' => exact congrArg literal (Word.decimal_inj.mp same)

end Operand

/-- A register and an offset from it as they are written. -/
def sumText (base : Register) (offset : Word) : String := base.text ++ " + " ++ offset.decimal

lemma toList_sumText (base : Register) (offset : Word) :
    (sumText base offset).toList
      = base.text.toList ++ ' ' :: '+' :: ' ' :: offset.decimal.toList := by
  simp [sumText]

lemma sumText_inj {base other : Register} {offset offset' : Word} :
    sumText base offset = sumText other offset' ↔ base = other ∧ offset = offset' := by
  refine ⟨fun same => ?_, fun ⟨bases, offsets⟩ => by rw [bases, offsets]⟩
  have lists := congrArg String.toList same
  rw [toList_sumText, toList_sumText] at lists
  have blank (r : Register) : ' ' ∉ r.text.toList := r.bare_text.notMem rfl (by decide)
  obtain ⟨bases, rest⟩ :=
    append_eq_append_of_mark (blank base) (blank other) (by simp) (by simp) lists
  have offsets : offset.decimal.toList = offset'.decimal.toList := by simpa using rest
  exact ⟨Register.text_inj.mp (String.toList_inj.mp bases),
    Word.decimal_inj.mp (String.toList_inj.mp offsets)⟩

/-- Only a sum has a blank in it. -/
lemma Operand.text_ne_sumText (operand : Operand) (base : Register) (offset : Word) :
    operand.text ≠ sumText base offset := by
  intro same
  have blank : ' ' ∉ operand.text.toList := operand.bare_text.notMem rfl (by decide)
  rw [same, toList_sumText] at blank
  simp at blank

namespace MemoryOperand

/-- What stands between the brackets. -/
def inside : MemoryOperand → String
  | literal address => (Operand.literal address).text
  | indexed base offset => sumText base offset

lemma toList_text (operand : MemoryOperand) :
    operand.text.toList = '[' :: operand.inside.toList ++ [']'] := by
  cases operand <;> simp [text, inside, sumText, Operand.text]

lemma text_inj {operand other : MemoryOperand} : operand.text = other.text ↔ operand = other := by
  refine ⟨fun same => ?_, congrArg text⟩
  have inner : operand.inside = other.inside := by
    have lists := congrArg String.toList same
    rw [toList_text, toList_text] at lists
    exact String.toList_inj.mp (by simpa using lists)
  cases operand with
  | literal address =>
    cases other with
    | literal address' => exact congrArg literal (Word.decimal_inj.mp inner)
    | indexed base offset =>
      exact absurd inner ((Operand.literal address).text_ne_sumText base offset)
  | indexed base offset =>
    cases other with
    | literal address =>
      exact absurd inner.symm ((Operand.literal address).text_ne_sumText base offset)
    | indexed base' offset' =>
      obtain ⟨rfl, rfl⟩ := sumText_inj.mp inner
      rfl

end MemoryOperand

/-- An operand of a row. -/
inductive Piece where
  | value (operand : Operand)
  | address (operand : MemoryOperand)
  | sum (base : Register) (offset : Word)
deriving DecidableEq, Repr

namespace Piece

/-- A register. -/
abbrev register (r : Register) : Piece := value (.register r)

/-- A number. -/
abbrev number (w : Word) : Piece := value (.literal w)

/-- The operand as it is written. -/
def text : Piece → String
  | value operand => operand.text
  | address operand => operand.text
  | sum base offset => sumText base offset

/-- A comma ends an operand. -/
lemma comma_notMem_text (piece : Piece) : ',' ∉ piece.text.toList := by
  have decimal (w : Word) : ',' ∉ w.decimal.toList := w.bare_decimal.notMem rfl (by decide)
  have register (r : Register) : ',' ∉ r.text.toList := r.bare_text.notMem rfl (by decide)
  rcases piece with (_ | _) | (_ | _) | _ <;>
    simp [text, Operand.text, MemoryOperand.text, sumText, decimal, register]

lemma head?_operand (operand : Operand) : operand.text.toList.head? ≠ some '[' := fun head =>
  absurd (List.mem_of_mem_head? head) (operand.bare_text.notMem rfl (by decide))

lemma text_inj {piece other : Piece} : piece.text = other.text ↔ piece = other := by
  have bracket (operand : MemoryOperand) : operand.text.toList.head? = some '[' := by
    rw [MemoryOperand.toList_text]
    rfl
  have letter (base : Register) (offset : Word) :
      (sumText base offset).toList.head? = some 'r' := by
    rw [toList_sumText, Register.toList_text]
    rfl
  refine ⟨fun same => ?_, congrArg text⟩
  have heads : piece.text.toList.head? = other.text.toList.head? := by rw [same]
  rcases piece with operand | access | ⟨base, offset⟩ <;>
    rcases other with operand' | access' | ⟨base', offset'⟩
  case value.value => exact congrArg _ (Operand.text_inj.mp same)
  case address.address => exact congrArg _ (MemoryOperand.text_inj.mp same)
  case sum.sum =>
    obtain ⟨rfl, rfl⟩ := sumText_inj.mp same
    rfl
  case value.address => exact absurd (heads.trans (bracket access')) (head?_operand operand)
  case address.value =>
    exact absurd (heads.symm.trans (bracket access)) (head?_operand operand')
  case value.sum => exact absurd same (operand.text_ne_sumText base' offset')
  case sum.value => exact absurd same.symm (operand'.text_ne_sumText base offset)
  case address.sum => simp [text, bracket, letter] at heads
  case sum.address => simp [text, bracket, letter] at heads

end Piece

/-! ## Rows -/

/-- A row of a listing: what is done, and to what. -/
structure Phrase where
  mnemonic : String
  pieces : List Piece
  /-- A mnemonic is one word. -/
  blank_notMem : ' ' ∉ mnemonic.toList

namespace Phrase

/-- The operands after the first, each behind a comma. -/
def furtherText : List Piece → String
  | [] => ""
  | piece :: rest => ", " ++ piece.text ++ furtherText rest

/-- The operands as they are written behind the mnemonic. -/
def piecesText : List Piece → String
  | [] => ""
  | piece :: rest => " " ++ piece.text ++ furtherText rest

/-- The row as it is written. -/
def text (phrase : Phrase) : String := phrase.mnemonic ++ piecesText phrase.pieces

lemma head?_furtherText (pieces : List Piece) :
    ∀ c ∈ (furtherText pieces).toList.head?, c = ',' := by
  cases pieces <;> simp [furtherText]

lemma head?_piecesText (pieces : List Piece) :
    ∀ c ∈ (piecesText pieces).toList.head?, c = ' ' := by
  cases pieces <;> simp [piecesText]

/-- An operand and those behind it are determined by their text. -/
lemma piece_inj {piece other : Piece} {rest rest' : List Piece}
    (same : piece.text ++ furtherText rest = other.text ++ furtherText rest') :
    piece = other ∧ furtherText rest = furtherText rest' := by
  have lists := congrArg String.toList same
  rw [String.toList_append, String.toList_append] at lists
  obtain ⟨first, further⟩ := append_eq_append_of_mark piece.comma_notMem_text
    other.comma_notMem_text (head?_furtherText rest) (head?_furtherText rest') lists
  exact ⟨Piece.text_inj.mp (String.toList_inj.mp first), String.toList_inj.mp further⟩

lemma furtherText_inj {pieces others : List Piece}
    (same : furtherText pieces = furtherText others) : pieces = others := by
  induction pieces generalizing others with
  | nil =>
    cases others with
    | nil => rfl
    | cons piece rest => simp [furtherText, ← String.toList_inj] at same
  | cons piece rest ih =>
    cases others with
    | nil => simp [furtherText, ← String.toList_inj] at same
    | cons other rest' =>
      have behind : piece.text ++ furtherText rest = other.text ++ furtherText rest' := by
        simpa [furtherText, ← String.toList_inj] using same
      obtain ⟨rfl, further⟩ := piece_inj behind
      rw [ih further]

lemma piecesText_inj {pieces others : List Piece}
    (same : piecesText pieces = piecesText others) : pieces = others := by
  cases pieces with
  | nil =>
    cases others with
    | nil => rfl
    | cons piece rest => simp [piecesText, ← String.toList_inj] at same
  | cons piece rest =>
    cases others with
    | nil => simp [piecesText, ← String.toList_inj] at same
    | cons other rest' =>
      have behind : piece.text ++ furtherText rest = other.text ++ furtherText rest' := by
        simpa [piecesText, ← String.toList_inj] using same
      obtain ⟨rfl, further⟩ := piece_inj behind
      rw [furtherText_inj further]

/-- The mnemonic is the text in front of the first blank. -/
lemma mnemonic_eq {phrase : Phrase} {front rest : String} (blank : ' ' ∉ front.toList)
    (head : ∀ c ∈ rest.toList.head?, c = ' ') (same : phrase.text = front ++ rest) :
    phrase.mnemonic = front ∧ piecesText phrase.pieces = rest := by
  have lists := congrArg String.toList same
  rw [text, String.toList_append, String.toList_append] at lists
  obtain ⟨fronts, rests⟩ := append_eq_append_of_mark phrase.blank_notMem blank
    (head?_piecesText _) head lists
  exact ⟨String.toList_inj.mp fronts, String.toList_inj.mp rests⟩

/-- Different rows are written differently. -/
theorem text_inj {phrase other : Phrase} : phrase.text = other.text ↔ phrase = other := by
  refine ⟨fun same => ?_, congrArg text⟩
  obtain ⟨mnemonics, pieces⟩ := mnemonic_eq other.blank_notMem (head?_piecesText _) same
  have operands := piecesText_inj pieces
  cases phrase
  cases other
  subst mnemonics operands
  rfl

end Phrase

/-! ## The rows of instructions -/

lemma Arithmetic.blank_notMem_mnemonic (operation : Arithmetic) :
    ' ' ∉ operation.mnemonic.toList := by
  cases operation <;> decide

lemma Condition.blank_notMem_mnemonic (condition : Condition) :
    ' ' ∉ condition.mnemonic.toList := by
  cases condition <;> decide

namespace Instruction

/-- The row of an instruction, before it is written. -/
def phrase : Instruction → Phrase
  | nop => ⟨"nop", [], by decide⟩
  | alu ⟨.nop _, _, _⟩ => ⟨"alu.nop", [], by decide⟩
  | alu ⟨.set literal, target, _⟩ => ⟨"set", [.register target, .number literal], by decide⟩
  | alu ⟨.copy _, target, source⟩ => ⟨"copy", [.register target, .register source], by decide⟩
  | alu ⟨.arithmetic operation operand, target, source⟩ =>
    ⟨operation.mnemonic, [.register target, .register source, .value operand],
      operation.blank_notMem_mnemonic⟩
  | load .nop => ⟨"load.nop", [], by decide⟩
  | load (.load target address) => ⟨"load", [.register target, .address address], by decide⟩
  | store ⟨source, address⟩ => ⟨"store", [.address address, .register source], by decide⟩
  | branch .nop => ⟨"branch.nop", [], by decide⟩
  | branch (.jump target) => ⟨"jmp", [.number target], by decide⟩
  | branch (.jumpRegister base offset) => ⟨"jmp", [.sum base offset], by decide⟩
  | branch (.compare condition lhs rhs target) =>
    ⟨condition.mnemonic, [.register lhs, .register rhs, .value target],
      condition.blank_notMem_mnemonic⟩
  | branch .breakpoint => ⟨"break", [], by decide⟩
  | interrupt (.request (.install id source)) =>
    ⟨"setint", [.number id, .register source], by decide⟩
  | interrupt (.request (.raise id)) => ⟨"int", [.number id], by decide⟩
  | interrupt .handlerReturn => ⟨"iret", [], by decide⟩
  | stack .push => ⟨"push", [], by decide⟩
  | stack .pop => ⟨"pop", [], by decide⟩
  | stack (.pushStore source) => ⟨"push", [.register source], by decide⟩
  | stack (.popLoad target) => ⟨"pop", [.register target], by decide⟩

theorem text_phrase (instruction : Instruction) : instruction.phrase.text = instruction.text := by
  rcases instruction with _ | ⟨_ | _ | _ | _, _, _⟩ | (_ | _) | _ | (_ | _ | _ | _ | _) |
    ((_ | _) | _) | (_ | _ | _ | _) <;>
    simp [phrase, Phrase.text, Phrase.piecesText, Phrase.furtherText, Piece.text, Operand.text,
      sumText, text, AluInstruction.text, BranchInstruction.text, ← String.toList_inj]

end Instruction

/-! ## What a row shows -/

/-- The instruction with zero in the operands that have no effect. -/
def AluInstruction.shown (instruction : AluInstruction) : AluInstruction :=
  match instruction.operation with
  | .nop _ => ⟨.nop 0, Assembler.register 0, Assembler.register 0⟩
  | .set literal => ⟨.set literal, instruction.target, Assembler.register 0⟩
  | .copy _ => ⟨.copy 0, instruction.target, instruction.source⟩
  | .arithmetic _ _ => instruction

/-- The instruction as far as its text shows it: only the arithmetic unit takes instructions with
operands that are not written. -/
def Instruction.shown : Instruction → Instruction
  | alu instruction => alu instruction.shown
  | instruction => instruction

/-- The operation that a mnemonic stands for. -/
def Arithmetic.ofMnemonic? : String → Option Arithmetic
  | "add" => some add
  | "sub" => some subtract
  | "mul" => some multiply
  | "div" => some divide
  | _ => none

/-- The comparison that a mnemonic stands for. -/
def Condition.ofMnemonic? : String → Option Condition
  | "jeq" => some equal
  | "jne" => some notEqual
  | "jlt" => some less
  | "jle" => some lessEqual
  | _ => none

namespace Phrase

/-- The instruction with two registers and one more operand that a mnemonic stands for. -/
def ternary? (mnemonic : String) (first second : Register) (operand : Operand) :
    Option Instruction :=
  match Arithmetic.ofMnemonic? mnemonic, Condition.ofMnemonic? mnemonic with
  | some operation, _ => some (.alu ⟨.arithmetic operation operand, first, second⟩)
  | none, some condition => some (.branch (.compare condition first second operand))
  | none, none => none

/-- The instruction that a row shows. -/
def instruction? (phrase : Phrase) : Option Instruction :=
  match phrase.mnemonic, phrase.pieces with
  | "nop", [] => some .nop
  | "alu.nop", [] => some (.alu ⟨.nop 0, Assembler.register 0, Assembler.register 0⟩)
  | "set", [.value (.register target), .value (.literal value)] =>
    some (.alu ⟨.set value, target, Assembler.register 0⟩)
  | "copy", [.value (.register target), .value (.register source)] =>
    some (.alu ⟨.copy 0, target, source⟩)
  | "load.nop", [] => some (.load .nop)
  | "load", [.value (.register target), .address address] => some (.load (.load target address))
  | "store", [.address address, .value (.register source)] => some (.store ⟨source, address⟩)
  | "branch.nop", [] => some (.branch .nop)
  | "jmp", [.value (.literal target)] => some (.branch (.jump target))
  | "jmp", [.sum base offset] => some (.branch (.jumpRegister base offset))
  | "break", [] => some (.branch .breakpoint)
  | "setint", [.value (.literal id), .value (.register source)] =>
    some (.interrupt (.request (.install id source)))
  | "int", [.value (.literal id)] => some (.interrupt (.request (.raise id)))
  | "iret", [] => some (.interrupt .handlerReturn)
  | "push", [] => some (.stack .push)
  | "pop", [] => some (.stack .pop)
  | "push", [.value (.register source)] => some (.stack (.pushStore source))
  | "pop", [.value (.register target)] => some (.stack (.popLoad target))
  | mnemonic, [.value (.register first), .value (.register second), .value operand] =>
    ternary? mnemonic first second operand
  | _, _ => none

end Phrase

namespace Instruction

theorem instruction?_phrase (instruction : Instruction) :
    instruction.phrase.instruction? = some instruction.shown := by
  rcases instruction with _ | ⟨_ | _ | _ | ⟨_ | _ | _ | _, _⟩, _, _⟩ | (_ | _) | _ |
    (_ | _ | _ | ⟨_ | _ | _ | _, _⟩ | _) | ((_ | _) | _) | (_ | _ | _ | _) <;> rfl

lemma phrase_shown (instruction : Instruction) :
    instruction.shown.phrase = instruction.phrase := by
  rcases instruction with _ | ⟨_ | _ | _ | _, _, _⟩ | _ | _ | _ | _ | _ <;> rfl

/-- The text of an instruction tells all that it shows. -/
theorem text_eq_text_iff {instruction other : Instruction} :
    instruction.text = other.text ↔ instruction.shown = other.shown := by
  rw [← text_phrase, ← text_phrase, Phrase.text_inj]
  constructor
  · intro same
    apply Option.some.inj
    rw [← instruction?_phrase, same, instruction?_phrase]
  · intro same
    rw [← phrase_shown, same, phrase_shown]

lemma mnemonic_phrase_ne_invalid (instruction : Instruction) :
    instruction.phrase.mnemonic ≠ ".invalid" := by
  rcases instruction with _ | ⟨_ | _ | _ | ⟨_ | _ | _ | _, _⟩, _, _⟩ | (_ | _) | _ |
    (_ | _ | _ | ⟨_ | _ | _ | _, _⟩ | _) | ((_ | _) | _) | (_ | _ | _ | _) <;>
    simp [phrase, Arithmetic.mnemonic, Condition.mnemonic]

/-- The text of an instruction is not one that reports invalid words. -/
lemma text_ne_invalid (instruction : Instruction) (report : String) :
    instruction.text ≠ ".invalid ; " ++ report := by
  rw [← text_phrase]
  intro same
  have cut : instruction.phrase.text = ".invalid" ++ (" ; " ++ report) := by
    rw [same, ← String.append_assoc]
    rfl
  have front : ' ' ∉ ".invalid".toList := by decide
  exact instruction.mnemonic_phrase_ne_invalid (Phrase.mnemonic_eq front (by simp) cut).1

end Instruction

lemma FaultCause.text_inj {cause other : FaultCause} : cause.text = other.text ↔ cause = other := by
  refine ⟨fun same => ?_, congrArg text⟩
  revert same
  cases cause <;> cases other <;> decide

/-- Two pairs of words have the same text exactly if they are invalid for the same cause, or show
the same instruction. -/
theorem CodeWords.text_eq_text_iff {code other : CodeWords} :
    code.text = other.text ↔
      code.decode.map Instruction.shown = other.decode.map Instruction.shown := by
  rw [text, text]
  cases code.decode with
  | ok instruction =>
    cases other.decode with
    | ok instruction' => simp [Except.map, Instruction.text_eq_text_iff]
    | error cause => simp [Except.map, instruction.text_ne_invalid]
  | error cause =>
    cases other.decode with
    | ok instruction => simp [Except.map, (instruction.text_ne_invalid _).symm]
    | error cause' => simp [Except.map, String.append_right_inj, FaultCause.text_inj]

end PipelinedMachine
