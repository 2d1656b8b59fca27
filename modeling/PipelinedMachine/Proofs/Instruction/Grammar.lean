import Mathlib.Algebra.Group.Nat.Defs
import PipelinedMachine.Instruction.Assembler
import PipelinedMachine.Instruction.Decode

/-!
# The grammar of instructions

The decoder is a tree of small readers, one for each unit.  Here the language that it accepts is
written down as a table: for each unit and operation the places that must name a register, whether
the second word is a value of the instruction, and the instruction that results.  The two are then
compared on every pair of words.

* `Place`, `CodeWords.number` — where an operand can stand, and the number that stands there;
* `Form`, `CodeWords.form?` — a row of the table, and the row that a unit and an operation select;
* `Form.read` — the table as a reader; `CodeWords.decode_eq` says that the decoder is that reader.

Main statement: **`decoder_followsGrammar`**, which error the decoder reports and when, which
instruction it finds otherwise, and which fields have no say in it.
-/

namespace PipelinedMachine

/-! ## Places of operands -/

/-- The places of an instruction's two words that can hold an operand. -/
inductive Place where
  | a
  | b
  | second
deriving DecidableEq, Repr

namespace CodeWords

/-- The four bytes of the first word. -/
def fields (code : CodeWords) : CodeFields := CodeFields.ofWord code.first

/-- The number that stands at a place: the bytes are unsigned, the second word is signed. -/
def number (code : CodeWords) : Place → Int
  | .a => code.fields.a.toNat
  | .b => code.fields.b.toNat
  | .second => code.second.toInt

/-- The number at `place` is the index of a register. -/
def Names (code : CodeWords) (place : Place) : Prop :=
  0 ≤ code.number place ∧ code.number place < 16

instance (code : CodeWords) (place : Place) : Decidable (code.Names place) :=
  inferInstanceAs (Decidable (_ ∧ _))

/-- The register that `place` names; a place that names none counts on from the first again. -/
def register (code : CodeWords) (place : Place) : Register :=
  Assembler.register (code.number place).toNat

theorem index_register {code : CodeWords} {place : Place} (names : code.Names place) :
    ((code.register place).index.val : Int) = code.number place := by
  obtain ⟨least, most⟩ := names
  simp only [register, Assembler.register, Fin.val_ofNat, registerCount]
  omega

/-- A place names the register whose index is the number there, and no other. -/
theorem names_and_register_iff {code : CodeWords} {place : Place} {r : Register} :
    code.Names place ∧ code.register place = r ↔ code.number place = r.index := by
  have inside : r.index.val < 16 := r.index.isLt
  constructor
  · rintro ⟨names, rfl⟩
    exact (index_register names).symm
  · intro same
    have names : code.Names place := ⟨by omega, by omega⟩
    have index := index_register names
    have found : (code.register place).index = r.index := Fin.ext (by omega)
    exact ⟨names, congrArg Register.mk found⟩

end CodeWords

/-! ### What the readers of a register operand do -/

theorem Register.ofIndex?_eq (i : Nat) :
    ofIndex? i = if i < registerCount then some (Assembler.register i) else none := by
  by_cases inside : i < registerCount
  · simp [ofIndex?, inside, Assembler.register, Fin.ext_iff, Nat.mod_eq_of_lt inside]
  · simp [ofIndex?, inside]

@[simp] theorem CodeWords.decodeByte_a (code : CodeWords) :
    Register.decodeByte code.fields.a =
      if code.Names .a then .ok (code.register .a) else .error .registerOutOfRange := by
  have inside : code.Names .a ↔ code.fields.a.toNat < registerCount := by
    simp only [Names, number, registerCount]
    omega
  by_cases small : code.fields.a.toNat < registerCount <;>
    simp [Register.decodeByte, Register.ofByte?, Register.ofIndex?_eq, inside, small, register,
      number]

@[simp] theorem CodeWords.decodeByte_b (code : CodeWords) :
    Register.decodeByte code.fields.b =
      if code.Names .b then .ok (code.register .b) else .error .registerOutOfRange := by
  have inside : code.Names .b ↔ code.fields.b.toNat < registerCount := by
    simp only [Names, number, registerCount]
    omega
  by_cases small : code.fields.b.toNat < registerCount <;>
    simp [Register.decodeByte, Register.ofByte?, Register.ofIndex?_eq, inside, small, register,
      number]

@[simp] theorem CodeWords.decodeWord_second (code : CodeWords) :
    Register.decodeWord code.second =
      if code.Names .second then .ok (code.register .second) else .error .registerOutOfRange := by
  have negative : code.second < 0 ↔ code.second.toInt < 0 := Int32.lt_iff_toInt_lt
  have found : Register.ofWord? code.second =
      if code.Names .second then some (code.register .second) else none := by
    by_cases below : code.second < 0
    · have outside : ¬code.Names .second := fun names =>
        absurd (negative.mp below) (Int.not_lt.mpr names.1)
      rw [Register.ofWord?, if_pos below, if_neg outside]
    · have least : 0 ≤ code.second.toInt := Int.not_lt.mp (below ∘ negative.mpr)
      have inside : code.Names .second ↔ code.second.toNatClampNeg < registerCount := by
        simp only [Names, number, registerCount, Int32.toNatClampNeg]
        omega
      simp only [Register.ofWord?, if_neg below, Register.ofIndex?_eq, inside]
      rfl
  rw [Register.decodeWord, found]
  by_cases names : code.Names .second <;> simp [names]

/-! ## The encoding tables -/

/-- A row of the encoding tables: what one operation of one unit asks of the other fields. -/
structure Form where
  /-- The places that must name a register. -/
  registers : List Place
  /-- Whether the second word is a value that the instruction carries. -/
  literal : Bool
  /-- The instruction, from the registers that the places name and the second word. -/
  instruction : (Place → Register) → Word → Instruction
  /-- No other place has a say in the instruction. -/
  determined : ∀ {named named' : Place → Register} {second second' : Word},
    (∀ place ∈ registers, named place = named' place) → (literal = true → second = second') →
      instruction named second = instruction named' second'

namespace Form

/-- A row without operands. -/
def plain (instruction : Instruction) : Form where
  registers := []
  literal := false
  instruction _ _ := instruction
  determined _ _ := rfl

/-- A row whose one operand is a value. -/
def value (instruction : Word → Instruction) : Form where
  registers := []
  literal := true
  instruction _ second := instruction second
  determined _ second := by simp [second]

/-- A row whose one operand is a register at `place`. -/
def one (place : Place) (instruction : Register → Instruction) : Form where
  registers := [place]
  literal := false
  instruction named _ := instruction (named place)
  determined named _ := by simp [named]

/-- A row with a register at `place` and a value. -/
def oneAndValue (place : Place) (instruction : Register → Word → Instruction) : Form where
  registers := [place]
  literal := true
  instruction named second := instruction (named place) second
  determined named second := by simp [named, second]

/-- A row with registers in both bytes and a value. -/
def twoAndValue (instruction : Register → Register → Word → Instruction) : Form where
  registers := [.a, .b]
  literal := true
  instruction named second := instruction (named .a) (named .b) second
  determined named second := by simp [named, second]

/-- A row with registers in both bytes and in the second word. -/
def three (instruction : Register → Register → Register → Instruction) : Form where
  registers := [.a, .b, .second]
  literal := false
  instruction named _ := instruction (named .a) (named .b) (named .second)
  determined named _ := by simp [named]

/-- The arithmetic unit: the target is at `a`, the source at `b`. -/
def alu? : UInt8 → Option Form
  | 0 => some (twoAndValue fun a b value => .alu ⟨.nop value, a, b⟩)
  | 1 => some (twoAndValue fun a b value => .alu ⟨.set value, a, b⟩)
  | 2 => some (three fun a b c => .alu ⟨.arithmetic .add (.register c), a, b⟩)
  | 3 => some (twoAndValue fun a b value => .alu ⟨.arithmetic .add (.literal value), a, b⟩)
  | 4 => some (three fun a b c => .alu ⟨.arithmetic .subtract (.register c), a, b⟩)
  | 5 => some (twoAndValue fun a b value => .alu ⟨.arithmetic .subtract (.literal value), a, b⟩)
  | 6 => some (three fun a b c => .alu ⟨.arithmetic .multiply (.register c), a, b⟩)
  | 7 => some (twoAndValue fun a b value => .alu ⟨.arithmetic .multiply (.literal value), a, b⟩)
  | 8 => some (three fun a b c => .alu ⟨.arithmetic .divide (.register c), a, b⟩)
  | 9 => some (twoAndValue fun a b value => .alu ⟨.arithmetic .divide (.literal value), a, b⟩)
  | 10 => some (twoAndValue fun a b value => .alu ⟨.copy value, a, b⟩)
  | _ => none

/-- The load unit: the target is at `a`, a base at `b`. -/
def load? : UInt8 → Option Form
  | 0 => some (plain (.load .nop))
  | 1 => some (twoAndValue fun a b offset => .load (.load a (.indexed b offset)))
  | 2 => some (oneAndValue .a fun a address => .load (.load a (.literal address)))
  | _ => none

/-- The store unit: the stored register is at `b`, a base at `a`. -/
def store? : UInt8 → Option Form
  | 0 => some (twoAndValue fun a b offset => .store ⟨b, .indexed a offset⟩)
  | 1 => some (oneAndValue .b fun b address => .store ⟨b, .literal address⟩)
  | _ => none

/-- The branch unit: `a` is compared with `b`, and a base is at `b`. -/
def branch? : UInt8 → Option Form
  | 0 => some (plain (.branch .nop))
  | 1 => some (value fun target => .branch (.jump target))
  | 2 => some (twoAndValue fun a b target => .branch (.compare .notEqual a b (.literal target)))
  | 3 => some (twoAndValue fun a b target => .branch (.compare .equal a b (.literal target)))
  | 4 => some (twoAndValue fun a b target => .branch (.compare .lessEqual a b (.literal target)))
  | 5 => some (twoAndValue fun a b target => .branch (.compare .less a b (.literal target)))
  | 6 => some (plain (.branch .breakpoint))
  | 7 => some (oneAndValue .b fun b offset => .branch (.jumpRegister b offset))
  | 8 => some (three fun a b c => .branch (.compare .notEqual a b (.register c)))
  | 9 => some (three fun a b c => .branch (.compare .equal a b (.register c)))
  | 10 => some (three fun a b c => .branch (.compare .lessEqual a b (.register c)))
  | 11 => some (three fun a b c => .branch (.compare .less a b (.register c)))
  | _ => none

/-- The interrupt unit: the register with the handler's address is at `b`. -/
def interrupt? : UInt8 → Option Form
  | 0 => some (oneAndValue .b fun b id => .interrupt (.request (.install id b)))
  | 1 => some (value fun id => .interrupt (.request (.raise id)))
  | 2 => some (plain (.interrupt .handlerReturn))
  | _ => none

/-- The stack unit: the register is in the second word. -/
def stack? : UInt8 → Option Form
  | 0 => some (one .second fun r => .stack (.pushStore r))
  | 1 => some (one .second fun r => .stack (.popLoad r))
  | 2 => some (plain (.stack .pop))
  | 3 => some (plain (.stack .push))
  | _ => none

/-- The rows of all units.  A no-op unit has the one row for every operation. -/
def ofCodes? (unit operation : UInt8) : Option Form :=
  match unit with
  | 0 => some (plain .nop)
  | 1 => alu? operation
  | 2 => load? operation
  | 3 => store? operation
  | 4 => branch? operation
  | 6 => interrupt? operation
  | 7 => stack? operation
  | _ => none

/-- The places that have a say in what the row decodes to. -/
def reads (form : Form) : List Place :=
  if form.literal then .second :: form.registers else form.registers

/-- What the row makes of two words. -/
def read (form : Form) (code : CodeWords) : Except FaultCause Instruction :=
  if ∀ place ∈ form.registers, code.Names place then
    .ok (form.instruction code.register code.second)
  else .error .registerOutOfRange

/-- What a unit's table makes of two words. -/
def readIn (form? : Option Form) (code : CodeWords) : Except FaultCause Instruction :=
  match form? with
  | some form => form.read code
  | none => .error .unknownOperation

section

variable {code : CodeWords} {place : Place} {fixed : Instruction} {ofWord : Word → Instruction}
  {ofOne : Register → Instruction} {ofOneAndWord : Register → Word → Instruction}
  {ofTwoAndWord : Register → Register → Word → Instruction}
  {ofThree : Register → Register → Register → Instruction}

@[simp] theorem read_plain : (plain fixed).read code = .ok fixed := by
  simp [read, plain]

@[simp] theorem read_value : (value ofWord).read code = .ok (ofWord code.second) := by
  simp [read, value]

@[simp] theorem read_one : (one place ofOne).read code =
    if code.Names place then .ok (ofOne (code.register place))
    else .error .registerOutOfRange := by
  simp [read, one]

@[simp] theorem read_oneAndValue : (oneAndValue place ofOneAndWord).read code =
    if code.Names place then .ok (ofOneAndWord (code.register place) code.second)
    else .error .registerOutOfRange := by
  simp [read, oneAndValue]

@[simp] theorem read_twoAndValue : (twoAndValue ofTwoAndWord).read code =
    if code.Names .a ∧ code.Names .b then
      .ok (ofTwoAndWord (code.register .a) (code.register .b) code.second)
    else .error .registerOutOfRange := by
  simp [read, twoAndValue]

@[simp] theorem read_three : (three ofThree).read code =
    if code.Names .a ∧ code.Names .b ∧ code.Names .second then
      .ok (ofThree (code.register .a) (code.register .b) (code.register .second))
    else .error .registerOutOfRange := by
  simp [read, three]

end

end Form

/-! ## The decoder is the table -/

theorem UnitCode.ofNumber?_eq_some {number : UInt8} {unit : UnitCode} :
    ofNumber? number = some unit ↔ unit.number = number := by
  constructor
  · intro found
    unfold ofNumber? at found
    split at found <;> cases found <;> rfl
  · rintro rfl
    exact ofNumber?_number unit

theorem UnitCode.ofNumber?_eq_none {number : UInt8} : ofNumber? number = none ↔ 7 < number := by
  rw [UInt8.lt_iff_toNat_lt]
  unfold ofNumber?
  split <;> simp_all [← UInt8.toNat_inj]
  omega

namespace CodeWords

/-- The row of the tables that the unit and the operation select. -/
def form? (code : CodeWords) : Option Form :=
  Form.ofCodes? code.fields.unit code.fields.operation

/-! ### Unit by unit

Both sides go through the unit's operations in the same order, so each case has one row of the
table on the right.  What is left is which of the three places name a register: the decoder asks
one after the other, the table asks all at once. -/

section

variable (code : CodeWords)

theorem decodeAlu_eq : (code.fields.decodeAlu code.second).map .alu =
    Form.readIn (Form.alu? code.fields.operation) code := by
  rw [CodeFields.decodeAlu, decodeByte_a, decodeByte_b]
  generalize code.fields.operation = operation
  unfold Form.alu? AluCode.ofNumber?
  by_cases first : code.Names .a <;> by_cases last : code.Names .b <;>
    by_cases second : code.Names .second <;> split <;>
    simp [FaultCause.requireOperation, Form.readIn, AluCode.decode, OperandForm.decode, first,
      last, second, bind, Except.bind, pure, Except.pure, Except.map]

theorem decodeLoad_eq : (code.fields.decodeLoad code.second).map .load =
    Form.readIn (Form.load? code.fields.operation) code := by
  rw [CodeFields.decodeLoad, decodeByte_a, decodeByte_b]
  generalize code.fields.operation = operation
  unfold Form.load? LoadCode.ofNumber?
  by_cases first : code.Names .a <;> by_cases last : code.Names .b <;> split <;>
    simp [FaultCause.requireOperation, Form.readIn, first, last, bind, Except.bind, pure,
      Except.pure, Except.map]

theorem decodeStore_eq : (code.fields.decodeStore code.second).map .store =
    Form.readIn (Form.store? code.fields.operation) code := by
  rw [CodeFields.decodeStore, decodeByte_a, decodeByte_b]
  generalize code.fields.operation = operation
  unfold Form.store? StoreCode.ofNumber?
  by_cases first : code.Names .a <;> by_cases last : code.Names .b <;> split <;>
    simp [FaultCause.requireOperation, Form.readIn, first, last, bind, Except.bind, pure,
      Except.pure, Except.map]

theorem decodeBranch_eq : (code.fields.decodeBranch code.second).map .branch =
    Form.readIn (Form.branch? code.fields.operation) code := by
  rw [CodeFields.decodeBranch, decodeByte_a, decodeByte_b]
  generalize code.fields.operation = operation
  unfold Form.branch? BranchCode.ofNumber?
  by_cases first : code.Names .a <;> by_cases last : code.Names .b <;>
    by_cases second : code.Names .second <;> split <;>
    simp [FaultCause.requireOperation, Form.readIn, OperandForm.decode, first, last, second, bind,
      Except.bind, pure, Except.pure, Except.map]

theorem decodeInterrupt_eq : (code.fields.decodeInterrupt code.second).map .interrupt =
    Form.readIn (Form.interrupt? code.fields.operation) code := by
  rw [CodeFields.decodeInterrupt, decodeByte_b]
  generalize code.fields.operation = operation
  unfold Form.interrupt? InterruptCode.ofNumber?
  by_cases last : code.Names .b <;> split <;>
    simp [FaultCause.requireOperation, Form.readIn, last, bind, Except.bind, pure, Except.pure,
      Except.map]

theorem decodeStack_eq : (code.fields.decodeStack code.second).map .stack =
    Form.readIn (Form.stack? code.fields.operation) code := by
  rw [CodeFields.decodeStack, decodeWord_second]
  generalize code.fields.operation = operation
  unfold Form.stack? StackCode.ofNumber?
  by_cases second : code.Names .second <;> split <;>
    simp [FaultCause.requireOperation, Form.readIn, second, bind, Except.bind, pure, Except.pure,
      Except.map]

end

/-! ### All units -/

variable {code other : CodeWords}

theorem form?_of_unknown (unknown : 7 < code.fields.unit) : code.form? = none := by
  rw [form?]
  generalize code.fields.unit = unit at unknown
  unfold Form.ofCodes?
  split <;> simp_all

theorem form?_of_reserved (reserved : code.fields.unit = 5) : code.form? = none := by
  rw [form?, reserved]
  rfl

/-- The decoder is the table: first the unit must exist and take instructions, and what remains is
up to its row. -/
theorem decode_eq : code.decode =
    if 7 < code.fields.unit then .error .unknownUnit
    else if code.fields.unit = 5 then .error .reservedUnit
    else Form.readIn code.form? code := by
  cases found : UnitCode.ofNumber? code.fields.unit with
  | none =>
    rw [if_pos (UnitCode.ofNumber?_eq_none.mp found), decode]
    simp only [show UnitCode.ofNumber? (CodeFields.ofWord code.first).unit = none from found]
  | some unit =>
    have row : UnitCode.ofNumber? (CodeFields.ofWord code.first).unit = some unit := found
    rw [decode, form?, ← UnitCode.ofNumber?_eq_some.mp found]
    cases unit <;> simp only [row]
    case nop | fetch => rfl
    case alu => exact decodeAlu_eq code
    case load => exact decodeLoad_eq code
    case store => exact decodeStore_eq code
    case branch => exact decodeBranch_eq code
    case interrupt => exact decodeInterrupt_eq code
    case stack => exact decodeStack_eq code

/-- Two code words that agree on the row and on what it reads are read alike. -/
theorem read_congr {form : Form}
    (same : ∀ place ∈ form.reads, other.number place = code.number place) :
    form.read other = form.read code := by
  have registers : ∀ place ∈ form.registers, other.number place = code.number place := by
    intro place listed
    apply same
    unfold Form.reads
    split
    · exact List.mem_cons_of_mem _ listed
    · exact listed
  have literal : form.literal = true → other.second = code.second := by
    intro carried
    apply Int32.toInt_inj.mp
    exact same .second (by simp [Form.reads, carried])
  have names : (∀ place ∈ form.registers, other.Names place) ↔
      ∀ place ∈ form.registers, code.Names place := by
    refine forall₂_congr fun place listed => ?_
    rw [Names, Names, registers place listed]
  have instruction : form.instruction other.register other.second =
      form.instruction code.register code.second := by
    refine form.determined (fun place listed => ?_) literal
    rw [register, register, registers place listed]
  simp only [Form.read, names, instruction]

/-- A row gives an instruction exactly if its places name registers, and then it is the row's. -/
theorem read_eq_ok {form : Form} {instruction : Instruction} :
    form.read code = .ok instruction ↔
      ∃ named : Place → Register,
        (∀ place ∈ form.registers, code.number place = (named place).index) ∧
          form.instruction named code.second = instruction := by
  rw [Form.read]
  constructor
  · intro found
    split at found
    case isTrue names =>
      cases found
      exact ⟨code.register, fun place listed => (index_register (names place listed)).symm, rfl⟩
    case isFalse => cases found
  · rintro ⟨named, listed, rfl⟩
    have named_of : ∀ place ∈ form.registers,
        code.Names place ∧ code.register place = named place :=
      fun place mem => names_and_register_iff.mpr (listed place mem)
    rw [if_pos fun place mem => (named_of place mem).1]
    exact congrArg _ (form.determined (fun place mem => (named_of place mem).2) fun _ => rfl)

theorem read_eq_error {form : Form} {cause : FaultCause} :
    form.read code = .error cause ↔
      cause = .registerOutOfRange ∧ ∃ place ∈ form.registers, ¬code.Names place := by
  rw [Form.read]
  split
  case isTrue names => simpa using fun _ => names
  case isFalse some => simpa [eq_comm] using fun _ => some

/-! ## The grammar as a whole -/

/-- What two words decode to, in terms of the table alone. -/
structure FollowsGrammar (code : CodeWords) : Prop where
  /-- The top byte is no unit's number. -/
  unknownUnit : code.decode = .error .unknownUnit ↔ 7 < code.fields.unit
  /-- The top byte is the number of the unit that takes no instructions. -/
  reservedUnit : code.decode = .error .reservedUnit ↔ code.fields.unit = 5
  /-- The unit takes instructions, and its table has no such operation. -/
  unknownOperation : code.decode = .error .unknownOperation ↔
    code.fields.unit ≤ 7 ∧ code.fields.unit ≠ 5 ∧ code.form? = none
  /-- The row exists, and one of the places that must name a register does not. -/
  registerOutOfRange : code.decode = .error .registerOutOfRange ↔
    ∃ form, code.form? = some form ∧ ∃ place ∈ form.registers, ¬code.Names place
  /-- Otherwise the instruction is that of the row, with the registers that its places name. -/
  decoded : ∀ instruction, code.decode = .ok instruction ↔
    ∃ form, code.form? = some form ∧ ∃ named : Place → Register,
      (∀ place ∈ form.registers, code.number place = (named place).index) ∧
        form.instruction named code.second = instruction
  /-- No field has a say but the unit, the operation unless the unit is the no-op unit, and the
  places that the row reads. -/
  unread : ∀ other : CodeWords, other.fields.unit = code.fields.unit →
    (code.fields.unit ≠ 0 → other.fields.operation = code.fields.operation) →
    (∀ form, code.form? = some form →
      ∀ place ∈ form.reads, other.number place = code.number place) →
        other.decode = code.decode

theorem form?_congr (unit : other.fields.unit = code.fields.unit)
    (operation : code.fields.unit ≠ 0 → other.fields.operation = code.fields.operation) :
    other.form? = code.form? := by
  rw [form?, form?, unit]
  by_cases noOp : code.fields.unit = 0
  · rw [noOp]
    rfl
  · rw [operation noOp]

/-! ### One lemma for each way through the decoder -/

theorem followsGrammar_of_unknown (unknown : 7 < code.fields.unit) : code.FollowsGrammar := by
  have decoded : code.decode = .error .unknownUnit := by rw [decode_eq, if_pos unknown]
  have absent := form?_of_unknown unknown
  have apart : code.fields.unit ≠ 5 := fun reserved => absurd (reserved ▸ unknown) (by decide)
  exact {
    unknownUnit := by simp [decoded, unknown]
    reservedUnit := by simp [decoded, apart]
    unknownOperation := by simp [decoded, UInt8.not_le.mpr unknown]
    registerOutOfRange := by simp [decoded, absent]
    decoded := by simp [decoded, absent]
    unread := fun other unit _ _ => by rw [decode_eq, unit, if_pos unknown, decoded] }

theorem followsGrammar_of_reserved (reserved : code.fields.unit = 5) : code.FollowsGrammar := by
  have known : ¬7 < code.fields.unit := by
    rw [reserved]
    decide
  have decoded : code.decode = .error .reservedUnit := by
    rw [decode_eq, if_neg known, if_pos reserved]
  have absent := form?_of_reserved reserved
  exact {
    unknownUnit := by simp [decoded, known]
    reservedUnit := by simp [decoded, reserved]
    unknownOperation := by simp [decoded, reserved]
    registerOutOfRange := by simp [decoded, absent]
    decoded := by simp [decoded, absent]
    unread := fun other unit _ _ => by
      rw [decode_eq, unit, if_neg known, if_pos reserved, decoded] }

theorem followsGrammar_of_no_form (known : ¬7 < code.fields.unit) (takes : code.fields.unit ≠ 5)
    (absent : code.form? = none) : code.FollowsGrammar := by
  have decoded : code.decode = .error .unknownOperation := by
    rw [decode_eq, if_neg known, if_neg takes, absent, Form.readIn]
  exact {
    unknownUnit := by simp [decoded, known]
    reservedUnit := by simp [decoded, takes]
    unknownOperation := by simpa [decoded, absent, takes] using known
    registerOutOfRange := by simp [decoded, absent]
    decoded := by simp [decoded, absent]
    unread := fun other unit operation _ => by
      rw [decode_eq, unit, if_neg known, if_neg takes, form?_congr unit operation, absent, decoded,
        Form.readIn] }

theorem followsGrammar_of_form {form : Form} (known : ¬7 < code.fields.unit)
    (takes : code.fields.unit ≠ 5) (row : code.form? = some form) : code.FollowsGrammar := by
  have decoded : code.decode = form.read code := by
    rw [decode_eq, if_neg known, if_neg takes, row, Form.readIn]
  exact {
    unknownUnit := by simp [decoded, read_eq_error, known]
    reservedUnit := by simp [decoded, read_eq_error, takes]
    unknownOperation := by simp [decoded, read_eq_error, row]
    registerOutOfRange := by simp [decoded, read_eq_error, row]
    decoded := fun instruction => by simp [decoded, read_eq_ok, row]
    unread := fun other unit operation same => by
      rw [decode_eq, unit, if_neg known, if_neg takes, form?_congr unit operation, row, decoded]
      exact read_congr (same form row) }

theorem followsGrammar (code : CodeWords) : code.FollowsGrammar := by
  by_cases unknown : 7 < code.fields.unit
  · exact followsGrammar_of_unknown unknown
  by_cases reserved : code.fields.unit = 5
  · exact followsGrammar_of_reserved reserved
  cases row : code.form? with
  | none => exact followsGrammar_of_no_form unknown reserved row
  | some form => exact followsGrammar_of_form unknown reserved row

end CodeWords

/-! ## The fields of the first word -/

/-- The number that the four bytes of a word make up, the unit on top. -/
theorem CodeFields.toNat_eq (word : Word) :
    word.toUInt32.toNat =
      (ofWord word).unit.toNat * 2 ^ 24 + (ofWord word).operation.toNat * 2 ^ 16 +
        (ofWord word).a.toNat * 2 ^ 8 + (ofWord word).b.toNat := by
  have inside := word.toUInt32.toNat_lt
  simp only [ofWord, Word.byte3, Word.byte2, Word.byte1, Word.byte0, UInt32.toNat_toUInt8,
    UInt32.toNat_shiftRight, Nat.shiftRight_eq_div_pow]
  simp
  omega

/-- **The decoder accepts the grammar of the tables**, for every pair of words, and taking a first
word apart into its four bytes and putting four bytes together undo each other. -/
theorem decoder_followsGrammar :
    (∀ code : CodeWords, code.FollowsGrammar) ∧
      (∀ word : Word, (CodeFields.ofWord word).toWord = word ∧
        word.toUInt32.toNat =
          (CodeFields.ofWord word).unit.toNat * 2 ^ 24 +
            (CodeFields.ofWord word).operation.toNat * 2 ^ 16 +
            (CodeFields.ofWord word).a.toNat * 2 ^ 8 + (CodeFields.ofWord word).b.toNat) ∧
      ∀ fields : CodeFields, CodeFields.ofWord fields.toWord = fields :=
  ⟨CodeWords.followsGrammar,
    fun word => ⟨Word.ofBytes_bytes word, CodeFields.toNat_eq word⟩,
    CodeFields.ofWord_toWord⟩

end PipelinedMachine
