import PipelinedMachine.AddressMap

/-!
# Registers

A core has sixteen general registers, an instruction pointer and a stack pointer.  A `Register`
is one of the sixteen by construction, so reading and writing the register file never fails; the
places where a register index can be out of range are the two readers `Register.ofByte?` and
`Register.ofWord?`.
-/

namespace PipelinedMachine

/-- Number of general registers. -/
abbrev registerCount : Nat := 16

/-- A general register, by its index. -/
structure Register where
  index : Fin registerCount
deriving DecidableEq, Repr

namespace Register

/-- The register with index `i`, if there is one. -/
def ofIndex? (i : Nat) : Option Register :=
  if h : i < registerCount then some ⟨⟨i, h⟩⟩ else none

/-- The register that an operand byte names. -/
def ofByte? (b : UInt8) : Option Register := ofIndex? b.toNat

/-- The register that a whole word names; negative words name none. -/
def ofWord? (w : Word) : Option Register :=
  if w < 0 then none else ofIndex? w.toNatClampNeg

/-- The operand byte that names the register. -/
def toByte (r : Register) : UInt8 := UInt8.ofNat r.index

/-- The word that names the register. -/
def toWord (r : Register) : Word := Int32.ofNat r.index

@[simp] theorem ofByte?_toByte (r : Register) : ofByte? r.toByte = some r := by
  obtain ⟨i⟩ := r
  revert i
  decide

@[simp] theorem ofWord?_toWord (r : Register) : ofWord? r.toWord = some r := by
  obtain ⟨i⟩ := r
  revert i
  decide

/-- The register as programs are written: `r` and the index. -/
def text (r : Register) : String := "r" ++ toString r.index.val

/-- Every register, in index order. -/
def all : List Register := (List.finRange registerCount).map Register.mk

end Register

/-! ## The register file -/

/-- The programmer-visible registers of one core. -/
structure RegisterFile where
  /-- The general registers, by index. -/
  general : Vector Word registerCount
  /-- The address of the instruction being executed. -/
  ip : Word
  /-- The stack pointer, an offset from the start of main memory. -/
  sp : Word
deriving DecidableEq

namespace RegisterFile

/-- Zeroed registers, an empty stack, and execution starting at `entry`. -/
def reset (entry : Word) : RegisterFile where
  general := Vector.replicate registerCount 0
  ip := entry
  sp := AddressMap.initialStackPointer

/-- The value of a general register. -/
def get (file : RegisterFile) (r : Register) : Word := file.general[r.index]

/-- Replaces the value of a general register. -/
def set (file : RegisterFile) (r : Register) (value : Word) : RegisterFile :=
  { file with general := file.general.set r.index value }

/-- Writing a register changes that register alone. -/
theorem get_set (file : RegisterFile) (r other : Register) (value : Word) :
    (file.set r value).get other = if r = other then value else file.get other := by
  obtain ⟨i⟩ := r
  obtain ⟨j⟩ := other
  simp only [get, set, Register.mk.injEq, Fin.getElem_fin, Vector.getElem_set, Fin.ext_iff]

/-- Continues at `address`. -/
def jump (file : RegisterFile) (address : Word) : RegisterFile :=
  { file with ip := address }

/-- Moves past one instruction. -/
def advance (file : RegisterFile) : RegisterFile :=
  { file with ip := file.ip + AddressMap.instructionWords }

/-- Replaces the stack pointer. -/
def setStack (file : RegisterFile) (sp : Word) : RegisterFile :=
  { file with sp := sp }

/-- The address of the stack slot that the stack pointer selects. -/
def stackTop (file : RegisterFile) : Word := AddressMap.ramStart + file.sp

end RegisterFile

end PipelinedMachine
