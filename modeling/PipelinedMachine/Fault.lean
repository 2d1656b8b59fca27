import PipelinedMachine.Word

/-!
# Code words and faults

An instruction is two words in memory.  When it cannot be executed the machine stops with a fault,
which names the cause and the instruction exactly as it was fetched.

* `CodeWords`, `Fetched` — an instruction's two words, and the address they were fetched from;
* `FaultCause` — every reason to stop, with its code number and its text;
* `Fault` — a cause and the instruction that met it.
-/

namespace PipelinedMachine

/-- The two words of an encoded instruction. -/
structure CodeWords where
  first : Word
  second : Word
deriving DecidableEq, Repr

/-- An instruction as it was read from memory. -/
structure Fetched where
  /-- Address of its first word. -/
  address : Word
  code : CodeWords
deriving DecidableEq, Repr

/-! ## Causes -/

/-- Why an instruction cannot be executed. -/
inductive FaultCause where
  /-- The top byte of the first word names no execution unit. -/
  | unknownUnit
  /-- The unit has no operation with the given number. -/
  | unknownOperation
  /-- A register operand is not one of the sixteen registers. -/
  | registerOutOfRange
  /-- The unit exists but takes no instructions. -/
  | reservedUnit
  /-- A division by zero. -/
  | divideByZero
  /-- The smallest word divided by minus one. -/
  | divideOverflow
  /-- A return from an interrupt handler while none is running. -/
  | returnOutsideInterrupt
deriving DecidableEq, Repr

/-- The part of the machine's rules that a fault breaks. -/
inductive FaultClass where
  | decode
  | arithmetic
  | control
deriving DecidableEq, Repr

namespace FaultCause

/-- The code number of the cause, counted from one. -/
def number : FaultCause → UInt8
  | unknownUnit => 1
  | unknownOperation => 2
  | registerOutOfRange => 3
  | reservedUnit => 4
  | divideByZero => 5
  | divideOverflow => 6
  | returnOutsideInterrupt => 7

/-- The cause with the given code number. -/
def ofNumber? : UInt8 → Option FaultCause
  | 1 => some unknownUnit
  | 2 => some unknownOperation
  | 3 => some registerOutOfRange
  | 4 => some reservedUnit
  | 5 => some divideByZero
  | 6 => some divideOverflow
  | 7 => some returnOutsideInterrupt
  | _ => none

@[simp] theorem ofNumber?_number (cause : FaultCause) : ofNumber? cause.number = some cause := by
  cases cause <;> rfl

/-- The class of the cause: the first four are found while decoding. -/
def kind : FaultCause → FaultClass
  | unknownUnit | unknownOperation | registerOutOfRange | reservedUnit => .decode
  | divideByZero | divideOverflow => .arithmetic
  | returnOutsideInterrupt => .control

/-- The cause in words. -/
def text : FaultCause → String
  | unknownUnit => "unknown unit code"
  | unknownOperation => "unknown operation code"
  | registerOutOfRange => "register index out of range"
  | reservedUnit => "reserved unit code dispatched"
  | divideByZero => "integer division by zero"
  | divideOverflow => "integer division overflow"
  | returnOutsideInterrupt => "interrupt return outside interrupt context"

end FaultCause

/-! ## Faults -/

/-- A cause and the instruction that met it. -/
structure Fault where
  cause : FaultCause
  /-- The instruction, with the address it was fetched from. -/
  origin : Fetched
deriving DecidableEq, Repr

/-- The fault of an instruction that meets `cause`. -/
def Fetched.fault (entry : Fetched) (cause : FaultCause) : Fault := ⟨cause, entry⟩

/-- The fault in words: cause, address, and both code words in hexadecimal. -/
def Fault.text (fault : Fault) : String :=
  fault.cause.text ++ " at address " ++ fault.origin.address.decimal ++
    " [0x" ++ fault.origin.code.first.hex ++ " 0x" ++ fault.origin.code.second.hex ++ "]"

end PipelinedMachine
