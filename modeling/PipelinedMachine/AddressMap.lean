import PipelinedMachine.Word

/-!
# The address map

Every address a program can name belongs to one component of the machine.  The map is fixed: the
interrupt controller's vector table at the bottom, then the ROM, the display, the keyboard, main
memory, and the registers of the disk drive on top.

* `AddressMap.…Start`, `…Register` — where each component begins and which words are registers;
* `Region` — the six components, with `Region.first` and `Region.last` as inclusive bounds;
* `regionAt` — the region an address lies in, if any does;
* `isRam` — the test that decides whether a request goes to main memory.
-/

namespace PipelinedMachine

namespace AddressMap

/-! ## Landmarks -/

/-- First address of the interrupt vector table. -/
def vectorStart : Word := 0

/-- Slots in the interrupt vector table: one per handler, and one for the latest interrupt. -/
def vectorSlots : Nat := 257

/-- The slot that holds the id of the latest interrupt. -/
def lastInterrupt : Word := vectorStart + 256

/-- First address behind the device hub; everything below belongs to the interrupt controller. -/
def hubStart : Word := 512

/-- First address of the ROM. -/
def romStart : Word := hubStart

/-- Words reserved for the ROM. -/
def romWords : Nat := 1024

/-- First address of the display's cells. -/
def displayStart : Word := romStart + 1024

/-- Words reserved for the display's cells, more than the screen shows. -/
def displayWords : Nat := 2048

/-- The display's command register. -/
def displayCommand : Word := displayStart + 2048

/-- The colour in which later cells are written. -/
def displayForeground : Word := displayCommand + 1

/-- The colour on which later cells are written. -/
def displayBackground : Word := displayCommand + 2

/-- The keyboard's only register, the code of the latest key. -/
def keyboardRegister : Word := displayCommand + 4

/-- First address of main memory. -/
def ramStart : Word := keyboardRegister + 1

/-- Words of main memory. -/
def ramWords : Nat := 128 * 1024 * 1024

/-- The disk's seek register: written with a block number, read back for the current one. -/
def diskSeek : Word := ramStart + Int32.ofNat ramWords

/-- The disk's data register: each access takes the next word of the current block. -/
def diskData : Word := diskSeek + 1

/-- The disk's acknowledge register: a write silences the ready interrupt. -/
def diskAcknowledge : Word := diskSeek + 2

/-- Interrupt id raised by the keyboard. -/
def keyboardInterrupt : Word := 32

/-- Interrupt id raised by the disk. -/
def diskInterrupt : Word := 33

/-- Addresses that one encoded instruction occupies. -/
def instructionWords : Word := 2

/-- The stack pointer after reset, an offset from `ramStart`: the stack grows down from the last
word of main memory. -/
def initialStackPointer : Word := Int32.ofNat ramWords - 1

end AddressMap

/-! ## Regions -/

/-- The component that an address belongs to. -/
inductive Region where
  | vectors
  | rom
  | display
  | keyboard
  | ram
  | disk
deriving DecidableEq, Repr

namespace Region

open AddressMap

/-- Every region, in ascending address order. -/
def all : List Region := [vectors, rom, display, keyboard, ram, disk]

/-- First address of the region. -/
def first : Region → Word
  | vectors => vectorStart
  | rom => romStart
  | display => displayStart
  | keyboard => keyboardRegister
  | ram => ramStart
  | disk => diskSeek

/-- Last address of the region, itself inside. -/
def last : Region → Word
  | vectors => hubStart - 1
  | rom => displayStart - 1
  | display => keyboardRegister - 1
  | keyboard => keyboardRegister
  | ram => diskSeek - 1
  | disk => diskAcknowledge

/-- Whether `address` lies in the region. -/
def contains (region : Region) (address : Word) : Bool :=
  region.first ≤ address && address ≤ region.last

end Region

/-- The region that `address` lies in; none below the vector table or above the disk. -/
def regionAt (address : Word) : Option Region :=
  Region.all.find? fun region => region.contains address

/-- Whether `address` lies in main memory. -/
def isRam (address : Word) : Bool := Region.ram.contains address

end PipelinedMachine
