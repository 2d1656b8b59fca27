import PipelinedMachine.AddressMap
import PipelinedMachine.Device.Basic
import PipelinedMachine.Instruction.Assembler

/-!
# The ROM and its boot loader

The ROM answers reads of a fixed image and ignores everything else.  Its usual image is the boot
loader, which installs handlers for the keyboard and the disk, copies the program on the disk to the
start of main memory, and jumps there.

* `Boot.program` — the boot loader for a ROM at a given base;
* `Boot.loader?` — its words, if all its jump targets lie in the address space;
* `Rom.tick` — one tick of the ROM.
-/

namespace PipelinedMachine

/-! ## The boot loader -/

namespace Boot

open AddressMap Assembler

/-- Words of the program in one disk block. -/
def blockWords : Word := 4096

/-- The highest instruction that the boot loader jumps to, counted from its start. -/
def lastTarget : Word := 17

/-- The boot loader for a ROM at `base`.

The keyboard handler leaves the latest key in `r15`, the disk handler silences the disk.  Word 0 of
block 0 holds the number of program blocks, which follow it on the disk: `r0` is that number, `r1`
the block being copied, `r2` the words copied of it, `r3` the words copied in all. -/
def program (base : Word) : List Instruction :=
  let r := register
  let label (index : Word) : Word := base + index * instructionWords
  [ -- the handlers
    setLiteral (r 0) (label 5),
    storeLiteral (r 0) keyboardInterrupt,
    setLiteral (r 0) (label 7),
    storeLiteral (r 0) diskInterrupt,
    jump (label 9),
    -- 5: the keyboard handler
    loadLiteral (r 15) keyboardRegister,
    interruptReturn,
    -- 7: the disk handler
    storeLiteral (r 0) diskAcknowledge,
    interruptReturn,
    -- 9: the number of blocks
    setLiteral (r 0) 0,
    storeLiteral (r 0) diskSeek,
    loadLiteral (r 0) diskData,
    setLiteral (r 1) 1,
    storeLiteral (r 1) diskSeek,
    setLiteral (r 2) 0,
    setLiteral (r 3) 0,
    setLiteral (r 4) blockWords,
    -- 17: copy one word, then the next, then the next block
    loadLiteral (r 5) diskData,
    storeIndexed (r 3) (r 5) ramStart,
    arithmeticLiteral .add (r 2) (r 2) 1,
    arithmeticLiteral .add (r 3) (r 3) 1,
    jumpIf .less (r 2) (r 4) (label 17),
    setLiteral (r 2) 0,
    arithmeticLiteral .add (r 1) (r 1) 1,
    storeLiteral (r 1) diskSeek,
    jumpIf .lessEqual (r 1) (r 0) (label 17),
    jump ramStart ]

/-- Whether all jump targets of the boot loader at `base` lie in the address space. -/
def fits (base : Word) : Bool :=
  base ≤ Int32.maxValue - lastTarget * instructionWords

/-- The words of the boot loader for a ROM at `base`. -/
def loader (base : Word) : Array Word := assemble (program base)

/-- The words of the boot loader for a ROM at `base`; none if a jump target would lie beyond the end
of the address space. -/
def loader? (base : Word) : Option (Array Word) :=
  if fits base then some (loader base) else none

end Boot

/-! ## The ROM -/

/-- Read-only memory. -/
structure Rom where
  terminal : Terminal
  /-- First address. -/
  base : Word
  image : Array Word
  /-- Ticks that a read takes. -/
  latency : UInt32
  reply : Option PendingReply := none

namespace Rom

/-- A ROM with the given image, cut off at the end of the ROM's address range. -/
def ofImage (terminal : Terminal) (base : Word) (latency : UInt32) (image : Array Word) : Rom where
  terminal := terminal
  base := base
  image := image.take AddressMap.romWords
  latency := latency

/-- The word at `address`, zero outside the image. -/
def readWord (rom : Rom) (address : Word) : Word :=
  match Word.offset? rom.base address with
  | some offset => rom.image.getD offset 0
  | none => 0

/-- Takes the waiting message.  A read waits while an earlier one is being answered; anything else
is dropped. -/
def accept (rom : Rom) (bus : Interconnect) : Rom × Interconnect :=
  match bus.message? rom.terminal with
  | none => (rom, bus)
  | some message =>
    if message.kind? = some .read then
      match rom.reply with
      | some _ => (rom, bus)
      | none =>
        let count := replyCount bus rom.terminal message.count
        let answer := replyFrom rom.readWord message.address count
        ({ rom with reply := some ⟨rom.latency, answer⟩ }, bus.clear rom.terminal)
    else (rom, bus.clear rom.terminal)

/-- One tick. -/
def tick (rom : Rom) (bus : Interconnect) : Rom × Interconnect :=
  let (rom, bus) := rom.accept bus
  let (reply, bus) := PendingReply.tick rom.reply rom.terminal bus
  ({ rom with reply := reply }, bus)

instance : Device Rom where
  name := "bios"
  base := Rom.base
  tick := Rom.tick

end Rom

end PipelinedMachine
