import PipelinedMachine.AddressMap
import PipelinedMachine.Device.Basic
import PipelinedMachine.Disk.Image

/-!
# The disk drive

The drive serves one block of a disk image at a time.  Writing a block number to the seek register
selects a block and, after the seek time, the drive raises its interrupt again and again until the
acknowledge register is written.  Each access to the data register takes the next word of the block.

* `DiskDrive.seek`, `DiskDrive.step`, `DiskDrive.flush` — the current block and the position in it;
* `DiskDrive.handle` — one request;
* `DiskDrive.tick` — one tick, in which the three countdowns run.

The current block is kept apart from the image and written back when it is left;
`DiskDrive.contents` is the image with that done.
-/

namespace PipelinedMachine

/-- How long the drive takes, in ticks. -/
structure DiskTimings where
  /-- From a seek to the first interrupt. -/
  seek : UInt32
  /-- For one access to the data register. -/
  access : UInt32
  /-- From one interrupt to the next. -/
  interruptRepeat : UInt32
deriving DecidableEq, Repr

/-- The disk drive. -/
structure DiskDrive where
  terminal : Terminal
  image : DiskImage
  timings : DiskTimings
  /-- The number of the current block. -/
  current : Nat := 0
  /-- The current block, with what has been written to it. -/
  block : Block
  /-- The position in the current block. -/
  position : Fin blockWords := 0
  /-- Ticks until a seek is complete. -/
  seeking : UInt32 := 0
  /-- Ticks until an access to the data register is complete. -/
  accessing : UInt32 := 0
  /-- While the interrupt is not acknowledged, a countdown to the next one.  It is due while the
  count stands at the full interval. -/
  interrupting : Option UInt32 := none
  reply : Option PendingReply := none

namespace DiskDrive

/-- A drive at the start of block 0. -/
def reset (terminal : Terminal) (image : DiskImage) (timings : DiskTimings) : DiskDrive where
  terminal := terminal
  image := image
  timings := timings
  block := image.read 0

/-! ## The current block -/

/-- Writes the current block back to the image.  On a disk without blocks there is nothing to write
back to. -/
def flush (drive : DiskDrive) : DiskDrive :=
  match drive.image.write? drive.current drive.block with
  | .ok image => { drive with image := image }
  | .error _ => drive

/-- What is on the disk, the current block included. -/
def contents (drive : DiskDrive) : DiskImage := drive.flush.image

/-- The time to the next interrupt; an interval of zero counts as one. -/
def interval (drive : DiskDrive) : UInt32 := max drive.timings.interruptRepeat 1

/-- Selects a block.  A number that is not that of a block changes nothing. -/
def seek (drive : DiskDrive) (number : Word) : DiskDrive :=
  match Word.offset? 0 number with
  | none => drive
  | some index =>
    if index < drive.image.capacity then
      let drive := drive.flush
      { drive with
        current := index
        block := drive.image.read index
        position := 0
        seeking := max drive.timings.seek 1 }
    else drive

/-- Moves to the next word of the block, and from the last one back to the first. -/
def step (drive : DiskDrive) : DiskDrive :=
  { drive with position := drive.position + 1, accessing := drive.timings.access }

/-- The drive with an answer to send. -/
def answer (drive : DiskDrive) (address value : Word) : DiskDrive :=
  { drive with reply := some ⟨0, Message.response address [value]⟩ }

/-! ## Requests -/

/-- The value of the seek register: the current block, as far as a word can say. -/
def currentWord (drive : DiskDrive) : Word :=
  if drive.current ≤ Int32.maxValue.toNatClampNeg then Int32.ofNat drive.current
  else Int32.maxValue

/-- Carries out a write. -/
def handleWrite (drive : DiskDrive) (address value : Word) : DiskDrive :=
  if address = AddressMap.diskSeek then drive.seek value
  else if address = AddressMap.diskAcknowledge then { drive with interrupting := none }
  else if address = AddressMap.diskData then
    let position := drive.position
    { drive with block := drive.block.set position value }.step
  else drive

/-- Carries out a read. -/
def handleRead (drive : DiskDrive) (address : Word) : DiskDrive :=
  if address = AddressMap.diskData then drive.step.answer address drive.block[drive.position]
  else if address = AddressMap.diskSeek then drive.answer address drive.currentWord
  else drive

/-- Carries out a request; messages of no use to a drive have no effect. -/
def handle (drive : DiskDrive) (message : Message) : DiskDrive :=
  match message.kind? with
  | some .write => drive.handleWrite message.address message.value
  | some .read => drive.handleRead message.address
  | some .response | some .command | some .interrupt | none => drive

/-! ## Ticks -/

/-- Counts a seek and an access down.  The interrupt becomes due on the tick that completes a
seek. -/
def countDown (drive : DiskDrive) : DiskDrive :=
  let interrupting := if drive.seeking = 1 then some drive.interval else drive.interrupting
  { drive with
    interrupting := interrupting
    seeking := if drive.seeking = 0 then 0 else drive.seeking - 1
    accessing := if drive.accessing = 0 then 0 else drive.accessing - 1 }

/-- Sends the interrupt if it is due, until the link takes it, and counts down to the next one. -/
def announce (drive : DiskDrive) (bus : Interconnect) : DiskDrive × Interconnect :=
  match drive.interrupting with
  | none => (drive, bus)
  | some remaining =>
    if remaining = drive.interval then
      match bus.send? drive.terminal (Message.interrupt AddressMap.diskInterrupt) with
      | some bus => ({ drive with interrupting := some (remaining - 1) }, bus)
      | none => (drive, bus)
    else
      let next := if remaining ≤ 1 then drive.interval else remaining - 1
      ({ drive with interrupting := some next }, bus)

/-- Takes the waiting message, unless an answer has still to be sent. -/
def accept (drive : DiskDrive) (bus : Interconnect) : DiskDrive × Interconnect :=
  match drive.reply, bus.message? drive.terminal with
  | none, some message => (drive.handle message, bus.clear drive.terminal)
  | _, _ => (drive, bus)

/-- Sends the answer, unless an access is still going on. -/
def sendReply (drive : DiskDrive) (bus : Interconnect) : DiskDrive × Interconnect :=
  if drive.accessing = 0 then
    let (reply, bus) := PendingReply.tick drive.reply drive.terminal bus
    ({ drive with reply := reply }, bus)
  else (drive, bus)

/-- One tick.  While a seek or an access is going on nothing else happens. -/
def tick (drive : DiskDrive) (bus : Interconnect) : DiskDrive × Interconnect :=
  let drive := drive.countDown
  if drive.seeking > 0 || drive.accessing > 0 then (drive, bus)
  else
    let (drive, bus) := drive.announce bus
    let (drive, bus) := drive.accept bus
    drive.sendReply bus

instance : Device DiskDrive where
  name := "block"
  base _ := AddressMap.diskSeek
  tick := DiskDrive.tick

end DiskDrive

end PipelinedMachine
