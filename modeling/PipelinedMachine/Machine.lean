import PipelinedMachine.Device.Display
import PipelinedMachine.Device.Keyboard
import PipelinedMachine.Device.Ram
import PipelinedMachine.Device.Rom
import PipelinedMachine.DeviceHub
import PipelinedMachine.Instruction.Text
import PipelinedMachine.Machine.Config
import PipelinedMachine.Processor

/-!
# The machine

Processor, memory, device hub and devices, wired up and advanced together one tick at a time.  A
fault stops the machine for good.

* `Machine.wire` — builds a machine around a disk image;
* `Machine.tick`, `Machine.run` — one tick, and many;
* `Machine.snapshot`, `Machine.text` and the other views — what the host can see;
* `Machine.load`, `Machine.press`, `Machine.raiseInterrupt` — what the host can do.
-/

namespace PipelinedMachine

/-- A machine. -/
structure Machine where
  config : MachineConfig
  bus : Interconnect
  processor : Processor
  ram : Ram
  hub : DeviceHub
  rom : Rom
  display : Display
  disk : DiskDrive
  keyboard : Keyboard
  counters : Counters := {}
  /-- The fault that has stopped the machine. -/
  fault? : Option Fault := none
  /-- Ticks completed. -/
  ticks : Nat := 0

/-- What a tick gives, if it does not fault. -/
inductive TickOutcome where
  | running
  /-- A core executed the breakpoint at `address`. -/
  | breakpoint (address : Word)
deriving DecidableEq, Repr

/-- When a run ends before its ticks are used up. -/
inductive RunBoundary where
  /-- Never; breakpoints are passed. -/
  | tickLimit
  /-- After the tick that executes a breakpoint. -/
  | breakpoint
deriving DecidableEq, Repr

/-- Whether a run ends with a tick that gave `outcome`. -/
def RunBoundary.stopsAt : RunBoundary → TickOutcome → Bool
  | .breakpoint, .breakpoint _ => true
  | _, _ => false

/-- What a run gives, if it does not fault. -/
structure RunOutcome where
  /-- Ticks executed. -/
  ticks : Nat
  /-- What the last tick gave. -/
  last : TickOutcome
deriving DecidableEq, Repr

/-- What a debugger sees of a core. -/
structure Snapshot where
  registers : RegisterFile
  stage : Stage
  inInterrupt : Bool
  /-- The instruction in the pipeline, if any has been dispatched. -/
  active : Option Fetched
deriving DecidableEq

/-- The debugger's view of a core. -/
def Core.snapshot (core : Core) : Snapshot where
  registers := core.registers
  stage := core.stages.current
  inInterrupt := core.pipeline.inInterrupt
  active := core.pipeline.active?

namespace Machine

/-! ## Wiring -/

/-- Links a device to the hub, at the addresses from `base` on, and gives the device's end. -/
def addDevice (base : Word) (period : UInt32) (hub : DeviceHub) (bus : Interconnect) :
    Terminal × DeviceHub × Interconnect :=
  let (bus, hubEnd, deviceEnd) := bus.link period Interconnect.messageCapacity
  match hub.attach base hubEnd with
  | .ok hub => (deviceEnd, hub, bus)
  | .error _ => (deviceEnd, hub, bus)

/-- A machine with the given disk, about to execute its first instruction. -/
def wire (config : MachineConfig) (image : DiskImage) : Machine :=
  let (bus, routerDevices, hubEnd) :=
    Interconnect.empty.link config.corePeriod Interconnect.messageCapacity
  let (bus, routerMemory, ramEnd) := bus.link config.corePeriod Interconnect.messageCapacity
  let (processor, bus) :=
    Processor.wire bus config.cores config.corePeriod config.entry routerDevices routerMemory
  let hub : DeviceHub := { uplink := hubEnd }
  let (romEnd, hub, bus) := addDevice AddressMap.romStart config.devicePeriod hub bus
  let (displayEnd, hub, bus) := addDevice AddressMap.displayStart config.devicePeriod hub bus
  let (keyboardEnd, hub, bus) := addDevice AddressMap.keyboardRegister config.devicePeriod hub bus
  let (diskEnd, hub, bus) := addDevice AddressMap.diskSeek config.devicePeriod hub bus
  { config := config
    bus := bus
    processor := processor
    ram := Ram.zeroed ramEnd AddressMap.ramStart AddressMap.ramWords config.timings.ramAccess
    hub := hub
    rom := Rom.ofImage romEnd AddressMap.romStart config.timings.romAccess
      (Boot.loader AddressMap.romStart)
    display := Display.reset displayEnd
    disk := DiskDrive.reset diskEnd image config.timings.disk
    keyboard := { terminal := keyboardEnd } }

/-! ## Ticks -/

/-- The turns of memory, the hub and the devices, after that of the processor. -/
def tickDevices (machine : Machine) : Machine :=
  match machine with
  | ⟨config, bus, processor, ram, hub, rom, display, disk, keyboard, counters, fault?, ticks⟩ =>
    let (ram, bus) := ram.tick bus
    let bus := hub.tick bus
    let (rom, bus) := rom.tick bus
    let (display, bus) := display.tick bus
    let (disk, bus) := disk.tick bus
    let (keyboard, bus) := keyboard.tick bus
    ⟨config, bus.tick, processor, ram, hub, rom, display, disk, keyboard, counters, fault?,
      ticks + 1⟩

/-- What a tick gives when its cores executed the given breakpoint, if any. -/
def outcome : Option Word → TickOutcome
  | some address => .breakpoint address
  | none => .running

/-- One tick: the processor, memory, the hub, the devices, and then every link.  A fault ends the
tick and stops the machine; once it is stopped a tick changes nothing and gives the fault again. -/
def tick (machine : Machine) : Machine × Except Fault TickOutcome :=
  match machine with
  | ⟨config, bus, processor, ram, hub, rom, display, disk, keyboard, counters, some fault, ticks⟩ =>
    (⟨config, bus, processor, ram, hub, rom, display, disk, keyboard, counters, some fault, ticks⟩,
      .error fault)
  | ⟨config, bus, processor, ram, hub, rom, display, disk, keyboard, counters, none, ticks⟩ =>
    match processor.tick bus counters with
    | (processor, bus, counters, .error fault) =>
      (⟨config, bus, processor, ram, hub, rom, display, disk, keyboard, counters, some fault,
        ticks⟩, .error fault)
    | (processor, bus, counters, .ok breakpoint) =>
      (tickDevices ⟨config, bus, processor, ram, hub, rom, display, disk, keyboard, counters, none,
        ticks⟩, .ok (outcome breakpoint))

/-- A run with some ticks left, that has come as far as `sofar`. -/
def runOn (boundary : RunBoundary) :
    (ticksLeft : Nat) → RunOutcome → Machine → Machine × Except Fault RunOutcome
  | 0, sofar, machine => (machine, .ok sofar)
  | ticksLeft + 1, sofar, machine =>
    match machine.tick with
    | (machine, .error fault) => (machine, .error fault)
    | (machine, .ok outcome) =>
      let sofar : RunOutcome := ⟨sofar.ticks + 1, outcome⟩
      if boundary.stopsAt outcome then (machine, .ok sofar)
      else runOn boundary ticksLeft sofar machine

/-- Runs for up to `limit` ticks.  A fault ends the run; how many ticks came before it is not
reported. -/
def run (machine : Machine) (limit : Nat) (boundary : RunBoundary) :
    Machine × Except Fault RunOutcome :=
  runOn boundary limit ⟨0, .running⟩ machine

/-! ## Views -/

/-- The debugger's view of the boot core. -/
def snapshot (machine : Machine) : Snapshot := machine.processor.boot.snapshot

/-- The debugger's view of any core. -/
def coreSnapshot? (machine : Machine) (index : Nat) : Option Snapshot :=
  (machine.processor.core? index).map Core.snapshot

/-- What is on the disk, with all that has been written so far. -/
def diskContents (machine : Machine) : DiskImage := machine.disk.contents

/-- The devices behind the hub, in address order. -/
def devices (machine : Machine) : List (String × Word) :=
  [describe machine.rom, describe machine.display, describe machine.keyboard,
    describe machine.disk]

/-! ## The host -/

/-- Puts words into main memory. -/
def load (machine : Machine) (address : Word) (words : Array Word) : Machine :=
  { machine with ram := machine.ram.load address words }

/-- Presses a key. -/
def press (machine : Machine) (code : Word) : Machine :=
  { machine with keyboard := machine.keyboard.press code }

/-- Raises an interrupt at the interrupt controller. -/
def raiseInterrupt (machine : Machine) (id : Word) : Machine :=
  { machine with processor := machine.processor.raiseInterrupt id }

end Machine

end PipelinedMachine
