import PipelinedMachine.AddressMap
import PipelinedMachine.Device.DiskDrive

/-!
# Machine configurations

How a machine is put together: how many cores, how fast the links, how slow the devices.

* `MachineConfig.standard` — realistic latencies;
* `MachineConfig.fast` — the same machine with every latency shortened.
-/

namespace PipelinedMachine

/-- How long the devices take, in ticks. -/
structure DeviceTimings where
  /-- For an access to main memory. -/
  ramAccess : UInt32
  /-- For a read of the ROM. -/
  romAccess : UInt32
  disk : DiskTimings
deriving DecidableEq, Repr

/-- How a machine is put together. -/
structure MachineConfig where
  /-- Number of cores; zero counts as one. -/
  cores : Nat
  /-- Ticks per word on the links inside the processor, to main memory and to the device hub. -/
  corePeriod : UInt32
  /-- Ticks per word on the links from the device hub to the devices. -/
  devicePeriod : UInt32
  /-- Where every core starts. -/
  entry : Word
  /-- Number of blocks on the disk. -/
  diskCapacity : Nat
  timings : DeviceTimings
deriving DecidableEq, Repr

namespace MachineConfig

/-- The usual number of blocks on a disk. -/
def defaultDiskCapacity : Nat := 1 <<< 20

/-- One core and realistic latencies. -/
def standard : MachineConfig where
  cores := 1
  corePeriod := 1
  devicePeriod := 32
  entry := AddressMap.romStart
  diskCapacity := defaultDiskCapacity
  timings := ⟨200, 2000, ⟨200000, 1, 1000⟩⟩

/-- One core and short latencies, for tests and for use at a terminal. -/
def fast : MachineConfig :=
  { standard with devicePeriod := 1, timings := ⟨2, 2, ⟨20, 1, 400⟩⟩ }

end MachineConfig

end PipelinedMachine
