import PipelinedMachine.Link.Interconnect

/-!
# The device hub

The hub passes requests on to the devices by address and returns what the devices send.  A device
owns the addresses from its base up to the next device's base, so the devices are attached in
ascending order.

* `DeviceHub.attach` — attaches a device, refusing a base out of order;
* `DeviceHub.deviceFor?` — the device that owns an address;
* `DeviceHub.tick` — passes on one request and one device's message.
-/

namespace PipelinedMachine

/-- A device's place on the hub. -/
structure Attachment where
  /-- First address of the device. -/
  base : Word
  terminal : Terminal
deriving DecidableEq, Repr

/-- The device hub. -/
structure DeviceHub where
  /-- The terminal that faces the cores. -/
  uplink : Terminal
  /-- The devices, by ascending base. -/
  devices : List Attachment := []
deriving DecidableEq

/-- Why a device cannot be attached. -/
inductive AttachError where
  /-- The base is not above that of the device attached before. -/
  | notAscending (base previous : Word)
deriving DecidableEq, Repr

/-- The error in words. -/
def AttachError.text : AttachError → String
  | notAscending base previous =>
    "device base " ++ base.decimal ++ " does not follow previous base " ++ previous.decimal

namespace DeviceHub

/-- Attaches a device that owns the addresses from `base` on. -/
def attach (hub : DeviceHub) (base : Word) (terminal : Terminal) : Except AttachError DeviceHub :=
  let attached := { hub with devices := hub.devices ++ [⟨base, terminal⟩] }
  match hub.devices.getLast? with
  | some last => if base ≤ last.base then .error (.notAscending base last.base) else .ok attached
  | none => .ok attached

/-- The device that owns `address`: the one with the greatest base not above it. -/
def deviceFor? (hub : DeviceHub) (address : Word) : Option Terminal :=
  (hub.devices.reverse.find? fun device => device.base ≤ address).map Attachment.terminal

/-- Passes on the request from the uplink.  One without an address, or with an address that no
device owns, is dropped. -/
def request (hub : DeviceHub) (bus : Interconnect) : Interconnect :=
  match bus.message? hub.uplink with
  | none => bus
  | some message =>
    match message.address?.bind hub.deviceFor? with
    | some device => (bus.forward? hub.uplink device).getD bus
    | none => bus.clear hub.uplink

/-- Passes on the message of the first device that has one. -/
def reply (hub : DeviceHub) (bus : Interconnect) : Interconnect :=
  match hub.devices.find? fun device => bus.hasMessage device.terminal with
  | some device => (bus.forward? device.terminal hub.uplink).getD bus
  | none => bus

/-- One tick. -/
def tick (hub : DeviceHub) (bus : Interconnect) : Interconnect := hub.reply (hub.request bus)

end DeviceHub

end PipelinedMachine
