import PipelinedMachine.Link.Interconnect

/-!
# Devices

A device sits at one end of a link and is ticked once per tick of the machine.  What all devices
have in common is here:

* `Device` — the name, the first address and the tick of a device;
* `PendingReply` — an answer that is held back for an access time and then sent as soon as the link
  takes it;
* `replyCount` — how many words an answer may carry.
-/

namespace PipelinedMachine

/-- A component at one end of a link. -/
class Device (α : Type) where
  /-- What the device is called. -/
  name : String
  /-- First address the device answers to. -/
  base : α → Word
  /-- Serves the device's end of the link for one tick. -/
  tick : α → Interconnect → α × Interconnect

/-- The name and first address of a device. -/
def describe {α : Type} [Device α] (device : α) : String × Word :=
  (Device.name α, Device.base device)

/-- An answer that has not been sent yet. -/
structure PendingReply where
  /-- Ticks to wait before sending. -/
  delay : UInt32
  message : Message
deriving DecidableEq

/-- One tick: counts the delay down, and then tries to send until the link takes the answer. -/
def PendingReply.tick (reply? : Option PendingReply) (terminal : Terminal) (bus : Interconnect) :
    Option PendingReply × Interconnect :=
  match reply? with
  | none => (none, bus)
  | some reply =>
    if reply.delay > 0 then (some { reply with delay := reply.delay - 1 }, bus)
    else
      match bus.send? terminal reply.message with
      | some bus => (none, bus)
      | none => (some reply, bus)

/-- How many of the `requested` words fit in one answer from `terminal`: an answer spends two words
on its kind and its address.  A negative request asks for nothing. -/
def replyCount (bus : Interconnect) (terminal : Terminal) (requested : Word) : Nat :=
  min requested.toNatClampNeg (bus.capacity terminal - 2)

/-- The answer to a read of `count` words from `address` on, out of a memory given by `word`. -/
def replyFrom (word : Word → Word) (address : Word) (count : Nat) : Message :=
  Message.response address <| (List.range count).map fun i => word (address + Int32.ofNat i)

end PipelinedMachine
