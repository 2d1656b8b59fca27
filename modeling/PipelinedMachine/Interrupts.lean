import PipelinedMachine.AddressMap
import PipelinedMachine.Link.Interconnect

/-!
# Interrupts

The interrupt controller keeps the vector table: which handler belongs to which interrupt, and in
one more slot the id of the latest interrupt.  It answers reads and writes of the table over its
link, and raises a line to the boot core for each interrupt.

* `InterruptLines` — one line per core, raised until the core takes it;
* `InterruptController` — the table, and the answer that waits to be sent;
* `InterruptController.raise`, `InterruptController.tick` — an interrupt, and a tick.
-/

namespace PipelinedMachine

/-! ## Lines -/

/-- The interrupt lines, by core.  A line only says that something was raised; what it was, the core
asks the controller. -/
structure InterruptLines where
  raised : Array Bool
deriving DecidableEq

namespace InterruptLines

/-- Lines for `cores` cores, none of them raised. -/
def quiet (cores : Nat) : InterruptLines := ⟨Array.replicate cores false⟩

/-- Raises a core's line.  Nothing happens for a core that has none. -/
def raise (lines : InterruptLines) (core : Nat) : InterruptLines :=
  ⟨lines.raised.modify core fun _ => true⟩

/-- Whether a core's line is raised. -/
def isRaised (lines : InterruptLines) (core : Nat) : Bool := lines.raised.getD core false

/-- Lowers a core's line, and says whether it was raised. -/
def take (lines : InterruptLines) (core : Nat) : Bool × InterruptLines :=
  if lines.isRaised core then (true, ⟨lines.raised.modify core fun _ => false⟩)
  else (false, lines)

end InterruptLines

/-! ## The controller -/

/-- The interrupt controller. -/
structure InterruptController where
  terminal : Terminal
  /-- The core whose line is raised. -/
  bootCore : Nat
  /-- The vector table. -/
  vectors : Vector Word AddressMap.vectorSlots
  /-- The answer to a read that its link has not taken yet. -/
  unsent : Option Message := none

namespace InterruptController

/-- A controller with an empty table. -/
def reset (terminal : Terminal) (bootCore : Nat) : InterruptController where
  terminal := terminal
  bootCore := bootCore
  vectors := Vector.replicate AddressMap.vectorSlots 0

/-- The slot at `address`, zero outside the table. -/
def vector (controller : InterruptController) (address : Word) : Word :=
  match Word.offset? AddressMap.vectorStart address with
  | some slot => controller.vectors.toArray.getD slot 0
  | none => 0

/-- Replaces the slot at `address`; outside the table nothing changes. -/
def setVector (controller : InterruptController) (address value : Word) : InterruptController :=
  match Word.offset? AddressMap.vectorStart address with
  | some slot => { controller with vectors := controller.vectors.setIfInBounds slot value }
  | none => controller

/-- The id of the latest interrupt. -/
def lastInterrupt (controller : InterruptController) : Word :=
  controller.vector AddressMap.lastInterrupt

/-- Raises interrupt `id`: it becomes the latest one, and the boot core's line is raised. -/
def raise (controller : InterruptController) (id : Word) (lines : InterruptLines) :
    InterruptController × InterruptLines :=
  (controller.setVector AddressMap.lastInterrupt id, lines.raise controller.bootCore)

/-- Sends a message, or keeps it until the link takes it. -/
def sendOrKeep (controller : InterruptController) (message : Message) (bus : Interconnect) :
    InterruptController × Interconnect :=
  match bus.send? controller.terminal message with
  | some bus => ({ controller with unsent := none }, bus)
  | none => ({ controller with unsent := some message }, bus)

/-- Tries again to send an answer that was kept. -/
def sendUnsent (controller : InterruptController) (bus : Interconnect) :
    InterruptController × Interconnect :=
  match controller.unsent with
  | some message => controller.sendOrKeep message bus
  | none => (controller, bus)

/-- Takes the waiting message.  A read is left waiting while an earlier answer is still unsent;
messages of no use to a controller are dropped. -/
def serve (controller : InterruptController) (lines : InterruptLines) (bus : Interconnect) :
    InterruptController × InterruptLines × Interconnect :=
  match bus.message? controller.terminal with
  | none => (controller, lines, bus)
  | some message =>
    match message.kind? with
    | some .read =>
      match controller.unsent with
      | some _ => (controller, lines, bus)
      | none =>
        let answer := Message.response message.address [controller.vector message.address]
        let (controller, bus) := controller.sendOrKeep answer (bus.clear controller.terminal)
        (controller, lines, bus)
    | some .write =>
      (controller.setVector message.address message.value, lines, bus.clear controller.terminal)
    | some .interrupt =>
      let bus := bus.clear controller.terminal
      let (controller, lines) := controller.raise message.address lines
      (controller, lines, bus)
    | some .response | some .command | none => (controller, lines, bus.clear controller.terminal)

/-- One tick: an answer that was kept goes first, then one message is taken. -/
def tick (controller : InterruptController) (lines : InterruptLines) (bus : Interconnect) :
    InterruptController × InterruptLines × Interconnect :=
  let (controller, bus) := controller.sendUnsent bus
  controller.serve lines bus

end InterruptController

end PipelinedMachine
