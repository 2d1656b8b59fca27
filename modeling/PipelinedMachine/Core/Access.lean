import PipelinedMachine.Core.Datapath

/-!
# Units that use the core's link

Loads, stores and interrupt requests go out as messages.  The link may refuse a message for as long
as an earlier one has not been taken, so each of these units tries again every tick until its
message is accepted, and counts the ticks it waits.

* `LoadUnit.tick` — sends a read and waits for its answer;
* `StoreUnit.tick` — is done once its write is on its way;
* `RequestUnit.tick` — the same for requests to the interrupt controller.
-/

namespace PipelinedMachine

/-! ## Loads -/

/-- A load and how far it has come. -/
structure PendingLoad extends Held LoadInstruction where
  /-- The address of the read that has been sent. -/
  requested : Option Word := none
deriving DecidableEq, Repr

namespace LoadUnit

/-- A load that has just been handed over. -/
def accept (held : Held LoadInstruction) : Option PendingLoad :=
  some { toHeld := held }

/-- The address whose answer the unit waits for. -/
def outstanding? (slot : Option PendingLoad) : Option Word := slot.bind PendingLoad.requested

/-- One tick of the load unit. -/
def tick (slot : Option PendingLoad) (terminal : Terminal) (path : Datapath) :
    Option PendingLoad × Datapath :=
  match slot with
  | none => (none, path)
  | some pending =>
    if path.isIn .execution then
      match pending.instruction with
      | .nop => (none, path.complete)
      | .load target operand =>
        match pending.requested with
        | none =>
          let address := operand.resolve path.registers
          match path.bus.send? terminal (Message.read address 1) with
          | some bus => (some { pending with requested := some address }, { path with bus := bus })
          | none => (slot, path.record .loadWaits)
        | some address =>
          match path.bus.answer? terminal address with
          | some answer => (none, ((path.clear terminal).write target answer.value).complete)
          | none => (slot, path.record .loadWaits)
    else (slot, path)

end LoadUnit

/-! ## Stores -/

/-- One tick of the store unit. -/
def StoreUnit.tick (slot : Slot StoreInstruction) (terminal : Terminal) (path : Datapath) :
    Slot StoreInstruction × Datapath :=
  match slot with
  | none => (none, path)
  | some held =>
    if path.isIn .execution then
      let address := held.instruction.address.resolve path.registers
      let value := path.registers.get held.instruction.source
      match path.bus.send? terminal (Message.write address value) with
      | some bus => (none, { path with bus := bus }.complete)
      | none => (slot, path.record .storeWaits)
    else (slot, path)

/-! ## Interrupt requests -/

/-- The message that makes a request.  A handler is installed by writing its address into the
vector table. -/
def InterruptRequest.message (request : InterruptRequest) (registers : RegisterFile) : Message :=
  match request with
  | install id source => Message.write id (registers.get source)
  | raise id => Message.interrupt id

/-- One tick of the unit that sends interrupt requests. -/
def RequestUnit.tick (slot : Slot InterruptRequest) (terminal : Terminal) (path : Datapath) :
    Slot InterruptRequest × Datapath :=
  match slot with
  | none => (none, path)
  | some held =>
    if path.isIn .execution then
      match path.bus.send? terminal (held.instruction.message path.registers) with
      | some bus => (none, { path with bus := bus }.complete)
      | none => (slot, path.record .interruptWaits)
    else (slot, path)

end PipelinedMachine
