import PipelinedMachine.AddressMap
import PipelinedMachine.Link.Interconnect

/-!
# The router between cores and memory

Requests from the cores go to the interrupt controller, to main memory or to the device hub,
depending on their address.  Answers come back on the same links and carry no core's name, so the
router remembers every read it has forwarded and returns an answer to the core whose read it fits.

* `Router.destination?` — where a core's message goes;
* `Router.request` — one core's turn;
* `Router.reply` — the turn of a link that answers come from;
* `Router.tick` — every core's turn, then memory, the devices and the interrupt controller.
-/

namespace PipelinedMachine

/-- A read that has been forwarded and not answered yet. -/
structure PendingRead where
  /-- Where the read went. -/
  target : Terminal
  address : Word
  /-- Where the answer belongs. -/
  core : Terminal
deriving DecidableEq, Repr

/-- Whether an answer with `address?`, coming from `source`, fits the read. -/
def PendingRead.fits (read : PendingRead) (source : Terminal) (address? : Option Word) : Bool :=
  read.target = source && some read.address = address?

/-- The router. -/
structure Router where
  devices : Terminal
  controller : Terminal
  memory : Terminal
  /-- The cores, the boot core first. -/
  cores : List Terminal := []
  /-- The reads that wait for an answer, oldest first. -/
  pending : List PendingRead := []
deriving DecidableEq

namespace Router

/-- How many reads the router remembers. -/
def pendingLimit : Nat := 64

/-- Attaches one more core. -/
def addCore (router : Router) (core : Terminal) : Router :=
  { router with cores := router.cores ++ [core] }

/-! ## Requests -/

/-- Where a core's message goes.  Interrupts go to the controller, reads and writes by their
address; anything else, and a read or write without an address, goes nowhere. -/
def destination? (router : Router) (message : Message) : Option Terminal :=
  match message.kind? with
  | some .interrupt => some router.controller
  | some .read | some .write =>
    message.address?.map fun address =>
      if address < AddressMap.hubStart then router.controller
      else if isRam address then router.memory
      else router.devices
  | some .response | some .command | none => none

/-- The reads remembered once one more has been forwarded.  Beyond the limit the oldest is
forgotten. -/
def remember (pending : List PendingRead) (read : PendingRead) : List PendingRead :=
  (if pending.length = pendingLimit then pending.drop 1 else pending) ++ [read]

/-- The router after a core's message has been forwarded to `target`. -/
def noteForwarded (router : Router) (core target : Terminal) (message : Message) : Router :=
  match message.kind?, message.address? with
  | some .read, some address =>
    { router with pending := remember router.pending ⟨target, address, core⟩ }
  | _, _ => router

/-- A core's turn: its message is forwarded if the way is free, and dropped if it goes nowhere. -/
def request (router : Router) (bus : Interconnect) (core : Terminal) : Router × Interconnect :=
  match bus.message? core with
  | none => (router, bus)
  | some message =>
    match router.destination? message with
    | none => (router, bus.clear core)
    | some target =>
      match bus.forward? core target with
      | some bus => (router.noteForwarded core target message, bus)
      | none => (router, bus)

/-- Every core's turn, in order. -/
def requests (router : Router) (bus : Interconnect) : Router × Interconnect :=
  router.cores.foldl (fun state core => state.1.request state.2 core) (router, bus)

/-! ## Replies -/

/-- The core that an answer from `source` belongs to: the one with the oldest fitting read, or the
boot core if no read fits. -/
def recipient? (router : Router) (source : Terminal) (address? : Option Word) : Option Terminal :=
  match router.pending.find? fun read => read.fits source address? with
  | some read => some read.core
  | none => router.cores.head?

/-- The turn of a link that answers come from. -/
def reply (router : Router) (bus : Interconnect) (source : Terminal) : Router × Interconnect :=
  match bus.message? source with
  | none => (router, bus)
  | some message =>
    match router.recipient? source message.address? with
    | none => (router, bus)
    | some core =>
      match bus.forward? source core with
      | some bus =>
        ({ router with
            pending := router.pending.eraseP fun read => read.fits source message.address? },
          bus)
      | none => (router, bus)

/-- The devices' turn: besides answers they send interrupts, which go to the controller. -/
def replyDevices (router : Router) (bus : Interconnect) : Router × Interconnect :=
  if (bus.message? router.devices).bind Message.kind? = some .interrupt then
    match bus.forward? router.devices router.controller with
    | some bus => (router, bus)
    | none => (router, bus)
  else router.reply bus router.devices

/-- One tick: at most one message is taken from each link. -/
def tick (router : Router) (bus : Interconnect) : Router × Interconnect :=
  let (router, bus) := router.requests bus
  let (router, bus) := router.reply bus router.memory
  let (router, bus) := router.replyDevices bus
  router.reply bus router.controller

end Router

end PipelinedMachine
