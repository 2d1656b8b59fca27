import PipelinedMachine.Device.DiskDrive
import PipelinedMachine.Device.Display
import PipelinedMachine.Device.Keyboard
import PipelinedMachine.Device.Ram
import PipelinedMachine.Device.Rom
import PipelinedMachine.DeviceHub
import PipelinedMachine.Processor

/-!
# Parts of a bench

Any component of the machine can be put on a bench by itself.  The units of a core then work on a
datapath that the bench holds, not on one inside a core, and everything that the machine would wire
up for them is left to whoever sets up the bench.

* `Part` — a component of any kind;
* `PartEvent` — what a tick of a part can make known;
* `Part.tick` — one tick of a part among what all parts share;
* `Part.accept?` — hands a unit an instruction, as dispatch would.
-/

namespace PipelinedMachine

/-- A component on a bench.  A part that does not carry its own terminal is placed together with
it. -/
inductive Part where
  | ram (ram : Ram)
  | rom (rom : Rom)
  | display (display : Display)
  | keyboard (keyboard : Keyboard)
  | disk (drive : DiskDrive)
  | controller (controller : InterruptController)
  | hub (hub : DeviceHub)
  | router (router : Router)
  | fetch (terminal : Terminal) (fetch : Fetch)
  /-- Dispatch out of the fetch unit at `source`, with the instruction that it gave last. -/
  | dispatch (source : Nat) (last : Option Fetched)
  | alu (slot : Slot AluInstruction)
  | branch (slot : Slot BranchInstruction)
  | stack (slot : Slot StackInstruction)
  | retire
  | load (terminal : Terminal) (pending : Option PendingLoad)
  | store (terminal : Terminal) (slot : Slot StoreInstruction)
  | request (terminal : Terminal) (slot : Slot InterruptRequest)
  | core (core : Core)
  | processor (processor : Processor)

/-- What a tick of a part makes known. -/
inductive PartEvent where
  /-- Dispatch has found the next instruction. -/
  | dispatched (entry : Fetched)
  /-- A breakpoint has been executed. -/
  | breakpoint (address : Word)
  /-- The stack unit has a memory access to pass on; on a bench nobody takes it over. -/
  | delegated (access : Delegation)
  | faulted (fault : Fault)
deriving DecidableEq, Repr

namespace PartEvent

/-- Whether the event is a fault. -/
def isFault : PartEvent → Bool
  | faulted _ => true
  | dispatched _ | breakpoint _ | delegated _ => false

/-- What the outcome of a core's tick makes known. -/
def ofOutcome? : CoreOutcome → Option PartEvent
  | .ok address? => address?.map breakpoint
  | .error fault => some (faulted fault)

end PartEvent

/-- What the parts of a bench share. -/
structure PartEnvironment where
  path : Datapath
  lines : InterruptLines

namespace PartEnvironment

/-- The environment after a part has used the links only. -/
def withBus (env : PartEnvironment) (bus : Interconnect) : PartEnvironment :=
  { env with path := { env.path with bus := bus } }

/-- The environment after a part has used the datapath. -/
def withPath (env : PartEnvironment) (path : Datapath) : PartEnvironment :=
  { env with path := path }

end PartEnvironment

namespace Part

/-! ## Ticks -/

/-- A part that has served its end of a link. -/
def served {α : Type} (part : α → Part) (env : PartEnvironment) (turn : α × Interconnect) :
    Part × PartEnvironment × Option PartEvent :=
  (part turn.1, env.withBus turn.2, none)

/-- A part that has worked on the datapath. -/
def worked {α : Type} (part : α → Part) (env : PartEnvironment) (turn : α × Datapath) :
    Part × PartEnvironment × Option PartEvent :=
  (part turn.1, env.withPath turn.2, none)

/-- Dispatch's turn, with the fetch unit that it looks into. -/
def dispatchFrom (source : Nat) (last : Option Fetched) (env : PartEnvironment) (fetch : Fetch) :
    Part × PartEnvironment × Option PartEvent :=
  match fetch.dispatch env.path with
  | (some entry, path) =>
    (.dispatch source (some entry), env.withPath path, some (.dispatched entry))
  | (none, path) => (.dispatch source last, env.withPath path, none)

/-- The interrupt controller's turn, in which it may raise a line. -/
def tickController (controller : InterruptController) (env : PartEnvironment) :
    Part × PartEnvironment × Option PartEvent :=
  let (after, lines, bus) := controller.tick env.lines env.path.bus
  (.controller after, { env.withBus bus with lines := lines }, none)

/-- A core's turn.  It has registers and stages of its own. -/
def tickCore (core : Core) (env : PartEnvironment) : Part × PartEnvironment × Option PartEvent :=
  let (after, shared, outcome) := core.tick ⟨env.path.bus, env.lines, env.path.counters⟩
  let path := { env.path with bus := shared.bus, counters := shared.counters }
  (.core after, ⟨path, shared.lines⟩, PartEvent.ofOutcome? outcome)

/-- A processor's turn.  It has interrupt lines of its own, too. -/
def tickProcessor (processor : Processor) (env : PartEnvironment) :
    Part × PartEnvironment × Option PartEvent :=
  let (after, bus, counters, outcome) := processor.tick env.path.bus env.path.counters
  let path := { env.path with bus := bus, counters := counters }
  (.processor after, env.withPath path, PartEvent.ofOutcome? outcome)

/-- One tick of a part.  `fetchAt?` gives the fetch units of the bench by their places. -/
def tick (part : Part) (fetchAt? : Nat → Option Fetch) (env : PartEnvironment) :
    Part × PartEnvironment × Option PartEvent :=
  let path := env.path
  match part with
  | .ram device => served .ram env (device.tick path.bus)
  | .rom device => served .rom env (device.tick path.bus)
  | .display device => served .display env (device.tick path.bus)
  | .keyboard device => served .keyboard env (device.tick path.bus)
  | .disk drive => served .disk env (drive.tick path.bus)
  | .hub unit => (part, env.withBus (unit.tick path.bus), none)
  | .router unit => served .router env (unit.tick path.bus)
  | .controller unit => tickController unit env
  | .fetch terminal unit => worked (.fetch terminal) env (unit.tick terminal path)
  | .dispatch source last =>
    match fetchAt? source with
    | some unit => dispatchFrom source last env unit
    | none => (part, env, none)
  | .alu slot =>
    let (slot, path, fault?) := AluUnit.tick slot path
    (.alu slot, env.withPath path, fault?.map .faulted)
  | .branch slot =>
    let (slot, path, address?) := BranchUnit.tick slot path
    (.branch slot, env.withPath path, address?.map .breakpoint)
  | .stack slot =>
    let (slot, path, access?) := StackUnit.tick slot path
    (.stack slot, env.withPath path, access?.map .delegated)
  | .retire => (part, env.withPath path.retire, none)
  | .load terminal pending => worked (.load terminal) env (LoadUnit.tick pending terminal path)
  | .store terminal slot => worked (.store terminal) env (StoreUnit.tick slot terminal path)
  | .request terminal slot => worked (.request terminal) env (RequestUnit.tick slot terminal path)
  | .core unit => tickCore unit env
  | .processor unit => tickProcessor unit env

/-! ## The host -/

/-- The unit with an instruction handed to it, if it is the unit for that instruction. -/
def accept? (part : Part) (entry : Fetched) : Option Part :=
  match part, entry.code.decode with
  | .alu _, .ok (.alu instruction) => some (.alu (some ⟨entry, instruction⟩))
  | .branch _, .ok (.branch instruction) => some (.branch (some ⟨entry, instruction⟩))
  | .stack _, .ok (.stack instruction) => some (.stack (some ⟨entry, instruction⟩))
  | .load terminal _, .ok (.load instruction) =>
    some (.load terminal (LoadUnit.accept ⟨entry, instruction⟩))
  | .store terminal _, .ok (.store instruction) =>
    some (.store terminal (some ⟨entry, instruction⟩))
  | .request terminal _, .ok (.interrupt (.request instruction)) =>
    some (.request terminal (some ⟨entry, instruction⟩))
  | _, _ => none

/-- The part with one of its cores changed, if it has that core.  A core by itself goes by any
number. -/
def modifyCore? (part : Part) (index : Nat) (change : Core → Core) : Option Part :=
  match part with
  | .core unit => some (.core (change unit))
  | .processor unit =>
    (unit.core? index).map fun _ => .processor (unit.modifyCore index change)
  | _ => none

/-- The name and first address of a device. -/
def device? : Part → Option (String × Word)
  | .ram device => some (describe device)
  | .rom device => some (describe device)
  | .display device => some (describe device)
  | .keyboard device => some (describe device)
  | .disk drive => some (describe drive)
  | _ => none

end Part

end PipelinedMachine
