import PipelinedMachine.Proofs.Machine.ReadAhead
import PipelinedMachine.Proofs.Machine.Routing

/-!
# The turns behind the cores

Once the cores have had their turns, a tick goes on with those of the router, the interrupt
controller, main memory, the hub and the devices, and ends with that of the links.  Each of them
changes one component and the links, and this file names that component, so that everything else can
be seen to stay as it is.

* `Machine.Relay` — one such turn, with the component whose turn it is;
* `Machine.Around` — a turn of anything but a given component;
* `Machine.cored` — the machine once its cores have had their turns;
* **`Machine.exists_relays_tick`** — a tick without a fault is the cores' turns and then relays, of
  which main memory's is one;
* `Machine.Relay.falls` — a relay is a move of the traffic.
-/

namespace PipelinedMachine

open Interconnect

namespace Machine

/-! ## One turn -/

/-- One turn of a tick after those of the cores.  It is that of the named component, or of the
router, the hub or the links, which are no components. -/
inductive Relay (machine : Machine) : Option Component → Machine → Prop where
  | request (core : Terminal) (attached : core ∈ machine.processor.router.cores) :
      Relay machine none
        { machine with
          bus := (machine.processor.router.request machine.bus core).2
          processor := { machine.processor with
            router := (machine.processor.router.request machine.bus core).1 } }
  | reply (target : Target) :
      Relay machine none
        { machine with
          bus := (machine.processor.router.replyFrom machine.bus target).2
          processor := { machine.processor with
            router := (machine.processor.router.replyFrom machine.bus target).1 } }
  | hubRequest : Relay machine none { machine with bus := machine.hub.request machine.bus }
  | hubReply : Relay machine none { machine with bus := machine.hub.reply machine.bus }
  /-- The tick ends with the turn of the links, and counts. -/
  | links : Relay machine none { machine with bus := machine.bus.tick, ticks := machine.ticks + 1 }
  | controller :
      Relay machine (some .controller)
        { machine with
          bus := (machine.processor.controller.tick machine.processor.lines machine.bus).2.2
          processor := { machine.processor with
            controller :=
              (machine.processor.controller.tick machine.processor.lines machine.bus).1
            lines :=
              (machine.processor.controller.tick machine.processor.lines machine.bus).2.1 } }
  | ram :
      Relay machine (some .ram)
        { machine with bus := (machine.ram.tick machine.bus).2
                       ram := (machine.ram.tick machine.bus).1 }
  | rom :
      Relay machine (some .rom)
        { machine with bus := (machine.rom.tick machine.bus).2
                       rom := (machine.rom.tick machine.bus).1 }
  | display :
      Relay machine (some .display)
        { machine with bus := (machine.display.tick machine.bus).2
                       display := (machine.display.tick machine.bus).1 }
  | keyboard :
      Relay machine (some .keyboard)
        { machine with bus := (machine.keyboard.tick machine.bus).2
                       keyboard := (machine.keyboard.tick machine.bus).1 }
  | disk :
      Relay machine (some .disk)
        { machine with bus := (machine.disk.tick machine.bus).2
                       disk := (machine.disk.tick machine.bus).1 }

/-- One such turn, of anything but the given component. -/
def Around (component : Component) (machine later : Machine) : Prop :=
  ∃ actor, actor ≠ some component ∧ Relay machine actor later

/-- One such turn after the other. -/
abbrev Relays : Machine → Machine → Prop :=
  Relation.ReflTransGen fun machine later => ∃ actor, Relay machine actor later

variable {machine later : Machine} {actor : Option Component} {component : Component}

lemma relays_of_around (around : Relation.ReflTransGen (Around component) machine later) :
    Relays machine later :=
  around.lift id fun _ _ ⟨actor, _, relay⟩ => ⟨actor, relay⟩

/-- A turn behind the cores is a move of the traffic. -/
lemma Relay.falls (relay : Relay machine actor later) :
    Traffic.Falls machine.traffic later.traffic := by
  cases relay with
  | request core attached => exact .request attached
  | reply target => exact .reply _ target
  | hubRequest => exact .hubRequest _
  | hubReply => exact .hubReply _
  | links => exact .links _
  | controller => exact .controller _
  | ram => exact .ram _
  | rom => exact .device (show machine.traffic.devices = [] ++ .rom _ :: _ from rfl)
  | display => exact .device (show machine.traffic.devices = [_] ++ .display _ :: _ from rfl)
  | keyboard => exact .device (show machine.traffic.devices = [_, _] ++ .keyboard _ :: _ from rfl)
  | disk => exact .device (show machine.traffic.devices = [_, _, _] ++ .disk _ :: _ from rfl)

/-- The cores have had their turns already. -/
lemma Relay.cores (relay : Relay machine actor later) :
    later.processor.boot = machine.processor.boot
      ∧ later.processor.others = machine.processor.others
      ∧ later.counters = machine.counters ∧ later.fault? = machine.fault? := by
  cases relay <;> exact ⟨rfl, rfl, rfl, rfl⟩

/-! ## A tick -/

/-- The machine once its cores have had their turns. -/
def cored (machine : Machine) : Machine :=
  let (boot, others, rest, _) :=
    Processor.tickAll machine.processor.boot machine.processor.others machine.environment
  { machine with
    bus := rest.bus
    counters := rest.counters
    processor := { machine.processor with boot := boot, others := others, lines := rest.lines } }

lemma around_requests (machine : Machine) (cores : List Terminal)
    (attached : ∀ core ∈ cores, core ∈ machine.processor.router.cores)
    (component : Component) :
    Relation.ReflTransGen (Around component) machine
      { machine with
        bus := (cores.foldl (fun state core => state.1.request state.2 core)
          (machine.processor.router, machine.bus)).2
        processor := { machine.processor with
          router := (cores.foldl (fun state core => state.1.request state.2 core)
            (machine.processor.router, machine.bus)).1 } } := by
  induction cores generalizing machine with
  | nil => exact .refl
  | cons core cores ih =>
    have first : Around component machine _ :=
      ⟨none, by simp, .request core (attached core (by simp))⟩
    refine .head first (ih _ fun other member => ?_)
    simp only [Router.cores_request]
    exact attached other (by simp [member])

/-- The router's turns. -/
lemma around_router (machine : Machine) (component : Component) :
    Relation.ReflTransGen (Around component) machine
      { machine with
        bus := (machine.processor.router.tick machine.bus).2
        processor := { machine.processor with
          router := (machine.processor.router.tick machine.bus).1 } } := by
  have reply (machine : Machine) (target : Target) : Around component machine _ :=
    ⟨none, by simp, .reply target⟩
  have requests := around_requests machine machine.processor.router.cores (fun _ => id) component
  have memory := requests.tail (reply _ .memory)
  have devices := memory.tail (reply _ .devices)
  exact devices.tail (reply _ .controller)

/-- The turns of the hub and the devices, after that of main memory. -/
lemma around_devices (machine : Machine) :
    Relation.ReflTransGen (Around .ram)
      { machine with bus := (machine.ram.tick machine.bus).2
                     ram := (machine.ram.tick machine.bus).1 }
      machine.tickDevices := by
  have turn {machine later : Machine} {actor : Option Component} (relay : Relay machine actor later)
      (away : actor ≠ some .ram := by simp) : Around .ram machine later := ⟨actor, away, relay⟩
  exact .head (turn .hubRequest) <| .head (turn .hubReply) <| .head (turn .rom) <|
    .head (turn .display) <| .head (turn .disk) <| .head (turn .keyboard) <|
    .head (turn .links) .refl

/-- A tick without a fault is the cores' turns, the turns up to main memory's, main memory's and the
rest. -/
theorem exists_relays_tick {outcome : TickOutcome} (live : machine.tick.2 = .ok outcome) :
    ∃ before, Relation.ReflTransGen (Around .ram) machine.cored before
      ∧ before.bus = machine.beforeRam ∧ before.ram = machine.ram
      ∧ Relation.ReflTransGen (Around .ram)
          { before with bus := (before.ram.tick before.bus).2
                        ram := (before.ram.tick before.bus).1 } machine.tick.1 := by
  obtain ⟨config, bus, ⟨boot, others, router, controller, lines⟩, ram, hub, rom, display, disk,
    keyboard, counters, fault?, ticks⟩ := machine
  cases fault? with
  | some fault => simp [tick] at live
  | none =>
    simp only [tick, Processor.tick, beforeRam] at live ⊢
    simp only [cored, environment]
    generalize Processor.tickAll boot others ⟨bus, lines, counters⟩ = result at live ⊢
    obtain ⟨boot', others', ⟨bus', lines', counters'⟩, fault | breakpoint⟩ := result
    · simp at live
    · simp only at live ⊢
      let machine : Machine := ⟨config, bus', ⟨boot', others', router, controller, lines'⟩, ram, hub,
        rom, display, disk, keyboard, counters', none, ticks⟩
      have routed := around_router machine .ram
      have controlled := routed.tail ⟨some .controller, by simp, .controller⟩
      exact ⟨_, controlled, rfl, rfl, around_devices _⟩

/-- With a single core its turn is that of the boot core. -/
lemma cored_of_alone (alone : machine.processor.others = []) :
    machine.cored =
      { machine with
        bus := (machine.processor.boot.tick machine.environment).2.1.bus
        counters := (machine.processor.boot.tick machine.environment).2.1.counters
        processor := { machine.processor with
          boot := (machine.processor.boot.tick machine.environment).1
          lines := (machine.processor.boot.tick machine.environment).2.1.lines } } := by
  rw [cored, alone, Processor.tickAll]
  generalize machine.processor.boot.tick machine.environment = turn
  obtain ⟨boot, rest, fault | breakpoint⟩ := turn <;> simp [Processor.tickCores, ← alone]

end Machine

end PipelinedMachine
