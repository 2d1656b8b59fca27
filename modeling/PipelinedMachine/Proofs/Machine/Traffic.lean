import Mathlib.Logic.Relation
import PipelinedMachine.Machine
import PipelinedMachine.Proofs.Core.Reads
import PipelinedMachine.Proofs.Device.Peripheral
import PipelinedMachine.Proofs.Router.Record

/-!
# The traffic inside a machine

A tick of a machine is one turn after the other: those of the cores, of the links to the router, of
the interrupt controller, of main memory, of the device hub and of the devices, and then a tick of
every link.  This file takes a tick apart into these turns, so that what holds of the machine has to
be proved for a single turn only.

* `Traffic` — what takes part in the traffic;
* `Traffic.Move` — everything that can happen to it;
* **`Machine.moves_tick`** — a tick without a fault is a sequence of moves;
* `MachineAction`, `Machine.act`, `Machine.Reachable` — ticks and the actions of the host, and the
  machines that they lead to.
-/

namespace PipelinedMachine

/-- What takes part in the traffic inside a machine. -/
structure Traffic where
  bus : Interconnect
  lines : InterruptLines
  router : Router
  /-- The cores, the boot core first. -/
  cores : List Core
  ram : Ram
  controller : InterruptController
  hub : DeviceHub
  /-- The devices behind the hub, in address order. -/
  devices : List Peripheral

namespace Traffic

/-- Everything that can happen in a machine that does not fault. -/
inductive Move (traffic : Traffic) : Traffic → Prop where
  /-- A core has its turn. -/
  | core (left right : List Core) (core later : Core) (counters : Counters) (rest : Environment)
      (breakpoint : Option Word) (place : traffic.cores = left ++ core :: right)
      (ticked : core.tick ⟨traffic.bus, traffic.lines, counters⟩ = (later, rest, .ok breakpoint)) :
      Move traffic
        { traffic with cores := left ++ later :: right, bus := rest.bus, lines := rest.lines }
  /-- The turn of the link to a core. -/
  | request (core : Terminal) (attached : core ∈ traffic.router.cores) :
      Move traffic
        { traffic with
          router := (traffic.router.request traffic.bus core).1
          bus := (traffic.router.request traffic.bus core).2 }
  /-- The turn of a link that answers come from. -/
  | reply (target : Target) :
      Move traffic
        { traffic with
          router := (traffic.router.replyFrom traffic.bus target).1
          bus := (traffic.router.replyFrom traffic.bus target).2 }
  | controller :
      Move traffic
        { traffic with
          controller := (traffic.controller.tick traffic.lines traffic.bus).1
          lines := (traffic.controller.tick traffic.lines traffic.bus).2.1
          bus := (traffic.controller.tick traffic.lines traffic.bus).2.2 }
  | ram :
      Move traffic
        { traffic with ram := (traffic.ram.tick traffic.bus).1
                       bus := (traffic.ram.tick traffic.bus).2 }
  /-- The hub passes on a request. -/
  | hubRequest : Move traffic { traffic with bus := traffic.hub.request traffic.bus }
  /-- The hub passes on what a device sends. -/
  | hubReply : Move traffic { traffic with bus := traffic.hub.reply traffic.bus }
  /-- A device behind the hub has its turn. -/
  | device (left right : List Peripheral) (device : Peripheral)
      (place : traffic.devices = left ++ device :: right) :
      Move traffic
        { traffic with
          devices := left ++ (device.tick traffic.bus).1 :: right
          bus := (device.tick traffic.bus).2 }
  /-- Every link ticks. -/
  | links : Move traffic { traffic with bus := traffic.bus.tick }
  /-- The host puts words into main memory. -/
  | load (address : Word) (words : Array Word) :
      Move traffic { traffic with ram := traffic.ram.load address words }
  /-- The host does something to a device behind the hub. -/
  | host (left right : List Peripheral) (device : Peripheral) (action : HostAction)
      (place : traffic.devices = left ++ device :: right) :
      Move traffic { traffic with devices := left ++ device.host action :: right }
  /-- The host raises an interrupt. -/
  | raise (id : Word) :
      Move traffic
        { traffic with
          controller := (traffic.controller.raise id traffic.lines).1
          lines := (traffic.controller.raise id traffic.lines).2 }

/-- One move after the other. -/
abbrev Moves : Traffic → Traffic → Prop := Relation.ReflTransGen Move

/-- A move in which neither the controller changes nor one of the first `n` cores. -/
structure Aside (n : Nat) (traffic after : Traffic) : Prop where
  move : Move traffic after
  controller : after.controller = traffic.controller
  cores : after.cores.take n = traffic.cores.take n

/-- One such move after the other. -/
abbrev Asides (n : Nat) : Traffic → Traffic → Prop := Relation.ReflTransGen (Aside n)

lemma Aside.mono {traffic after : Traffic} {m n : Nat} (aside : Aside n traffic after)
    (fewer : m ≤ n) : Aside m traffic after where
  move := aside.move
  controller := aside.controller
  cores := by
    have same := congrArg (List.take m) aside.cores
    rwa [List.take_take, List.take_take, Nat.min_eq_left fewer] at same

lemma moves_of_asides {traffic after : Traffic} {n : Nat} (asides : Asides n traffic after) :
    Moves traffic after :=
  asides.lift id fun _ _ => Aside.move

lemma controller_of_asides {traffic after : Traffic} {n : Nat} (asides : Asides n traffic after) :
    after.controller = traffic.controller := by
  induction asides with
  | refl => rfl
  | tail _ aside same => exact aside.controller.trans same

/-- The first core does not change. -/
lemma Aside.head?_eq {traffic after : Traffic} (aside : Aside 1 traffic after) :
    after.cores.head? = traffic.cores.head? := by
  have same := congrArg List.head? aside.cores
  rwa [List.head?_take, List.head?_take, if_neg Nat.one_ne_zero, if_neg Nat.one_ne_zero] at same

lemma head?_of_asides {traffic after : Traffic} (asides : Asides 1 traffic after) :
    after.cores.head? = traffic.cores.head? := by
  induction asides with
  | refl => rfl
  | tail _ aside same => exact aside.head?_eq.trans same

/-! ## The turns of the cores -/

/-- Turns without a fault are that of the first core and those of the others. -/
lemma exists_of_tickCores_cons {core : Core} {cores later : List Core} {env rest : Environment}
    {breakpoint : Option Word}
    (ticked : Processor.tickCores (core :: cores) env = (later, rest, .ok breakpoint)) :
    ∃ core' between first others second, core.tick env = (core', between, .ok first)
      ∧ Processor.tickCores cores between = (others, rest, .ok second)
      ∧ later = core' :: others := by
  simp only [Processor.tickCores] at ticked
  split at ticked
  · simp at ticked
  · next core' between first turn =>
    split at ticked
    · simp at ticked
    · next others between' second turns =>
      obtain ⟨rfl, rfl, -⟩ := by simpa only [Prod.mk.injEq] using ticked
      exact ⟨core', between, first, others, second, turn, turns, rfl⟩

lemma asides_tickCores {cores later : List Core} {counters : Counters} {rest : Environment}
    {breakpoint : Option Word} (traffic : Traffic) (left : List Core)
    (place : traffic.cores = left ++ cores)
    (ticked : Processor.tickCores cores ⟨traffic.bus, traffic.lines, counters⟩
      = (later, rest, .ok breakpoint)) :
    Asides left.length traffic
      { traffic with cores := left ++ later, bus := rest.bus, lines := rest.lines } := by
  induction cores generalizing traffic left later counters rest breakpoint with
  | nil =>
    obtain ⟨rfl, rfl, -⟩ := by simpa only [Processor.tickCores, Prod.mk.injEq] using ticked
    rw [← place]
  | cons core cores ih =>
    obtain ⟨core', between, breakpoint', cores', _, turn, turns, rfl⟩ :=
      exists_of_tickCores_cons ticked
    have first : Aside left.length traffic
        { traffic with
          cores := left ++ core' :: cores, bus := between.bus, lines := between.lines } :=
      ⟨.core left cores core core' counters between breakpoint' place turn, rfl,
        by simp [place]⟩
    have others := ih
      { traffic with
        cores := left ++ core' :: cores, bus := between.bus, lines := between.lines }
      (left ++ [core']) (by simp) turns
    rw [List.append_assoc, List.singleton_append] at others
    exact .head first (others.lift id fun _ _ aside => aside.mono (by simp))

lemma moves_tickCores {cores later : List Core} {counters : Counters} {rest : Environment}
    {breakpoint : Option Word} (traffic : Traffic) (left : List Core)
    (place : traffic.cores = left ++ cores)
    (ticked : Processor.tickCores cores ⟨traffic.bus, traffic.lines, counters⟩
      = (later, rest, .ok breakpoint)) :
    Moves traffic
      { traffic with cores := left ++ later, bus := rest.bus, lines := rest.lines } :=
  moves_of_asides (asides_tickCores traffic left place ticked)

/-- The boot core is the first of the cores. -/
lemma tickCores_of_tickAll {boot boot' : Core} {others others' : List Core}
    {env rest : Environment} {outcome : CoreOutcome}
    (ticked : Processor.tickAll boot others env = (boot', others', rest, outcome)) :
    Processor.tickCores (boot :: others) env = (boot' :: others', rest, outcome) := by
  simp only [Processor.tickAll] at ticked
  simp only [Processor.tickCores]
  generalize boot.tick env = turn at ticked ⊢
  obtain ⟨core, between, fault | first⟩ := turn
  · obtain ⟨rfl, rfl, rfl, rfl⟩ := by simpa only [Prod.mk.injEq] using ticked
    rfl
  · simp only at ticked ⊢
    generalize Processor.tickCores others between = turns at ticked ⊢
    obtain ⟨cores, after, fault | second⟩ := turns <;>
    · obtain ⟨rfl, rfl, rfl, rfl⟩ := by simpa only [Prod.mk.injEq] using ticked
      rfl

/-! ## The turns of the router -/

section Chains

variable {R : Traffic → Traffic → Prop}

/-- The turns of the links to some cores, as steps of any relation that has these. -/
lemma chain_requests
    (request : ∀ (traffic : Traffic) (core : Terminal), core ∈ traffic.router.cores →
      R traffic
        { traffic with
          router := (traffic.router.request traffic.bus core).1
          bus := (traffic.router.request traffic.bus core).2 })
    (traffic : Traffic) (cores : List Terminal)
    (attached : ∀ core ∈ cores, core ∈ traffic.router.cores) :
    Relation.ReflTransGen R traffic
      { traffic with
        router := (cores.foldl (fun state core => state.1.request state.2 core)
          (traffic.router, traffic.bus)).1
        bus := (cores.foldl (fun state core => state.1.request state.2 core)
          (traffic.router, traffic.bus)).2 } := by
  induction cores generalizing traffic with
  | nil => exact .refl
  | cons core cores ih =>
    refine .head (request traffic core (attached core (by simp))) (ih _ fun other member => ?_)
    simp only [Router.cores_request]
    exact attached other (by simp [member])

/-- The router's turns, as steps of any relation that has these. -/
lemma chain_router
    (request : ∀ (traffic : Traffic) (core : Terminal), core ∈ traffic.router.cores →
      R traffic
        { traffic with
          router := (traffic.router.request traffic.bus core).1
          bus := (traffic.router.request traffic.bus core).2 })
    (reply : ∀ (traffic : Traffic) (target : Target),
      R traffic
        { traffic with
          router := (traffic.router.replyFrom traffic.bus target).1
          bus := (traffic.router.replyFrom traffic.bus target).2 })
    (traffic : Traffic) :
    Relation.ReflTransGen R traffic
      { traffic with
        router := (traffic.router.tick traffic.bus).1
        bus := (traffic.router.tick traffic.bus).2 } := by
  have requests := chain_requests request traffic traffic.router.cores fun _ => id
  have memory := requests.tail (reply _ .memory)
  have devices := memory.tail (reply _ .devices)
  exact devices.tail (reply _ .controller)

end Chains

lemma asides_router (traffic : Traffic) (n : Nat) :
    Asides n traffic
      { traffic with
        router := (traffic.router.tick traffic.bus).1
        bus := (traffic.router.tick traffic.bus).2 } :=
  chain_router (fun _ core attached => ⟨.request core attached, rfl, rfl⟩)
    (fun _ target => ⟨.reply target, rfl, rfl⟩) traffic

/-- The controller has had its turn. -/
def controlled (traffic : Traffic) : Traffic :=
  { traffic with
    controller := (traffic.controller.tick traffic.lines traffic.bus).1
    lines := (traffic.controller.tick traffic.lines traffic.bus).2.1
    bus := (traffic.controller.tick traffic.lines traffic.bus).2.2 }

end Traffic

/-! ## Machines -/

namespace Machine

open Traffic

/-- The traffic inside a machine. -/
def traffic (machine : Machine) : Traffic where
  bus := machine.bus
  lines := machine.processor.lines
  router := machine.processor.router
  cores := machine.processor.cores
  ram := machine.ram
  controller := machine.processor.controller
  hub := machine.hub
  devices := [.rom machine.rom, .display machine.display, .keyboard machine.keyboard,
    .disk machine.disk]

/-- The turns of memory, the hub and the devices, as steps of any relation that has these.  The
disk drive's turn is set apart. -/
lemma chain_tickDevices {R : Traffic → Traffic → Prop}
    (ram : ∀ traffic : Traffic, R traffic
      { traffic with ram := (traffic.ram.tick traffic.bus).1
                     bus := (traffic.ram.tick traffic.bus).2 })
    (hubRequest : ∀ traffic : Traffic, R traffic
      { traffic with bus := traffic.hub.request traffic.bus })
    (hubReply : ∀ traffic : Traffic, R traffic
      { traffic with bus := traffic.hub.reply traffic.bus })
    (device : ∀ (traffic : Traffic) (left right : List Peripheral) (device : Peripheral),
      traffic.devices = left ++ device :: right →
        R traffic
          { traffic with
            devices := left ++ (device.tick traffic.bus).1 :: right
            bus := (device.tick traffic.bus).2 })
    (links : ∀ traffic : Traffic, R traffic { traffic with bus := traffic.bus.tick })
    (machine : Machine) :
    ∃ (before : Traffic) (left : List Peripheral),
      before.devices = left ++ [.disk machine.disk]
        ∧ Relation.ReflTransGen R machine.traffic before
        ∧ machine.tickDevices.disk = (machine.disk.tick before.bus).1
        ∧ Relation.ReflTransGen R
            { before with
              devices := left ++ [((Peripheral.disk machine.disk).tick before.bus).1]
              bus := ((Peripheral.disk machine.disk).tick before.bus).2 }
            machine.tickDevices.traffic := by
  obtain ⟨config, bus, ⟨boot, others, router, controller, lines⟩, main, hub, rom, display, disk,
    keyboard, counters, fault?, ticks⟩ := machine
  simp only [tickDevices, DeviceHub.tick, traffic]
  -- the state after each turn gets a name, so that the next one is small
  have first := ram ⟨bus, lines, router, boot :: others, main, controller, hub,
    [.rom rom, .display display, .keyboard keyboard, .disk disk]⟩
  generalize main.tick bus = turn at first ⊢
  obtain ⟨main, bus⟩ := turn
  have second := hubRequest ⟨bus, lines, router, boot :: others, main, controller, hub,
    [.rom rom, .display display, .keyboard keyboard, .disk disk]⟩
  generalize hub.request bus = bus at second ⊢
  have third := hubReply ⟨bus, lines, router, boot :: others, main, controller, hub,
    [.rom rom, .display display, .keyboard keyboard, .disk disk]⟩
  generalize hub.reply bus = bus at third ⊢
  have fourth := device ⟨bus, lines, router, boot :: others, main, controller, hub,
    [.rom rom, .display display, .keyboard keyboard, .disk disk]⟩ [] _ (.rom rom) rfl
  simp only [Peripheral.tick] at fourth
  generalize rom.tick bus = turn at fourth ⊢
  obtain ⟨rom, bus⟩ := turn
  have fifth := device ⟨bus, lines, router, boot :: others, main, controller, hub,
    [.rom rom, .display display, .keyboard keyboard, .disk disk]⟩ [_] _ (.display display) rfl
  simp only [Peripheral.tick] at fifth
  generalize display.tick bus = turn at fifth ⊢
  obtain ⟨display, bus⟩ := turn
  refine ⟨⟨bus, lines, router, boot :: others, main, controller, hub,
    [.rom rom, .display display, .keyboard keyboard, .disk disk]⟩, [_, _, _], rfl,
    ((((Relation.ReflTransGen.single first).tail second).tail third).tail fourth).tail fifth, rfl,
    ?_⟩
  simp only [Peripheral.tick]
  generalize disk.tick bus = turn
  obtain ⟨disk, bus⟩ := turn
  have sixth := device ⟨bus, lines, router, boot :: others, main, controller, hub,
    [.rom rom, .display display, .keyboard keyboard, .disk disk]⟩ [_, _] _ (.keyboard keyboard) rfl
  exact (Relation.ReflTransGen.single sixth).tail (links _)

lemma asides_tickDevices (machine : Machine) (n : Nat) :
    Asides n machine.traffic machine.tickDevices.traffic := by
  obtain ⟨before, left, place, first, -, rest⟩ := chain_tickDevices (R := Aside n)
    (fun _ => ⟨.ram, rfl, rfl⟩) (fun _ => ⟨.hubRequest, rfl, rfl⟩)
    (fun _ => ⟨.hubReply, rfl, rfl⟩)
    (fun _ left right device place => ⟨.device left right device place, rfl, rfl⟩)
    (fun _ => ⟨.links, rfl, rfl⟩) machine
  exact (first.tail ⟨.device left [] _ place, rfl, rfl⟩).trans rest

lemma lines_tickDevices (machine : Machine) :
    machine.tickDevices.processor.lines = machine.processor.lines := rfl

/-- What the cores of a machine share at the beginning of a tick. -/
def environment (machine : Machine) : Environment :=
  ⟨machine.bus, machine.processor.lines, machine.counters⟩

/-- The traffic once the boot core has had its turn. -/
def booted (machine : Machine) : Traffic :=
  let (boot, rest, _) := machine.processor.boot.tick machine.environment
  { machine.traffic with
    cores := boot :: machine.processor.others, bus := rest.bus, lines := rest.lines }

/-- The traffic once the cores and the router have had their turns. -/
def routed (machine : Machine) : Traffic :=
  let (boot, others, rest, _) :=
    Processor.tickAll machine.processor.boot machine.processor.others machine.environment
  let (router, bus) := machine.processor.router.tick rest.bus
  { machine.traffic with
    cores := boot :: others, router := router, bus := bus, lines := rest.lines }

/-- The turns of a tick without a fault. -/
structure Turns (machine later : Machine) : Prop where
  /-- The boot core comes first. -/
  boot : ∃ rest breakpoint,
    machine.processor.boot.tick machine.environment = (later.processor.boot, rest, .ok breakpoint)
  routed : Asides 1 machine.booted machine.routed
  controlled : Asides 1 machine.routed.controlled later.traffic
  lines : later.processor.lines = machine.routed.controlled.lines

/-- A tick without a fault is one turn after the other. -/
theorem turns_tick {machine : Machine} {outcome : TickOutcome}
    (live : machine.tick.2 = .ok outcome) : machine.Turns machine.tick.1 := by
  obtain ⟨config, bus, ⟨boot, others, router, controller, lines⟩, ram, hub, rom, display, disk,
    keyboard, counters, fault?, ticks⟩ := machine
  cases fault? with
  | some fault => simp [tick] at live
  | none =>
    simp only [tick, Processor.tick] at live ⊢
    generalize cores : Processor.tickAll boot others ⟨bus, lines, counters⟩ = result at live ⊢
    obtain ⟨boot', others', ⟨bus', lines', counters'⟩, fault | breakpoint⟩ := result
    · simp at live
    · obtain ⟨first, between, _, second, _, turn, turns, same⟩ :=
        Traffic.exists_of_tickCores_cons (tickCores_of_tickAll cores)
      obtain ⟨rfl, rfl⟩ := List.cons.inj same.symm
      let devices : List Peripheral := [.rom rom, .display display, .keyboard keyboard,
        .disk disk]
      have others := asides_tickCores
        ⟨between.bus, between.lines, router, first :: others, ram, controller, hub, devices⟩
        [first] rfl turns
      have router := asides_router
        ⟨bus', lines', router, first :: second, ram, controller, hub, devices⟩ 1
      refine ⟨⟨_, _, turn⟩, ?_, ?_, ?_⟩
      · simp only [booted, environment, turn, routed, cores]
        exact others.trans router
      · simp only [routed, environment, cores]
        generalize machine_eq : (⟨config, _, _, ram, hub, rom, display, disk, keyboard,
          counters', none, ticks⟩ : Machine) = machine
        have devices := asides_tickDevices machine 1
        subst machine_eq
        exact devices
      · simp only [routed, environment, cores]
        rw [lines_tickDevices]
        rfl

/-- A tick without a fault is a sequence of moves. -/
theorem moves_tick {machine : Machine} {outcome : TickOutcome}
    (live : machine.tick.2 = .ok outcome) : Moves machine.traffic machine.tick.1.traffic := by
  obtain ⟨⟨rest, breakpoint, turn⟩, routed, controlled, -⟩ := turns_tick live
  have boot : Move machine.traffic machine.booted := by
    simp only [booted, turn]
    exact .core [] _ _ _ _ _ breakpoint rfl turn
  have before := (moves_of_asides routed).head boot
  exact (before.tail .controller).trans (moves_of_asides controlled)

end Machine

/-! ## Runs -/

/-- What happens to a machine: it ticks, or its host does something. -/
inductive MachineAction where
  | tick
  | load (address : Word) (words : Array Word)
  | press (code : Word)
  | raiseInterrupt (id : Word)
deriving DecidableEq, Repr

namespace Machine

open Traffic

/-- The machine after an action. -/
def act (machine : Machine) : MachineAction → Machine
  | .tick => machine.tick.1
  | .load address words => machine.load address words
  | .press code => machine.press code
  | .raiseInterrupt id => machine.raiseInterrupt id

/-- The action does not end in a fault. -/
def Survives (machine : Machine) (action : MachineAction) : Prop :=
  action = .tick → ∃ outcome, machine.tick.2 = .ok outcome

/-- The machines that ticks without a fault and actions of the host lead to. -/
inductive Reachable : Machine → Prop where
  | wire (config : MachineConfig) (image : DiskImage) : Reachable (wire config image)
  | act {machine : Machine} (before : Reachable machine) (action : MachineAction)
      (survives : machine.Survives action) : Reachable (machine.act action)

lemma moves_act {machine : Machine} {action : MachineAction} (survives : machine.Survives action) :
    Moves machine.traffic (machine.act action).traffic := by
  cases action with
  | tick =>
    obtain ⟨outcome, live⟩ := survives rfl
    exact moves_tick live
  | load address words => exact .single (.load address words)
  | press code => exact .single (.host [_, _] _ (.keyboard machine.keyboard) (.press code) rfl)
  | raiseInterrupt id => exact .single (.raise id)

/-- A run that does not end in a fault leads to machines that can be reached. -/
lemma Reachable.runOn {machine : Machine} (before : machine.Reachable) {boundary : RunBoundary}
    {ticksLeft : Nat} {sofar outcome : RunOutcome}
    (live : (Machine.runOn boundary ticksLeft sofar machine).2 = .ok outcome) :
    (Machine.runOn boundary ticksLeft sofar machine).1.Reachable := by
  induction ticksLeft generalizing machine sofar with
  | zero => exact before
  | succ ticksLeft ih =>
    have first (survives : ∃ outcome, machine.tick.2 = .ok outcome) : machine.tick.1.Reachable :=
      before.act .tick fun _ => survives
    rw [Machine.runOn] at live ⊢
    split at live
    · contradiction
    · next later outcome' ticked =>
      rw [ticked] at first
      have reached := first ⟨outcome', rfl⟩
      simp only at live ⊢
      split at live
      · next stops =>
        rw [if_pos stops]
        exact reached
      · next goes =>
        rw [if_neg goes]
        exact ih reached live

lemma Reachable.run {machine : Machine} (before : machine.Reachable) {limit : Nat}
    {boundary : RunBoundary} {outcome : RunOutcome}
    (live : (machine.run limit boundary).2 = .ok outcome) :
    (machine.run limit boundary).1.Reachable :=
  before.runOn live

/-- Nothing that happens to a machine changes its configuration. -/
lemma config_act (machine : Machine) (action : MachineAction) :
    (machine.act action).config = machine.config := by
  cases action with
  | load | press | raiseInterrupt => rfl
  | tick =>
    obtain ⟨config, bus, processor, ram, hub, rom, display, disk, keyboard, counters, fault?,
      ticks⟩ := machine
    cases fault? with
    | some fault => rfl
    | none =>
      simp only [act, tick]
      split <;> rfl

end Machine

end PipelinedMachine
