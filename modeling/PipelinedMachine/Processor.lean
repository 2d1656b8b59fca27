import PipelinedMachine.Core
import PipelinedMachine.Router

/-!
# The processor

The cores of a machine together with the router that serves them and the interrupt controller.  All
cores share the interrupt lines, of which only the boot core's is ever raised.

* `Processor.wire` — builds a processor and the links inside it;
* `Processor.tickCores` — the cores' turns, which end at the first fault;
* `Processor.tick` — the cores, then the router, then the interrupt controller.
-/

namespace PipelinedMachine

/-- The cores, the router and the interrupt controller. -/
structure Processor where
  /-- The core that interrupts go to. -/
  boot : Core
  /-- The other cores, in order. -/
  others : List Core
  router : Router
  controller : InterruptController
  lines : InterruptLines

namespace Processor

/-- The cores, the boot core first. -/
def cores (processor : Processor) : List Core := processor.boot :: processor.others

/-- The core with the given number. -/
def core? (processor : Processor) (index : Nat) : Option Core := processor.cores[index]?

/-- The processor with a core changed by the host. -/
def modifyCore (processor : Processor) (index : Nat) (change : Core → Core) : Processor :=
  match index with
  | 0 => { processor with boot := change processor.boot }
  | index + 1 => { processor with others := processor.others.modify index change }

/-! ## Wiring -/

/-- Links core `id` to the router. -/
def addCore (id : Nat) (period : UInt32) (entry : Word) (router : Router) (bus : Interconnect) :
    Core × Router × Interconnect :=
  let (bus, coreEnd, routerEnd) := bus.link period Interconnect.messageCapacity
  (Core.reset id coreEnd entry, router.addCore routerEnd, bus)

/-- Links `count` more cores to the router, numbered from `id` on. -/
def addCores (id : Nat) (period : UInt32) (entry : Word) :
    Nat → Router → Interconnect → List Core × Router × Interconnect
  | 0, router, bus => ([], router, bus)
  | count + 1, router, bus =>
    let (core, router, bus) := addCore id period entry router bus
    let (cores, router, bus) := addCores (id + 1) period entry count router bus
    (core :: cores, router, bus)

/-- A processor of `count` cores, but at least one, that start at `entry`.  `devices` and `memory`
are the router's ends of the links to the device hub and to main memory; the links inside the
processor are added to `bus`. -/
def wire (bus : Interconnect) (count : Nat) (period : UInt32) (entry : Word)
    (devices memory : Terminal) : Processor × Interconnect :=
  let (bus, controllerEnd, routerEnd) := bus.link period Interconnect.messageCapacity
  let router : Router := { devices := devices, controller := routerEnd, memory := memory }
  let (boot, router, bus) := addCore 0 period entry router bus
  let (others, router, bus) := addCores 1 period entry (count - 1) router bus
  ({ boot := boot
     others := others
     router := router
     controller := InterruptController.reset controllerEnd 0
     lines := InterruptLines.quiet (max count 1) }, bus)

/-! ## Ticks -/

/-- The turns of some cores.  A fault ends them: the cores after the faulting one have no turn.  If
several cores execute a breakpoint in the same tick, the first one is reported. -/
def tickCores : List Core → Environment → List Core × Environment × CoreOutcome
  | [], env => ([], env, .ok none)
  | core :: cores, env =>
    match core.tick env with
    | (core, env, .error fault) => (core :: cores, env, .error fault)
    | (core, env, .ok breakpoint) =>
      match tickCores cores env with
      | (cores, env, .error fault) => (core :: cores, env, .error fault)
      | (cores, env, .ok later) => (core :: cores, env, .ok (breakpoint.or later))

/-- The turns of all cores, the boot core first. -/
def tickAll (boot : Core) (others : List Core) (env : Environment) :
    Core × List Core × Environment × CoreOutcome :=
  match boot.tick env with
  | (boot, env, .error fault) => (boot, others, env, .error fault)
  | (boot, env, .ok breakpoint) =>
    match tickCores others env with
    | (others, env, .error fault) => (boot, others, env, .error fault)
    | (others, env, .ok later) => (boot, others, env, .ok (breakpoint.or later))

/-- One tick.  After a fault neither the router nor the controller has its turn. -/
def tick (processor : Processor) (bus : Interconnect) (counters : Counters) :
    Processor × Interconnect × Counters × CoreOutcome :=
  match processor with
  | ⟨boot, others, router, controller, lines⟩ =>
    match tickAll boot others ⟨bus, lines, counters⟩ with
    | (boot, others, ⟨bus, lines, counters⟩, .error fault) =>
      (⟨boot, others, router, controller, lines⟩, bus, counters, .error fault)
    | (boot, others, ⟨bus, lines, counters⟩, .ok breakpoint) =>
      let (router, bus) := router.tick bus
      let (controller, lines, bus) := controller.tick lines bus
      (⟨boot, others, router, controller, lines⟩, bus, counters, .ok breakpoint)

/-- Raises an interrupt from outside, without a message. -/
def raiseInterrupt (processor : Processor) (id : Word) : Processor :=
  let (controller, lines) := processor.controller.raise id processor.lines
  { processor with controller := controller, lines := lines }

end Processor

end PipelinedMachine
