import PipelinedMachine.Bench.Part

/-!
# The bench

A bench runs components that have been wired up by hand, so that one of them, or a few, can be
watched without the rest of a machine.  A cycle of the bench is a tick of every part, in the order
in which the parts were placed, and then a tick of the links.

* `Bench.link`, `Bench.place` — lays one more link, and puts one more part on the bench;
* `Bench.tickPart` — a tick of one part alone;
* `Bench.cycle`, `Bench.run` — one cycle, and many, with the events in the order in which they
  happened.

As in the machine, a fault ends the cycle where it happens, and no word crosses a link in it.
-/

namespace PipelinedMachine

/-- Parts at numbered places, and what they share. -/
structure Bench where
  env : PartEnvironment
  /-- The ends of the links laid on the bench.  Links inside a processor are not among them. -/
  terminals : Array Terminal := #[]
  parts : Array Part := #[]

namespace Bench

/-- An empty bench whose datapath starts at the given registers, with that many quiet lines. -/
def reset (registers : RegisterFile) (lines : Nat) : Bench where
  env := ⟨⟨registers, {}, {}, Interconnect.empty⟩, InterruptLines.quiet lines⟩

/-- The links. -/
def bus (bench : Bench) : Interconnect := bench.env.path.bus

/-- The bench with its links changed. -/
def withBus (bench : Bench) (bus : Interconnect) : Bench :=
  { bench with env := bench.env.withBus bus }

/-- Lays a link, whose ends become the last two terminals. -/
def link (bench : Bench) (period : UInt32) (capacity : Nat) : Bench :=
  let (bus, left, right) := bench.bus.link period capacity
  { bench.withBus bus with terminals := (bench.terminals.push left).push right }

/-- The number of a terminal on the bench. -/
def number (bench : Bench) (terminal : Terminal) : Nat :=
  bench.terminals.toList.idxOf terminal

/-- Puts a part at the next free place. -/
def place (bench : Bench) (part : Part) : Bench :=
  { bench with parts := bench.parts.push part }

/-- Puts a processor at the next free place; its own links come after those that exist. -/
def placeProcessor (bench : Bench) (count : Nat) (period : UInt32) (entry : Word)
    (devices memory : Terminal) : Bench :=
  let (processor, bus) := Processor.wire bench.bus count period entry devices memory
  (bench.withBus bus).place (.processor processor)

/-- Replaces the part at a place that is taken. -/
def replace (bench : Bench) (place : Nat) (part : Part) : Bench :=
  { bench with parts := bench.parts.setIfInBounds place part }

/-- The fetch unit at a place. -/
def fetchAt? (parts : Array Part) (place : Nat) : Option Fetch :=
  match parts[place]? with
  | some (.fetch _ fetch) => some fetch
  | _ => none

/-! ## Cycles -/

/-- One tick of the part at a place. -/
def tickPart (bench : Bench) (place : Nat) : Bench × Option PartEvent :=
  match bench.parts[place]? with
  | none => (bench, none)
  | some part =>
    let (part, env, event?) := part.tick (fetchAt? bench.parts) bench.env
    ({ bench with env := env }.replace place part, event?)

/-- The turns of the parts at the given places, and then that of the links, unless a fault comes
first. -/
def turns (bench : Bench) : List Nat → Bench × List (Nat × PartEvent)
  | [] => (bench.withBus bench.bus.tick, [])
  | place :: places =>
    match bench.tickPart place with
    | (bench, none) => bench.turns places
    | (bench, some event) =>
      if event.isFault then (bench, [(place, event)])
      else
        let (bench, events) := bench.turns places
        (bench, (place, event) :: events)

/-- One cycle, with the events of the parts by their places. -/
def cycle (bench : Bench) : Bench × List (Nat × PartEvent) :=
  bench.turns (List.range bench.parts.size)

/-- Whether a cycle with these events has been ended by a fault. -/
def faulted (events : List (Nat × PartEvent)) : Bool :=
  events.any fun event => event.2.isFault

/-- A run with some cycles left, after `done` cycles with the given events. -/
def runOn : (cyclesLeft : Nat) → (done : Nat) → Array (Nat × Nat × PartEvent) → Bench →
    Bench × Array (Nat × Nat × PartEvent)
  | 0, _, sofar, bench => (bench, sofar)
  | cyclesLeft + 1, done, sofar, bench =>
    let (bench, events) := bench.cycle
    let sofar := sofar ++ (events.map fun event => (done, event)).toArray
    if faulted events then (bench, sofar) else runOn cyclesLeft (done + 1) sofar bench

/-- Runs for some cycles, but not beyond one that faults.  The events come with the number of their
cycle, counted from zero. -/
def run (bench : Bench) (cycles : Nat) : Bench × Array (Nat × Nat × PartEvent) :=
  runOn cycles 0 #[] bench

end Bench

end PipelinedMachine
