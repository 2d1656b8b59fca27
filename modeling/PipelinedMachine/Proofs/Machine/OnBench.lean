import PipelinedMachine.Bench
import PipelinedMachine.Proofs.Machine.Breakpoints
import PipelinedMachine.Proofs.Machine.Stopping

/-!
# A machine on a bench

The components of a machine, put on a bench one by one, do there what they do in the machine.  So
what has been seen of a few of them on a bench holds of them in a machine, and a bench shows more:
it makes known every breakpoint of a cycle, where the outcome of a tick has room for the first one
only.

* `Part.Apart`, `Part.turns`, **`Bench.cycle_of_apart`** — parts that look at no other part, and a
  cycle of a bench that has no others;
* `Machine.onBench`, `Machine.events` — the components of a machine on a bench, and what its cores
  make known in a tick;
* **`Machine.cycle_onBench`**, **`Machine.run_onBench`** — a cycle of that bench is a tick of the
  machine, and a run of it a run of the machine;
* `Machine.breakpoints_events`, `Machine.faulted_mem_events_iff` — every breakpoint is made known,
  and the fault that the machine gives;
* `Bench.laidOut`, **`Bench.run_laidOut`** — the same for a machine that is linked and placed on the
  bench by hand.
-/

namespace PipelinedMachine

/-! ## Parts that look at no other part -/

namespace Part

/-- The part's tick depends on no other part. -/
def Apart (part : Part) : Prop :=
  ∀ fetchAt? env, part.tick fetchAt? env = part.tick (fun _ => none) env

/-- The turns of some parts one after the other, with their events by their places.  A fault ends
them. -/
def turns (place : Nat) : List Part → PartEnvironment →
    List Part × PartEnvironment × List (Nat × PartEvent)
  | [], env => ([], env, [])
  | part :: parts, env =>
    match part.tick (fun _ => none) env with
    | (part, env, none) =>
      let (parts, env, events) := turns (place + 1) parts env
      (part :: parts, env, events)
    | (part, env, some event) =>
      if event.isFault then (part :: parts, env, [(place, event)])
      else
        let (parts, env, events) := turns (place + 1) parts env
        (part :: parts, env, (place, event) :: events)

end Part

namespace Bench

variable {bench : Bench}

@[simp] lemma faulted_nil : faulted [] = false := rfl

@[simp] lemma faulted_cons (place : Nat) (event : PartEvent) (events : List (Nat × PartEvent)) :
    faulted ((place, event) :: events) = (event.isFault || faulted events) := rfl

/-- How a cycle ends when the parts behind `before` have had their turns: with that of the links,
unless one of the turns was a fault. -/
def finish (bench : Bench) (before : List Part) :
    List Part × PartEnvironment × List (Nat × PartEvent) → Bench × List (Nat × PartEvent)
  | (parts, env, events) =>
    let later : Bench := { bench with env := env, parts := (before ++ parts).toArray }
    (if faulted events then later else later.withBus later.bus.tick, events)

/-- The tick of a part that looks at no other part, among those before it and behind it. -/
lemma tickPart_of_apart {before after : List Part} {part : Part} (apart : part.Apart)
    (laid : bench.parts = (before ++ part :: after).toArray) :
    bench.tickPart before.length
      = ({ bench with
            env := (part.tick (fun _ => none) bench.env).2.1
            parts := (before ++ (part.tick (fun _ => none) bench.env).1 :: after).toArray },
          (part.tick (fun _ => none) bench.env).2.2) := by
  have here : bench.parts[before.length]? = some part := by simp [laid]
  have set (later : Part) : bench.parts.setIfInBounds before.length later
      = (before ++ later :: after).toArray := by simp [laid]
  rw [tickPart, here]
  simp only [apart (fetchAt? bench.parts), replace, set]

/-- The turns of parts that look at no other part, from a place on. -/
lemma turns_of_apart (bench : Bench) (before : List Part) {parts : List Part}
    (apart : ∀ part ∈ parts, part.Apart) (laid : bench.parts = (before ++ parts).toArray) :
    bench.turns (List.range' before.length parts.length)
      = bench.finish before (Part.turns before.length parts bench.env) := by
  induction parts generalizing bench before with
  | nil =>
    rw [Part.turns, finish, ← laid]
    rfl
  | cons part parts ih =>
    obtain ⟨own, others⟩ := List.forall_mem_cons.mp apart
    have turn := tickPart_of_apart own laid
    have rest (later : Part) (env : PartEnvironment) :
        Bench.turns { bench with env := env, parts := (before ++ later :: parts).toArray }
            (List.range' (before.length + 1) parts.length)
          = bench.finish (before ++ [later]) (Part.turns (before.length + 1) parts env) := by
      have turns := ih { bench with env := env, parts := (before ++ later :: parts).toArray }
        (before ++ [later]) others (by rw [List.append_assoc]; rfl)
      rwa [List.length_append, List.length_singleton] at turns
    rw [List.length_cons, List.range'_succ, turns, turn, Part.turns]
    generalize part.tick (fun _ => none) bench.env = ticked
    obtain ⟨later, env, event?⟩ := ticked
    cases event? with
    | none =>
      simp only [rest]
      simp only [finish, List.append_assoc, List.singleton_append]
    | some event =>
      simp only [rest]
      cases fault : event.isFault with
      | true => simp [finish, fault]
      | false => simp [finish, fault]

/-- **A cycle of parts that look at no other part**: their turns in order, and then that of the
links unless a fault comes first. -/
theorem cycle_of_apart (apart : ∀ part ∈ bench.parts.toList, part.Apart) :
    bench.cycle = bench.finish [] (Part.turns 0 bench.parts.toList bench.env) := by
  rw [cycle, List.range_eq_range', ← Array.length_toList]
  exact turns_of_apart bench [] apart rfl

end Bench

/-! ## The cores -/

/-- The address of the breakpoint that an event makes known. -/
def PartEvent.breakpoint? : PartEvent → Option Word
  | breakpoint address => some address
  | dispatched _ | delegated _ | faulted _ => none

/-- What the parts share once cores have had their turns. -/
def PartEnvironment.share (env : PartEnvironment) (shared : Environment) : PartEnvironment :=
  ⟨{ env.path with bus := shared.bus, counters := shared.counters }, shared.lines⟩

/-- What the parts share, as far as cores have a share in it. -/
def PartEnvironment.shared (env : PartEnvironment) : Environment :=
  ⟨env.path.bus, env.lines, env.path.counters⟩

@[simp] lemma PartEnvironment.shared_share (env : PartEnvironment) (shared : Environment) :
    (env.share shared).shared = shared := rfl

@[simp] lemma PartEnvironment.share_share (env : PartEnvironment) (first second : Environment) :
    (env.share first).share second = env.share second := rfl

namespace Processor

/-- What the cores from a number on make known in their turns. -/
def events (number : Nat) (cores : List Core) (env : Environment) : List (Nat × PartEvent) :=
  ((turns cores env).zipIdx number).filterMap fun turn =>
    (PartEvent.ofOutcome? (turn.1.1.tick turn.1.2).2.2).map fun event => (turn.2, event)

lemma events_cons (number : Nat) (core : Core) (cores : List Core) (env : Environment) :
    events number (core :: cores) env
      = match core.tick env with
        | (_, _, .error fault) => [(number, .faulted fault)]
        | (_, rest, .ok address?) =>
          (address?.map fun address => (number, PartEvent.breakpoint address)).toList
            ++ events (number + 1) cores rest := by
  simp only [events, turns, List.zipIdx_cons, List.filterMap_cons]
  generalize core.tick env = turn
  obtain ⟨later, rest, fault | address?⟩ := turn
  · rfl
  · cases address? <;> rfl

/-- The turns of cores on a bench are those in a processor.  The parts behind them have no turn in a
cycle in which a core faults. -/
lemma turns_cores (cores : List Core) (number : Nat) (rest : List Part) (env : PartEnvironment) :
    Part.turns number (cores.map Part.core ++ rest) env
      = match tickCores cores env.shared with
        | (later, shared, .error _) =>
          (later.map Part.core ++ rest, env.share shared, events number cores env.shared)
        | (later, shared, .ok _) =>
          let (parts, env', more) := Part.turns (number + cores.length) rest (env.share shared)
          (later.map Part.core ++ parts, env', events number cores env.shared ++ more) := by
  induction cores generalizing number env with
  | nil => rfl
  | cons core cores ih =>
    have turn : (Part.core core).tick (fun _ => none) env
        = (.core (core.tick env.shared).1, env.share (core.tick env.shared).2.1,
          PartEvent.ofOutcome? (core.tick env.shared).2.2) := rfl
    rw [List.map_cons, List.cons_append, Part.turns, turn, tickCores, events_cons]
    generalize core.tick env.shared = ticked
    obtain ⟨later, shared, fault | address?⟩ := ticked
    · rfl
    · have next := ih (number + 1) (env.share shared)
      have place : number + 1 + cores.length = number + (cores.length + 1) := by omega
      rw [PartEnvironment.shared_share, place] at next
      simp only [PartEnvironment.share_share] at next
      simp only [List.length_cons]
      generalize tickCores cores shared = turns at next ⊢
      obtain ⟨cores', after, fault | second⟩ := turns <;>
      cases address? <;> simp [next, PartEvent.ofOutcome?, PartEvent.isFault]

/-- A fault is made known, and nothing else is taken for one. -/
lemma faulted_events (cores : List Core) (number : Nat) (env : Environment) :
    Bench.faulted (events number cores env) = !(tickCores cores env).2.2.isOk := by
  induction cores generalizing number env with
  | nil => rfl
  | cons core cores ih =>
    rw [events_cons, tickCores]
    generalize core.tick env = ticked
    obtain ⟨later, rest, fault | address?⟩ := ticked
    · rfl
    · have next := ih (number + 1) rest
      simp only
      generalize tickCores cores rest = turns at next ⊢
      obtain ⟨cores', after, fault | second⟩ := turns
      · cases address? <;> simpa [PartEvent.isFault, Except.isOk, Except.toBool] using next
      · cases address? <;> simpa [PartEvent.isFault, Except.isOk, Except.toBool] using next

/-- Every breakpoint is made known. -/
lemma breakpoints_events (cores : List Core) (number : Nat) (env : Environment) :
    (events number cores env).filterMap (fun event => event.2.breakpoint?) = breaks cores env := by
  induction cores generalizing number env with
  | nil => rfl
  | cons core cores ih =>
    have own := core.outcome_tick env
    rw [events_cons, breaks]
    generalize core.tick env = ticked at own ⊢
    obtain ⟨later, rest, fault | address?⟩ := ticked
    · rw [own.2 fault rfl]
      rfl
    · rw [← own.1 address? rfl]
      simp only [List.filterMap_append, ih]
      cases address? <;> rfl

/-- So is the fault that ends the turns. -/
lemma faulted_mem_events_iff (cores : List Core) (number : Nat) (env : Environment)
    {fault : Fault} : (∃ place, (place, PartEvent.faulted fault) ∈ events number cores env)
      ↔ (tickCores cores env).2.2 = .error fault := by
  induction cores generalizing number env with
  | nil => simp [events, turns, tickCores]
  | cons core cores ih =>
    rw [events_cons, tickCores]
    generalize core.tick env = ticked
    obtain ⟨later, rest, other | address?⟩ := ticked
    · simp [eq_comm]
    · have next := ih (number + 1) rest
      simp only
      generalize tickCores cores rest = turns at next ⊢
      obtain ⟨cores', after, other | second⟩ := turns <;> cases address? <;> simpa using next

end Processor

namespace Machine

variable {machine : Machine} {bench : Bench}

/-- The components behind the cores, in the order of their turns. -/
def behindCores (machine : Machine) : List Part :=
  [.router machine.processor.router, .controller machine.processor.controller, .ram machine.ram,
    .hub machine.hub, .rom machine.rom, .display machine.display, .disk machine.disk,
    .keyboard machine.keyboard]

/-- The components of the machine on a bench, in the order of their turns.  The bench's own
registers and stages are of no use to them. -/
def onBench (machine : Machine) (bench : Bench) : Bench :=
  { bench with
    env := ⟨{ bench.env.path with bus := machine.bus, counters := machine.counters },
      machine.processor.lines⟩
    parts := (machine.processor.cores.map Part.core ++ machine.behindCores).toArray }

/-- What the cores make known in the next tick, by their numbers. -/
def events (machine : Machine) : List (Nat × PartEvent) :=
  match machine.fault? with
  | some _ => []
  | none => Processor.events 0 machine.processor.cores machine.environment

lemma apart_parts (machine : Machine) :
    ∀ part ∈ machine.processor.cores.map Part.core ++ machine.behindCores, part.Apart := by
  simp only [List.mem_append, List.mem_map, behindCores, List.mem_cons, List.not_mem_nil, or_false]
  rintro part (⟨core, -, rfl⟩ | rfl | rfl | rfl | rfl | rfl | rfl | rfl | rfl) <;>
    exact fun _ _ => rfl

/-- Behind the cores nothing is made known. -/
lemma events_behindCores (machine : Machine) (number : Nat) (env : PartEnvironment) :
    (Part.turns number machine.behindCores env).2.2 = [] := rfl

/-- **A cycle of the bench is a tick of the machine**, also one that faults. -/
theorem cycle_onBench (running : machine.fault? = none) :
    (machine.onBench bench).cycle = (machine.tick.1.onBench bench, machine.events) := by
  rw [Bench.cycle_of_apart machine.apart_parts]
  change Bench.finish _ [] (Part.turns 0 (machine.processor.cores.map Part.core
    ++ machine.behindCores) (machine.onBench bench).env) = _
  have faulted := Processor.faulted_events machine.processor.cores 0 machine.environment
  rw [Processor.turns_cores, show (machine.onBench bench).env.shared = machine.environment from rfl]
  obtain ⟨config, bus, ⟨boot, others, router, controller, lines⟩, ram, hub, rom, display, disk,
    keyboard, counters, fault?, ticks⟩ := machine
  obtain rfl : fault? = none := running
  simp only [events, tick, Processor.tick, environment, Processor.cores] at faulted ⊢
  generalize cores : Processor.tickAll boot others ⟨bus, lines, counters⟩ = result
  rw [Traffic.tickCores_of_tickAll cores] at faulted ⊢
  obtain ⟨boot', others', ⟨bus', lines', counters'⟩, fault | breakpoint⟩ := result
  · simp only [Bench.finish, faulted]
    rfl
  · simp only [Bench.finish, events_behindCores, List.append_nil, faulted, Except.isOk,
      Except.toBool, Bool.not_true, Bool.false_eq_true, if_false]
    simp only [behindCores, Part.turns, Part.tick, Part.served, Part.tickController, tickDevices,
      onBench, PartEnvironment.share, PartEnvironment.withBus, Bench.withBus, Bench.bus,
      Processor.cores, List.nil_append]

/-- Either a tick faults and stops the machine, and a fault is made known, or neither. -/
lemma faulted_events (running : machine.fault? = none) :
    (∃ fault, machine.tick.2 = .error fault ∧ machine.tick.1.fault? = some fault
        ∧ Bench.faulted machine.events = true)
      ∨ ∃ outcome, machine.tick.2 = .ok outcome ∧ machine.tick.1.fault? = none
        ∧ Bench.faulted machine.events = false := by
  have faulted := Processor.faulted_events machine.processor.cores 0 machine.environment
  obtain ⟨config, bus, ⟨boot, others, router, controller, lines⟩, ram, hub, rom, display, disk,
    keyboard, counters, fault?, ticks⟩ := machine
  obtain rfl : fault? = none := running
  simp only [events, tick, Processor.tick, environment, Processor.cores] at faulted ⊢
  generalize cores : Processor.tickAll boot others ⟨bus, lines, counters⟩ = result
  rw [Traffic.tickCores_of_tickAll cores] at faulted
  obtain ⟨boot', others', ⟨bus', lines', counters'⟩, fault | breakpoint⟩ := result
  · exact Or.inl ⟨fault, rfl, rfl, faulted⟩
  · exact Or.inr ⟨_, rfl, rfl, faulted⟩

/-- What the cores make known in the first so many ticks, each with the number of its tick, counted
from `start`. -/
def eventsFrom (machine : Machine) (start ticks : Nat) : List (Nat × Nat × PartEvent) :=
  (List.range ticks).flatMap fun k => (machine.ticking k).events.map fun event => (start + k, event)

lemma eventsFrom_succ (machine : Machine) (start ticks : Nat) :
    machine.eventsFrom start (ticks + 1)
      = machine.events.map (fun event => (start, event))
        ++ machine.tick.1.eventsFrom (start + 1) ticks := by
  rw [eventsFrom, eventsFrom, List.range_succ_eq_map, List.flatMap_cons, List.flatMap_map]
  refine congrArg _ (List.flatMap_congr fun k _ => ?_)
  rw [ticking_succ, Nat.succ_eq_add_one, Nat.add_right_comm, Nat.add_assoc]

/-- A machine that has been stopped makes nothing known. -/
lemma eventsFrom_of_stopped {fault : Fault} (stopped : machine.fault? = some fault)
    (start ticks : Nat) : machine.eventsFrom start ticks = [] := by
  rw [eventsFrom, List.flatMap_eq_nil_iff]
  intro k _
  rw [events, ticking, (fault?_after stopped _ k).1]
  rfl

lemma runOn_onBench (running : machine.fault? = none) (cycles done : Nat)
    (sofar : Array (Nat × Nat × PartEvent)) (sofar' : RunOutcome) :
    Bench.runOn cycles done sofar (machine.onBench bench)
      = ((runOn .tickLimit cycles sofar' machine).1.onBench bench,
        sofar ++ (machine.eventsFrom done cycles).toArray) := by
  induction cycles generalizing machine done sofar sofar' with
  | zero => simp [Bench.runOn, runOn, eventsFrom]
  | succ cycles ih =>
    have passes (outcome : TickOutcome) : RunBoundary.tickLimit.stopsAt outcome = false := by
      cases outcome <;> rfl
    rw [Bench.runOn, cycle_onBench running, runOn, eventsFrom_succ]
    rcases faulted_events running with ⟨fault, given, stopped, faulted⟩
        | ⟨outcome, given, goes, faulted⟩
    · simp only [faulted, if_true, eventsFrom_of_stopped stopped, List.append_nil]
      rw [show machine.tick = (machine.tick.1, .error fault) from Prod.ext rfl given]
    · rw [show machine.tick = (machine.tick.1, .ok outcome) from Prod.ext rfl given]
      simp only [faulted, Bool.false_eq_true, if_false, passes]
      rw [ih goes (done + 1) _ ⟨sofar'.ticks + 1, outcome⟩]
      simp

/-- **A run of the bench is a run of the machine**, for as many ticks, whether it faults or not. -/
theorem run_onBench (running : machine.fault? = none) (cycles : Nat) :
    (machine.onBench bench).run cycles
      = ((machine.run cycles .tickLimit).1.onBench bench,
        (machine.eventsFrom 0 cycles).toArray) := by
  rw [Bench.run, runOn_onBench running cycles 0 #[] ⟨0, .running⟩, Array.empty_append]
  rfl

/-- **A bench makes every breakpoint known**, where the outcome of a tick names the first. -/
theorem breakpoints_events (machine : Machine) :
    machine.events.filterMap (fun event => event.2.breakpoint?) = machine.breaks := by
  rw [events, breaks]
  cases machine.fault? with
  | some _ => rfl
  | none => exact Processor.breakpoints_events _ 0 _

/-- The fault that it makes known is the one that the machine gives. -/
theorem faulted_mem_events_iff (running : machine.fault? = none) {fault : Fault} :
    (∃ place, (place, PartEvent.faulted fault) ∈ machine.events)
      ↔ machine.tick.2 = .error fault := by
  rw [tick_eq_error_iff running, turns, events, running]
  exact (Processor.faulted_mem_events_iff _ 0 _).trans Processor.tickCores_eq_error_iff

end Machine

/-! ## A machine wired by hand -/

namespace Bench

/-- Links a core to the router and puts it on the bench. -/
def placeCore (config : MachineConfig) (bench : Bench) (number : Nat) : Bench :=
  (bench.link config.corePeriod Interconnect.messageCapacity).place
    (.core (Core.reset number ⟨bench.bus.size⟩ config.entry))

/-- The components of a new machine behind its cores, by the numbers of their terminals. -/
def behindCores (config : MachineConfig) (image : DiskImage) : List Part :=
  let count := config.cores - 1 + 1
  let first := 6 + 2 * count
  [.router
    { devices := ⟨0⟩
      controller := ⟨5⟩
      memory := ⟨2⟩
      cores := (List.range count).map fun number => ⟨7 + 2 * number⟩ },
    .controller (.reset ⟨4⟩ 0),
    .ram (.zeroed ⟨3⟩ AddressMap.ramStart AddressMap.ramWords config.timings.ramAccess),
    .hub
      { uplink := ⟨1⟩
        devices := [⟨AddressMap.romStart, ⟨first⟩⟩, ⟨AddressMap.displayStart, ⟨first + 2⟩⟩,
          ⟨AddressMap.keyboardRegister, ⟨first + 4⟩⟩, ⟨AddressMap.diskSeek, ⟨first + 6⟩⟩] },
    .rom (.ofImage ⟨first + 1⟩ AddressMap.romStart config.timings.romAccess
      (Boot.loader AddressMap.romStart)),
    .display (.reset ⟨first + 3⟩),
    .disk (.reset ⟨first + 7⟩ image config.timings.disk),
    .keyboard { terminal := ⟨first + 5⟩ }]

/-- The components of a new machine on a bench, linked and placed one by one. -/
def laidOut (config : MachineConfig) (image : DiskImage) : Bench :=
  let capacity := Interconnect.messageCapacity
  let bench := reset (RegisterFile.reset config.entry) (max config.cores 1)
  let bench := (bench.link config.corePeriod capacity).link config.corePeriod capacity
  let bench := bench.link config.corePeriod capacity
  let bench := (List.range (config.cores - 1 + 1)).foldl (placeCore config) bench
  let bench := (bench.link config.devicePeriod capacity).link config.devicePeriod capacity
  let bench := (bench.link config.devicePeriod capacity).link config.devicePeriod capacity
  (behindCores config image).foldl place bench

lemma foldl_place (parts : List Part) (bench : Bench) :
    parts.foldl place bench = { bench with parts := bench.parts ++ parts.toArray } := by
  induction parts generalizing bench with
  | nil => simp
  | cons part parts ih => simp [ih, place]

lemma foldl_placeCore (config : MachineConfig) (count number : Nat) (router : Router)
    (bench : Bench) :
    ((List.range' number count).foldl (placeCore config) bench).env
        = bench.env.withBus (Processor.addCores number config.corePeriod config.entry count router
          bench.bus).2.2
      ∧ ((List.range' number count).foldl (placeCore config) bench).parts
        = bench.parts ++ ((Processor.addCores number config.corePeriod config.entry count router
          bench.bus).1.map Part.core).toArray := by
  induction count generalizing number router bench with
  | zero => exact ⟨rfl, by simp [Processor.addCores]⟩
  | succ count ih =>
    obtain ⟨env, parts⟩ := ih (number + 1)
      (router.addCore (bench.bus.link config.corePeriod Interconnect.messageCapacity).2.2)
      (placeCore config bench number)
    have push (core : Part) (cores : List Part) :
        bench.parts.push core ++ cores.toArray = bench.parts ++ (core :: cores).toArray := by simp
    rw [List.range'_succ, List.foldl_cons]
    exact ⟨env, parts.trans (push _ _)⟩

/-- The terminals of the machine have these numbers. -/
lemma behindCores_wire (config : MachineConfig) (image : DiskImage) :
    (Machine.wire config image).behindCores = behindCores config image := by
  have size (count : Nat) : (Machine.ports config count).size
      = 6 + 2 * (config.cores - 1 + 1) + 2 * count := Machine.size_ports config count
  have router : (Machine.wire config image).processor.router
      = { devices := ⟨0⟩, controller := ⟨5⟩, memory := ⟨2⟩
          cores := (List.range (config.cores - 1 + 1)).map fun number => ⟨7 + 2 * number⟩ } := by
    refine (Machine.router_wire config image).trans ?_
    rw [Machine.terminals_wire, List.map_map]
    congr 1
    refine List.map_congr_left fun number _ => ?_
    rw [Function.comp_apply, Terminal.peer_of_even (by omega), Nat.add_right_comm]
  have hub : (Machine.wire config image).hub = ⟨⟨1⟩, _⟩ :=
    congrArg (DeviceHub.mk ⟨1⟩) (Machine.devices_wire config image)
  have rom : (Machine.wire config image).rom = .ofImage ⟨(Machine.ports config 0).size + 1⟩
    AddressMap.romStart config.timings.romAccess (Boot.loader AddressMap.romStart) := rfl
  have display : (Machine.wire config image).display
    = .reset ⟨(Machine.ports config 1).size + 1⟩ := rfl
  have keyboard : (Machine.wire config image).keyboard
    = { terminal := ⟨(Machine.ports config 2).size + 1⟩ } := rfl
  have disk : (Machine.wire config image).disk
    = .reset ⟨(Machine.ports config 3).size + 1⟩ image config.timings.disk := rfl
  rw [Machine.behindCores, behindCores, router, hub, rom, display, keyboard, disk, size, size, size,
    size]
  rfl

/-- **The bench is that of the machine.** -/
theorem laidOut_eq (config : MachineConfig) (image : DiskImage) :
    laidOut config image = (Machine.wire config image).onBench (laidOut config image) := by
  obtain ⟨env, parts⟩ := foldl_placeCore config (config.cores - 1 + 1) 0
    { devices := ⟨0⟩, controller := ⟨5⟩, memory := ⟨2⟩ }
    ((((reset (RegisterFile.reset config.entry) (max config.cores 1)).link config.corePeriod
      Interconnect.messageCapacity).link config.corePeriod Interconnect.messageCapacity).link
      config.corePeriod Interconnect.messageCapacity)
  rw [← List.range_eq_range'] at env parts
  rw [laidOut, foldl_place, ← behindCores_wire]
  generalize (List.range (config.cores - 1 + 1)).foldl (placeCore config) _ = built
    at env parts ⊢
  obtain ⟨built, terminals, placed⟩ := built
  obtain rfl : built = _ := env
  obtain rfl : placed = _ := parts
  refine Bench.mk.injEq .. |>.mpr ⟨rfl, rfl, ?_⟩
  change #[] ++ _ ++ _ = _
  rw [Array.empty_append, List.append_toArray]
  rfl

/-- **A machine that has been wired by hand runs as any other**, and makes known what its cores
do. -/
theorem run_laidOut (config : MachineConfig) (image : DiskImage) (cycles : Nat) :
    (laidOut config image).run cycles
      = (((Machine.wire config image).run cycles .tickLimit).1.onBench (laidOut config image),
        ((Machine.wire config image).eventsFrom 0 cycles).toArray) := by
  calc (laidOut config image).run cycles
      = ((Machine.wire config image).onBench (laidOut config image)).run cycles :=
        congrArg (fun bench => bench.run cycles) (laidOut_eq config image)
    _ = _ := Machine.run_onBench rfl cycles

end Bench

end PipelinedMachine
