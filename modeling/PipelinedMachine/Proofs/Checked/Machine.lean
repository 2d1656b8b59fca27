import PipelinedMachine.Proofs.Checked.Cores
import PipelinedMachine.Proofs.Machine.Loaded

/-!
# The machine with checked accesses

What the host can do to a machine, with the checks of all its parts.  Two numbers of 64 bits count
ticks: those of the machine, and those of a run.  The display's frames are no more than the ticks.

* `HostCall`, `Machine.perform`, `Machine.session` — what the host can do, and a machine to which it
  does one thing after the other;
* `Machine.tickChecked`, `Machine.runChecked`, `Machine.sessionChecked` — the same with checks;
* `Machine.Sturdy` — the invariant; `Machine.sturdy_wire` — it holds of a new machine;
* `Machine.Sturdy.perform_eq` — while it holds no check fails, and what the host does keeps it;
* **`Machine.never_panics`** — so no check ever fails.
-/

namespace PipelinedMachine

open Interconnect

/-! ## What the host can do -/

/-- What the host does to a machine. -/
inductive HostCall where
  /-- Lets it tick once. -/
  | tick
  /-- Lets it run for a number of ticks at most. -/
  | run (limit : UInt64) (boundary : RunBoundary)
  /-- Puts words into main memory. -/
  | load (address : Word) (words : Array Word)
  /-- Presses a key. -/
  | press (code : Word)
  /-- Raises an interrupt at the interrupt controller. -/
  | raiseInterrupt (id : Word)
  /-- Takes the image out of the disk drive, which writes its current block back first. -/
  | takeImage
  /-- Changes the registers of a core. -/
  | changeRegisters (core : Nat) (change : RegisterFile → RegisterFile)

/-- A tick shows one frame at most. -/
lemma Display.frames_tick (display : Display) (bus : Interconnect) :
    (display.tick bus).1.frames ≤ display.frames + 1 := by
  have commanded (number : Word) : (display.command number).frames ≤ display.frames + 1 := by
    rw [command]
    split
    · exact Nat.le_refl _
    · exact Nat.le_refl _
    · exact Nat.le_succ _
  have written (address value : Word) :
      (display.write address value).frames ≤ display.frames + 1 := by
    rw [write]
    split_ifs
    · exact commanded value
    · exact Nat.le_succ _
    · exact Nat.le_succ _
    · split <;> exact Nat.le_succ _
  rw [tick]
  split
  · exact Nat.le_succ _
  · split
    · exact written _ _
    · simp only
      split <;> exact Nat.le_succ _
    all_goals exact Nat.le_succ _

/-- A core whose registers the host changes stays at its end. -/
lemma Processor.Attached.modifyCore {processor : Processor} {terminals : Nat}
    (attached : processor.Attached terminals) (index : Nat) (change : Core → Core)
    (fixed : ∀ core, (change core).terminal = core.terminal) :
    (processor.modifyCore index change).Attached terminals := by
  cases index with
  | zero =>
    refine { attached with boot := ?_ }
    rw [Processor.modifyCore, fixed]
    exact attached.boot
  | succ index =>
    refine { attached with others := fun core member => ?_ }
    rw [Processor.modifyCore] at member
    obtain ⟨i, inside, rfl⟩ := List.mem_iff_getElem.mp member
    rw [List.length_modify] at inside
    rw [List.getElem_modify]
    split
    · rw [fixed]
      exact attached.others _ (List.getElem_mem inside)
    · exact attached.others _ (List.getElem_mem inside)

namespace Machine

/-- The machine after the host has done something to it. -/
def perform (machine : Machine) : HostCall → Machine
  | .tick => machine.tick.1
  | .run limit boundary => (machine.run limit.toNat boundary).1
  | .load address words => machine.load address words
  | .press code => machine.press code
  | .raiseInterrupt id => machine.raiseInterrupt id
  | .takeImage => { machine with disk := machine.disk.flush }
  | .changeRegisters index change =>
    { machine with processor := machine.processor.modifyCore index fun core =>
        { core with registers := change core.registers } }

/-- A new machine to which the host has done some things, one after the other. -/
def session (config : MachineConfig) (image : DiskImage) (calls : List HostCall) : Machine :=
  calls.foldl perform (wire config image)

/-! ## Checked machines -/

/-- The turns of memory, the hub and the devices, after that of the processor. -/
def tickDevicesChecked (machine : Machine) : Checked Machine := do
  match machine with
  | ⟨config, bus, processor, ram, hub, rom, display, disk, keyboard, counters, fault?, ticks⟩ =>
    let (ram, bus) ← ram.tickChecked bus
    let bus ← hub.tickChecked bus
    let (rom, bus) ← rom.tickChecked bus
    let (display, bus) ← display.tickChecked bus
    let (disk, bus) ← disk.tickChecked bus
    let (keyboard, bus) ← keyboard.tickChecked bus
    let bus ← bus.tickChecked
    let ticks ← Checked.add ticks 1
    pure ⟨config, bus, processor, ram, hub, rom, display, disk, keyboard, counters, fault?, ticks⟩

/-- One tick. -/
def tickChecked (machine : Machine) : Checked (Machine × Except Fault TickOutcome) := do
  match machine with
  | ⟨config, bus, processor, ram, hub, rom, display, disk, keyboard, counters, some fault, ticks⟩ =>
    pure (⟨config, bus, processor, ram, hub, rom, display, disk, keyboard, counters, some fault,
      ticks⟩, .error fault)
  | ⟨config, bus, processor, ram, hub, rom, display, disk, keyboard, counters, none, ticks⟩ =>
    match ← processor.tickChecked bus counters with
    | (processor, bus, counters, .error fault) =>
      pure (⟨config, bus, processor, ram, hub, rom, display, disk, keyboard, counters, some fault,
        ticks⟩, .error fault)
    | (processor, bus, counters, .ok breakpoint) => do
      let machine ← tickDevicesChecked ⟨config, bus, processor, ram, hub, rom, display, disk,
        keyboard, counters, none, ticks⟩
      pure (machine, .ok (outcome breakpoint))

/-- A run with some ticks left, that has come as far as `sofar`. -/
def runOnChecked (boundary : RunBoundary) :
    (ticksLeft : Nat) → RunOutcome → Machine → Checked (Machine × Except Fault RunOutcome)
  | 0, sofar, machine => pure (machine, .ok sofar)
  | ticksLeft + 1, sofar, machine => do
    match ← machine.tickChecked with
    | (machine, .error fault) => pure (machine, .error fault)
    | (machine, .ok outcome) =>
      let ticks ← Checked.add sofar.ticks 1
      let sofar : RunOutcome := ⟨ticks, outcome⟩
      if boundary.stopsAt outcome then pure (machine, .ok sofar)
      else runOnChecked boundary ticksLeft sofar machine

/-- Runs for up to `limit` ticks. -/
def runChecked (machine : Machine) (limit : Nat) (boundary : RunBoundary) :
    Checked (Machine × Except Fault RunOutcome) :=
  runOnChecked boundary limit ⟨0, .running⟩ machine

/-- A machine with the given disk.  The jump targets of its boot loader are sums that must not
wrap. -/
def wireChecked (config : MachineConfig) (image : DiskImage) : Checked Machine :=
  match Boot.loader? AddressMap.romStart with
  | some _ => pure (wire config image)
  | none => throw .overflow

/-- What the host does to the machine. -/
def performChecked (machine : Machine) (call : HostCall) : Checked Machine := do
  match call with
  | .tick =>
    let (machine, _) ← machine.tickChecked
    pure machine
  | .run limit boundary =>
    let (machine, _) ← machine.runChecked limit.toNat boundary
    pure machine
  | .load address words =>
    let ram ← machine.ram.loadChecked address words
    pure { machine with ram := ram }
  | .raiseInterrupt id =>
    let (controller, lines) ←
      machine.processor.controller.raiseChecked id machine.processor.lines
    pure { machine with
      processor := { machine.processor with controller := controller, lines := lines } }
  | .takeImage =>
    let disk ← machine.disk.flushChecked
    pure { machine with disk := disk }
  | .press _ | .changeRegisters _ _ => pure (machine.perform call)

/-- A new machine to which the host does some things, one after the other. -/
def sessionChecked (config : MachineConfig) (image : DiskImage) (calls : List HostCall) :
    Checked Machine := do
  let machine ← wireChecked config image
  calls.foldlM performChecked machine

/-! ## The invariant -/

/-- All ends that the parts of the machine use are ends of its links, main memory has the size that
it began with, and the display has shown no more frames than there were ticks. -/
structure Sturdy (machine : Machine) (terminals : Nat) : Prop where
  bus : machine.bus.Sturdy terminals
  processor : machine.processor.Attached terminals
  ram : machine.ram.terminal.index < terminals
  hub : machine.hub.Attached terminals
  rom : machine.rom.terminal.index < terminals
  display : machine.display.terminal.index < terminals
  disk : machine.disk.terminal.index < terminals
  keyboard : machine.keyboard.terminal.index < terminals
  whole : machine.ram.Whole
  frames : machine.display.frames ≤ machine.ticks

variable {machine : Machine} {terminals : Nat}

/-- No check fails in the turns of memory, the hub and the devices. -/
lemma Sturdy.tickDevices_eq (sturdy : machine.Sturdy terminals)
    (few : machine.ticks + 1 < UInt64.size) :
    machine.tickDevicesChecked = pure machine.tickDevices
      ∧ machine.tickDevices.Sturdy terminals := by
  obtain ⟨config, bus, processor, ram, hub, rom, display, disk, keyboard, counters, fault?,
    ticks⟩ := machine
  obtain ⟨first, attached, ramEnd, hubEnds, romEnd, displayEnd, diskEnd, keyboardEnd, whole,
    frames⟩ := sturdy
  simp only at first attached ramEnd hubEnds romEnd displayEnd diskEnd keyboardEnd whole frames few
  have kept := Interconnect.Sturdy.kept terminals
  -- each part finds the links as the parts before it have left them
  have second : (ram.tick bus).2.Sturdy terminals := (Peripheral.ram ram).kept_tick kept first
  have third := hub.kept_tick kept second
  have fourth : (rom.tick (hub.tick (ram.tick bus).2)).2.Sturdy terminals :=
    (Peripheral.rom rom).kept_tick kept third
  simp only [tickDevicesChecked, tickDevices]
  rw [Ram.tickChecked_eq first ramEnd, pure_bind]
  rw [hubEnds.tickChecked_eq second, pure_bind, Rom.tickChecked_eq third romEnd, pure_bind]
  rw [← ram.terminal_tick bus] at ramEnd
  replace whole := whole.tick bus
  rw [← rom.terminal_tick (hub.tick (ram.tick bus).2)] at romEnd
  generalize rom.tick (hub.tick (ram.tick bus).2) = state at fourth romEnd ⊢
  generalize (ram.tick bus).1 = ram at ramEnd whole ⊢
  obtain ⟨rom, bus⟩ := state
  simp only at fourth romEnd ⊢
  have fifth : (display.tick bus).2.Sturdy terminals :=
    (Peripheral.display display).kept_tick kept fourth
  have sixth : (disk.tick (display.tick bus).2).2.Sturdy terminals :=
    (Peripheral.disk disk).kept_tick kept fifth
  have last : (keyboard.tick (disk.tick (display.tick bus).2).2).2.Sturdy terminals :=
    (Peripheral.keyboard keyboard).kept_tick kept sixth
  have shown := display.frames_tick bus
  rw [Display.tickChecked_eq (by omega) fourth displayEnd, pure_bind,
    DiskDrive.tickChecked_eq fifth diskEnd, pure_bind,
    Keyboard.tickChecked_eq sixth keyboardEnd, pure_bind, last.tickChecked_eq, pure_bind,
    Checked.add_eq few, pure_bind]
  rw [← display.terminal_tick bus] at displayEnd
  rw [← disk.terminal_tick (display.tick bus).2] at diskEnd
  rw [← keyboard.terminal_tick (disk.tick (display.tick bus).2).2] at keyboardEnd
  exact ⟨rfl, last.tick, attached, ramEnd, hubEnds, romEnd, displayEnd, diskEnd, keyboardEnd, whole,
    by simp only; omega⟩

/-- No check fails in a tick. -/
lemma Sturdy.tick_eq (sturdy : machine.Sturdy terminals)
    (few : machine.tick.1.ticks < UInt64.size) :
    machine.tickChecked = pure machine.tick ∧ machine.tick.1.Sturdy terminals := by
  obtain ⟨config, bus, processor, ram, hub, rom, display, disk, keyboard, counters, fault?,
    ticks⟩ := machine
  cases fault? with
  | some fault => exact ⟨rfl, sturdy⟩
  | none =>
    obtain ⟨checked, attached, between⟩ := sturdy.processor.tick_eq sturdy.bus counters
    simp only at checked attached between
    simp only [tickChecked, tick] at few ⊢
    rw [checked, pure_bind]
    generalize processor.tick bus counters = state at attached between few ⊢
    obtain ⟨later, bus, counters, outcome⟩ := state
    cases outcome with
    | error fault => exact ⟨rfl, { sturdy with bus := between, processor := attached }⟩
    | ok breakpoint =>
      have ready : (⟨config, bus, later, ram, hub, rom, display, disk, keyboard, counters, none,
        ticks⟩ : Machine).Sturdy terminals := { sturdy with bus := between, processor := attached }
      obtain ⟨checked, after⟩ := ready.tickDevices_eq few
      simp only
      rw [checked, pure_bind]
      exact ⟨rfl, after⟩

/-! ## Time -/

lemma ticks_le_tick (machine : Machine) : machine.ticks ≤ machine.tick.1.ticks := by
  obtain ⟨config, bus, processor, ram, hub, rom, display, disk, keyboard, counters, fault?,
    ticks⟩ := machine
  cases fault? with
  | some fault => exact Nat.le_refl ticks
  | none =>
    simp only [tick]
    generalize processor.tick bus counters = state
    obtain ⟨later, bus, counters, outcome⟩ := state
    cases outcome with
    | error fault => exact Nat.le_refl ticks
    | ok breakpoint => exact Nat.le_succ ticks

lemma ticks_le_runOn (boundary : RunBoundary) (ticksLeft : Nat) (sofar : RunOutcome)
    (machine : Machine) : machine.ticks ≤ (runOn boundary ticksLeft sofar machine).1.ticks := by
  induction ticksLeft generalizing sofar machine with
  | zero => exact Nat.le_refl _
  | succ ticksLeft ih =>
    have first := machine.ticks_le_tick
    rw [runOn]
    generalize machine.tick = state at first ⊢
    obtain ⟨later, outcome⟩ := state
    cases outcome with
    | error fault => exact first
    | ok outcome =>
      simp only
      split
      · exact first
      · exact first.trans (ih _ later)

lemma ticks_le_perform (machine : Machine) (call : HostCall) :
    machine.ticks ≤ (machine.perform call).ticks := by
  cases call with
  | tick => exact machine.ticks_le_tick
  | run limit boundary => exact ticks_le_runOn boundary _ _ machine
  | load | press | raiseInterrupt | takeImage | changeRegisters => exact Nat.le_refl machine.ticks

lemma ticks_le_foldl (calls : List HostCall) (machine : Machine) :
    machine.ticks ≤ (calls.foldl perform machine).ticks := by
  induction calls generalizing machine with
  | nil => exact Nat.le_refl _
  | cons call calls ih => exact (machine.ticks_le_perform call).trans (ih _)

/-! ## Runs -/

/-- No check fails in a run, if the machine and the run can count its ticks. -/
lemma Sturdy.runOn_eq (sturdy : machine.Sturdy terminals) {boundary : RunBoundary} {ticksLeft : Nat}
    {sofar : RunOutcome} (short : sofar.ticks + ticksLeft < UInt64.size)
    (few : (Machine.runOn boundary ticksLeft sofar machine).1.ticks < UInt64.size) :
    runOnChecked boundary ticksLeft sofar machine
        = pure (Machine.runOn boundary ticksLeft sofar machine)
      ∧ (Machine.runOn boundary ticksLeft sofar machine).1.Sturdy terminals := by
  induction ticksLeft generalizing sofar machine with
  | zero => exact ⟨rfl, sturdy⟩
  | succ ticksLeft ih =>
    have ticked : machine.tick.1.ticks < UInt64.size := by
      refine Nat.lt_of_le_of_lt ?_ few
      rw [Machine.runOn]
      generalize machine.tick = state
      obtain ⟨later, outcome⟩ := state
      cases outcome with
      | error fault => exact Nat.le_refl _
      | ok outcome =>
        simp only
        split
        · exact Nat.le_refl _
        · exact ticks_le_runOn boundary ticksLeft _ later
    obtain ⟨checked, after⟩ := sturdy.tick_eq ticked
    rw [Machine.runOn] at few
    rw [runOnChecked, Machine.runOn, checked, pure_bind]
    generalize machine.tick = state at after few ⊢
    obtain ⟨later, outcome⟩ := state
    cases outcome with
    | error fault => exact ⟨rfl, after⟩
    | ok outcome =>
      simp only at after few ⊢
      rw [Checked.add_eq (by omega), pure_bind]
      by_cases stops : boundary.stopsAt outcome
      · rw [if_pos stops, if_pos stops]
        exact ⟨rfl, after⟩
      · rw [if_neg stops] at few ⊢
        rw [if_neg stops]
        exact ih after (by simp only; omega) few

/-! ## The host -/

/-- No check fails in what the host does, if the machine can count its ticks. -/
theorem Sturdy.perform_eq (sturdy : machine.Sturdy terminals) (call : HostCall)
    (few : (machine.perform call).ticks < UInt64.size) :
    machine.performChecked call = pure (machine.perform call)
      ∧ (machine.perform call).Sturdy terminals := by
  cases call with
  | tick =>
    obtain ⟨checked, after⟩ := sturdy.tick_eq few
    rw [performChecked, checked, pure_bind]
    exact ⟨rfl, after⟩
  | run limit boundary =>
    have short : 0 + limit.toNat < UInt64.size := by
      rw [Nat.zero_add]
      exact limit.toNat_lt
    obtain ⟨checked, after⟩ := sturdy.runOn_eq short few
    rw [performChecked, runChecked, checked, pure_bind]
    exact ⟨rfl, after⟩
  | load address words =>
    have small : machine.ram.words.size < UInt64.size := by
      rw [sturdy.whole.size]
      decide
    rw [performChecked, machine.ram.loadChecked_eq small, pure_bind]
    refine ⟨rfl, { sturdy with ram := ?_, whole := sturdy.whole.load address words }⟩
    rw [perform, load, (machine.ram.load_frame address words).1]
    exact sturdy.ram
  | press code => exact ⟨rfl, { sturdy with keyboard := sturdy.keyboard }⟩
  | raiseInterrupt id =>
    rw [performChecked, InterruptController.raiseChecked_eq, pure_bind]
    have attached := sturdy.processor
    refine ⟨rfl, { sturdy with processor := { attached with controller := ?_ } }⟩
    exact attached.controller
  | takeImage =>
    rw [performChecked, DiskDrive.flushChecked_eq, pure_bind]
    refine ⟨rfl, { sturdy with disk := ?_ }⟩
    rw [perform, machine.disk.terminal_flush]
    exact sturdy.disk
  | changeRegisters index change =>
    have attached := sturdy.processor.modifyCore index
      (fun core => { core with registers := change core.registers }) fun _ => rfl
    exact ⟨rfl, { sturdy with processor := attached }⟩

/-- No check fails in what the host does, one thing after the other. -/
lemma Sturdy.foldl_eq (sturdy : machine.Sturdy terminals) (calls : List HostCall)
    (few : (calls.foldl perform machine).ticks < UInt64.size) :
    calls.foldlM performChecked machine = pure (calls.foldl perform machine) := by
  induction calls generalizing machine with
  | nil => rfl
  | cons call calls ih =>
    have first := Nat.lt_of_le_of_lt (ticks_le_foldl calls (machine.perform call)) few
    obtain ⟨checked, after⟩ := sturdy.perform_eq call first
    rw [List.foldlM_cons, checked, pure_bind, List.foldl_cons]
    exact ih after few

/-! ## New machines -/

section Wire

variable (config : MachineConfig) (image : DiskImage)

lemma wireChecked_eq : wireChecked config image = pure (wire config image) := by
  rw [wireChecked, Boot.loader?, if_pos (by decide)]

/-- The links of a new machine are all alike, and empty. -/
lemma sturdy_bus : (wire config image).bus.Sturdy (ports config 4).size := by
  have wide : (ports config 4).Wide := wide_wire config image
  have even : (ports config 4).size % 2 = 0 := by
    rw [size_ports]
    omega
  have links : (ports config 4).Sturdy (ports config 4).size := {
    size := rfl
    even := even
    small := fun a => by
      by_cases inside : a.index < (ports config 4).size
      · rw [wide a inside]
        decide
      · rw [capacity_eq, Option.not_isSome_iff_eq_none.mp (mt isSome_outgoing?_iff.mp inside)]
        decide
    alike := fun a inside => by rw [wide a inside, wide a.peer (Terminal.index_peer_lt even inside)]
    fits := fun a message carried => by
      rw [idle_ports config 4 a] at carried
      contradiction }
  exact links

/-- The invariant holds of a new machine. -/
theorem sturdy_wire : (wire config image).Sturdy (ports config 4).size := by
  have sizes := size_ports config
  have size := sizes 4
  have bus := sturdy_bus config image
  have cores : ∀ core ∈ (wire config image).traffic.cores,
      core.terminal.index < (ports config 4).size := by
    intro core member
    have listed := List.mem_map_of_mem (f := Core.terminal) member
    rw [terminals_wire, List.mem_map] at listed
    obtain ⟨i, inside, same⟩ := listed
    rw [List.mem_range] at inside
    rw [← same, sizes]
    simp only
    omega
  exact {
    bus := bus
    processor := {
      boot := cores _ List.mem_cons_self
      others := fun core member => cores core (List.mem_cons_of_mem _ member)
      router := {
        ends := by
          change ∀ a ∈ (wire config image).traffic.router.ends, _
          rw [router_wire, Router.ends]
          simp only [List.cons_append, List.nil_append, List.forall_mem_cons]
          refine ⟨by omega, by omega, by omega, fun a member => ?_⟩
          rw [List.map_map, List.mem_map] at member
          obtain ⟨core, member, rfl⟩ := member
          exact bus.peer_inside (cores core member)
        pending := by
          change ∀ a ∈ (wire config image).traffic.router.pending, _
          rw [router_wire]
          simp }
      controller := by
        change 4 < (ports config 4).size
        rw [sizes]
        omega }
    ram := by
      change 3 < (ports config 4).size
      rw [sizes]
      omega
    hub := by
      change ∀ a ∈ ⟨1⟩ :: (wire config image).hub.devices.map Attachment.terminal, _
      rw [devices_wire]
      simp only [List.map_cons, List.map_nil, List.forall_mem_cons, sizes]
      refine ⟨by omega, by omega, by omega, by omega, by omega, by simp⟩
    rom := by
      change (ports config 0).size + 1 < (ports config 4).size
      rw [sizes, sizes]
      omega
    display := by
      change (ports config 1).size + 1 < (ports config 4).size
      rw [sizes, sizes]
      omega
    disk := by
      change (ports config 3).size + 1 < (ports config 4).size
      rw [sizes, sizes]
      omega
    keyboard := by
      change (ports config 2).size + 1 < (ports config 4).size
      rw [sizes, sizes]
      omega
    whole := ⟨rfl, rfl⟩
    frames := Nat.le_refl 0 }

end Wire

/-- A machine never panics: whatever the host and the program that runs do, as long as the ticks are
fewer than 2^64 no index is beyond its buffer and no sum or difference beyond its width. -/
theorem never_panics (config : MachineConfig) (image : DiskImage) (calls : List HostCall)
    (few : (session config image calls).ticks < UInt64.size) :
    sessionChecked config image calls = pure (session config image calls) := by
  rw [sessionChecked, wireChecked_eq, pure_bind]
  exact (sturdy_wire config image).foldl_eq calls few

/-- A visit of a host, who fills main memory, points the core at it, presses a key, raises an
interrupt, lets the machine run and takes the image out. -/
def visit : List HostCall :=
  [.load AddressMap.ramStart #[7, 8], .changeRegisters 0 (RegisterFile.jump · AddressMap.ramStart),
    .press 65, .raiseInterrupt AddressMap.keyboardInterrupt, .run 3 .tickLimit, .takeImage, .tick]

theorem never_panics_visit :
    (session MachineConfig.fast (DiskImage.blank 1) visit).ticks = 4
      ∧ sessionChecked MachineConfig.fast (DiskImage.blank 1) visit
        = pure (session MachineConfig.fast (DiskImage.blank 1) visit) := by
  have ticks : (session MachineConfig.fast (DiskImage.blank 1) visit).ticks = 4 := by
    decide +kernel
  have few : (session MachineConfig.fast (DiskImage.blank 1) visit).ticks < UInt64.size := by
    rw [ticks]
    decide
  exact ⟨ticks, never_panics _ _ visit few⟩

end Machine

end PipelinedMachine
