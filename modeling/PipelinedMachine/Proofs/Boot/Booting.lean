import PipelinedMachine.Proofs.Boot.Arrival
import PipelinedMachine.Proofs.Boot.Lookout
import PipelinedMachine.Proofs.Boot.Stride
import PipelinedMachine.Proofs.Timing.Takings

/-!
# Booting

A new machine with a packed program on its disk runs the boot loader until its core is about to look
up the first word of main memory.  Until then no fault occurs.  By then every word of the program
has been sent to main memory, and whatever main memory is asked for afterwards comes behind.

* `Machine.Serving` — what is behind the core, which **every turn** keeps (`Machine.Serving.deals`,
  `Machine.Serving.relay`);
* `Machine.Booting`, `Machine.AtRamStart` — a machine that runs the boot loader, and one whose core
  is about to look up the first word of main memory;
* **`Machine.Booting.tick`**, `Machine.Booting.ticked` — a tick, and a whole run;
* `Machine.Paused`, `Machine.paused_wire`, `Machine.paused_copying` — a machine between two
  instructions of the boot loader: a new one, or one that has come to any word of the copy loop;
* `Machine.Delivers`, **`Machine.boots_program`** — what the boot loader has delivered.
-/

namespace PipelinedMachine

open AddressMap Assembler Interconnect Boot

namespace Standing

variable {standing : Standing} {words : Array Word} {registers : RegisterFile} {world : World}
  {issued : List Word} {called later : Prop}

lemma Boots.mono (boots : standing.Boots words called registers world issued)
    (onward : called → later) : standing.Boots words later registers world issued where
  here := boots.here
  loads := boots.loads
  pending := fun pends => onward (boots.pending pends)
  issued := boots.issued
  course := by
    cases boots.course with
    | works reading carries => exact .works reading carries
    | seeks idle saved seeks vacant ready installed loading =>
      exact .seeks idle saved seeks vacant (onward ready) installed loading

/-- The core's line is raised for the disk only. -/
lemma Boots.signal (boots : standing.Boots words called registers world issued) {raised : Bool}
    (due : raised = true → called) :
    (standing.signal raised).Boots words called registers world issued := by
  cases raised with
  | false => exact boots
  | true =>
    have course : (standing.signal true).OnCourse words called registers world := by
      cases boots.course with
      | works reading carries => exact .works reading carries
      | seeks idle saved seeks vacant ready installed loading =>
        exact .seeks idle saved seeks vacant ready installed loading
    exact ⟨boots.here, boots.loads, fun _ => due rfl, boots.issued, course⟩

lemma StaysNear.signal {ip : Word} (stays : standing.StaysNear ip) (raised : Bool) :
    (standing.signal raised).StaysNear ip :=
  fun edge away => (stays edge away).signal raised

end Standing

/-- A new ROM holds the boot loader. -/
lemma Rom.readWord_loader (terminal : Terminal) (latency : UInt32) :
    (ofImage terminal romStart latency (loader romStart)).readWord = Boot.word := by
  have whole : (loader romStart).take romWords = loader romStart := by decide +kernel
  funext address
  rw [readWord, ofImage, whole]
  rfl

namespace InterruptLines

lemma isRaised_of_take {lines : InterruptLines} {id : Nat}
    (raised : (lines.take id).2.isRaised id = true) : lines.isRaised id = true := by
  rw [take] at raised
  split_ifs at raised with before
  · exact before
  · exact raised

end InterruptLines

namespace Machine

variable {words : Array Word} {machine later : Machine} {actor : Option Component}
  {bus after : Interconnect} {outcome : TickOutcome} {installed called : Prop}
  {taken : List Message} {issued : List Word}

/-! ## Behind the core -/

/-- What is behind the core serves the boot loader. -/
structure Serving (machine : Machine) (bus : Interconnect) : Prop where
  seated : machine.disk.Seated
  loader : machine.RomServesLoader bus
  exchange : machine.ControllerExchange bus
  interrupts : machine.OnlyDiskInterrupts bus

namespace Serving

/-- The core's turn keeps it so. -/
theorem deals (serving : machine.Serving bus) (inOrder : machine.InOrder)
    (ready : called → machine.Called bus) (ready' : installed → machine.Installed bus)
    (deals : Deals machine.processor.boot.terminal (Sends installed called) bus after) :
    machine.Serving after where
  seated := serving.seated
  loader := serving.loader.deals inOrder deals
  exchange := serving.exchange.deals inOrder ready deals
  interrupts := serving.interrupts.deals inOrder ready' deals

/-- So does every turn behind the core. -/
theorem relay (serving : machine.Serving machine.bus) (inOrder : machine.InOrder)
    (relay : Relay machine actor later) : later.Serving later.bus where
  seated := (inOrder.drive_relay serving.seated relay [] []).1
  loader := serving.loader.relay inOrder serving.interrupts.plain relay
  exchange := serving.exchange.relay inOrder serving.interrupts.plain relay
  interrupts := serving.interrupts.relay serving.exchange inOrder relay

/-- What the machine behind the core becomes, and what the boot loader works on. -/
structure Preserves (machine later : Machine) (taken taken' : List Message) : Prop where
  inOrder : later.InOrder
  serving : later.Serving later.bus
  world : later.world taken' later.bus = machine.world taken machine.bus
  called : machine.Called machine.bus → later.Called later.bus

lemma step (serving : machine.Serving machine.bus) (inOrder : machine.InOrder)
    (relay : Relay machine actor later) (taken : List Message) :
    Preserves machine later taken
      (taken ++ if actor = some .ram then machine.taking else []) where
  inOrder := inOrder.relay relay
  serving := serving.relay inOrder relay
  world := world_relay inOrder serving.seated serving.exchange serving.interrupts.plain relay taken
  called := fun calls => calls.relay serving.exchange inOrder serving.interrupts.plain relay

lemma Preserves.trans {between : Machine} {taken' taken'' : List Message}
    (first : Preserves machine between taken taken')
    (second : Preserves between later taken' taken'') :
    Preserves machine later taken taken'' :=
  ⟨second.inOrder, second.serving, second.world.trans first.world, second.called ∘ first.called⟩

lemma arounds (serving : machine.Serving machine.bus) (inOrder : machine.InOrder)
    (arounds : Relation.ReflTransGen (Around .ram) machine later) (taken : List Message) :
    Preserves machine later taken taken := by
  induction arounds with
  | refl => exact ⟨inOrder, serving, rfl, id⟩
  | tail _ step before =>
    obtain ⟨actor, away, turn⟩ := step
    have last := before.serving.step before.inOrder turn taken
    rw [if_neg away, List.append_nil] at last
    exact before.trans last

/-- The turns behind the core. -/
lemma behind (serving : machine.cored.Serving machine.cored.bus) (inOrder : machine.cored.InOrder)
    (live : machine.tick.2 = .ok outcome) (taken : List Message) :
    Preserves machine.cored machine.tick.1 taken (taken ++ machine.ramTake?.toList) := by
  obtain ⟨before, first, bus, ram, rest⟩ := exists_relays_tick live
  have one := serving.arounds inOrder first taken
  have two := one.serving.step one.inOrder .ram taken
  have took : before.taking = machine.ramTake?.toList := by
    rw [taking, ramTake?, (core_of_tick live).1, ram, bus]
    rfl
  rw [if_pos rfl, took] at two
  exact (one.trans two).trans (two.serving.arounds two.inOrder rest _)

end Serving

/-! ## The core's turn -/

/-- A core's turn leaves everything behind it as it is, but for its line and the links. -/
structure CoreTurnKeeps (machine : Machine) (bus : Interconnect) : Prop where
  world : ∀ taken, machine.cored.world taken machine.cored.bus = machine.world taken bus
  called : machine.Called bus → machine.cored.Called machine.cored.bus
  serving : machine.Serving bus → machine.cored.Serving machine.cored.bus

lemma coreTurnKeeps_of_turn (inOrder : machine.InOrder) {registers : RegisterFile}
    {stages : StageControl} {pipeline : Pipeline} {counters : Counters} {outcome : CoreOutcome}
    (ticked : machine.processor.boot.tick machine.environment
      = (⟨machine.processor.boot.id, machine.processor.boot.terminal, registers, stages, pipeline⟩,
        ⟨bus, (machine.processor.lines.take machine.processor.boot.id).2, counters⟩, outcome)) :
    machine.CoreTurnKeeps bus := by
  have same := machine.cored_of_alone inOrder.alone
  rw [ticked] at same
  refine ⟨fun taken => by rw [same]; rfl, fun calls => ?_, fun serving => ?_⟩
  · rw [same]
    exact ⟨calls.latest, calls.installed⟩
  · rw [same]
    obtain ⟨seated, loader, exchange, interrupts⟩ := serving
    refine ⟨seated, ⟨loader.word, loader.wide, loader.asked, loader.told⟩,
      ⟨exchange.posts, exchange.handler, exchange.latest, exchange.told⟩,
      ⟨interrupts.silent, interrupts.plain,
        interrupts.quiet.imp (fun quiet : machine.Quiet bus => ⟨quiet.calm, quiet.resting⟩) id,
        fun raised => ?_⟩⟩
    have calls := interrupts.raised (InterruptLines.isRaised_of_take raised)
    exact ⟨calls.latest, calls.installed⟩

/-! ## The boot loader runs -/

/-- The machine runs the boot loader. -/
structure Booting (words : Array Word) (machine : Machine) (taken : List Message)
    (issued : List Word) : Prop where
  running : machine.fault? = none
  inOrder : machine.InOrder
  serving : machine.Serving machine.bus
  core : ∃ standing, machine.processor.boot.StandsAs standing
    ∧ standing.StaysNear machine.processor.boot.registers.ip
    ∧ standing.Boots words (machine.Called machine.bus) machine.processor.boot.registers
      (machine.world taken machine.bus) issued

/-- The machine is through with the boot loader: its core is about to look up the first word of main
memory, and whatever it has asked main memory for has been taken or is on its way. -/
structure AtRamStart (words : Array Word) (machine : Machine) (taken : List Message)
    (issued : List Word) : Prop where
  running : machine.fault? = none
  here : machine.processor.boot.registers.ip = ramStart
  stage : machine.processor.boot.stages.current = .dispatch
  arrivals : ∃ fetch, taken ++ machine.requests .ram = stored words (4096 * size words) ++ fetch
    ∧ (fetch = [] ∨ fetch = [Message.read ramStart Fetch.blockWords])
  issued : issued = (stored words (4096 * size words)).map Message.address

lemma Booting.ip_ne (booting : machine.Booting words taken issued) :
    machine.processor.boot.registers.ip ≠ ramStart := by
  obtain ⟨standing, -, -, boots⟩ := booting.core
  obtain ⟨index, inside, here⟩ := boots.here
  rw [here]
  exact label_ne_ramStart (by omega)

/-- **A tick of a machine that runs the boot loader** ends without a fault, and the machine runs the
boot loader on or is through with it. -/
theorem Booting.tick (booting : machine.Booting words taken issued)
    (few : 4096 * size words ≤ ramWords) :
    machine.tick.1.Booting words (taken ++ machine.ramTake?.toList)
        (issued ++ Standing.writing machine.issue?)
      ∨ machine.tick.1.AtRamStart words (taken ++ machine.ramTake?.toList)
        (issued ++ Standing.writing machine.issue?) := by
  obtain ⟨running, inOrder, serving, standing, stands, stays, boots⟩ := booting
  obtain ⟨later, after, outcome, ticked, turn⟩ := Core.exists_turn stands machine.environment
  have issue : machine.processor.boot.issue? machine.environment = machine.issue? := by
    simp [issue?, running]
  rw [issue] at turn
  have due (taken : (machine.processor.lines.take machine.processor.boot.id).1 = true) :
      machine.Called machine.bus :=
    serving.interrupts.raised ((InterruptLines.take_fst _ _).symm.trans taken)
  have signalled := boots.signal due
  obtain ⟨⟨breakpoint, rfl⟩, goes⟩ := turn.boots signalled (stays.signal _)
    (inOrder.outlook taken) (tells inOrder serving.loader serving.exchange)
    (fun calls => calls.installed) few
  have ends := tick_of_core running inOrder.alone
  rw [ticked] at ends
  obtain ⟨live, outcome', ends⟩ := ends
  have between := inOrder.cored ticked
  have kept := coreTurnKeeps_of_turn inOrder ticked
  have sound := turn.sound (stands.sound.signal _)
  have boot : machine.tick.1.processor.boot = ⟨machine.processor.boot.id,
      machine.processor.boot.terminal, after.registers, after.stages, later.pipeline⟩ :=
    (boot_tick running).trans (congrArg Prod.fst ticked)
  rcases goes with ⟨goes, deals⟩ | arrived
  · have served := serving.deals inOrder id id deals
    have onward := (kept.serving served).behind between ends taken
    refine Or.inl ⟨live, onward.inOrder, onward.serving, later, ?_, ?_, ?_⟩
    · rw [boot]
      exact ⟨rfl, sound⟩
    · rw [boot]
      exact turn.staysNear (stands.sound.signal _) (stays.signal _) signalled.here goes.here
    · rw [boot, onward.world, kept.world]
      refine goes.mono fun calls => onward.called (kept.called (calls.deals inOrder deals))
  · have rest := between.requests_behind ends
    obtain ⟨fetch, stores, either⟩ := arrived.stores
    refine Or.inr ⟨live, by rw [boot]; exact arrived.here, ?_, ⟨fetch, ?_, either⟩,
      arrived.issued⟩
    · rw [boot]
      exact congrArg StageControl.current (sound.stages.trans (by rw [arrived.idle]))
    · rw [List.append_assoc, ← rest, ← stores]
      exact congrArg World.stores (kept.world taken)

/-! ## A whole run -/

/-- The stores to main memory that a core has dispatched in the first so many ticks. -/
def ramStores (machine : Machine) (ticks : Nat) : List Word :=
  ((machine.dispatches ticks).filterMap Dispatch.written?).filter isRam

lemma ramStores_succ (machine : Machine) (ticks : Nat) :
    machine.ramStores (ticks + 1)
      = machine.ramStores ticks ++ Standing.writing (machine.ticked ticks).issue? := by
  rw [ramStores, dispatches_succ, List.filterMap_append, List.filter_append]
  rw [ramStores, Standing.writing]
  cases (machine.ticked ticks).issue? with
  | none => rfl
  | some dispatch => cases h : dispatch.written? <;> simp [h]

/-- A whole run of the boot loader. -/
theorem Booting.ticked (booting : machine.Booting words taken issued)
    (few : 4096 * size words ≤ ramWords) (ticks : Nat)
    (before : ∀ earlier < ticks,
      (machine.ticked earlier).processor.boot.registers.ip ≠ ramStart) :
    (machine.ticked ticks).Booting words (taken ++ machine.ramTakes ticks)
        (issued ++ machine.ramStores ticks)
      ∨ (machine.ticked ticks).AtRamStart words (taken ++ machine.ramTakes ticks)
        (issued ++ machine.ramStores ticks) := by
  induction ticks with
  | zero =>
    refine Or.inl ?_
    rw [show machine.ramTakes 0 = [] from rfl, show machine.ramStores 0 = [] from rfl,
      List.append_nil, List.append_nil]
    exact booting
  | succ ticks ih =>
    rcases ih fun earlier sooner => before earlier (by omega) with on | arrived
    · rw [ticked_succ, ramTakes_succ, ramStores_succ, ← List.append_assoc, ← List.append_assoc]
      exact on.tick few
    · exact absurd arrived.here (before ticks (by omega))

/-! ## Between two instructions -/

/-- Nothing is under way in the machine, and its core has nothing at hand and is about to look up an
instruction of the boot loader.  Main memory has `taken` the stores before it. -/
structure Paused (words : Array Word) (machine : Machine) (taken : List Message) : Prop where
  running : machine.fault? = none
  alone : machine.processor.others = []
  rest : machine.traffic.AtRest
  places : machine.traffic.Seated machine.terminalOf
  loader : machine.rom.readWord = Boot.word
  wide : machine.bus.capacity machine.rom.terminal = messageCapacity
  seated : machine.disk.Seated
  silent : machine.keyboard.Silent
  quiet : machine.disk.Resting ∨ machine.Installed machine.bus
  lowered : machine.processor.lines.isRaised machine.processor.boot.id = false
  pipeline : ∃ savedIp, machine.processor.boot.pipeline = { savedIp := savedIp }
  stages : machine.processor.boot.stages = {}
  loading : Loading words machine.processor.boot.registers
    ⟨taken, machine.disk.cursor, [], machine.Installed machine.bus⟩

namespace Paused

lemma along (paused : machine.Paused words taken) (keep : Message → Bool) (path : List Terminal) :
    machine.bus.along keep path = [] :=
  paused.rest.idle.along keep path

lemma owed (paused : machine.Paused words taken) (component : Component) :
    (machine.part component).owed = [] := by
  have devices := paused.rest.devices
  simp only [traffic, List.forall_mem_cons] at devices
  obtain ⟨rom, display, keyboard, disk, -⟩ := devices
  cases component with
  | controller => exact paused.rest.controller
  | ram => exact paused.rest.ram
  | rom => exact rom
  | display => exact display
  | keyboard => exact keyboard
  | disk => exact disk

lemma answers (paused : machine.Paused words taken) (component : Component) :
    machine.answers component = [] := by
  rw [Machine.answers, paused.along, paused.owed]
  rfl

lemma notMem_answers (paused : machine.Paused words taken) (component : Component)
    {message : Message} : message ∉ machine.answers component := by
  rw [paused.answers]
  exact List.not_mem_nil

/-- The boot loader works on what main memory has taken and on the disk as it is. -/
lemma world (paused : machine.Paused words taken) :
    machine.world taken machine.bus
      = ⟨taken, machine.disk.cursor, [], machine.Installed machine.bus⟩ := by
  rw [Machine.world, World.mk.injEq]
  refine ⟨?_, ?_, ?_, rfl⟩
  · rw [paused.along, List.append_nil]
  · rw [paused.along]
    rfl
  · rw [paused.along (Message.asks .disk)]
    exact (List.append_nil _).trans (paused.answers .disk)

lemma serving (paused : machine.Paused words taken) : machine.Serving machine.bus where
  seated := paused.seated
  loader := by
    refine ⟨paused.loader, paused.wide, fun message member => ?_, fun message member => ?_⟩
    · rw [paused.along] at member
      contradiction
    · exact absurd member (paused.notMem_answers .rom)
  exchange := by
    have mail : machine.mail machine.bus = [] := paused.along _ _
    refine ⟨fun message member => ?_, fun start rest split => ?_, fun member => ?_,
      fun message member => ?_⟩
    · exact absurd (mail ▸ member) List.not_mem_nil
    · simp [mail] at split
    · exact absurd (mail ▸ member) List.not_mem_nil
    · exact absurd member (paused.notMem_answers .controller)
  interrupts := by
    refine ⟨paused.silent, paused.rest.idle.all _, ?_, fun raised => ?_⟩
    · exact paused.quiet.imp (fun resting => ⟨paused.rest.idle.all _, resting⟩) id
    · exact absurd raised (by simp [paused.lowered])

/-- A machine that has paused in the boot loader runs it. -/
theorem booting (paused : machine.Paused words taken) :
    machine.Booting words taken (taken.map Message.address) := by
  obtain ⟨savedIp, pipeline⟩ := paused.pipeline
  obtain ⟨index, inside, here, -⟩ := paused.loading.exists_index
  refine ⟨paused.running, .of_atRest paused.rest paused.alone paused.places, paused.serving, _,
    Core.standsAs_of_vacant pipeline paused.stages,
    fun edge away => ⟨.of_vacant rfl rfl, fun busy => absurd rfl busy⟩, ?_⟩
  rw [paused.world]
  exact ⟨⟨index, inside, here⟩, ⟨by simp [Fetch.line], by simp [Fetch.line], by simp⟩, by simp,
    (List.append_nil _).symm, .works rfl paused.loading⟩

end Paused

/-! ### New machines, and machines in the middle of the boot loader -/

/-- A new machine, but for the registers of its core, its interrupt controller and its disk
drive. -/
def resumed (config : MachineConfig) (image : DiskImage) (registers : RegisterFile)
    (controller : InterruptController) (drive : DiskDrive) : Machine :=
  let machine := wire config image
  { machine with
    processor := { machine.processor with
      boot := { machine.processor.boot with registers := registers }
      controller := controller }
    disk := drive }

section Resumed

variable {config : MachineConfig} {image : DiskImage} {registers : RegisterFile}
  {controller : InterruptController} {drive : DiskDrive}

lemma layout_resumed
    (controllerEnd : controller.terminal = (wire config image).processor.controller.terminal)
    (driveEnd : drive.terminal = (wire config image).disk.terminal) :
    (wire config image).traffic.Layout
      (resumed config image registers controller drive).traffic := by
  refine ⟨⟨_, rfl⟩, rfl, rfl, controllerEnd, rfl, ?_⟩
  simp only [Traffic.seats, traffic, List.map_cons, List.map_nil, Peripheral.seat,
    Peripheral.terminal, resumed, driveEnd]
  rfl

/-- A new core has nothing at hand. -/
lemma boot_wire (config : MachineConfig) (image : DiskImage) :
    (wire config image).processor.boot.pipeline = { savedIp := config.entry }
      ∧ (wire config image).processor.boot.stages = {}
      ∧ (wire config image).processor.boot.registers = .reset config.entry := by
  obtain ⟨id, boot⟩ := (ready_wire config image).boot
  rw [boot]
  exact ⟨rfl, rfl, rfl⟩

/-- With other contents of the controller and the drive nothing is owed either. -/
lemma atRest_resumed (alone : (wire config image).processor.others = [])
    (controllerEnd : controller.terminal = (wire config image).processor.controller.terminal)
    (driveEnd : drive.terminal = (wire config image).disk.terminal)
    (unsent : controller.unsent = none) (reply : drive.reply = none) :
    (resumed config image registers controller drive).traffic.AtRest := by
  have new := atRest_wire config image
  obtain ⟨pipeline, stages, -⟩ := boot_wire config image
  refine ⟨new.wired.of_layout (layout_resumed controllerEnd driveEnd), new.idle, new.pending,
    fun core member => ?_, new.ram, ?_, fun device member => ?_⟩
  · change core ∈ _ :: (wire config image).processor.others at member
    rw [alone, List.mem_singleton] at member
    rw [member]
    exact Core.steady_of_vacant pipeline stages
  · change controller.owed = []
    rw [InterruptController.owed, unsent]
    rfl
  · simp only [traffic, List.mem_cons, List.not_mem_nil, or_false] at member
    rcases member with rfl | rfl | rfl | rfl
    · rfl
    · rfl
    · rfl
    · change drive.owed = []
      rw [DiskDrive.owed, reply]
      rfl

lemma paused_resumed (single : config.cores ≤ 1)
    (controllerEnd : controller.terminal = (wire config image).processor.controller.terminal)
    (driveEnd : drive.terminal = (wire config image).disk.terminal)
    (unsent : controller.unsent = none) (reply : drive.reply = none) (seated : drive.Seated)
    (quiet : drive.Resting ∨ controller.vector diskInterrupt = label 7)
    (loading : Loading words registers
      ⟨taken, drive.cursor, [], (resumed config image registers controller drive).Installed
        (wire config image).bus⟩) :
    (resumed config image registers controller drive).Paused words taken := by
  have alone : (wire config image).processor.others = [] :=
    ((ready_wire config image).inOrder single).alone
  have layout : (wire config image).traffic.Layout
      (resumed config image registers controller drive).traffic :=
    layout_resumed controllerEnd driveEnd
  obtain ⟨pipeline, stages, -⟩ := boot_wire config image
  have inside : (ports config 0).size + 1 < (ports config 4).size := by
    rw [size_ports, size_ports]
    omega
  exact {
    running := rfl
    alone := alone
    rest := atRest_resumed alone controllerEnd driveEnd unsent reply
    places := by
      rw [terminalOf_eq_of_layout layout]
      exact (seated_wire config image).of_layout layout
    loader := Rom.readWord_loader _ _
    wide := wide_wire config image _ inside
    seated := seated
    silent := ⟨rfl, rfl⟩
    quiet := quiet.imp (fun resting => resting) Or.inl
    lowered := InterruptLines.isRaised_quiet (max config.cores 1) _
    pipeline := ⟨config.entry, pipeline⟩
    stages := stages
    loading := loading }

end Resumed

/-- **A new machine with a packed program** is about to look up the first instruction of the boot
loader. -/
theorem paused_wire {config : MachineConfig} (single : config.cores ≤ 1)
    (entry : config.entry = romStart) {capacity : Nat} {image : DiskImage}
    (packs : DiskImage.ofProgram? capacity words = .ok image) :
    (wire config image).Paused words [] := by
  have packed := packed_ofProgram? packs
  obtain ⟨-, -, registers⟩ := boot_wire config image
  have drive : (wire config image).disk.cursor = .ofImage image := DiskDrive.cursor_reset _ _ _
  have seated : (wire config image).disk.Seated :=
    ⟨lt_of_le_of_lt (Nat.zero_le _) packed.room, Nat.zero_le _⟩
  change (resumed config image (wire config image).processor.boot.registers
    (wire config image).processor.controller (wire config image).disk).Paused words []
  refine paused_resumed single rfl rfl rfl rfl seated (Or.inl ⟨rfl, rfl⟩) ?_
  rw [drive]
  exact ⟨⟨packed, rfl⟩, 0, by rw [registers]; exact entry, rfl⟩

/-- The registers of the copy loop before it takes a word of a block from the disk. -/
def copyRegisters (words : Array Word) (block i : Nat) : RegisterFile :=
  (((((RegisterFile.reset (label 17)).set (register 0) (Int32.ofNat (size words))).set
    (register 1) (Int32.ofNat (block + 1))).set
    (register 2) (Int32.ofNat i)).set
    (register 3) (Int32.ofNat (4096 * block + i))).set
    (register 4) 4096

lemma begin_copyRegisters (words : Array Word) (block i : Nat) :
    (copyRegisters words block i).Begin [Int32.ofNat (size words), Int32.ofNat (block + 1),
      Int32.ofNat i, Int32.ofNat (4096 * block + i), 4096] := by
  have first := (RegisterFile.begin_nil (RegisterFile.reset (label 17))).push (by simp)
    (Int32.ofNat (size words))
  have second := first.push (by simp) (Int32.ofNat (block + 1))
  have third := second.push (by simp) (Int32.ofNat i)
  have fourth := third.push (by simp) (Int32.ofNat (4096 * block + i))
  exact fourth.push (by simp) 4096

/-- A machine whose boot loader has come to a word of a block. -/
def copying (config : MachineConfig) (image : DiskImage) (words : Array Word) (block : Nat)
    (i : Fin blockWords) : Machine :=
  resumed config image (copyRegisters words block i)
    ((wire config image).processor.controller.setVector diskInterrupt (label 7))
    { (wire config image).disk with
      current := block + 1
      block := image.read (block + 1)
      position := i }

/-- **A machine in the copy loop** has come there with the stores of all words before. -/
theorem paused_copying {config : MachineConfig} (single : config.cores ≤ 1) {capacity : Nat}
    {image : DiskImage} (packs : DiskImage.ofProgram? capacity words = .ok image)
    (few : 4096 * size words ≤ ramWords) {block : Nat} (inside : block < size words)
    (i : Fin blockWords) :
    (copying config image words block i).Paused words (stored words (4096 * block + i)) := by
  have packed := packed_ofProgram? packs
  have vector : ((wire config image).processor.controller.setVector diskInterrupt
      (label 7)).vector diskInterrupt = label 7 := by
    exact InterruptController.vector_setVector_eq _ (show Word.offset? vectorStart diskInterrupt
      = some 33 by decide) (by decide) (label 7) diskInterrupt
  have cursor : DiskDrive.cursor { (wire config image).disk with
      current := block + 1
      block := image.read (block + 1)
      position := i } = { CursorDisk.ofImage image with current := block + 1, position := i } := by
    simp only [DiskDrive.cursor, CursorDisk.ofImage, CursorDisk.mk.injEq, and_true]
    refine ⟨rfl, funext fun index => ?_⟩
    split_ifs with same
    · rw [same]
    · rfl
  have room : block + 1 < image.capacity := lt_of_le_of_lt inside packed.room
  have word : block + 1 ≤ Int32.maxValue.toNatClampNeg := by
    have largest : Int32.maxValue.toNatClampNeg = 2147483647 := rfl
    have memory : ramWords = 134217728 := rfl
    omega
  refine paused_resumed single rfl rfl rfl rfl ⟨room, word⟩ (Or.inr vector) ?_
  rw [cursor]
  have small : (i : Nat) < 4096 := i.isLt
  exact ⟨⟨⟨packed.header, packed.chunks, packed.room⟩, rfl⟩, 17, rfl, block, i, small,
    ⟨Or.inl vector, inside, rfl, (Nat.mod_eq_of_lt small).symm, rfl⟩,
    begin_copyRegisters words block i⟩

end Machine

/-! ## The program in main memory -/

/-- Requests that store nothing leave the words as they are. -/
lemma Message.leave_of_silent {messages : List Message}
    (silent : ∀ message ∈ messages, message.stored? = none) (words : Word → Word) :
    Message.leave words messages = words := by
  rw [Message.leave, List.filterMap_eq_nil_iff.mpr silent]
  rfl

/-- The stores of the copy loop leave the words, and zeros behind them. -/
lemma Boot.leave_stored (start : Word → Word) (words : Array Word) {count : Nat}
    (few : count ≤ ramWords) {i : Nat} (inside : i < count) :
    Message.leave start (stored words count) (ramStart + Int32.ofNat i) = words.getD i 0 := by
  induction count with
  | zero => omega
  | succ count ih =>
    rw [stored_succ, Message.leave_append]
    change Function.update (Message.leave start (stored words count))
      (ramStart + Int32.ofNat count) (words.getD count 0) _ = _
    rcases Nat.lt_succ_iff_lt_or_eq.mp inside with before | rfl
    · rw [Function.update_of_ne, ih (by omega) before]
      rw [ne_eq, ← Int32.toInt_inj, toInt_ramStart_add (by omega), toInt_ramStart_add (by omega)]
      omega
    · rw [Function.update_self]

namespace Machine

/-- What the boot loader has delivered when the core is about to look up the first word of main
memory. -/
structure Delivers (words : Array Word) (machine : Machine) (ticks : Nat) : Prop where
  stage : (machine.ticked ticks).processor.boot.stages.current = .dispatch
  /-- The stores that the core has issued to main memory are those of the copy loop. -/
  issued : machine.ramStores ticks = (stored words (4096 * size words)).map Message.address
  /-- Main memory has taken them, or they are on their way to it, and the core may have begun to
  fetch. -/
  arrivals : ∃ fetch, machine.arrivals ticks = stored words (4096 * size words) ++ fetch
    ∧ (fetch = [] ∨ fetch = [Message.read ramStart Fetch.blockWords])
  /-- Whatever main memory is asked for besides, it takes after all of them. -/
  ordered : ∀ later, machine.ramTakes later <+: stored words (4096 * size words)
    ∨ stored words (4096 * size words) <+: machine.ramTakes later
  /-- They leave the words of the program, and zeros up to the end of the last block.  There they
  are until main memory takes another store. -/
  leaves : ∀ later rest, machine.ramTakes later = stored words (4096 * size words) ++ rest →
    (∀ message ∈ rest, message.stored? = none) → ∀ i < 4096 * size words,
      (machine.ticked later).ram.readWord (ramStart + Int32.ofNat i) = words.getD i 0

/-- **Booting loads the packed program.**  A machine with one core, whatever its speeds and
latencies are, starts at the boot loader with a packed program on its disk.  No fault occurs before
the core comes to the first word of main memory; and when it is about to look it up for the first
time, every store that has been issued comes before that fetch at main memory, and together they
leave the words of the program there, and zeros behind them. -/
theorem boots_program (config : MachineConfig) (single : config.cores ≤ 1)
    (entry : config.entry = romStart) {capacity : Nat} {words : Array Word} {image : DiskImage}
    (packs : DiskImage.ofProgram? capacity words = .ok image)
    (few : 4096 * size words ≤ ramWords) (ticks : Nat)
    (before : ∀ earlier < ticks,
      ((wire config image).ticked earlier).processor.boot.registers.ip ≠ ramStart) :
    ((wire config image).ticked ticks).fault? = none
      ∧ (((wire config image).ticked ticks).processor.boot.registers.ip = ramStart →
        (wire config image).Delivers words ticks) := by
  have booting := (paused_wire single entry packs).booting
  have reachable := Reachable.wire config image
  rcases booting.ticked few ticks before with on | arrived
  · exact ⟨on.running, fun here => absurd here on.ip_ne⟩
  · refine ⟨arrived.running, fun _ => ⟨arrived.stage, arrived.issued, arrived.arrivals,
      fun later => ?_, fun later rest all silent i inside => ?_⟩⟩
    · obtain ⟨fetch, arrivals, -⟩ := arrived.arrivals
      exact comparable_ramTakes reachable single ⟨fetch, arrivals.symm⟩ later
    · rw [readWord_ticked reachable single, all, Message.leave_append,
        Message.leave_of_silent silent]
      exact leave_stored _ words few inside

/-- A disk of two blocks with a program of two words. -/
def pairImage : DiskImage := (DiskImage.ofProgram? 2 #[7, 8]).toOption.getD (.blank 2)

/-- The same machine when its boot loader has one more word to copy. -/
def pairLastWord : Machine := copying .fast pairImage #[7, 8] 0 ⟨4095, by decide⟩

/-- After 60 ticks the boot loader has sent off both handlers, and goes on to copy the words.  It
comes to the first word of main memory, and where its last word is still to be copied the machine
takes 129 ticks to do so. -/
theorem boots_program_pair :
    DiskImage.ofProgram? 2 #[7, 8] = .ok pairImage
      ∧ MachineConfig.fast.cores ≤ 1 ∧ MachineConfig.fast.entry = romStart
      ∧ 4096 * size #[7, 8] ≤ ramWords
      ∧ (∀ earlier < 60,
        ((wire .fast pairImage).ticked earlier).processor.boot.registers.ip ≠ ramStart)
      ∧ ((wire .fast pairImage).ticked 60).fault? = none
      ∧ (((wire .fast pairImage).ticked 60).processor.boot.registers.ip = ramStart →
        (wire .fast pairImage).Delivers #[7, 8] 60)
      ∧ (∃ steps ≤ 20 * (4096 * size #[7, 8] + 1), Arrives #[7, 8] (start pairImage) steps)
      ∧ (pairLastWord.ticked 129).AtRamStart #[7, 8]
        (stored #[7, 8] 4095 ++ pairLastWord.ramTakes 129)
        ((stored #[7, 8] 4095).map Message.address ++ pairLastWord.ramStores 129) := by
  have packs : DiskImage.ofProgram? 2 #[7, 8] = .ok pairImage := by
    obtain ⟨image, packs⟩ : ∃ image, DiskImage.ofProgram? 2 #[7, 8] = .ok image := ⟨_, rfl⟩
    rw [pairImage, packs]
    rfl
  have single : MachineConfig.fast.cores ≤ 1 := by decide
  have few : 4096 * size #[7, 8] ≤ ramWords := by decide
  have before : ∀ earlier < 60,
      ((wire .fast pairImage).ticked earlier).processor.boot.registers.ip ≠ ramStart := by
    decide +kernel
  have copies : ∀ earlier < 129,
      (pairLastWord.ticked earlier).processor.boot.registers.ip ≠ ramStart := by
    decide +kernel
  have here : (pairLastWord.ticked 129).processor.boot.registers.ip = ramStart := by
    decide +kernel
  have paused : pairLastWord.Paused #[7, 8] (stored #[7, 8] 4095) :=
    paused_copying single packs few (by decide) ⟨4095, by decide⟩
  have arrived := (paused.booting.ticked few 129 copies).resolve_left fun on => on.ip_ne here
  obtain ⟨running, delivers⟩ := boots_program .fast single rfl packs few 60 before
  exact ⟨packs, single, rfl, few, before, running, delivers, exists_arrives_start packs few,
    arrived⟩

end Machine

end PipelinedMachine
