import Mathlib.Data.Finset.Card
import PipelinedMachine.Proofs.Device.Cursor
import PipelinedMachine.Proofs.Machine.Requests

/-!
# Who moves the disk on

Each access to the data register of the disk drive moves the drive on to the next word of its block.
An access is a message that a core has sent, and nothing on its way to the drive makes two of one.
So in a machine with one core every step of the drive uses up an access that the core has sent.

* `DiskDrive.Stepped`, `DiskDrive.Round.stepped_iff` — a turn has moved the drive on, which takes an
  access to the register;
* `Traffic.carriers`, `Traffic.Descent.card_carriers_le` — how many accesses are on their way, which
  no turn but a core's makes more;
* `Machine.DiskTurn` — the drive's turn in the course of a tick;
* **`Machine.account_tick`** — in a tick, every step of the drive is paid for.
-/

namespace PipelinedMachine

open Interconnect

/-! ## The drive -/

namespace DiskDrive

variable {drive later : DiskDrive} {message : Message}

/-- The drive has moved on to the next word of its block.  A seek moves it too, but then the drive
is busy afterwards. -/
def Stepped (drive later : DiskDrive) : Prop :=
  later.position = drive.step.position ∧ later.seeking = 0

instance (drive later : DiskDrive) : Decidable (drive.Stepped later) :=
  inferInstanceAs (Decidable (_ ∧ _))

lemma not_stepped (same : later.position = drive.position) : ¬drive.Stepped later := by
  rintro ⟨moved, -⟩
  rw [same] at moved
  have numbers : drive.position.val = (drive.position + 1).val := congrArg Fin.val moved
  rw [Fin.val_add] at numbers
  have inside : drive.position.val < 4096 := drive.position.isLt
  simp [blockWords] at numbers
  omega

lemma not_stepped_seek (drive : DiskDrive) (number : Word) :
    ¬drive.Stepped (drive.seek number) := by
  rcases drive.seek_cases number with ⟨-, -, moved⟩ | ⟨-, same⟩
  · rintro ⟨-, idle⟩
    rw [moved] at idle
    have largest : (if drive.flush.timings.seek ≤ 1 then 1 else drive.flush.timings.seek) = 0 :=
      idle
    split_ifs at largest with short
    · contradiction
    · exact short (by rw [largest]; decide)
  · rw [same]
    exact not_stepped rfl

lemma access?_eq_diskData_iff : message.access? = some AddressMap.diskData
    ↔ (message.kind? = some .read ∨ message.kind? = some .write)
      ∧ message.address = AddressMap.diskData := by
  have somewhere : (0 : Word) ≠ AddressMap.diskData := by decide
  rw [Message.access?, Message.address]
  cases message.address? <;> split_ifs with kind <;> simp [kind, somewhere]

/-- **A request moves a drive on if it reads or writes the data register**, and only then. -/
lemma stepped_handle (idle : drive.seeking = 0) (message : Message) :
    drive.Stepped (drive.handle message) ↔ message.access? = some AddressMap.diskData := by
  have seeks : AddressMap.diskData ≠ AddressMap.diskSeek := by decide
  have silences : AddressMap.diskData ≠ AddressMap.diskAcknowledge := by decide
  rw [access?_eq_diskData_iff]
  by_cases data : message.address = AddressMap.diskData
  · rw [handle]
    split
    · next writes =>
      rw [data, handleWrite, if_neg seeks, if_neg silences, if_pos rfl, writes]
      exact iff_of_true ⟨rfl, idle⟩ ⟨Or.inr rfl, rfl⟩
    · next reads =>
      rw [data, handleRead, if_pos rfl, reads]
      exact iff_of_true ⟨rfl, idle⟩ ⟨Or.inl rfl, rfl⟩
    all_goals next other => exact iff_of_false (not_stepped rfl) (by simp [other])
  · refine iff_of_false ?_ fun access => data access.2
    rw [handle]
    split
    · rw [handleWrite, if_neg data]
      split_ifs
      · exact drive.not_stepped_seek _
      · exact not_stepped rfl
      · exact not_stepped rfl
    · rw [handleRead, if_neg data]
      split_ifs <;> exact not_stepped rfl
    all_goals exact not_stepped rfl

/-- A turn moves a drive on if the request that it takes reads or writes the data register. -/
lemma Round.stepped_iff {taken : Option Message} (round : drive.Round taken later) :
    drive.Stepped later ↔ ∃ message ∈ taken, message.access? = some AddressMap.diskData := by
  cases round with
  | passed | rested => exact iff_of_false (not_stepped rfl) (by simp)
  | served message interrupting reply rest =>
    have idle : ({ drive.countDown with interrupting } : DiskDrive).seeking = 0 := rest.1
    have handled := stepped_handle idle message
    exact handled.trans (by simp)

end DiskDrive

/-! ## Accesses on their way -/

namespace Traffic

variable {traffic later : Traffic} {after bus : Interconnect} {ways : List Terminal}
  {way : Terminal} {address : Word}

/-- The ways on which an address is read or written. -/
def carriers (ways : List Terminal) (address : Word) (bus : Interconnect) : Finset Terminal :=
  ways.toFinset.filter fun way => (bus.carried? way).bind Message.access? = some address

lemma mem_carriers : way ∈ carriers ways address bus
    ↔ way ∈ ways ∧ (bus.carried? way).bind Message.access? = some address := by
  simp [carriers]

/-- What happens on the ways does not make accesses more. -/
lemma Descent.card_carriers_le (descent : traffic.Descent after) (address : Word) :
    (carriers traffic.ways address after).card
      ≤ (carriers traffic.ways address traffic.bus).card := by
  cases descent with
  | still same =>
    refine Finset.card_le_card fun way inside => ?_
    obtain ⟨on, carries⟩ := mem_carriers.mp inside
    exact mem_carriers.mpr ⟨on, same way on ▸ carries⟩
  | left source message _ _ _ gone apart =>
    refine Finset.card_le_card fun way inside => ?_
    obtain ⟨on, carries⟩ := mem_carriers.mp inside
    have away : way ≠ source := by
      rintro rfl
      simp [gone] at carries
    exact mem_carriers.mpr ⟨on, apart way on away ▸ carries⟩
  | passed source target message on out distinct _ before gone _ came apart =>
    -- the way that the message has come to stands for the one that it came from
    refine Finset.card_le_card_of_injOn (fun way => if way = target then source else way) ?_ ?_
    · intro way inside
      obtain ⟨member, carries⟩ := mem_carriers.mp inside
      simp only
      split_ifs with here
      · rw [here, came] at carries
        exact mem_carriers.mpr ⟨on, by rw [before]; exact carries⟩
      · have away : way ≠ source := by
          rintro rfl
          simp [gone] at carries
        exact mem_carriers.mpr ⟨member, apart way member away here ▸ carries⟩
    · have left (way : Terminal) (inside : way ∈ carriers traffic.ways address after) :
          way ≠ source := by
        rintro rfl
        simpa [gone] using (mem_carriers.mp inside).2
      intro way inside other member same
      simp only at same
      split_ifs at same with here there there
      · rw [here, there]
      · exact absurd same.symm (left other member)
      · exact absurd same (left way inside)
      · exact same
  | signalled message interrupt _ came apart =>
    refine Finset.card_le_card fun way inside => ?_
    obtain ⟨on, carries⟩ := mem_carriers.mp inside
    have away : way ≠ traffic.router.terminal .controller := by
      rintro rfl
      simp [came, Message.access?_of_interrupt interrupt] at carries
    exact mem_carriers.mpr ⟨on, apart way on away ▸ carries⟩

/-- A core's turn makes accesses more by what it sends. -/
lemma card_carriers_le_of_sent {near : Terminal} {taken sent : Option Message}
    (handled : Handled near bus after taken sent)
    (apart : ∀ way ∈ ways, way ≠ near → after.carried? way = bus.carried? way) (address : Word) :
    (carriers ways address after).card ≤ (carriers ways address bus).card
      + if sent.bind Message.access? = some address then 1 else 0 := by
  have before (way : Terminal) (away : way ≠ near)
      (inside : way ∈ carriers ways address after) : way ∈ carriers ways address bus := by
    obtain ⟨on, carries⟩ := mem_carriers.mp inside
    exact mem_carriers.mpr ⟨on, apart way on away ▸ carries⟩
  split_ifs with sends
  · refine (Finset.card_le_card fun way inside => ?_).trans (Finset.card_insert_le near _)
    by_cases here : way = near
    · exact Finset.mem_insert.mpr (Or.inl here)
    · exact Finset.mem_insert_of_mem (before way here inside)
  · rw [Nat.add_zero]
    refine Finset.card_le_card fun way inside => ?_
    by_cases here : way = near
    · subst here
      obtain ⟨on, carries⟩ := mem_carriers.mp inside
      rw [handled.carried?_near] at carries
      refine mem_carriers.mpr ⟨on, ?_⟩
      cases sent with
      | none => exact carries
      | some message => exact absurd carries sends
    · exact before way here inside

/-- An access that is taken is no longer on its way. -/
lemma card_carriers_lt_of_taken {near : Terminal} {message : Message} {sent : Option Message}
    (handled : Handled near bus after (some message) sent) (on : near.peer ∈ ways)
    (apart : ∀ way ∈ ways, way ≠ near.peer → after.carried? way = bus.carried? way)
    (access : message.access? = some address) :
    (carriers ways address after).card < (carriers ways address bus).card := by
  refine Finset.card_lt_card ((Finset.ssubset_iff_of_subset fun way inside => ?_).mpr
    ⟨near.peer, ?_, fun inside => ?_⟩)
  · obtain ⟨member, carries⟩ := mem_carriers.mp inside
    have away : way ≠ near.peer := by
      rintro rfl
      simp [handled.carried?_peer] at carries
    exact mem_carriers.mpr ⟨member, apart way member away ▸ carries⟩
  · exact mem_carriers.mpr ⟨on, by simpa [handled.carried?_of_taken] using access⟩
  · simpa [handled.carried?_peer] using (mem_carriers.mp inside).2

/-- A drive that moves on takes an access to its data register off the ways. -/
lemma Regular.card_carriers_disk {drive : DiskDrive} {left right : List Peripheral}
    (regular : traffic.Regular) (place : traffic.devices = left ++ .disk drive :: right) :
    (if drive.Stepped (drive.tick traffic.bus).1 then 1 else 0)
        + (carriers traffic.ways AddressMap.diskData
            ((Peripheral.disk drive).tick traffic.bus).2).card
      ≤ (carriers traffic.ways AddressMap.diskData traffic.bus).card := by
  obtain ⟨request, announced, answered, visit, round⟩ := drive.visit_round traffic.bus
  split_ifs with stepped
  · obtain ⟨message, rfl, access⟩ := round.stepped_iff.mp stepped
    have port : drive.terminal.peer ∈ traffic.ways :=
      port_mem_ways (regular.device_mem_ports
        (show Peripheral.disk drive ∈ traffic.devices by simp [place]))
    have handled := visit.handled
    rw [← Terminal.peer_peer drive.terminal] at handled
    have fewer := card_carriers_lt_of_taken visit.handled port
      (fun way => regular.wired.carried?_of_handled port handled) access
    rw [Nat.add_comm]
    exact fewer
  · rw [Nat.zero_add]
    exact ((Falls.device place).descent regular).card_carriers_le _

/-- One move other than a core's after the other. -/
abbrev Fall : Traffic → Traffic → Prop := Relation.ReflTransGen Falls

lemma Fall.moves (fall : Fall traffic later) : Moves traffic later :=
  fall.lift id fun _ _ => Falls.move

lemma Fall.card_carriers_le (fall : Fall traffic later) (regular : traffic.Regular)
    (address : Word) :
    (carriers later.ways address later.bus).card
      ≤ (carriers traffic.ways address traffic.bus).card := by
  induction fall with
  | refl => exact Nat.le_refl _
  | tail before falls ih =>
    refine le_trans ?_ ih
    rw [falls.move.layout.ways_eq]
    exact (falls.descent (regular.moves (Fall.moves before))).card_carriers_le address

lemma fall_router (traffic : Traffic) :
    Fall traffic
      { traffic with
        router := (traffic.router.tick traffic.bus).1
        bus := (traffic.router.tick traffic.bus).2 } :=
  chain_router (fun _ _ => .request) Falls.reply traffic

end Traffic

/-! ## Ticks -/

namespace Machine

open Traffic

variable {machine later : Machine}

/-- The drive's turn in a tick, or in the rest of one.  All that comes before it and after it are
moves other than the cores'. -/
structure DiskTurn (start : Traffic) (drive : DiskDrive) (later : Machine) : Prop where
  split : ∃ (before : Traffic) (left : List Peripheral),
    before.devices = left ++ [.disk drive] ∧ Fall start before
      ∧ later.disk = (drive.tick before.bus).1
      ∧ Fall
          { before with
            devices := left ++ [((Peripheral.disk drive).tick before.bus).1]
            bus := ((Peripheral.disk drive).tick before.bus).2 }
          later.traffic

lemma diskTurn_tickDevices (machine : Machine) :
    DiskTurn machine.traffic machine.disk machine.tickDevices :=
  ⟨chain_tickDevices Falls.ram Falls.hubRequest Falls.hubReply
    (fun _ _ _ _ place => Falls.device place) Falls.links machine⟩

/-- What the boot core sends in a tick. -/
def sent? (machine : Machine) : Option Message :=
  Message.newly? (machine.bus.carried? machine.processor.boot.terminal)
    ((machine.processor.boot.tick machine.environment).2.1.bus.carried?
      machine.processor.boot.terminal)

/-- The only core comes first in a tick, and after it everything falls. -/
lemma diskTurn_tick {outcome : TickOutcome} (live : machine.tick.2 = .ok outcome)
    (alone : machine.processor.others = []) :
    DiskTurn machine.booted machine.disk machine.tick.1 := by
  obtain ⟨config, bus, ⟨boot, others, router, controller, lines⟩, ram, hub, rom, display, disk,
    keyboard, counters, fault?, ticks⟩ := machine
  obtain rfl : others = [] := alone
  cases fault? with
  | some fault => simp [tick] at live
  | none =>
    simp only [booted, environment, tick, Processor.tick, Processor.tickAll] at live ⊢
    generalize boot.tick ⟨bus, lines, counters⟩ = turn at live ⊢
    obtain ⟨boot', ⟨bus', lines', counters'⟩, fault | breakpoint⟩ := turn
    · simp at live
    · simp only [Processor.tickCores]
      have routed := (fall_router ⟨bus', lines', router, [boot'], ram, controller, hub,
        [.rom rom, .display display, .keyboard keyboard, .disk disk]⟩).tail (Falls.controller _)
      generalize machine_eq : (⟨config, _, _, ram, hub, rom, display, disk, keyboard,
        counters', none, ticks⟩ : Machine) = machine
      obtain ⟨before, left, place, fall, taken, rest⟩ := (diskTurn_tickDevices machine).split
      subst machine_eq
      exact ⟨before, left, place, routed.trans fall, taken, rest⟩

/-- The boot core's turn is the first move of a tick. -/
lemma move_booted {outcome : TickOutcome} (live : machine.tick.2 = .ok outcome) :
    Move machine.traffic machine.booted := by
  obtain ⟨between, breakpoint, turn⟩ := (turns_tick live).boot
  simp only [booted, turn]
  exact .core [] _ _ _ _ _ breakpoint rfl turn

/-- In that turn accesses grow more by what the core sends. -/
lemma card_carriers_booted {outcome : TickOutcome} (regular : machine.traffic.Regular)
    (live : machine.tick.2 = .ok outcome) (address : Word) :
    (carriers machine.booted.ways address machine.booted.bus).card
      ≤ (carriers machine.traffic.ways address machine.bus).card
        + if machine.sent?.bind Message.access? = some address then 1 else 0 := by
  obtain ⟨between, breakpoint, turn⟩ := (turns_tick live).boot
  obtain ⟨taken, sent, handled, apart⟩ :=
    regular.core_turn (show machine.traffic.cores
      = [] ++ machine.processor.boot :: machine.processor.others from rfl) turn
  have same : machine.sent? = sent := by
    rw [sent?, turn]
    exact handled.newly?_carried?
  rw [(move_booted live).layout.ways_eq, same]
  simp only [booted, turn]
  exact card_carriers_le_of_sent handled apart _

/-- **In a tick, every step of the drive is paid for**: by an access to the data register that was
on its way, or by one that the core has sent. -/
theorem account_tick {outcome : TickOutcome} (regular : machine.traffic.Regular)
    (live : machine.tick.2 = .ok outcome) (alone : machine.processor.others = []) :
    (if machine.disk.Stepped machine.tick.1.disk then 1 else 0)
        + (carriers machine.tick.1.traffic.ways AddressMap.diskData machine.tick.1.bus).card
      ≤ (carriers machine.traffic.ways AddressMap.diskData machine.bus).card
        + if machine.sent?.bind Message.access? = some AddressMap.diskData then 1 else 0 := by
  obtain ⟨before, left, place, fall, taken, rest⟩ := (diskTurn_tick live alone).split
  have regular_booted := regular.move (move_booted live)
  have regular_before := regular_booted.moves fall.moves
  have moved : Move before _ := .device left [] _ place
  -- from the end of the tick back to its beginning
  have last := rest.card_carriers_le (regular_before.move moved) AddressMap.diskData
  rw [moved.layout.ways_eq] at last
  have drive := regular_before.card_carriers_disk place
  rw [← taken] at drive
  calc _ ≤ _ := Nat.add_le_add_left last _
    _ ≤ _ := drive
    _ ≤ _ := fall.card_carriers_le regular_booted AddressMap.diskData
    _ ≤ _ := card_carriers_booted regular live AddressMap.diskData

end Machine

end PipelinedMachine
