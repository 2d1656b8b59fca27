import Mathlib.Data.Nat.Count
import PipelinedMachine.Proofs.Core.Frontier
import PipelinedMachine.Proofs.Device.FlatMemory
import PipelinedMachine.Proofs.Machine.DiskData
import PipelinedMachine.Proofs.Machine.Service

/-!
# What reading ahead does to the disk

The disk drive cannot tell a program that reads its data register from a fetch unit that reads ahead
across the end of main memory.  So in a whole run the drive moves on no more often than both of them
ask it to, and fetch asks only once the instruction pointer has come close enough.  It does then,
even if no instruction has anything to do with the disk.

* `Machine.diskSteps`, `Machine.dataAccesses`, `Machine.blockReads` — how often, in a run;
* `Machine.Reachable.accesses_cases` — an access that is not fetch's reading ahead is one for an
  instruction that is being executed or for a handler that is being looked for;
* `Machine.account_act`, `Machine.keepsOff_act` — in a step;
* **`Machine.diskSteps_le`** — in every run with one core, the drive's steps are paid for;
* `Machine.diskSteps_spinning` — four instructions in front of the data register, fetch pays.
-/

namespace PipelinedMachine

open Interconnect

/-! ## Main memory -/

namespace Ram

variable {ram : Ram} {bus : Interconnect} {message : Message}

/-- Memory that is idle and gets no message does nothing. -/
lemma tick_of_quiet (idle : ram.service = .idle) (quiet : bus.message? ram.terminal = none) :
    ram.tick bus = (ram, bus) := by
  simp [tick, accept, isBusy, serve, idle, quiet]

/-- Memory that is idle takes a read and has its answer at once; this tick is one of those that the
access takes. -/
lemma tick_of_read (idle : ram.service = .idle) (waits : bus.message? ram.terminal = some message)
    (reads : message.kind? = some .read) (slow : 0 < ram.latency) :
    (ram.tick bus).1 =
      { ram with
        service := .answering ⟨ram.latency - 1,
          replyFrom ram.readWord message.address
            (replyCount bus ram.terminal message.count)⟩ } := by
  simp [tick, accept, isBusy, idle, waits, take, reads, serve, PendingReply.tick, slow]

end Ram

namespace Machine

open Traffic

variable {machine : Machine}

/-- The links when main memory has its turn. -/
def beforeRam (machine : Machine) : Interconnect :=
  (machine.processor.tick machine.bus machine.counters).2.1

lemma ram_tick (running : machine.tick.1.fault? = none) :
    machine.tick.1.ram = (machine.ram.tick machine.beforeRam).1 := by
  obtain ⟨config, bus, processor, ram, hub, rom, display, disk, keyboard, counters, fault?,
    ticks⟩ := machine
  cases fault? with
  | some fault => simp [tick] at running
  | none =>
    simp only [tick, beforeRam] at running ⊢
    split at running
    · simp at running
    · next after =>
      rw [after]
      rfl

/-! ## Steps of a run -/

/-- What the boot core sends in a step.  A machine that a fault has stopped sends nothing. -/
def issued? (machine : Machine) : MachineAction → Option Message
  | .tick => if machine.fault?.isNone then machine.sent? else none
  | .load .. | .press _ | .raiseInterrupt _ => none

/-- Fetch asks for the block of instructions at the data register. -/
def ReadsBlock (machine : Machine) (action : MachineAction) : Prop :=
  machine.issued? action = some (Message.read AddressMap.diskData Fetch.blockWords)

/-- The core reads or writes the data register, but not for a block of instructions.  It does so for
an instruction or to find a handler (`Reachable.accesses_cases`). -/
def Accesses (machine : Machine) (action : MachineAction) : Prop :=
  (machine.issued? action).bind Message.access? = some AddressMap.diskData
    ∧ ¬machine.ReadsBlock action

instance (machine : Machine) (action : MachineAction) : Decidable (machine.ReadsBlock action) :=
  inferInstanceAs (Decidable (_ = _))

instance (machine : Machine) (action : MachineAction) : Decidable (machine.Accesses action) :=
  inferInstanceAs (Decidable (_ ∧ _))

/-- An access to the data register is one or the other. -/
lemma issued?_cases (machine : Machine) (action : MachineAction) :
    (if (machine.issued? action).bind Message.access? = some AddressMap.diskData then 1 else 0)
      = (if machine.Accesses action then 1 else 0)
        + if machine.ReadsBlock action then 1 else 0 := by
  by_cases block : machine.ReadsBlock action
  · have access : (machine.issued? action).bind Message.access? = some AddressMap.diskData := by
      rw [show machine.issued? action = _ from block]
      rfl
    rw [if_pos access, if_pos block, if_neg fun accesses => accesses.2 block]
  · simp [Accesses, block]

/-- An access that is not the read of a block is one for an instruction in its unit, or for the search
for a handler. -/
theorem Reachable.accesses_cases {action : MachineAction} (reachable : machine.Reachable)
    (few : machine.config.cores ≤ 32) (accesses : machine.Accesses action) :
    machine.searching ≠ none ∨ machine.processor.boot.stages.current = .execution := by
  obtain ⟨access, other⟩ := accesses
  obtain ⟨message, issued, access⟩ := Option.bind_eq_some_iff.mp access
  cases action with
  | load | press | raiseInterrupt => simp [issued?] at issued
  | tick =>
    have sends : machine.sent? = some message := by
      rw [issued?] at issued
      split at issued
      · exact issued
      · simp at issued
    have steady : machine.processor.boot.Steady :=
      ((reachable.sound few).lanes machine.processor.boot
        (by simp [traffic, Processor.cores])).steady
    refine (steady.sent_cases machine.environment sends).resolve_left ?_
    rintro ⟨block, rfl⟩
    obtain rfl : block = AddressMap.diskData := (DiskDrive.access?_eq_diskData_iff.mp access).2
    exact other issued

/-- A step of a machine that is running leaves it running, or stops it before the drive has had its
turn. -/
lemma act_cases (running : machine.fault? = none) (action : MachineAction) :
    machine.Survives action ∧ (machine.act action).fault? = none
      ∨ (machine.act action).fault? ≠ none ∧ (machine.act action).disk = machine.disk := by
  obtain ⟨config, bus, processor, ram, hub, rom, display, disk, keyboard, counters, fault?,
    ticks⟩ := machine
  obtain rfl : fault? = none := running
  cases action with
  | load | press | raiseInterrupt => exact Or.inl ⟨by simp [Survives], rfl⟩
  | tick =>
    simp only [Survives, act, tick]
    split
    · exact Or.inr ⟨by simp, rfl⟩
    · exact Or.inl ⟨fun _ => ⟨_, rfl⟩, rfl⟩

/-- Nothing happens any more in a machine that has been stopped. -/
lemma act_of_stopped (stopped : machine.fault? ≠ none) (action : MachineAction) :
    (machine.act action).fault? ≠ none ∧ (machine.act action).disk = machine.disk := by
  cases action with
  | load | press | raiseInterrupt => exact ⟨stopped, rfl⟩
  | tick =>
    obtain ⟨config, bus, processor, ram, hub, rom, display, disk, keyboard, counters, fault?,
      ticks⟩ := machine
    cases fault? with
    | none => contradiction
    | some fault => exact ⟨stopped, rfl⟩

/-- In a step that does not end in a fault, every step of the drive is paid for. -/
lemma account_act {action : MachineAction} (regular : machine.traffic.Regular)
    (running : machine.fault? = none) (survives : machine.Survives action)
    (alone : machine.processor.others = []) :
    (if machine.disk.Stepped (machine.act action).disk then 1 else 0)
        + (carriers (machine.act action).traffic.ways AddressMap.diskData
            (machine.act action).bus).card
      ≤ (carriers machine.traffic.ways AddressMap.diskData machine.bus).card
        + ((if machine.Accesses action then 1 else 0)
          + if machine.ReadsBlock action then 1 else 0) := by
  rw [← issued?_cases]
  cases action with
  | load | press | raiseInterrupt =>
    rw [if_neg (show ¬machine.disk.Stepped (machine.act _).disk from DiskDrive.not_stepped rfl),
      (Moves.layout (moves_act survives)).ways_eq, Nat.zero_add]
    exact Nat.le_add_right _ _
  | tick =>
    obtain ⟨outcome, live⟩ := survives rfl
    have sends : machine.issued? .tick = machine.sent? := by simp [issued?, running]
    rw [sends]
    exact account_tick regular live alone

/-- With one core there are no others. -/
lemma Reachable.others_eq_nil (reachable : machine.Reachable) (single : machine.config.cores ≤ 1) :
    machine.processor.others = [] := by
  induction reachable with
  | wire config image =>
    have none : config.cores - 1 = 0 := by
      have := show config.cores ≤ 1 from single
      omega
    change (Processor.addCores 1 config.corePeriod config.entry (config.cores - 1) _ _).1 = []
    rw [none]
    rfl
  | @act machine before action survives alone =>
    rw [config_act] at single
    have cores := congrArg List.length (Moves.layout (moves_act survives)).cores
    rw [List.length_map, List.length_map] at cores
    simp only [traffic, Processor.cores, List.length_cons, alone single, List.length_nil] at cores
    exact List.eq_nil_of_length_eq_zero (by omega)

/-- In a step of a running machine the boot core has its turn, if the step is a tick. -/
lemma boot_tick (running : machine.fault? = none) :
    (machine.act .tick).processor.boot
      = (machine.processor.boot.tick machine.environment).1 := by
  obtain ⟨config, bus, ⟨boot, others, router, controller, lines⟩, ram, hub, rom, display, disk,
    keyboard, counters, fault?, ticks⟩ := machine
  obtain rfl : fault? = none := running
  simp only [act, tick, Processor.tick, Processor.tickAll, environment]
  generalize boot.tick ⟨bus, lines, counters⟩ = turn
  obtain ⟨boot', rest, fault | breakpoint⟩ := turn
  · rfl
  · simp only
    generalize Processor.tickCores others rest = turns
    obtain ⟨others', rest', fault | breakpoint'⟩ := turns <;> rfl

/-- As long as the instruction pointer stays away, a step does not ask for the block at the data
register, and the next one will not either. -/
lemma keepsOff_act {action : MachineAction} (running : machine.fault? = none)
    (off : machine.processor.boot.KeepsOff AddressMap.diskData)
    (before : machine.processor.boot.registers.ip ∉ Fetch.approach AddressMap.diskData)
    (afterwards : (machine.act action).processor.boot.registers.ip
      ∉ Fetch.approach AddressMap.diskData) :
    ¬machine.ReadsBlock action
      ∧ (machine.Survives action →
        (machine.act action).processor.boot.KeepsOff AddressMap.diskData) := by
  cases action with
  | load | press | raiseInterrupt => exact ⟨by simp [ReadsBlock, issued?], fun _ => off⟩
  | tick =>
    rw [boot_tick running] at afterwards
    obtain ⟨silent, kept⟩ := off.tick machine.environment before afterwards
    refine ⟨fun asks => silent ?_, fun survives => ?_⟩
    · have sends : machine.issued? .tick = machine.sent? := by simp [issued?, running]
      exact sends.symm.trans asks
    · obtain ⟨outcome, live⟩ := survives rfl
      obtain ⟨rest, breakpoint, turn⟩ := (turns_tick live).boot
      rw [boot_tick running]
      exact kept breakpoint (by rw [turn])

/-! ## Runs -/

section Runs

variable (machine : Machine) (action : Nat → MachineAction)

/-- How often the drive has moved on to the next word of its block in the first `k` steps. -/
def diskSteps (k : Nat) : Nat :=
  Nat.count (fun j => (machine.after action j).disk.Stepped (machine.after action (j + 1)).disk) k

/-- How often an instruction or the search for a handler has read or written the data register. -/
def dataAccesses (k : Nat) : Nat :=
  Nat.count (fun j => (machine.after action j).Accesses (action j)) k

/-- How often fetch has asked for the block of instructions at the data register. -/
def blockReads (k : Nat) : Nat :=
  Nat.count (fun j => (machine.after action j).ReadsBlock (action j)) k

lemma diskSteps_zero : machine.diskSteps action 0 = 0 := Nat.count_zero _

lemma diskSteps_succ (k : Nat) : machine.diskSteps action (k + 1) = machine.diskSteps action k
    + if (machine.after action k).disk.Stepped ((machine.after action k).act (action k)).disk
      then 1 else 0 := Nat.count_succ _ k

lemma dataAccesses_succ (k : Nat) : machine.dataAccesses action (k + 1)
    = machine.dataAccesses action k
      + if (machine.after action k).Accesses (action k) then 1 else 0 := Nat.count_succ _ k

lemma blockReads_succ (k : Nat) : machine.blockReads action (k + 1) = machine.blockReads action k
    + if (machine.after action k).ReadsBlock (action k) then 1 else 0 := Nat.count_succ _ k

lemma config_after (k : Nat) : (machine.after action k).config = machine.config := by
  induction k with
  | zero => rfl
  | succ k ih => exact (config_act _ _).trans ih

end Runs

variable {config : MachineConfig} {image : DiskImage} {action : Nat → MachineAction} {k : Nat}

/-- As long as the machine runs, there is an access for every step that the drive has made, and for
every one on its way. -/
lemma account_after (single : config.cores ≤ 1) (k : Nat) :
    (((wire config image).after action k).fault? = none →
      ((wire config image).after action k).Reachable
        ∧ (wire config image).diskSteps action k
            + (carriers ((wire config image).after action k).traffic.ways AddressMap.diskData
                ((wire config image).after action k).bus).card
          ≤ (wire config image).dataAccesses action k + (wire config image).blockReads action k)
      ∧ (wire config image).diskSteps action k
        ≤ (wire config image).dataAccesses action k + (wire config image).blockReads action k := by
  induction k with
  | zero =>
    have none : carriers (wire config image).traffic.ways AddressMap.diskData
        (wire config image).bus = ∅ := by
      refine Finset.eq_empty_of_forall_notMem fun way inside => ?_
      have idle : (wire config image).bus.carried? way = none := idle_ports config 4 way
      simpa [idle] using (mem_carriers.mp inside).2
    refine ⟨fun _ => ⟨.wire config image, ?_⟩, ?_⟩
    · rw [diskSteps_zero, after, none, Finset.card_empty]
      exact Nat.zero_le _
    · rw [diskSteps_zero]
      exact Nat.zero_le _
  | succ k ih =>
    obtain ⟨ongoing, paid⟩ := ih
    have same := (wire config image).config_after action k
    rw [diskSteps_succ, dataAccesses_succ, blockReads_succ, after]
    generalize (wire config image).after action k = machine at ongoing paid same ⊢
    by_cases running : machine.fault? = none
    · obtain ⟨reachable, account⟩ := ongoing running
      rcases machine.act_cases running (action k) with ⟨survives, -⟩ | ⟨stopped, still⟩
      · have alone := reachable.others_eq_nil
          ((congrArg MachineConfig.cores same).trans_le single)
        have step := account_act reachable.regular running survives alone
        exact ⟨fun _ => ⟨reachable.act _ survives, by omega⟩, by omega⟩
      · rw [if_neg (DiskDrive.not_stepped (by rw [still]))]
        exact ⟨fun runs => absurd runs stopped, by omega⟩
    · obtain ⟨stopped, still⟩ := machine.act_of_stopped running (action k)
      rw [if_neg (DiskDrive.not_stepped (by rw [still]))]
      exact ⟨fun runs => absurd runs stopped, by omega⟩

/-- As long as the instruction pointer stays away from the four instructions in front of the data
register and from the register, fetch does not ask for the block there. -/
lemma keepsOff_after (k : Nat)
    (away : ∀ j ≤ k, ((wire config image).after action j).processor.boot.registers.ip
      ∉ Fetch.approach AddressMap.diskData) :
    (((wire config image).after action k).fault? = none →
        ((wire config image).after action k).processor.boot.KeepsOff AddressMap.diskData)
      ∧ (wire config image).blockReads action k = 0 := by
  induction k with
  | zero => exact ⟨fun _ => Core.keepsOff_reset _ _ _ _, Nat.count_zero _⟩
  | succ k ih =>
    obtain ⟨off, unread⟩ := ih fun j inside => away j (by omega)
    have before := away k (by omega)
    have afterwards := away (k + 1) (Nat.le_refl _)
    rw [blockReads_succ, unread]
    rw [after] at afterwards ⊢
    generalize (wire config image).after action k = machine at off before afterwards ⊢
    by_cases running : machine.fault? = none
    · obtain ⟨silent, kept⟩ := keepsOff_act running (off running) before afterwards
      rw [if_neg silent]
      refine ⟨fun runs => kept ?_, rfl⟩
      exact ((machine.act_cases running (action k)).resolve_right fun stops => stops.1 runs).1
    · have silent : ¬machine.ReadsBlock (action k) := by
        cases action k <;> simp [ReadsBlock, issued?, Option.isNone_iff_eq_none, running]
      rw [if_neg silent]
      exact ⟨fun runs => absurd runs (machine.act_of_stopped running (action k)).1, rfl⟩

/-- **Every step of the drive is paid for by an access to its data register**: one by an instruction
or by the search for a handler, or one by fetch, which reads a block of instructions there.  Fetch
does so only if the instruction pointer has stood at one of the four instructions in front of the
register, or at the register itself. -/
theorem diskSteps_le (config : MachineConfig) (image : DiskImage)
    (action : Nat → MachineAction) (single : config.cores ≤ 1) (k : Nat) :
    (wire config image).diskSteps action k
        ≤ (wire config image).dataAccesses action k + (wire config image).blockReads action k
      ∧ ((∀ j ≤ k, ((wire config image).after action j).processor.boot.registers.ip
            ∉ Fetch.approach AddressMap.diskData) →
          (wire config image).blockReads action k = 0
            ∧ (wire config image).diskSteps action k
              ≤ (wire config image).dataAccesses action k) := by
  have paid : (wire config image).diskSteps action k ≤ _ := (account_after single k).2
  refine ⟨paid, fun away => ?_⟩
  have unread := (keepsOff_after k away).2
  exact ⟨unread, by omega⟩

/-! ### A program that reads the disk -/

/-- The host puts in a program, and then the machine ticks. -/
def started (entry : Word) (program : List Instruction) : Nat → MachineAction
  | 0 => .load entry (assemble program)
  | _ + 1 => .tick

/-- The core stays at its first instruction, and the drive moves on just before state `last`. -/
def Watches (entry : Word) (last k : Nat) (machine : Machine) : Prop :=
  machine.processor.boot.registers.ip = entry ∧ machine.disk.seeking = 0
    ∧ machine.disk.position.val = if k < last then 0 else 1

instance (entry : Word) (last k : Nat) (machine : Machine) :
    Decidable (Watches entry last k machine) :=
  inferInstanceAs (Decidable (_ ∧ _))

lemma diskSteps_pos {entry : Word} {last : Nat} {machine : Machine}
    (watches : ∀ k ≤ last + 1, Watches entry (last + 1) k (machine.after action k)) :
    0 < machine.diskSteps action (last + 1) := by
  obtain ⟨-, -, before⟩ := watches last (Nat.le_succ last)
  obtain ⟨-, idle, afterwards⟩ := watches (last + 1) (Nat.le_refl _)
  rw [if_pos (Nat.lt_succ_self last)] at before
  rw [if_neg (Nat.lt_irrefl _)] at afterwards
  have start : (machine.after action last).disk.position = 0 := Fin.ext before
  have moved : (machine.after action (last + 1)).disk.position
      = (machine.after action last).disk.step.position := by
    rw [DiskDrive.step, start]
    exact Fin.ext afterwards
  have stepped : (machine.after action last).disk.Stepped (machine.after action (last + 1)).disk :=
    ⟨moved, idle⟩
  exact Nat.pos_of_ne_zero (Nat.count_ne_iff_exists.mpr ⟨last, Nat.lt_succ_self last, stepped⟩)

/-- A program that reads the data register. -/
def reading : Nat → MachineAction :=
  started AddressMap.ramStart
    [Assembler.loadLiteral (Assembler.register 0) AddressMap.diskData,
      Assembler.jump (AddressMap.ramStart + 2)]

/-- Main memory is far from the data register at its start, so the drive has moved on for the
program and not for fetch. -/
theorem diskSteps_le_reading :
    let machine := wire { MachineConfig.fast with entry := AddressMap.ramStart } (DiskImage.blank 1)
    (∀ j ≤ 44, (machine.after reading j).processor.boot.registers.ip
        ∉ Fetch.approach AddressMap.diskData)
      ∧ 0 < machine.diskSteps reading 44
      ∧ machine.diskSteps reading 44 ≤ machine.dataAccesses reading 44 := by
  intro machine
  have passed : Run.passes (fun k machine => decide (Watches AddressMap.ramStart 44 k machine))
      reading 44 0 machine = true := by decide +kernel
  have watches (j : Nat) (inside : j ≤ 44) :
      Watches AddressMap.ramStart 44 j (machine.after reading j) :=
    of_decide_eq_true (Run.test_of_passes passed (Nat.zero_le j) (by omega))
  have away : ∀ j ≤ 44, (machine.after reading j).processor.boot.registers.ip
      ∉ Fetch.approach AddressMap.diskData := fun j inside => by
    rw [(watches j inside).1]
    decide
  exact ⟨away, diskSteps_pos watches, ((diskSteps_le _ _ reading (by decide) 44).2 away).2⟩

/-! ### A program in front of the data register -/

/-- One instruction, the first of the four in front of the data register, that jumps to itself. -/
def spin : List Instruction := [Assembler.jump (AddressMap.diskData - 8)]

/-- A program that goes round in that instruction. -/
def spinning : Nat → MachineAction := started (AddressMap.diskData - 8) spin

/-- A machine that starts with it. -/
def besideData : Machine :=
  wire { MachineConfig.fast with entry := AddressMap.diskData - 8 } (DiskImage.blank 1)

/-- Main memory is idle, and the first message for it, which it takes in state 7, is the read of the
block at the entry point. -/
def Waits (k : Nat) (machine : Machine) : Prop :=
  machine.tick.1.fault? = none ∧ machine.ram.service = .idle
    ∧ machine.beforeRam.message? machine.ram.terminal
      = if k < 7 then none else some (Message.read (AddressMap.diskData - 8) Fetch.blockWords)

instance (k : Nat) (machine : Machine) : Decidable (Waits k machine) :=
  inferInstanceAs (Decidable (_ ∧ _))

lemma waits_after {k : Nat} (start : 1 ≤ k) (upTo : k ≤ 7) :
    Waits k (besideData.after spinning k) := by
  have passed : Run.passes (fun k machine => decide (Waits k machine)) spinning 6 1
      (besideData.after spinning 1) = true := by decide +kernel
  exact of_decide_eq_true (Run.test_of_passes passed start (by omega))

lemma ram_after {k : Nat} (upTo : k ≤ 6) :
    (besideData.after spinning (k + 1)).ram = (besideData.after spinning 1).ram := by
  induction k with
  | zero => rfl
  | succ k ih =>
    obtain ⟨running, idle, quiet⟩ := waits_after (k := k + 1) (by omega) (by omega)
    rw [if_pos (by omega)] at quiet
    rw [← ih (by omega)]
    refine (ram_tick running).trans ?_
    rw [Ram.tick_of_quiet idle quiet]

/-- The answer to that read: the program, and zeros. -/
def firstBlock : Message :=
  Message.response (AddressMap.diskData - 8) ((assemble spin).toList ++ List.replicate 6 0)

lemma replyFrom_eq_firstBlock :
    replyFrom (besideData.after spinning 1).ram.readWord (AddressMap.diskData - 8) 8
      = firstBlock := by
  have place : ∀ i < 8, Word.offset? besideData.ram.base (AddressMap.diskData - 8 + Int32.ofNat i)
      = some (134217721 + i) := by decide +kernel
  have start : Word.offset? besideData.ram.base (AddressMap.diskData - 8) = some 134217721 :=
    place 0 (by decide)
  have loaded : (besideData.after spinning 1).ram
      = { besideData.ram with
          words := (SparseMemory.zeroed AddressMap.ramWords).load 134217721 (assemble spin) } := by
    change besideData.ram.load (AddressMap.diskData - 8) _ = _
    rw [Ram.load, start]
    rfl
  have words : ∀ i < 8, (besideData.after spinning 1).ram.readWord
        (AddressMap.diskData - 8 + Int32.ofNat i) = (assemble spin).toList[i]?.getD 0 := by
    intro i inside
    rw [loaded, Ram.readWord, place i inside]
    simp only
    have short : (assemble spin).size = 2 := by decide
    rw [(SparseMemory.load_spec _ _ _).2, SparseMemory.read_zeroed, Nat.add_sub_cancel_left]
    split_ifs with within
    · simp [Array.getD_eq_getD_getElem?]
    · -- the last of the eight words lies beyond the end of main memory
      have last : AddressMap.ramWords ≤ 134217721 + i :=
        Nat.le_of_not_lt fun before => within ⟨Nat.le_add_right _ _, before⟩
      rw [AddressMap.ramWords] at last
      rw [List.getElem?_eq_none (by rw [Array.length_toList]; omega)]
      rfl
  rw [replyFrom, List.map_congr_left fun i inside => words i (List.mem_range.mp inside)]
  rfl

/-- The machine once main memory has taken the read, its answer written out. -/
def answered : Machine :=
  { besideData.after spinning 8 with
    ram := { (besideData.after spinning 8).ram with service := .answering ⟨1, firstBlock⟩ } }

-- the program is on the last page of main memory, which the kernel cannot look up by itself
lemma after_eq_answered : besideData.after spinning 8 = answered := by
  obtain ⟨running, idle, reads⟩ := waits_after (k := 7) (by omega) (by omega)
  have latency : (besideData.after spinning 7).ram.latency = 2 := by decide +kernel
  have count : replyCount (besideData.after spinning 7).beforeRam
      (besideData.after spinning 7).ram.terminal 8 = 8 := by decide +kernel
  have taken : (besideData.after spinning 8).ram
      = { (besideData.after spinning 7).ram with
          service := .answering ⟨(besideData.after spinning 7).ram.latency - 1,
            replyFrom (besideData.after spinning 7).ram.readWord (AddressMap.diskData - 8)
              (replyCount (besideData.after spinning 7).beforeRam
                (besideData.after spinning 7).ram.terminal 8)⟩ } :=
    (ram_tick running).trans (Ram.tick_of_read idle reads rfl (by decide +kernel))
  rw [latency, count, ram_after (k := 6) (by omega), replyFrom_eq_firstBlock] at taken
  have written : (besideData.after spinning 8).ram
      = { (besideData.after spinning 8).ram with service := .answering ⟨1, firstBlock⟩ } := by
    rw [taken]
    rfl
  rw [answered, ← written]

/-- The core stays where it is and has nothing to do with the disk, and yet the drive moves on. -/
lemma watches_spinning {k : Nat} (upTo : k ≤ 40) :
    Watches (AddressMap.diskData - 8) 40 k (besideData.after spinning k)
      ∧ ¬(besideData.after spinning k).Accesses (spinning k) := by
  let test (k : Nat) (machine : Machine) : Bool :=
    decide (Watches (AddressMap.diskData - 8) 40 k machine ∧ ¬machine.Accesses (spinning k))
  have first : Run.passes test spinning 7 0 besideData = true := by decide +kernel
  have rest : Run.passes test spinning 32 8 answered = true := by decide +kernel
  rw [← after_eq_answered] at rest
  rcases Nat.lt_or_ge k 8 with early | late
  · exact of_decide_eq_true (Run.test_of_passes first (Nat.zero_le k) (by omega))
  · exact of_decide_eq_true (Run.test_of_passes rest late (by omega))

/-- The drive moves on although no instruction accesses the data register, and all of them are in
main memory: fetch has read ahead. -/
theorem diskSteps_spinning :
    (∀ j ≤ 40, isRam (besideData.after spinning j).processor.boot.registers.ip = true
        ∧ isRam ((besideData.after spinning j).processor.boot.registers.ip + 1) = true)
      ∧ ¬besideData.diskSteps spinning 40 ≤ besideData.dataAccesses spinning 40 := by
  refine ⟨fun j inside => ?_, ?_⟩
  · rw [(watches_spinning inside).1.1]
    decide
  · have steps : 0 < besideData.diskSteps spinning 40 :=
      diskSteps_pos fun j inside => (watches_spinning inside).1
    have none : besideData.dataAccesses spinning 40 = 0 :=
      Nat.count_iff_forall_not.mpr fun j inside => (watches_spinning (Nat.le_of_lt inside)).2
    omega

end Machine

end PipelinedMachine
