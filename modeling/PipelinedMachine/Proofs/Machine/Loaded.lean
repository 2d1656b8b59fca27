import PipelinedMachine.Proofs.Device.FlatMemory
import PipelinedMachine.Proofs.Machine.MainMemory
import PipelinedMachine.Proofs.Machine.Vectors

/-!
# A machine about to start

Before a machine starts, its host may fill main memory.  Then nothing is on its way yet, every link
takes messages of the usual length, and the core is about to dispatch its first instruction.

* `Interconnect.Wide`, `Machine.wide_wire` — the links are wide enough;
* `Machine.loaded` — a new machine with words in main memory;
* `Machine.Ready`, **`Machine.ready_loaded`** — what such a machine is like.
-/

namespace PipelinedMachine

open Interconnect

/-! ## The links -/

namespace Interconnect

lemma Idle.along {bus : Interconnect} (idle : bus.Idle) (keep : Message → Bool)
    (path : List Terminal) : bus.along keep path = [] := by
  rw [List.eq_nil_iff_forall_not_mem]
  intro message member
  obtain ⟨way, -, carried, -⟩ := mem_along.mp member
  rw [idle way] at carried
  contradiction

lemma Idle.all {bus : Interconnect} (idle : bus.Idle) (P : Message → Prop) : bus.All P := by
  intro way message carried
  rw [idle way] at carried
  contradiction

/-- Every link takes messages of the usual length. -/
def Wide (bus : Interconnect) : Prop :=
  ∀ a, a.index < bus.size → bus.capacity a = messageCapacity

lemma wide_empty : empty.Wide := fun a inside => absurd inside (by simp [empty, size])

lemma Wide.link {bus : Interconnect} (wide : bus.Wide) (period : UInt32) :
    (bus.link period messageCapacity).1.Wide := by
  intro a inside
  rw [size_link] at inside
  rw [capacity_eq, outgoing?_link]
  split_ifs with before
  · rw [← capacity_eq]
    exact wide a before
  · rfl

end Interconnect

lemma Processor.wide_addCores {bus : Interconnect} (wide : bus.Wide) (id : Nat) (period : UInt32)
    (entry : Word) (count : Nat) (router : Router) :
    (addCores id period entry count router bus).2.2.Wide := by
  induction count generalizing id router bus with
  | zero => exact wide
  | succ count ih => exact ih (wide.link period) _ _

namespace Machine

lemma wide_wire (config : MachineConfig) (image : DiskImage) :
    (wire config image).bus.Wide := by
  have trunk : (trunk config).Wide := ((wide_empty.link _).link _).link _
  have branch : (branch config).2.2.Wide := Processor.wide_addCores trunk _ _ _ _ _
  exact ((((branch.link _).link _).link _).link _ : (ports config 4).Wide)

end Machine

/-! ## Loading -/

namespace Ram

variable {ram : Ram}

lemma Whole.load (whole : ram.Whole) (address : Word) (words : Array Word) :
    (ram.load address words).Whole := by
  rw [Ram.load]
  split
  · exact ⟨whole.base, (SparseMemory.load_spec _ _ _).1.trans whole.size⟩
  · exact whole

lemma load_frame (ram : Ram) (address : Word) (words : Array Word) :
    (ram.load address words).terminal = ram.terminal
      ∧ (ram.load address words).service = ram.service := by
  rw [load]
  split <;> exact ⟨rfl, rfl⟩

end Ram

namespace Machine

/-- A new machine into whose main memory the host has put some words, one run of them after the
other. -/
def loaded (config : MachineConfig) (image : DiskImage) (contents : List (Word × Array Word)) :
    Machine :=
  contents.foldl (fun machine words => machine.load words.1 words.2) (wire config image)

/-- A machine that has not begun to run. -/
structure Ready (machine : Machine) (config : MachineConfig) (image : DiskImage) : Prop where
  reachable : machine.Reachable
  whole : machine.ram.Whole
  idle : machine.ram.service = .idle
  terminal : machine.ram.terminal = (wire config image).ram.terminal
  same : machine = { wire config image with ram := machine.ram }

lemma ready_wire (config : MachineConfig) (image : DiskImage) :
    (wire config image).Ready config image where
  reachable := .wire config image
  whole := ⟨rfl, rfl⟩
  idle := rfl
  terminal := rfl
  same := rfl

namespace Ready

variable {machine : Machine} {config : MachineConfig} {image : DiskImage}

lemma load (ready : machine.Ready config image) (address : Word) (words : Array Word) :
    (machine.load address words).Ready config image where
  reachable := ready.reachable.act (.load address words) (by simp [Survives])
  whole := ready.whole.load address words
  idle := (machine.ram.load_frame address words).2.trans ready.idle
  terminal := (machine.ram.load_frame address words).1.trans ready.terminal
  same := by
    rw [Machine.load, ready.same]

lemma bus (ready : machine.Ready config image) : machine.bus = (wire config image).bus := by
  rw [ready.same]

lemma running (ready : machine.Ready config image) : machine.fault? = none := by
  rw [ready.same]
  rfl

lemma carried (ready : machine.Ready config image) : machine.bus.Idle := by
  rw [ready.bus]
  exact idle_ports config 4

lemma along (ready : machine.Ready config image) (keep : Message → Bool) (path : List Terminal) :
    machine.bus.along keep path = [] :=
  ready.carried.along keep path

lemma boot (ready : machine.Ready config image) :
    ∃ id, machine.processor.boot
      = Core.reset id machine.processor.boot.terminal config.entry := by
  rw [ready.same]
  exact (added_branch config).fresh _ (InOrder.boot_mem (wire config image))

lemma inOrder (ready : machine.Ready config image) (single : config.cores ≤ 1) :
    machine.InOrder :=
  ready.reachable.inOrder (by rw [ready.same]; exact single)

lemma wide (ready : machine.Ready config image) :
    machine.bus.capacity machine.ram.terminal = messageCapacity := by
  rw [ready.bus, ready.terminal]
  refine wide_wire config image _ ?_
  have size := size_ports config 4
  change 3 < (ports config 4).size
  omega

lemma remembers (ready : machine.Ready config image) : machine.Remembers where
  whole := ready.whole
  wide := ready.wide
  brief := by
    intro message member
    rw [requests, ready.along] at member
    contradiction

/-- The core's view of main memory is what the host has put there. -/
lemma memoryView (ready : machine.Ready config image) :
    machine.memoryView [] machine.bus = ⟨⟨machine.ram.readWord, []⟩, []⟩ := by
  have owed : machine.ram.owed = [] := by rw [Ram.owed, ready.idle]
  simp [Machine.memoryView, ready.along, owed, Memory.serveAll, Ram.memory]

/-- The vector table is empty. -/
lemma tabled (ready : machine.Ready config image) {T : Word → Word → Prop}
    (zero : ∀ address, T address 0) : machine.Tabled T where
  silent := by
    rw [ready.same]
    exact ⟨rfl, rfl⟩
  proper := fun way message carried => by
    rw [ready.carried way] at carried
    contradiction
  slots := fun address => by
    have empty : machine.processor.controller.vector address = 0 := by
      rw [ready.same]
      change InterruptController.vector (InterruptController.reset _ 0) address = 0
      rw [InterruptController.vector]
      split
      · simp only [InterruptController.reset, Vector.toArray_replicate, Array.getD_eq_getD_getElem?,
          Array.getElem?_replicate]
        split <;> rfl
      · rfl
    rw [empty]
    exact zero address
  stores := by
    intro message member
    rw [requests, ready.along] at member
    contradiction
  answers := by
    intro message member
    rw [answers, ready.along, ready.same] at member
    contradiction

end Ready

/-- Filling main memory changes nothing else. -/
theorem ready_loaded (config : MachineConfig) (image : DiskImage)
    (contents : List (Word × Array Word)) : (loaded config image contents).Ready config image := by
  have fills (machine : Machine) (ready : machine.Ready config image) :
      (contents.foldl (fun machine words => machine.load words.1 words.2) machine).Ready config
        image := by
    induction contents generalizing machine with
    | nil => exact ready
    | cons words rest ih => exact ih _ (ready.load words.1 words.2)
  exact fills _ (ready_wire config image)

end Machine

end PipelinedMachine
