import PipelinedMachine.Command
import PipelinedMachine.Proofs.Disk.Saving

/-!
# The disk of a running machine

A run changes the image in the drive only by writing blocks back, so the image stays one that the
operations on images can make, of the capacity that it was loaded with.

* `DiskDrive.Serves` — a drive with such an image;
* `Machine.serves_run` — every run keeps it.

Main statement: `load_after_runDisk`, what a disk directory holds after a run that saved to it: the
blocks that the final image keeps, and for those that the run has zeroed what they held before it.
-/

namespace PipelinedMachine

open FileTree DiskImage

/-! ## The drive -/

namespace DiskDrive

/-- The drive holds an image of the given capacity that the operations on images can make. -/
structure Serves (capacity : Nat) (drive : DiskDrive) : Prop where
  reachable : drive.image.Reachable
  capacity : drive.image.capacity = capacity

variable {capacity : Nat} {drive : DiskDrive}

lemma Serves.flush (serves : drive.Serves capacity) : drive.flush.Serves capacity := by
  rw [DiskDrive.flush]
  cases hwrite : drive.image.write? drive.current drive.block with
  | error error => exact serves
  | ok image =>
      exact ⟨.write serves.reachable hwrite,
        (serves.reachable.tidy.write? hwrite).2.trans serves.capacity⟩

lemma Serves.seek (serves : drive.Serves capacity) (number : Word) :
    (drive.seek number).Serves capacity := by
  rw [DiskDrive.seek]
  split
  · exact serves
  · split
    · exact ⟨serves.flush.reachable, serves.flush.capacity⟩
    · exact serves

lemma Serves.of_image_eq {changed : DiskDrive} (serves : drive.Serves capacity)
    (same : changed.image = drive.image) : changed.Serves capacity :=
  ⟨same ▸ serves.reachable, same ▸ serves.capacity⟩

lemma Serves.handle (serves : drive.Serves capacity) (message : Message) :
    (drive.handle message).Serves capacity := by
  rw [DiskDrive.handle]
  split
  · rw [handleWrite]
    split
    · exact serves.seek _
    · split
      · exact serves.of_image_eq rfl
      · split
        · exact serves.of_image_eq rfl
        · exact serves
  · rw [handleRead]
    split
    · exact serves.of_image_eq rfl
    · split
      · exact serves.of_image_eq rfl
      · exact serves
  all_goals exact serves

lemma image_announce (drive : DiskDrive) (bus : Interconnect) :
    (drive.announce bus).1.image = drive.image := by
  unfold announce
  split
  · rfl
  · split
    · split <;> rfl
    · rfl

lemma image_sendReply (drive : DiskDrive) (bus : Interconnect) :
    (drive.sendReply bus).1.image = drive.image := by
  unfold sendReply
  split <;> rfl

lemma Serves.accept (serves : drive.Serves capacity) (bus : Interconnect) :
    (drive.accept bus).1.Serves capacity := by
  unfold DiskDrive.accept
  split
  · exact serves.handle _
  · exact serves

lemma Serves.tick (serves : drive.Serves capacity) (bus : Interconnect) :
    (drive.tick bus).1.Serves capacity := by
  have counted : drive.countDown.Serves capacity := serves.of_image_eq rfl
  unfold DiskDrive.tick
  dsimp only
  split
  · exact counted
  · have announced := counted.of_image_eq (image_announce drive.countDown bus)
    exact (announced.accept _).of_image_eq (image_sendReply _ _)

lemma Serves.contents (serves : drive.Serves capacity) :
    drive.contents.Reachable ∧ drive.contents.capacity = capacity :=
  ⟨serves.flush.reachable, serves.flush.capacity⟩

end DiskDrive

/-! ## The machine -/

namespace Machine

lemma disk_tick (machine : Machine) :
    machine.tick.1.disk = machine.disk
      ∨ ∃ bus, machine.tick.1.disk = (machine.disk.tick bus).1 := by
  unfold tick
  split
  · exact Or.inl rfl
  · split
    · exact Or.inl rfl
    · exact Or.inr ⟨_, rfl⟩

lemma serves_tick {capacity : Nat} {machine : Machine} (serves : machine.disk.Serves capacity) :
    machine.tick.1.disk.Serves capacity := by
  rcases machine.disk_tick with same | ⟨bus, ticked⟩
  · exact same ▸ serves
  · exact ticked ▸ serves.tick bus

lemma serves_runOn {capacity : Nat} {boundary : RunBoundary} {ticksLeft : Nat}
    {sofar : RunOutcome} {machine : Machine} (serves : machine.disk.Serves capacity) :
    (runOn boundary ticksLeft sofar machine).1.disk.Serves capacity := by
  induction ticksLeft generalizing sofar machine with
  | zero => exact serves
  | succ ticksLeft ih =>
      have ticked := serves_tick serves
      rw [runOn]
      split
      · rename_i stopped fault htick
        rwa [htick] at ticked
      · rename_i next outcome htick
        rw [htick] at ticked
        dsimp only
        split
        · exact ticked
        · exact ih ticked

/-- What is on the disk after a run is an image that the operations on images can make. -/
theorem reachable_diskContents_run {image : DiskImage} (reachable : image.Reachable)
    (config : MachineConfig) (limit : Nat) (boundary : RunBoundary) :
    ((wire config image).run limit boundary).1.diskContents.Reachable
      ∧ ((wire config image).run limit boundary).1.diskContents.capacity = image.capacity := by
  have wired : (wire config image).disk.Serves image.capacity := ⟨reachable, rfl⟩
  exact DiskDrive.Serves.contents (serves_runOn wired)

end Machine

/-! ## Saving after a run -/

lemma diskCapacity_config (options : RunOptions) :
    options.config.diskCapacity = MachineConfig.defaultDiskCapacity := by
  rw [RunOptions.config]
  cases options.fast <;> rfl

/-- What a run prints and leaves behind, given what loading and saving the disk do. -/
lemma run_runDisk {tree after : FileTree} {disk : String} {options : RunOptions}
    {image : DiskImage} (save : options.save = true)
    (loads : tree.outcome (load disk options.config.diskCapacity) = (.ok image, tree))
    (saves : tree.outcome ((bootAndRun image options).1.diskContents.save disk)
      = (.ok (), after)) :
    (runDisk disk options : StateM FileTree Outcome).run tree
      = (runOutcome (bootAndRun image options).1.report (bootAndRun image options).2, after) := by
  have loads' : tree.outcome ((load disk options.config.diskCapacity).adapt
      (CommandError.loading disk)) = (.ok image, tree) := by
    rw [outcome_adapt, loads]
    rfl
  have saves' : tree.outcome (saveAfterRun (bootAndRun image options).1 disk options)
      = (.ok (), after) := by
    rw [saveAfterRun, if_pos save, outcome_adapt, saves]
    rfl
  unfold runDisk
  rw [run_bind_outcome, loads']
  dsimp only
  rw [run_bind_outcome, saves']
  rfl

/-- What a disk directory holds after a run that saved to it: a block that the run has zeroed is
there again as it was before the run. -/
theorem load_after_runDisk {tree : FileTree} {disk : String} {options : RunOptions}
    {old : List (String × FileNode)} (held : tree.Holding disk old)
    (files : BlockFiles disk options.config.diskCapacity old)
    (fits : ∀ index < options.config.diskCapacity,
      (joinPath disk (blockFileName index)).utf8ByteSize ≤ pathLimit)
    (save : options.save = true) :
    ∃ image after loaded,
      tree.outcome (load disk options.config.diskCapacity) = (.ok image, tree)
      ∧ (runDisk disk options : StateM FileTree Outcome).run tree
          = (runOutcome (bootAndRun image options).1.report (bootAndRun image options).2, after)
      ∧ after.outcome (load disk options.config.diskCapacity) = (.ok loaded, after)
      ∧ ∀ index < options.config.diskCapacity, loaded.read index
          = if (bootAndRun image options).1.diskContents.read index = Block.zeros then
              image.read index
            else (bootAndRun image options).1.diskContents.read index := by
  have addressable : options.config.diskCapacity ≤ maxUnsigned64 := by
    rw [diskCapacity_config]
    decide
  obtain ⟨image, loads, tidy, hcapacity, hread⟩ := load_of_holding held files addressable
  have reachable : image.Reachable := .load loads
  obtain ⟨final, hfinal⟩ : ∃ final, final = (bootAndRun image options).1.diskContents := ⟨_, rfl⟩
  obtain ⟨reachable', capacity⟩ : final.Reachable ∧ final.capacity = image.capacity :=
    hfinal ▸ Machine.reachable_diskContents_run reachable _ _ _
  rw [hcapacity] at capacity
  rw [← capacity] at files fits addressable
  have inside : ∀ index ∈ final.stored,
      (joinPath disk (blockFileName index)).utf8ByteSize ≤ pathLimit := fun index h =>
    fits index (reachable'.tidy.below_of_stored h)
  obtain ⟨after, entries, hsaved, hheld, hfiles, hblocks⟩ := save_of_holding reachable'.tidy
    addressable (outcome_createDirectories held.found) held files inside
  obtain ⟨loaded, hloaded, -, -, hread'⟩ := load_of_holding hheld hfiles addressable
  rw [capacity] at hloaded hread' hblocks
  rw [hfinal] at hsaved
  refine ⟨image, after, loaded, loads, run_runDisk save loads hsaved, hloaded, fun index h => ?_⟩
  rw [← hfinal, hread' index h, hblocks index h, hread index h]
  by_cases hstored : index ∈ final.stored
  · rw [if_pos hstored, if_neg fun hzero =>
      (reachable'.tidy.read_eq_zeros_iff index).mp hzero hstored]
  · rw [if_neg hstored, if_pos ((reachable'.tidy.read_eq_zeros_iff index).mpr hstored)]

end PipelinedMachine
