import PipelinedMachine.Proofs.Boot.Code

/-!
# The boot loader comes to its end

One instruction after the other, with no handler in between, the boot loader copies the whole
program and then jumps to it.  Every store of the copy loop leaves one less to come, and only a few
instructions lie between two of them, also where the next block is found.

* `Boot.execute`, `Boot.next` — what an instruction does, and the one at the instruction pointer;
* `Boot.remaining`, **`Boot.Loading.next`** — a bound on the instructions that are left, which every
  instruction lowers;
* **`Boot.Loading.exists_arrives`**, `Boot.exists_arrives_start` — from wherever it is, and from its
  start, the boot loader comes to the first word of main memory.
-/

namespace PipelinedMachine

open AddressMap Assembler

namespace Boot

/-! ## One instruction after the other -/

/-- What an instruction makes of the registers and of what the boot loader works on.  While no
handler runs it reads nothing but the disk, and has no instruction of another kind. -/
def execute (registers : RegisterFile) (world : World) : Instruction → RegisterFile × World
  | .alu held =>
    match held.evaluate registers with
    | .ok (some value) => ((registers.set held.target value).advance, world)
    | .ok none | .error _ => (registers, world)
  | .load (.load target operand) =>
    if operand.resolve registers = diskData then
      ((registers.set target world.drive.word).advance,
        { world with drive := world.drive.advance })
    else (registers, world)
  | .store held =>
    (registers.advance,
      world.after (Message.write (held.address.resolve registers) (registers.get held.source)))
  | .branch held => (held.next registers, world)
  | .nop | .load .nop | .interrupt _ | .stack _ => (registers, world)

/-- The instruction at the instruction pointer is executed. -/
def next (state : RegisterFile × World) : RegisterFile × World :=
  match (code state.1.ip).decode with
  | .ok instruction => execute state.1 state.2 instruction
  | .error _ => state

variable {words : Array Word} {registers : RegisterFile} {world : World} {index : Nat}
  {instruction : Instruction}

lemma next_eq (here : registers.ip = label index)
    (listed : (program romStart)[index]? = some instruction) :
    next (registers, world) = execute registers world instruction := by
  simp only [next, here, decode_label listed]

/-- What is executed is what the course says. -/
lemma Step.execute (step : Step words none registers world instruction) :
    Loading words (execute registers world instruction).1 (execute registers world instruction).2
      ∨ Finished words (execute registers world instruction).2
        ∧ (execute registers world instruction).1.ip = ramStart := by
  cases step with
  | alu held value result next =>
    simp only [Boot.execute, result]
    exact Or.inl next
  | load target operand address next =>
    rw [Boot.execute, if_pos address]
    exact Or.inl next
  | store held sends next => exact Or.inl next
  | branch held next => exact next
  | handlerReturn ip running => contradiction

/-! ## What is left -/

/-- The number of the instruction at an address. -/
def place (ip : Word) : Nat := (ip.toInt - romStart.toInt).toNat / 2

lemma place_label (few : index ≤ 500) : place (label index) = index := by
  have start : romStart.toInt = 512 := by decide
  rw [place, toInt_label few, start]
  omega

/-- A bound on the instructions from the one with the given number to the next store of the copy
loop, or to the end. -/
def distance (index : Nat) : Nat := if index ≤ 18 then 19 - index else 30 - index

/-- A bound on the instructions that are left. -/
def remaining (words : Array Word) (state : RegisterFile × World) : Nat :=
  20 * (4096 * size words - state.2.stores.length) + distance (place state.1.ip)

lemma length_stored (words : Array Word) (count : Nat) : (stored words count).length = count := by
  simp [stored]

/-- There are never more stores than words. -/
lemma Loading.length_stores_le (loading : Loading words registers world) :
    world.stores.length ≤ 4096 * size words := by
  obtain ⟨-, index, -, stage⟩ := loading
  have none (vacant : world.stores = []) : world.stores.length ≤ 4096 * size words := by
    rw [vacant]
    exact Nat.zero_le _
  have copying {block taken stored : Nat} (copying : Copying words world block taken stored)
      (few : stored ≤ 4096 * block + 4096) : world.stores.length ≤ 4096 * size words := by
    have inside := copying.inside
    rw [copying.stores, length_stored]
    omega
  have copied {blocks : Nat} (copied : Copied words world blocks) :
      world.stores.length ≤ 4096 * size words := by
    have inside := copied.inside
    rw [copied.stores, length_stored]
    omega
  unfold Stage at stage
  split at stage
  case h_1 | h_2 => exact none stage
  case h_3 | h_4 => exact none stage.1
  case h_5 | h_6 => exact none stage.stores
  case h_7 | h_8 | h_9 | h_10 => exact none stage.1.stores
  case h_11 | h_12 | h_13 => exact copying stage.1 (by omega)
  case h_14 | h_15 | h_16 | h_17 | h_18 =>
    obtain ⟨block, i, inside, here, -⟩ := stage
    exact copying here (by omega)
  case h_19 =>
    obtain ⟨blocks, last, here, -⟩ := stage
    exact copied here
  case h_20 | h_21 | h_22 =>
    obtain ⟨blocks, here, -⟩ := stage
    exact copied here
  case h_23 => exact copied stage
  case h_24 => exact stage.elim

/-- Requests take none of the stores back. -/
lemma World.length_stores_le (world : World) (message : Message) :
    world.stores.length ≤ (world.after message).stores.length := by
  rw [World.after, List.length_append]
  exact Nat.le_add_right _ _

/-- The instructions that may jump. -/
lemma eq_of_branch {held : BranchInstruction}
    (listed : (program romStart)[index]? = some (.branch held)) :
    index = 4 ∧ held = .jump (label 9)
      ∨ index = 21 ∧ held = .compare .less (register 2) (register 4) (.literal (label 17))
      ∨ index = 25 ∧ held = .compare .lessEqual (register 1) (register 0) (.literal (label 17))
      ∨ index = 26 ∧ held = .jump ramStart := by
  have inside : index < 27 := (List.getElem?_eq_some_iff.mp listed).1
  rw [program_romStart] at listed
  interval_cases index <;> cases listed <;> simp

lemma distance_succ_lt (inside : index ≤ 26) (other : index ≠ 18) :
    distance (index + 1) < distance index := by
  rw [distance, distance]
  split_ifs <;> omega

/-- A branch leads to an instruction that is nearer to the next store. -/
lemma distance_next_lt {held : BranchInstruction} (here : registers.ip = label index)
    (listed : (program romStart)[index]? = some (.branch held)) {later : Nat} (close : later ≤ 26)
    (there : (held.next registers).ip = label later) : distance later < distance index := by
  have inside : index < 27 := (List.getElem?_eq_some_iff.mp listed).1
  have jumps {target : Nat} (close' : target ≤ 26) (same : label target = label later) :
      later = target := ((label_inj (by omega) (by omega)).mp same).symm
  have passes (same : registers.ip + instructionWords = label later) : later = index + 1 := by
    rw [here, ← label_succ] at same
    exact ((label_inj (by omega) (by omega)).mp same).symm
  rcases eq_of_branch listed with ⟨rfl, rfl⟩ | ⟨rfl, rfl⟩ | ⟨rfl, rfl⟩ | ⟨rfl, rfl⟩
  · obtain rfl := jumps (by omega) there
    decide
  · simp only [BranchInstruction.next] at there
    split_ifs at there
    · obtain rfl := jumps (by omega) there
      decide
    · obtain rfl := passes there
      decide
  · simp only [BranchInstruction.next] at there
    split_ifs at there
    · obtain rfl := jumps (by omega) there
      decide
    · obtain rfl := passes there
      decide
  · exact absurd there.symm (label_ne_ramStart (by omega))

/-- The copy loop stores a word, and there is one less to come. -/
lemma Loading.length_copy (loading : Loading words registers world) (here : registers.ip = label 18)
    (few : 4096 * size words ≤ ramWords) {held : StoreInstruction}
    (listed : (program romStart)[18]? = some (.store held)) :
    (execute registers world (.store held)).2.stores.length = world.stores.length + 1 := by
  obtain ⟨-, index, there, stage⟩ := loading
  have range := stage.range
  obtain rfl : index = 18 := (label_inj (by omega) (by omega)).mp (there.symm.trans here)
  rw [program_romStart] at listed
  obtain rfl := Instruction.store.inj (Option.some.inj listed)
  obtain ⟨block, i, inside, copying, begins⟩ := stage
  obtain ⟨address, ram⟩ := copying.stores_inside inside few (begins 3 _ rfl)
  rw [execute, address, World.stores_write, if_pos ram, List.length_append, List.length_singleton]

/-- **Every instruction leaves fewer to come**, unless it is the last one. -/
theorem Step.remaining_lt (step : Step words none registers world instruction)
    (loading : Loading words registers world) (here : registers.ip = label index)
    (listed : (program romStart)[index]? = some instruction)
    (few : 4096 * size words ≤ ramWords)
    (onward : Loading words (Boot.execute registers world instruction).1
      (Boot.execute registers world instruction).2) :
    remaining words (Boot.execute registers world instruction)
      < remaining words (registers, world) := by
  have inside : index < 27 := (List.getElem?_eq_some_iff.mp listed).1
  obtain ⟨later, close, there, -⟩ := onward.exists_index
  have first : place registers.ip = index := by rw [here, place_label (by omega)]
  have second : place (Boot.execute registers world instruction).1.ip = later := by
    rw [there, place_label (by omega)]
  rw [remaining, remaining, first, second]
  have advances (same : (Boot.execute registers world instruction).1.ip
      = registers.ip + instructionWords) : later = index + 1 := by
    rw [same, here, ← label_succ, label_inj (by omega) (by omega)] at there
    exact there.symm
  cases step with
  | alu held value result next =>
    simp only [Boot.execute, result] at advances ⊢
    obtain rfl := advances rfl
    refine Nat.add_lt_add_left (distance_succ_lt (by omega) ?_) _
    rintro rfl
    rw [program_romStart] at listed
    cases listed
  | load target operand address next =>
    rw [Boot.execute, if_pos address] at advances ⊢
    obtain rfl := advances rfl
    refine Nat.add_lt_add_left (distance_succ_lt (by omega) ?_) _
    rintro rfl
    rw [program_romStart] at listed
    cases listed
  | branch held next =>
    exact Nat.add_lt_add_left (distance_next_lt here listed close there) _
  | store held sends next =>
    obtain rfl := advances rfl
    by_cases copies : index = 18
    · subst copies
      have more := loading.length_copy here few listed
      have bound := onward.length_stores_le
      have near : distance (18 + 1) < 20 + distance 18 := by decide
      rw [more] at bound ⊢
      dsimp only
      omega
    · have more : world.stores.length
          ≤ (Boot.execute registers world (.store held)).2.stores.length :=
        World.length_stores_le _ _
      have nearer := distance_succ_lt (show index ≤ 26 by omega) copies
      dsimp only
      omega
  | handlerReturn ip running => contradiction

/-! ## The end -/

/-- **Every instruction leads on** and leaves fewer to come, or it is the last one. -/
theorem Loading.next (loading : Loading words registers world)
    (few : 4096 * size words ≤ ramWords) :
    Loading words (Boot.next (registers, world)).1 (Boot.next (registers, world)).2
        ∧ remaining words (Boot.next (registers, world)) < remaining words (registers, world)
      ∨ Finished words (Boot.next (registers, world)).2
        ∧ (Boot.next (registers, world)).1.ip = ramStart := by
  have course : Course words registers world none := loading
  obtain ⟨index, instruction, here, listed, step⟩ := course.step few
  rw [next_eq here listed]
  exact step.execute.imp
    (fun onward => ⟨onward, step.remaining_lt loading here listed few onward⟩) id

/-- So many instructions after a start the boot loader comes to the first word of main memory for
the first time, with the whole program copied. -/
structure Arrives (words : Array Word) (start : RegisterFile × World) (steps : Nat) : Prop where
  before : ∀ earlier < steps, (next^[earlier] start).1.ip ≠ ramStart
  here : (next^[steps] start).1.ip = ramStart
  stores : (next^[steps] start).2.stores = stored words (4096 * size words)

/-- **The boot loader comes to its end** from wherever it is. -/
theorem Loading.exists_arrives (loading : Loading words registers world)
    (few : 4096 * size words ≤ ramWords) :
    ∃ steps ≤ remaining words (registers, world) + 1,
      Arrives words (registers, world) steps := by
  induction left : remaining words (registers, world) using Nat.strong_induction_on
    generalizing registers world with
  | _ left ih =>
    subst left
    have away : registers.ip ≠ ramStart := by
      obtain ⟨index, inside, here, -⟩ := loading.exists_index
      rw [here]
      exact label_ne_ramStart (by omega)
    rcases loading.next few with ⟨onward, fewer⟩ | ⟨finished, here⟩
    · obtain ⟨steps, bound, arrives⟩ := ih _ fewer onward rfl
      refine ⟨steps + 1, by omega, fun earlier sooner => ?_, arrives.here, arrives.stores⟩
      cases earlier with
      | zero => exact away
      | succ earlier => exact arrives.before earlier (by omega)
    · refine ⟨1, by omega, fun earlier sooner => ?_, here, finished.stores⟩
      obtain rfl : earlier = 0 := by omega
      exact away

/-- Where the boot loader starts, with an image in the disk drive. -/
def start (image : DiskImage) : RegisterFile × World :=
  (RegisterFile.reset romStart, ⟨[], .ofImage image, [], False⟩)

/-- **With a packed program the boot loader comes to its end** after at most twenty instructions for
every word that it copies, and another twenty. -/
theorem exists_arrives_start {capacity : Nat} {image : DiskImage}
    (packs : DiskImage.ofProgram? capacity words = .ok image)
    (few : 4096 * size words ≤ ramWords) :
    ∃ steps ≤ 20 * (4096 * size words + 1), Arrives words (start image) steps := by
  have here : (RegisterFile.reset romStart).ip = label 0 := rfl
  have loading : Loading words (start image).1 (start image).2 :=
    ⟨⟨packed_ofProgram? packs, rfl⟩, 0, here, rfl⟩
  obtain ⟨steps, bound, arrives⟩ := loading.exists_arrives few
  have left : remaining words (start image) = 20 * (4096 * size words) + 19 := by
    rw [remaining, start, here, place_label (by omega)]
    rfl
  exact ⟨steps, bound.trans (left ▸ by omega), arrives⟩

end Boot

end PipelinedMachine
