import Mathlib.Tactic.IntervalCases
import PipelinedMachine.Proofs.Device.Cursor
import PipelinedMachine.Proofs.Disk.Packing
import PipelinedMachine.Proofs.Machine.Lanes
import PipelinedMachine.Proofs.Timing.Tracking

/-!
# The course of the boot loader

What the boot loader does to the registers, to main memory and to the disk, one instruction after
the other, without links and stages.  The disk's handler may run between any two instructions; it
leaves everything as it is but for its own two instructions.

* `Boot.Packed` — a disk that holds a program;
* `Boot.World` — what the boot loader works on, and `Boot.World.after`, what a request does to it;
* `Boot.Sends` — what the boot loader asks for;
* `Boot.Stage` — what holds before each of its instructions, the copy loop among them
  (`Boot.Copying`);
* `Boot.Course` — the same with its handler, and `Boot.Step`, what the next instruction does;
* **`Boot.Course.step`** — every instruction leads on, or to the start of the copied program.
-/

namespace PipelinedMachine

open AddressMap Assembler

namespace RegisterFile

variable (file : RegisterFile) (target : Register) (value address : Word)

@[simp] lemma get_advance (r : Register) : file.advance.get r = file.get r := rfl

@[simp] lemma get_jump (r : Register) : (file.jump address).get r = file.get r := rfl

@[simp] lemma ip_set : (file.set target value).ip = file.ip := rfl

@[simp] lemma ip_advance : file.advance.ip = file.ip + instructionWords := rfl

@[simp] lemma ip_jump : (file.jump address).ip = address := rfl

/-- The values of the first registers. -/
def Begin (values : List Word) : Prop :=
  ∀ k value, values[k]? = some value → file.get (register k) = value

variable {file} {values : List Word}

lemma register_inj {j k : Nat} (inside : j < 16) (inside' : k < 16) :
    register j = register k ↔ j = k := by
  simp [register, Fin.ofNat, Nat.mod_eq_of_lt inside, Nat.mod_eq_of_lt inside']

lemma get_set_register (value : Word) {j k : Nat} (inside : j < 16)
    (inside' : k < 16) : (file.set (register k) value).get (register j)
      = if k = j then value else file.get (register j) := by
  rw [get_set]
  exact if_congr (register_inj inside' inside) rfl rfl

/-- A register among the first ones is replaced. -/
lemma Begin.set (begins : file.Begin values) (k : Nat) (few : values.length ≤ 16)
    (inside : k < values.length) (value : Word) :
    (file.set (register k) value).Begin (values.set k value) := by
  intro j other found
  have below := (List.getElem?_eq_some_iff.mp found).1
  rw [List.length_set] at below
  rw [get_set_register value (by omega) (by omega)]
  rw [List.getElem?_set] at found
  split_ifs at found ⊢ with same
  · exact Option.some.inj found
  · exact begins j other found

/-- The next register is written. -/
lemma Begin.push (begins : file.Begin values) (few : values.length < 16)
    (value : Word) : (file.set (register values.length) value).Begin (values ++ [value]) := by
  intro j other found
  have below := (List.getElem?_eq_some_iff.mp found).1
  rw [List.length_append, List.length_singleton] at below
  rw [get_set_register value (by omega) few]
  split_ifs with same
  · subst same
    simpa using found
  · exact begins j other (by rwa [List.getElem?_append_left (by omega)] at found)

lemma Begin.dropLast (begins : file.Begin values) : file.Begin values.dropLast := by
  intro j other found
  rw [List.getElem?_dropLast] at found
  split_ifs at found
  exact begins j other found

lemma begin_nil (file : RegisterFile) : file.Begin [] := by simp [Begin]

end RegisterFile

namespace Boot

/-! ## Programs on a disk -/

/-- The number of blocks of a program, as the boot loader counts them. -/
abbrev size (words : Array Word) : Nat := DiskImage.blocksFor words.size

/-- A disk that holds a program: its size in blocks is the first word, and the blocks follow. -/
structure Packed (words : Array Word) (disk : CursorDisk) : Prop where
  header : (disk.blocks 0)[0] = Int32.ofNat (size words)
  chunks : ∀ block < size words, ∀ i : Fin PipelinedMachine.blockWords,
    (disk.blocks (block + 1))[i] = words.getD (4096 * block + i) 0
  room : size words < disk.capacity

/-- **A program is packed as the boot loader expects it.** -/
lemma packed_ofProgram? {capacity : Nat} {words : Array Word} {image : DiskImage}
    (packs : DiskImage.ofProgram? capacity words = .ok image) :
    Packed words (.ofImage image) := by
  have whole := DiskImage.capacity_ofProgram? packs
  obtain ⟨⟨room, -⟩, rfl⟩ := DiskImage.ofProgram?_eq_ok_iff.mp packs
  refine ⟨?_, fun block below i => ?_, lt_of_lt_of_eq room whole.symm⟩
  · change (DiskImage.read _ 0)[0] = _
    rw [DiskImage.read_foldl_store, if_neg (by omega), DiskImage.read_store, if_pos rfl]
    exact DiskImage.get_ofWords _ 0
  · change (DiskImage.read _ (block + 1)).get i = _
    rw [DiskImage.read_foldl_store, if_pos ⟨Nat.succ_pos block, below⟩, Nat.add_sub_cancel,
      DiskImage.chunk, DiskImage.get_ofWords]
    have inside : (i : Nat) < 4096 := i.isLt
    simp only [Array.getD_eq_getD_getElem?, Array.getElem?_extract, PipelinedMachine.blockWords]
    split_ifs with here
    · rfl
    · rw [Array.getElem?_eq_none (by omega)]

/-- The first `count` stores of the copy loop. -/
def stored (words : Array Word) (count : Nat) : List Message :=
  (List.range count).map fun i => Message.write (ramStart + Int32.ofNat i) (words.getD i 0)

lemma stored_succ (words : Array Word) (count : Nat) :
    stored words (count + 1)
      = stored words count
        ++ [Message.write (ramStart + Int32.ofNat count) (words.getD count 0)] := by
  simp [stored, List.range_succ]

/-! ## What the boot loader works on -/

/-- The address of an instruction of the boot loader, counted from its start. -/
def label (index : Nat) : Word := romStart + Int32.ofNat (2 * index)

lemma label_succ (index : Nat) : label (index + 1) = label index + instructionWords := by
  rw [label, label, Nat.mul_succ, Int32.ofNat_add, ← Int32.add_assoc]
  rfl

/-- What the boot loader works on, as its core sees it over the link. -/
structure World where
  /-- What main memory has been asked for. -/
  stores : List Message
  /-- The disk once it has served what it has been sent. -/
  drive : CursorDisk
  /-- The answers of the disk that have still to come. -/
  reading : List Message
  /-- The disk's handler is in the vector table, or on its way there. -/
  installed : Prop

/-- A request is served. -/
def World.after (world : World) (message : Message) : World where
  stores := world.stores ++ if message.asks .ram then [message] else []
  drive := if message.asks .disk then world.drive.after message else world.drive
  reading := world.reading
    ++ if message.asks .disk then (world.drive.answer? message).toList else []
  installed := world.installed ∨ message = Message.write diskInterrupt (label 7)

/-- What the core asks for while the boot loader runs.  It turns to the disk only once the disk's
handler is `installed`, and looks for a handler only once it has been `called`. -/
inductive Sends (installed called : Prop) : Message → Prop
  /-- The code of the boot loader. -/
  | code (address : Word) (inside : Component.ofAddress address = .rom) :
      Sends installed called (Message.read address Fetch.blockWords)
  | latest (ready : called) : Sends installed called (Message.read lastInterrupt 1)
  | handler (ready : called) :
      Sends installed called (Message.read (vectorStart + diskInterrupt) 1)
  | data : Sends installed called (Message.read diskData 1)
  | keyboard : Sends installed called (Message.write keyboardInterrupt (label 5))
  | disk : Sends installed called (Message.write diskInterrupt (label 7))
  | seek (block : Word) (ready : installed) : Sends installed called (Message.write diskSeek block)
  | acknowledge (value : Word) : Sends installed called (Message.write diskAcknowledge value)
  | store (address value : Word) (inside : isRam address = true) :
      Sends installed called (Message.write address value)

lemma Sends.mono {installed called later later' : Prop} {message : Message}
    (sends : Sends installed called message) (onward : installed → later)
    (onward' : called → later') : Sends later later' message := by
  cases sends with
  | code address inside => exact .code address inside
  | latest ready => exact .latest (onward' ready)
  | handler ready => exact .handler (onward' ready)
  | data => exact .data
  | keyboard => exact .keyboard
  | disk => exact .disk
  | seek block ready => exact .seek block (onward ready)
  | acknowledge value => exact .acknowledge value
  | store address value inside => exact .store address value inside

/-! ## What holds before each instruction -/

section Stages

variable (words : Array Word) (registers : RegisterFile) (world : World)

/-- The disk holds the program, and has no answer on the way. -/
structure Settled : Prop where
  packed : Packed words world.drive
  reading : world.reading = []

/-- The disk's handler is installed, and nothing has been copied. -/
structure Unstarted : Prop where
  installed : world.installed
  stores : world.stores = []

/-- So many words of a block have been taken from the disk, and so many in all have been stored. -/
structure Copying (block taken stored : Nat) : Prop where
  installed : world.installed
  inside : block < size words
  current : world.drive.current = block + 1
  position : (world.drive.position : Nat) = taken % 4096
  stores : world.stores = Boot.stored words stored

/-- So many blocks have been copied. -/
structure Copied (blocks : Nat) : Prop where
  installed : world.installed
  inside : blocks ≤ size words
  stores : world.stores = stored words (4096 * blocks)

/-- What holds before the instruction with the given number. -/
def Stage : Nat → Prop
  | 0 | 2 => world.stores = []
  | 1 => world.stores = [] ∧ registers.Begin [label 5]
  | 3 => world.stores = [] ∧ registers.Begin [label 7]
  | 4 | 9 => Unstarted world
  | 10 => Unstarted world ∧ registers.Begin [0]
  | 11 => Unstarted world ∧ world.drive.current = 0 ∧ (world.drive.position : Nat) = 0
  | 12 => Unstarted world ∧ registers.Begin [Int32.ofNat (size words)]
  | 13 => Unstarted world ∧ registers.Begin [Int32.ofNat (size words), 1]
  | 14 => Copying words world 0 0 0 ∧ registers.Begin [Int32.ofNat (size words), 1]
  | 15 => Copying words world 0 0 0 ∧ registers.Begin [Int32.ofNat (size words), 1, 0]
  | 16 => Copying words world 0 0 0 ∧ registers.Begin [Int32.ofNat (size words), 1, 0, 0]
  | 17 => ∃ block, ∃ i < 4096, Copying words world block i (4096 * block + i)
      ∧ registers.Begin [Int32.ofNat (size words), Int32.ofNat (block + 1), Int32.ofNat i,
        Int32.ofNat (4096 * block + i), 4096]
  | 18 => ∃ block, ∃ i < 4096, Copying words world block (i + 1) (4096 * block + i)
      ∧ registers.Begin [Int32.ofNat (size words), Int32.ofNat (block + 1), Int32.ofNat i,
        Int32.ofNat (4096 * block + i), 4096, words.getD (4096 * block + i) 0]
  | 19 => ∃ block, ∃ i < 4096, Copying words world block (i + 1) (4096 * block + i + 1)
      ∧ registers.Begin [Int32.ofNat (size words), Int32.ofNat (block + 1), Int32.ofNat i,
        Int32.ofNat (4096 * block + i), 4096]
  | 20 => ∃ block, ∃ i < 4096, Copying words world block (i + 1) (4096 * block + i + 1)
      ∧ registers.Begin [Int32.ofNat (size words), Int32.ofNat (block + 1), Int32.ofNat (i + 1),
        Int32.ofNat (4096 * block + i), 4096]
  | 21 => ∃ block, ∃ i < 4096, Copying words world block (i + 1) (4096 * block + i + 1)
      ∧ registers.Begin [Int32.ofNat (size words), Int32.ofNat (block + 1), Int32.ofNat (i + 1),
        Int32.ofNat (4096 * block + i + 1), 4096]
  | 22 => ∃ blocks last, Copied words world blocks
      ∧ registers.Begin [Int32.ofNat (size words), Int32.ofNat blocks, last,
        Int32.ofNat (4096 * blocks), 4096]
  | 23 => ∃ blocks, Copied words world blocks
      ∧ registers.Begin [Int32.ofNat (size words), Int32.ofNat blocks, 0,
        Int32.ofNat (4096 * blocks), 4096]
  | 24 => ∃ blocks, Copied words world blocks
      ∧ registers.Begin [Int32.ofNat (size words), Int32.ofNat (blocks + 1), 0,
        Int32.ofNat (4096 * blocks), 4096]
  | 25 => ∃ blocks, Copied words world blocks
      ∧ (blocks < size words → Copying words world blocks 0 (4096 * blocks))
      ∧ registers.Begin [Int32.ofNat (size words), Int32.ofNat (blocks + 1), 0,
        Int32.ofNat (4096 * blocks), 4096]
  | 26 => Copied words world (size words)
  | _ => False

/-- The boot loader is about to execute one of its instructions. -/
structure Loading : Prop where
  settled : Settled words world
  stage : ∃ index, registers.ip = label index ∧ Stage words registers world index

/-- The whole program has been copied. -/
structure Finished : Prop where
  settled : Settled words world
  stores : world.stores = stored words (4096 * size words)

/-- The boot loader is about to execute one of its instructions, or one of the disk's handler, which
returns to the address that is saved. -/
def Course : Option Word → Prop
  | none => Loading words registers world
  | some ip => (registers.ip = label 7 ∨ registers.ip = label 8) ∧ world.installed
      ∧ Loading words (registers.jump ip) world

end Stages

lemma Stage.range {words : Array Word} {registers : RegisterFile} {world : World} {index : Nat}
    (stage : Stage words registers world index) : index ≤ 4 ∨ 9 ≤ index ∧ index ≤ 26 := by
  unfold Stage at stage
  split at stage <;> first | omega | exact stage.elim

lemma Loading.exists_index {words : Array Word} {registers : RegisterFile} {world : World}
    (loading : Loading words registers world) :
    ∃ index ≤ 26, registers.ip = label index ∧ index ≠ 7 ∧ index ≠ 8 := by
  obtain ⟨-, index, here, stage⟩ := loading
  have range := stage.range
  exact ⟨index, by omega, here, by omega, by omega⟩

/-! ## One instruction -/

/-- What the next instruction does. -/
inductive Step (words : Array Word) (saved : Option Word) (registers : RegisterFile)
    (world : World) : Instruction → Prop
  | alu (held : AluInstruction) (value : Word)
      (result : held.evaluate registers = .ok (some value))
      (next : Course words (registers.set held.target value).advance world saved) :
      Step words saved registers world (.alu held)
  | load (target : Register) (operand : MemoryOperand)
      (address : operand.resolve registers = diskData)
      (next : Course words (registers.set target world.drive.word).advance
        { world with drive := world.drive.advance } saved) :
      Step words saved registers world (.load (.load target operand))
  | store (held : StoreInstruction)
      (sends : Sends world.installed False
        (Message.write (held.address.resolve registers) (registers.get held.source)))
      (next : Course words registers.advance
        (world.after (Message.write (held.address.resolve registers) (registers.get held.source)))
        saved) : Step words saved registers world (.store held)
  | branch (held : BranchInstruction)
      (next : Course words (held.next registers) world saved
        ∨ Finished words world ∧ (held.next registers).ip = ramStart) :
      Step words saved registers world (.branch held)
  | handlerReturn (ip : Word) (running : saved = some ip)
      (next : Course words (registers.jump ip) world none) :
      Step words saved registers world (.interrupt .handlerReturn)

/-- The boot loader, with its labels written out. -/
lemma program_romStart : program romStart =
    [setLiteral (register 0) (label 5), storeLiteral (register 0) keyboardInterrupt,
      setLiteral (register 0) (label 7), storeLiteral (register 0) diskInterrupt, jump (label 9),
      loadLiteral (register 15) keyboardRegister, interruptReturn,
      storeLiteral (register 0) diskAcknowledge, interruptReturn,
      setLiteral (register 0) 0, storeLiteral (register 0) diskSeek,
      loadLiteral (register 0) diskData, setLiteral (register 1) 1,
      storeLiteral (register 1) diskSeek, setLiteral (register 2) 0, setLiteral (register 3) 0,
      setLiteral (register 4) 4096, loadLiteral (register 5) diskData,
      storeIndexed (register 3) (register 5) ramStart,
      arithmeticLiteral .add (register 2) (register 2) 1,
      arithmeticLiteral .add (register 3) (register 3) 1,
      jumpIf .less (register 2) (register 4) (label 17), setLiteral (register 2) 0,
      arithmeticLiteral .add (register 1) (register 1) 1, storeLiteral (register 1) diskSeek,
      jumpIf .lessEqual (register 1) (register 0) (label 17), jump ramStart] := by
  decide

/-! ## What the requests do -/

namespace World

variable {world : World} {address : Word}

lemma stores_write (world : World) (address value : Word) :
    (world.after (Message.write address value)).stores
      = world.stores ++ if isRam address then [Message.write address value] else [] := by
  change world.stores ++ (if decide (Component.ofAddress address = .ram) = true then _ else _) = _
  congr 1
  exact if_congr (decide_eq_true_iff.trans Component.ofAddress_eq_ram_iff) rfl rfl

lemma stores_write_of_away (away : isRam address = false) (value : Word) :
    (world.after (Message.write address value)).stores = world.stores := by
  rw [stores_write, away]
  exact List.append_nil _

lemma reading_write (world : World) (address value : Word) :
    (world.after (Message.write address value)).reading = world.reading := by
  simp [after, CursorDisk.answer?, Message.kind?, Message.write]

lemma drive_write_of_away (away : Component.ofAddress address ≠ .disk) (value : Word) :
    (world.after (Message.write address value)).drive = world.drive := by
  have asks : (Message.write address value).asks .disk = false := decide_eq_false away
  simp [after, asks]

lemma drive_seek (world : World) (block : Word) :
    (world.after (Message.write diskSeek block)).drive = world.drive.select block := rfl

/-- A read does not install the handler. -/
lemma installed_read (world : World) (address count : Word) :
    (world.after (Message.read address count)).installed = world.installed := by
  simp [after, Message.read, Message.write, MessageKind.number]

/-- A read of anything but main memory and the disk changes nothing. -/
lemma after_read_of_away (world : World) (memory : Component.ofAddress address ≠ .ram)
    (disk : Component.ofAddress address ≠ .disk) (count : Word) :
    world.after (Message.read address count) = world := by
  have installed := world.installed_read address count
  have asks : (Message.read address count).asks .ram = false := decide_eq_false memory
  have asks' : (Message.read address count).asks .disk = false := decide_eq_false disk
  obtain ⟨stores, drive, reading, ready⟩ := world
  rw [mk.injEq]
  exact ⟨by simp [after, asks], by simp [after, asks'], by simp [after, asks'], installed⟩

/-- A read of the data register takes the word under the cursor. -/
lemma after_data (world : World) : world.after (Message.read diskData 1)
    = { world with
        drive := world.drive.advance
        reading := world.reading ++ [Message.response diskData [world.drive.word]] } := by
  have installed := world.installed_read diskData 1
  obtain ⟨stores, drive, reading, ready⟩ := world
  rw [mk.injEq]
  exact ⟨List.append_nil _, rfl, rfl, installed⟩

lemma installed_after (installed : world.installed) (message : Message) :
    (world.after message).installed :=
  Or.inl installed

end World

/-- A seek to one of the disk's blocks. -/
lemma select_ofNat {disk : CursorDisk} {block : Nat} (inside : block < disk.capacity)
    (small : block < 2 ^ 31) :
    disk.select (Int32.ofNat block) = { disk with current := block, position := 0 } := by
  have number : (Int32.ofNat block).toInt = block := Int32.toInt_ofNat_of_lt small
  rw [CursorDisk.select, number, if_pos (by omega)]
  rfl

lemma Packed.select {words : Array Word} {disk : CursorDisk} (packed : Packed words disk)
    (block : Word) : Packed words (disk.select block) := by
  rw [CursorDisk.select]
  split_ifs
  · exact ⟨packed.header, packed.chunks, packed.room⟩
  · exact packed

lemma Packed.advance {words : Array Word} {disk : CursorDisk} (packed : Packed words disk) :
    Packed words disk.advance :=
  ⟨packed.header, packed.chunks, packed.room⟩

section Steps

variable {words : Array Word} {registers : RegisterFile} {world : World}

lemma Settled.write_of_away (settled : Settled words world) {address : Word}
    (away : Component.ofAddress address ≠ .disk) (value : Word) :
    Settled words (world.after (Message.write address value)) where
  packed := by rw [World.drive_write_of_away away]; exact settled.packed
  reading := by rw [World.reading_write, settled.reading]

lemma Settled.seek (settled : Settled words world) (block : Word) :
    Settled words (world.after (Message.write diskSeek block)) where
  packed := by rw [World.drive_seek]; exact settled.packed.select block
  reading := by rw [World.reading_write, settled.reading]

lemma Loading.at (index : Nat) (settled : Settled words world)
    (here : registers.ip = label index + instructionWords)
    (stage : Stage words registers world (index + 1)) : Course words registers world none :=
  ⟨settled, index + 1, here.trans (label_succ index).symm, stage⟩

/-- A literal is stored at a literal address. -/
lemma Step.storeLiteral {saved : Option Word} {source : Register} {value : Word} (address : Word)
    (holds : registers.get source = value)
    (sends : Sends world.installed False (Message.write address value))
    (next : Course words registers.advance (world.after (Message.write address value)) saved) :
    Step words saved registers world (Assembler.storeLiteral source address) := by
  subst holds
  exact .store _ sends next

/-- A register is stored. -/
lemma Step.storing {saved : Option Word} {source : Register} {operand : MemoryOperand}
    {address value : Word} (resolves : operand.resolve registers = address)
    (holds : registers.get source = value)
    (sends : Sends world.installed False (Message.write address value))
    (next : Course words registers.advance (world.after (Message.write address value)) saved) :
    Step words saved registers world (.store ⟨source, operand⟩) := by
  subst resolves holds
  exact .store _ sends next

/-- A number is added to a register. -/
lemma Step.adding {saved : Option Word} {target : Register} {count : Nat} (more : Nat)
    (holds : registers.get target = Int32.ofNat count)
    (next : Course words (registers.set target (Int32.ofNat (count + more))).advance world saved) :
    Step words saved registers world
      (arithmeticLiteral .add target target (Int32.ofNat more)) := by
  refine .alu _ _ rfl ?_
  rw [Operand.value, holds, ← Int32.ofNat_add]
  exact next

/-- A jump that depends on two registers. -/
lemma Step.comparing {saved : Option Word} {condition : Condition} {first second : Register}
    {target lhs rhs : Word} (left : registers.get first = lhs) (right : registers.get second = rhs)
    (taken : condition.holds lhs rhs = true →
      Course words (registers.jump target) world saved
        ∨ Finished words world ∧ target = ramStart)
    (passed : condition.holds lhs rhs = false → Course words registers.advance world saved) :
    Step words saved registers world (jumpIf condition first second target) := by
  refine .branch _ ?_
  rw [BranchInstruction.next, left, right]
  split_ifs with holds
  · exact taken holds
  · exact Or.inl (passed (Bool.not_eq_true _ ▸ holds))

/-- The boot loader executes the instruction with the given number. -/
def Executes (words : Array Word) (registers : RegisterFile) (world : World) (index : Nat) : Prop :=
  ∃ instruction, (program romStart)[index]? = some instruction
    ∧ Step words none registers world instruction

/-- The handlers are installed. -/
lemma executes_installing (settled : Settled words world) {index : Nat} (early : index ≤ 4)
    (here : registers.ip = label index) (stage : Stage words registers world index) :
    Executes words registers world index := by
  rw [Executes, program_romStart]
  interval_cases index
  · refine ⟨_, rfl, .alu _ _ rfl (.at 0 settled (by simp [here]) ⟨stage, ?_⟩)⟩
    exact registers.begin_nil.push (by simp) _
  · obtain ⟨stores, begins⟩ := stage
    exact ⟨_, rfl, .storeLiteral keyboardInterrupt (begins 0 _ rfl) .keyboard
      (.at 1 (settled.write_of_away (by decide) _) (by simp [here])
        ((World.stores_write_of_away (by decide) _).trans stores))⟩
  · refine ⟨_, rfl, .alu _ _ rfl (.at 2 settled (by simp [here]) ⟨stage, ?_⟩)⟩
    exact registers.begin_nil.push (by simp) _
  · obtain ⟨stores, begins⟩ := stage
    exact ⟨_, rfl, .storeLiteral diskInterrupt (begins 0 _ rfl) .disk
      (.at 3 (settled.write_of_away (by decide) _) (by simp [here])
        ⟨Or.inr rfl, (World.stores_write_of_away (by decide) _).trans stores⟩)⟩
  · exact ⟨_, rfl, .branch _ (Or.inl ⟨settled, 9, rfl, stage⟩)⟩

/-! ### The first block is found -/

lemma Unstarted.write_of_away (unstarted : Unstarted world) {address : Word}
    (away : isRam address = false) (value : Word) :
    Unstarted (world.after (Message.write address value)) where
  installed := World.installed_after unstarted.installed _
  stores := (World.stores_write_of_away away _).trans unstarted.stores

/-- The word under the cursor is the number of blocks. -/
lemma word_eq_size (settled : Settled words world) (current : world.drive.current = 0)
    (position : (world.drive.position : Nat) = 0) :
    world.drive.word = Int32.ofNat (size words) := by
  obtain ⟨stores, ⟨capacity, blocks, block, place⟩, reading, installed⟩ := world
  obtain rfl : block = 0 := current
  obtain rfl : place = 0 := Fin.ext position
  exact settled.packed.header

lemma executes_preparing (settled : Settled words world) (few : 4096 * size words ≤ ramWords)
    {index : Nat} (from' : 9 ≤ index) (upto : index ≤ 16)
    (here : registers.ip = label index) (stage : Stage words registers world index) :
    Executes words registers world index := by
  rw [ramWords] at few
  have positive : 0 < size words := Nat.succ_pos _
  have room : size words < world.drive.capacity := settled.packed.room
  rw [Executes, program_romStart]
  interval_cases index
  · refine ⟨_, rfl, .alu _ _ rfl (.at 9 settled (by simp [here]) ⟨stage, ?_⟩)⟩
    exact registers.begin_nil.push (by simp) _
  · obtain ⟨unstarted, begins⟩ := stage
    refine ⟨_, rfl, .storeLiteral diskSeek (begins 0 _ rfl) (.seek _ unstarted.installed)
      (.at 10 (settled.seek 0) (by simp [here]) ⟨unstarted.write_of_away (by decide) _, ?_⟩)⟩
    rw [World.drive_seek, show (0 : Word) = Int32.ofNat 0 from rfl,
      select_ofNat (by omega) (by omega)]
    exact ⟨rfl, rfl⟩
  · obtain ⟨unstarted, current, position⟩ := stage
    refine ⟨_, rfl, .load _ _ rfl (.at 11 ⟨settled.packed.advance, settled.reading⟩ (by simp [here])
      ⟨⟨unstarted.installed, unstarted.stores⟩, ?_⟩)⟩
    rw [word_eq_size settled current position]
    exact registers.begin_nil.push (by simp) _
  · obtain ⟨unstarted, begins⟩ := stage
    exact ⟨_, rfl, .alu _ _ rfl (.at 12 settled (by simp [here])
      ⟨unstarted, begins.push (by simp) _⟩)⟩
  · obtain ⟨unstarted, begins⟩ := stage
    refine ⟨_, rfl, .storeLiteral diskSeek (begins 1 _ rfl) (.seek _ unstarted.installed)
      (.at 13 (settled.seek 1) (by simp [here]) ⟨?_, begins⟩)⟩
    have moved := unstarted.write_of_away (show isRam diskSeek = false by decide) 1
    have drive : (world.after (Message.write diskSeek 1)).drive
        = { world.drive with current := 1, position := 0 } := by
      rw [World.drive_seek, show (1 : Word) = Int32.ofNat 1 from rfl,
        select_ofNat (by omega) (by omega)]
    exact ⟨moved.installed, Nat.succ_pos _, by rw [drive], by rw [drive]; rfl,
      moved.stores⟩
  · obtain ⟨copying, begins⟩ := stage
    exact ⟨_, rfl, .alu _ _ rfl (.at 14 settled (by simp [here])
      ⟨copying, begins.push (by simp) _⟩)⟩
  · obtain ⟨copying, begins⟩ := stage
    exact ⟨_, rfl, .alu _ _ rfl (.at 15 settled (by simp [here])
      ⟨copying, begins.push (by simp) _⟩)⟩
  · obtain ⟨copying, begins⟩ := stage
    exact ⟨_, rfl, .alu _ _ rfl (.at 16 settled (by simp [here])
      ⟨0, 0, by omega, copying, begins.push (by simp) _⟩)⟩

/-! ### A block is copied -/

/-- The word under the cursor is the next one to be stored. -/
lemma Copying.word_eq {block taken stored : Nat} (copying : Copying words world block taken stored)
    (settled : Settled words world) (inside : taken < 4096) :
    world.drive.word = words.getD (4096 * block + taken) 0 := by
  obtain ⟨stores, ⟨capacity, blocks, number, place⟩, reading, installed⟩ := world
  obtain rfl : number = block + 1 := copying.current
  have position : (place : Nat) = taken := copying.position.trans (Nat.mod_eq_of_lt inside)
  rw [← position]
  exact settled.packed.chunks block copying.inside place

lemma less_ofNat {a b : Nat} (small : a < 2 ^ 31) (small' : b < 2 ^ 31) :
    Int32.ofNat a < Int32.ofNat b ↔ a < b := by
  rw [Int32.lt_iff_toInt_lt, Int32.toInt_ofNat_of_lt small, Int32.toInt_ofNat_of_lt small',
    Int.ofNat_lt]

lemma lessEqual_ofNat {a b : Nat} (small : a < 2 ^ 31) (small' : b < 2 ^ 31) :
    Int32.ofNat a ≤ Int32.ofNat b ↔ a ≤ b := by
  rw [Int32.le_iff_toInt_le, Int32.toInt_ofNat_of_lt small, Int32.toInt_ofNat_of_lt small',
    Int.ofNat_le]

/-- The copy loop stores in main memory. -/
lemma Copying.stores_inside {block taken i : Nat}
    (copying : Copying words world block taken (4096 * block + i)) (inside : i < 4096)
    (few : 4096 * size words ≤ ramWords)
    (count : registers.get (register 3) = Int32.ofNat (4096 * block + i)) :
    (MemoryOperand.indexed (register 3) ramStart).resolve registers
        = ramStart + Int32.ofNat (4096 * block + i)
      ∧ isRam (ramStart + Int32.ofNat (4096 * block + i)) = true := by
  have below := copying.inside
  refine ⟨?_, (isRam_ramStart_add ?_).mpr ?_⟩
  · rw [MemoryOperand.resolve, count, Int32.add_comm]
  all_goals omega

lemma executes_copying (settled : Settled words world) (few : 4096 * size words ≤ ramWords)
    {index : Nat} (from' : 17 ≤ index) (upto : index ≤ 21)
    (here : registers.ip = label index) (stage : Stage words registers world index) :
    Executes words registers world index := by
  rw [Executes, program_romStart]
  interval_cases index <;> obtain ⟨block, i, inside, copying, begins⟩ := stage
  · refine ⟨_, rfl, .load _ _ rfl (.at 17 ⟨settled.packed.advance, settled.reading⟩ (by simp [here])
      ⟨block, i, inside, ?_, ?_⟩)⟩
    · refine ⟨copying.installed, copying.inside, copying.current, ?_, copying.stores⟩
      change ((world.drive.position : Nat) + 1) % 4096 = _
      rw [copying.position, Nat.mod_add_mod]
    · rw [copying.word_eq settled inside]
      exact begins.push (by simp) _
  · obtain ⟨address, inside'⟩ := copying.stores_inside inside few (begins 3 _ rfl)
    have away : Component.ofAddress (ramStart + Int32.ofNat (4096 * block + i)) ≠ .disk := by
      rw [Component.ofAddress_eq_ram_iff.mpr inside']
      decide
    refine ⟨_, rfl, .storing address (begins 5 _ rfl) (.store _ _ inside')
      (.at 18 (settled.write_of_away away _) (by simp [here])
        ⟨block, i, inside, ?_, begins.dropLast⟩)⟩
    refine ⟨Or.inl copying.installed, copying.inside, ?_, ?_, ?_⟩
    · rw [World.drive_write_of_away away, copying.current]
    · rw [World.drive_write_of_away away, copying.position]
    · rw [World.stores_write, if_pos inside', copying.stores, stored_succ]
  · refine ⟨_, rfl, .adding 1 (begins 2 _ rfl) (.at 19 settled (by simp [here])
      ⟨block, i, inside, copying, ?_⟩)⟩
    exact begins.set 2 (by simp) (by simp) _
  · refine ⟨_, rfl, .adding 1 (begins 3 _ rfl) (.at 20 settled (by simp [here])
      ⟨block, i, inside, copying, ?_⟩)⟩
    exact begins.set 3 (by simp) (by simp) _
  · refine ⟨_, rfl, .comparing (begins 2 _ rfl) (begins 4 _ rfl) (fun holds => ?_) fun fails => ?_⟩
    · rw [Condition.holds, decide_eq_true_eq, show (4096 : Word) = Int32.ofNat 4096 from rfl,
        less_ofNat (by omega) (by omega)] at holds
      exact Or.inl ⟨settled, 17, rfl, block, i + 1, holds, copying, begins⟩
    · rw [Condition.holds, decide_eq_false_iff_not, show (4096 : Word) = Int32.ofNat 4096 from rfl,
        less_ofNat (by omega) (by omega)] at fails
      obtain rfl : i = 4095 := by omega
      exact .at 21 settled (by simp [here]) ⟨block + 1, _,
        ⟨copying.installed, copying.inside, copying.stores⟩, begins⟩

/-! ### The next block is found -/

lemma executes_turning (settled : Settled words world) (few : 4096 * size words ≤ ramWords)
    {index : Nat} (from' : 22 ≤ index) (upto : index ≤ 26)
    (here : registers.ip = label index) (stage : Stage words registers world index) :
    Executes words registers world index := by
  rw [ramWords] at few
  have room : size words < world.drive.capacity := settled.packed.room
  rw [Executes, program_romStart]
  interval_cases index
  · obtain ⟨blocks, last, copied, begins⟩ := stage
    refine ⟨_, rfl, .alu _ _ rfl (.at 22 settled (by simp [here]) ⟨blocks, copied, ?_⟩)⟩
    exact begins.set 2 (by simp) (by simp) _
  · obtain ⟨blocks, copied, begins⟩ := stage
    refine ⟨_, rfl, .adding 1 (begins 1 _ rfl) (.at 23 settled (by simp [here])
      ⟨blocks, copied, ?_⟩)⟩
    exact begins.set 1 (by simp) (by simp) _
  · obtain ⟨blocks, copied, begins⟩ := stage
    have stores : (world.after (Message.write diskSeek (Int32.ofNat (blocks + 1)))).stores
        = world.stores := World.stores_write_of_away (by decide) _
    refine ⟨_, rfl, .storeLiteral diskSeek (begins 1 _ rfl) (.seek _ copied.installed)
      (.at 24 (settled.seek _) (by simp [here]) ⟨blocks,
        ⟨Or.inl copied.installed, copied.inside, stores.trans copied.stores⟩, fun more => ?_,
        begins⟩)⟩
    have drive : (world.after (Message.write diskSeek (Int32.ofNat (blocks + 1)))).drive
        = { world.drive with current := blocks + 1, position := 0 } := by
      rw [World.drive_seek, select_ofNat (by omega) (by omega)]
    exact ⟨Or.inl copied.installed, more, by rw [drive], by rw [drive]; rfl,
      stores.trans copied.stores⟩
  · obtain ⟨blocks, copied, copying, begins⟩ := stage
    have inside := copied.inside
    refine ⟨_, rfl, .comparing (begins 1 _ rfl) (begins 0 _ rfl) (fun holds => ?_) fun fails => ?_⟩
    · rw [Condition.holds, decide_eq_true_eq, lessEqual_ofNat (by omega) (by omega)] at holds
      exact Or.inl ⟨settled, 17, rfl, blocks, 0, by omega, copying holds, begins⟩
    · rw [Condition.holds, decide_eq_false_iff_not, lessEqual_ofNat (by omega) (by omega)] at fails
      obtain rfl : blocks = size words := by omega
      exact .at 25 settled (by simp [here]) copied
  · exact ⟨_, rfl, .branch _ (Or.inr ⟨⟨settled, stage.stores⟩, rfl⟩)⟩

/-! ### Every instruction -/

/-- With its handler installed, the disk is not changed by the acknowledgement. -/
lemma World.after_acknowledge (installed : world.installed) (value : Word) :
    world.after (Message.write diskAcknowledge value) = world := by
  have same : (world.after (Message.write diskAcknowledge value)).installed = world.installed :=
    propext ⟨fun _ => installed, fun _ => Or.inl installed⟩
  obtain ⟨stores, drive, reading, ready⟩ := world
  rw [World.mk.injEq]
  exact ⟨List.append_nil _, rfl, List.append_nil _, same⟩

/-- **Every instruction leads on**, or to the start of the copied program. -/
theorem Course.step {saved : Option Word} (course : Course words registers world saved)
    (few : 4096 * size words ≤ ramWords) :
    ∃ index instruction, registers.ip = label index
      ∧ (program romStart)[index]? = some instruction
      ∧ Step words saved registers world instruction := by
  cases saved with
  | none =>
    obtain ⟨settled, index, here, stage⟩ := course
    have range : index ≤ 4 ∨ 9 ≤ index ∧ index ≤ 16 ∨ 17 ≤ index ∧ index ≤ 21
        ∨ 22 ≤ index ∧ index ≤ 26 := by
      have := stage.range
      omega
    have executes : Executes words registers world index := by
      rcases range with early | ⟨low, high⟩ | ⟨low, high⟩ | ⟨low, high⟩
      · exact executes_installing settled early here stage
      · exact executes_preparing settled few low high here stage
      · exact executes_copying settled few low high here stage
      · exact executes_turning settled few low high here stage
    obtain ⟨instruction, listed, step⟩ := executes
    exact ⟨index, instruction, here, listed, step⟩
  | some ip =>
    obtain ⟨here | here, installed, loading⟩ := course
    · refine ⟨7, _, here, by rw [program_romStart]; rfl, .storeLiteral diskAcknowledge rfl
        (.acknowledge _) ?_⟩
      rw [World.after_acknowledge installed]
      exact ⟨Or.inr (by simp [here, label_succ]), installed, loading⟩
    · exact ⟨8, _, here, by rw [program_romStart]; rfl, .handlerReturn ip rfl loading⟩

end Steps

end Boot

end PipelinedMachine
