import PipelinedMachine.Proofs.Boot.Course
import PipelinedMachine.Proofs.Core.Deals
import PipelinedMachine.Proofs.Core.Frontier

/-!
# Fetching the boot loader

The code of the boot loader comes from the ROM, a block at a time, and reading ahead stays close to
it.  While a handler is looked for, the interrupt controller names the disk and its handler.

* `Boot.word`, `Boot.code` — what is in the ROM, and `Boot.decode_label`, the instructions there;
* `Boot.Outlook` — how the core sees what the boot loader works on through its end of the link;
* `Boot.Tells` — what comes to the core;
* `Fetch.Loads`, **`Fetch.Turn.loads`** — what fetch has at hand is what is in the ROM;
* `Fetch.Turn.arrives` — the first thing that it asks for in the copied program is its first block;
* `Fetch.Turn.heralds` — a search ends with a jump to the disk's handler.
-/

namespace PipelinedMachine

open AddressMap Interconnect

namespace Boot

/-! ## What is in the ROM -/

/-- The word at an address of the ROM. -/
def word (address : Word) : Word :=
  match Word.offset? romStart address with
  | some offset => (loader romStart).getD offset 0
  | none => 0

/-- The two words of an instruction in the ROM. -/
def code (address : Word) : CodeWords := ⟨word address, word (address + 1)⟩

/-- The boot loader is in the ROM. -/
lemma decode_label {index : Nat} {instruction : Instruction}
    (listed : (program romStart)[index]? = some instruction) :
    (code (label index)).decode = .ok instruction := by
  have inside : index < 27 := (List.getElem?_eq_some_iff.mp listed).1
  have every : ∀ index < 27,
      (code (label index)).decode.toOption = (program romStart)[index]? := by
    decide +kernel
  have found := (every index inside).trans listed
  cases decoded : (code (label index)).decode with
  | ok other =>
    rw [decoded] at found
    rw [Option.some.inj found]
  | error cause => simp [decoded, Except.toOption] at found

/-- The answer of the ROM to the question for a block. -/
def block (address : Word) : Message := replyFrom word address 8

lemma toInt_label {index : Nat} (few : index ≤ 500) : (label index).toInt = 512 + 2 * index := by
  have start : romStart.toInt = 512 := by decide
  have small : (Int32.ofNat (2 * index)).toInt = (2 * index : Nat) :=
    Int32.toInt_ofNat_of_lt (by omega)
  rw [label, Int32.toInt_add, start, small]
  exact Int.bmod_eq_of_le (by omega) (by omega)

lemma ofAddress_label {index : Nat} (few : index ≤ 500) :
    Component.ofAddress (label index) = .rom := by
  rw [Component.ofAddress_eq, toInt_label few]
  split_ifs <;> first | rfl | omega

lemma label_inj {i j : Nat} (few : i ≤ 500) (few' : j ≤ 500) : label i = label j ↔ i = j := by
  rw [← Int32.toInt_inj, toInt_label few, toInt_label few']
  omega

/-- The boot loader is not in main memory. -/
lemma label_ne_ramStart {index : Nat} (few : index ≤ 500) : label index ≠ ramStart := by
  intro place
  have rom := ofAddress_label few
  rw [place] at rom
  exact absurd rom (by decide)

lemma label_add {index i : Nat} : label index + Int32.ofNat (2 * i) = label (index + i) := by
  rw [label, label, Int32.add_assoc, ← Int32.ofNat_add, Nat.mul_add]

/-- The four instructions of a block. -/
lemma mem_block {index : Nat} {entry : Fetched}
    (member : entry ∈ Fetch.block (label index) (block (label index)).payload) :
    ∃ i < 4, entry = ⟨label (index + i), code (label (index + i))⟩ := by
  have payload : (block (label index)).payload
      = (List.range 8).map fun i => word (label index + Int32.ofNat i) := rfl
  simp only [payload, Fetch.block, List.map_cons, List.map_nil, List.mem_cons, List.not_mem_nil,
    or_false] at member
  have next (i : Nat) : label index + Int32.ofNat (2 * i + 1) = label (index + i) + 1 := by
    rw [Int32.ofNat_add, ← Int32.add_assoc, label_add]
    rfl
  have found (i : Nat) (inside : i < 4) (entry : Fetched)
      (same : entry = ⟨label index + Int32.ofNat (2 * i),
        ⟨word (label index + Int32.ofNat (2 * i)), word (label index + Int32.ofNat (2 * i + 1))⟩⟩) :
      ∃ i < 4, entry = ⟨label (index + i), code (label (index + i))⟩ := by
    rw [next, label_add] at same
    exact ⟨i, inside, same⟩
  rcases member with same | same | same | same
  · exact found 0 (by omega) entry same
  · exact found 1 (by omega) entry same
  · exact found 2 (by omega) entry same
  · exact found 3 (by omega) entry same

/-- Whatever fetch asks for while the instruction pointer is in the boot loader is close to it. -/
lemma exists_label_of_approach {index : Nat} {edge : Word} (inside : index ≤ 26)
    (near : label index ∈ Fetch.approach edge) : ∃ k ≤ 30, edge = label k := by
  have beyond (i : Nat) (few : i ≤ 4) (same : label index = edge - Int32.ofNat (2 * i)) :
      ∃ k ≤ 30, edge = label k :=
    ⟨index + i, by omega, by rw [← label_add, same, Int32.sub_add_cancel]⟩
  simp only [Fetch.approach, Fetch.foreland, List.cons_append, List.nil_append, List.mem_cons,
    List.not_mem_nil, or_false] at near
  rcases near with same | same | same | same | same
  · exact beyond 4 (by omega) same
  · exact beyond 3 (by omega) same
  · exact beyond 2 (by omega) same
  · exact beyond 1 (by omega) same
  · exact ⟨index, by omega, same.symm⟩

/-! ## The core's end of the link -/

/-- How a core sees what the boot loader works on through its end of the link. -/
structure Outlook (near : Terminal) (see : Interconnect → World) : Prop where
  sends : ∀ {bus after : Interconnect} {message : Message},
    bus.send? near message = some after → see after = (see bus).after message
  takes : ∀ {bus : Interconnect} {message : Message}, bus.message? near = some message →
    message.tells .disk = true → ∃ rest, (see bus).reading = message :: rest
      ∧ see (bus.clear near) = { see bus with reading := rest }
  skips : ∀ {bus : Interconnect} {message : Message}, bus.message? near = some message →
    message.tells .disk = false → see (bus.clear near) = see bus

lemma Outlook.skips_of_answers {near : Terminal} {see : Interconnect → World}
    (outlook : Outlook near see) {bus : Interconnect} {address : Word} {answer : Message}
    (came : bus.answer? near address = some answer) (away : Component.ofAddress address ≠ .disk) :
    see (bus.clear near) = see bus := by
  obtain ⟨waiting, answers⟩ := Interconnect.answer?_eq_some came
  exact outlook.skips waiting ((Message.tells_of_answers answers .disk).trans
    (decide_eq_false away))

/-- What comes to the core: what is in the ROM, and where the disk's handler is. -/
structure Tells (near : Terminal) (bus : Interconnect) : Prop where
  code : ∀ address answer, bus.answer? near address = some answer →
    Component.ofAddress address = .rom → answer = block address
  latest : ∀ answer, bus.answer? near lastInterrupt = some answer → answer.value = diskInterrupt
  handler : ∀ answer, bus.answer? near (vectorStart + diskInterrupt) = some answer →
    answer.value = label 7

lemma Tells.clear (near : Terminal) (bus : Interconnect) : Tells near (bus.clear near) := by
  have nothing (address : Word) (answer : Message) :
      (bus.clear near).answer? near address ≠ some answer := fun came => by
    have waiting := (answer?_eq_some_iff.mp came).1
    rw [message?_clear] at waiting
    contradiction
  exact ⟨fun address answer came => absurd came (nothing _ _),
    fun answer came => absurd came (nothing _ _), fun answer came => absurd came (nothing _ _)⟩

end Boot

/-! ## What fetch has at hand -/

namespace Fetch

open Boot

/-- What fetch has at hand is what is in the ROM, but for the jump to a handler that stands at the
saved address. -/
structure Loads (saved : Option Word) (fetch : Fetch) : Prop where
  line : ∀ entry ∈ fetch.line, ∃ index ≤ 33, entry.address = label index
  code : ∀ entry ∈ fetch.line, saved ≠ some entry.address → entry.code = Boot.code entry.address
  outstanding : ∀ address, fetch.outstanding = some address → ∃ index ≤ 30, address = label index

/-- Fetch keeps off every block that is not close to the boot loader. -/
def StaysNear (fetch : Fetch) (ip : Word) : Prop :=
  ∀ edge, (∀ index ≤ 26, label index ∉ approach edge) → fetch.KeepsOff edge ip

variable {near : Terminal} {see : Interconnect → World} {path after : Datapath}
  {fetch later : Fetch} {saved : Option Word} {installed called : Prop}

lemma Loads.pass (loads : fetch.Loads saved) (ip : Word) : (fetch.pass ip).Loads saved := by
  obtain ⟨n, line⟩ := fetch.exists_line_pass ip
  have old {entry : Fetched} (member : entry ∈ (fetch.pass ip).line) : entry ∈ fetch.line :=
    List.mem_of_mem_drop (line ▸ member)
  exact ⟨fun entry member => loads.line entry (old member),
    fun entry member => loads.code entry (old member),
    by rw [outstanding_pass]; exact loads.outstanding⟩

/-- The block that is asked for is close to the boot loader. -/
lemma StaysNear.exists_label (stays : fetch.StaysNear path.registers.ip)
    (here : ∃ index ≤ 26, path.registers.ip = label index) {address : Word}
    (wanted : (fetch.pass path.registers.ip).wanted? path.registers.ip = some address) :
    ∃ k ≤ 30, address = label k := by
  obtain ⟨index, inside, here⟩ := here
  by_contra far
  have away : ∀ index ≤ 26, label index ∉ approach address := fun index inside near =>
    far (exists_label_of_approach inside near)
  have off : path.registers.ip ∉ approach address := here ▸ away index inside
  exact ((stays address away).pass off).wanted?_ne off wanted

/-- **A turn of fetch takes in what is in the ROM**, and asks for nothing else. -/
theorem Turn.loads (turn : Turn near path fetch later after) (outlook : Outlook near see)
    (tells : Tells near path.bus) (reading : fetch.searching = none) (loads : fetch.Loads saved)
    (stays : fetch.StaysNear path.registers.ip)
    (here : ∃ index ≤ 26, path.registers.ip = label index) :
    later.Loads saved ∧ see after.bus = see path.bus
      ∧ Deals near (Sends installed called) path.bus after.bus := by
  have passed := loads.pass path.registers.ip
  cases turn with
  | received address answer _ asked came =>
    obtain ⟨k, close, rfl⟩ := loads.outstanding address asked
    have rom := ofAddress_label (show k ≤ 500 by omega)
    obtain rfl := tells.code _ _ came rom
    refine ⟨⟨fun entry member => ?_, fun entry member apart => ?_, by simp⟩,
      outlook.skips_of_answers came (by simp [rom]), .answer came⟩
    · rw [line, ← List.append_assoc, List.mem_append] at member
      rcases member with old | new
      · exact passed.line entry old
      · obtain ⟨i, few, rfl⟩ := mem_block new
        exact ⟨k + i, by omega, rfl⟩
    · rw [line, ← List.append_assoc, List.mem_append] at member
      rcases member with old | new
      · exact passed.code entry old apart
      · obtain ⟨i, few, rfl⟩ := mem_block new
        rfl
  | awaited | refused | satisfied => exact ⟨passed, rfl, .refl⟩
  | asked address bus _ free wanted sent =>
    obtain ⟨k, close, rfl⟩ := stays.exists_label here wanted
    have rom := ofAddress_label (show k ≤ 500 by omega)
    refine ⟨⟨passed.line, passed.code, ?_⟩, ?_, .send sent (.code _ rom)⟩
    · rintro _ ⟨⟩
      exact ⟨k, close, rfl⟩
    · exact (outlook.sends sent).trans
        (World.after_read_of_away _ (by simp [rom]) (by simp [rom]) _)
  | searched _ _ _ searching | dropped _ _ _ _ _ searching =>
    rw [reading] at searching
    contradiction

/-- The first thing that fetch asks for in the copied program is its first block. -/
lemma Turn.arrives (turn : Turn near path fetch later after) (outlook : Outlook near see)
    (reading : fetch.searching = none) (loads : fetch.Loads saved)
    (here : path.registers.ip = ramStart) :
    see after.bus = see path.bus
      ∨ see after.bus = (see path.bus).after (Message.read ramStart blockWords) := by
  cases turn with
  | received address answer _ asked came =>
    obtain ⟨k, close, rfl⟩ := loads.outstanding address asked
    have rom := ofAddress_label (show k ≤ 500 by omega)
    exact Or.inl (outlook.skips_of_answers came (by simp [rom]))
  | awaited | refused | satisfied => exact Or.inl rfl
  | asked address bus _ free wanted sent =>
    have missing : (fetch.pass path.registers.ip).find? path.registers.ip = none := by
      by_contra found
      obtain ⟨entry, member, address⟩ := find?_ne_none_iff.mp found
      obtain ⟨index, inside, place⟩ := (loads.pass path.registers.ip).line entry member
      have rom := ofAddress_label (show index ≤ 500 by omega)
      rw [← place, address, here] at rom
      exact absurd rom (by decide)
    obtain rfl : path.registers.ip = address := by simpa [wanted?, missing] using wanted
    rw [here] at sent
    exact Or.inr (outlook.sends sent)
  | searched _ _ _ searching | dropped _ _ _ _ _ searching =>
    rw [reading] at searching
    contradiction

/-! ## The search for the disk's handler -/

/-- The handler that is looked for is the disk's. -/
def SeeksDisk (fetch : Fetch) : Prop :=
  ∃ phase, fetch.searching = some phase
    ∧ ∀ id, phase = .askHandler id ∨ phase = .awaitHandler id → id = diskInterrupt

lemma seeksDisk_beginSearch (fetch : Fetch) : fetch.beginSearch.SeeksDisk :=
  ⟨.askId, rfl, by simp⟩

/-- The search goes on, or it has ended with a jump to the disk's handler. -/
def Heralds (later : Fetch) (ip : Word) : Prop :=
  later.SeeksDisk ∧ later.line = []
    ∨ later.searching = none ∧ later.line = [⟨ip, (Assembler.jump (label 7)).encode⟩]

lemma Heralds.loads {ip : Word} (heralds : later.Heralds ip)
    (here : ∃ index ≤ 26, ip = label index)
    (outstanding : ∀ address, later.outstanding = some address →
      ∃ index ≤ 30, address = label index) : later.Loads (some ip) := by
  obtain ⟨index, inside, here⟩ := here
  rcases heralds with ⟨-, vacant⟩ | ⟨-, single⟩
  · exact ⟨by simp [vacant], by simp [vacant], outstanding⟩
  · refine ⟨fun entry member => ?_, fun entry member apart => ?_, outstanding⟩ <;>
      rw [single, List.mem_singleton] at member <;> subst member
    · exact ⟨index, by omega, here⟩
    · exact absurd rfl apart

lemma SearchTurn.heralds {phase : HandlerSearch}
    (step : SearchTurn near path fetch phase later after) (outlook : Outlook near see)
    (tells : Tells near path.bus) (searching : fetch.searching = some phase)
    (disk : ∀ id, phase = .askHandler id ∨ phase = .awaitHandler id → id = diskInterrupt)
    (vacant : fetch.line = []) (ready : called) :
    later.Heralds path.registers.ip ∧ later.outstanding = fetch.outstanding
      ∧ see after.bus = see path.bus
      ∧ Deals near (Sends installed called) path.bus after.bus := by
  cases step with
  | askedId bus sent =>
    exact ⟨Or.inl ⟨⟨_, rfl, by simp⟩, vacant⟩, rfl,
      (outlook.sends sent).trans (World.after_read_of_away _ (by decide) (by decide) _),
      .send sent (.latest ready)⟩
  | gotId answer came =>
    have value := tells.latest answer came
    refine ⟨Or.inl ⟨⟨_, rfl, ?_⟩, vacant⟩, rfl, outlook.skips_of_answers came (by decide),
      .answer came⟩
    rintro id (⟨⟨⟩⟩ | ⟨⟨⟩⟩)
    exact value
  | askedHandler id bus sent =>
    obtain rfl := disk id (Or.inl rfl)
    refine ⟨Or.inl ⟨⟨_, rfl, ?_⟩, vacant⟩, rfl,
      (outlook.sends sent).trans (World.after_read_of_away _ (by decide) (by decide) _),
      .send sent (.handler ready)⟩
    rintro id (⟨⟨⟩⟩ | ⟨⟨⟩⟩)
    rfl
  | gotHandler id answer came =>
    obtain rfl := disk id (Or.inr rfl)
    have value := tells.handler answer came
    obtain ⟨passed, ahead⟩ := List.append_eq_nil_iff.mp vacant
    exact ⟨Or.inr ⟨rfl, by simp [line, passed, ahead, value]⟩, rfl,
      outlook.skips_of_answers came (by decide), .answer came⟩
  | waited => exact ⟨Or.inl ⟨⟨_, searching, disk⟩, vacant⟩, rfl, rfl, .refl⟩

/-- **A search ends with a jump to the disk's handler.** -/
theorem Turn.heralds (turn : Turn near path fetch later after) (outlook : Outlook near see)
    (tells : Tells near path.bus) (seeks : fetch.SeeksDisk) (vacant : fetch.line = [])
    (loads : fetch.Loads saved) (ready : called)
    (here : ∃ index ≤ 26, path.registers.ip = label index) :
    later.Heralds path.registers.ip ∧ later.Loads (some path.registers.ip)
      ∧ see after.bus = see path.bus
      ∧ Deals near (Sends installed called) path.bus after.bus := by
  obtain ⟨phase', searching', disk⟩ := seeks
  cases turn with
  | received _ _ reading | awaited _ reading | asked _ _ reading | refused _ reading
  | satisfied reading =>
    rw [reading] at searching'
    contradiction
  | searched phase _ _ searching _ step =>
    obtain rfl := Option.some.inj (searching.symm.trans searching')
    obtain ⟨heralds, outstanding, same, deals⟩ :=
      step.heralds outlook tells searching disk vacant ready
    exact ⟨heralds, heralds.loads here (outstanding ▸ loads.outstanding), same, deals⟩
  | dropped phase address answer _ _ searching asked came step =>
    obtain rfl := Option.some.inj (searching.symm.trans searching')
    obtain ⟨k, close, rfl⟩ := loads.outstanding address asked
    have rom := ofAddress_label (show k ≤ 500 by omega)
    obtain ⟨heralds, outstanding, same, deals⟩ :=
      step.heralds outlook (.clear near path.bus) searching disk vacant ready
    exact ⟨heralds, heralds.loads here (by simp [outstanding]),
      same.trans (outlook.skips_of_answers came (by simp [rom])), (Deals.answer came).trans deals⟩

end Fetch

end PipelinedMachine
