import PipelinedMachine.Proofs.Boot.Code
import PipelinedMachine.Proofs.Timing.Pursuit

/-!
# The core that runs the boot loader

A core takes an instruction through its units, a part of it in each tick, and enters the disk's
handler in between.  Here its ticks are compared with the course of the boot loader.

* `Occupancy.Carries` — the instruction in its unit is the next one on the course;
* `Standing.Boots` — the core is on the course, or looks for the disk's handler;
* `Standing.Arrived` — it is about to look up the first instruction of the copied program;
* **`Standing.Turn.boots`** — a tick takes a core that boots to one or the other, without a fault.
-/

namespace PipelinedMachine

open AddressMap Interconnect Boot

variable {words : Array Word} {saved : Option Word} {registers : RegisterFile} {world : World}
  {near : Terminal} {see : Interconnect → World} {path after : Datapath} {installed called : Prop}

/-! ## Where the course leads -/

namespace Boot

lemma Course.here (course : Course words registers world saved) :
    ∃ index ≤ 26, registers.ip = label index := by
  cases saved with
  | none =>
    obtain ⟨index, inside, here, -⟩ := Loading.exists_index course
    exact ⟨index, inside, here⟩
  | some ip =>
    rcases course.1 with here | here
    · exact ⟨7, by omega, here⟩
    · exact ⟨8, by omega, here⟩

/-- The handler is not where it returns to. -/
lemma Course.saved_ne (course : Course words registers world saved) :
    saved ≠ some registers.ip := by
  rintro rfl
  obtain ⟨here, -, loading⟩ := course
  obtain ⟨index, inside, place, seventh, eighth⟩ := Loading.exists_index loading
  have place : registers.ip = label index := place
  rcases here with here | here
  · exact seventh ((label_inj (by omega) (by omega)).mp (place.symm.trans here))
  · exact eighth ((label_inj (by omega) (by omega)).mp (place.symm.trans here))

lemma Course.settled (course : Course words registers world saved) : Settled words world := by
  cases saved with
  | none => exact Loading.settled course
  | some ip => exact course.2.2.settled

end Boot

/-! ## The instruction in its unit -/

namespace Occupancy

/-- The instruction in its unit is the next one on the course. -/
def Carries (words : Array Word) (saved : Option Word) (registers : RegisterFile) (world : World) :
    Occupancy → Prop
  | idle => Course words registers world saved
  | done => Course words registers.advance world saved
  | branch held => Course words (held.instruction.next registers) world saved
      ∨ Finished words world ∧ (held.instruction.next registers).ip = ramStart
  | alu held => ∃ value, held.instruction.evaluate registers = .ok (some value)
      ∧ Course words (registers.set held.instruction.target value).advance world saved
  | load pending => ∃ target operand, pending.instruction = .load target operand
      ∧ match pending.requested with
        | none => operand.resolve registers = diskData
          ∧ Course words (registers.set target world.drive.word).advance
            { world with drive := world.drive.advance } saved
        | some address => address = diskData
          ∧ ∃ value, world.reading = [Message.response diskData [value]]
            ∧ Course words (registers.set target value).advance { world with reading := [] } saved
  | store held =>
      Boot.Sends world.installed False
          (Message.write (held.instruction.address.resolve registers)
            (registers.get held.instruction.source))
        ∧ Course words registers.advance
          (world.after (Message.write (held.instruction.address.resolve registers)
            (registers.get held.instruction.source))) saved
  | stack _ | request _ => False

/-- The address in main memory that the unit is about to write. -/
def storing (registers : RegisterFile) : Occupancy → List Word
  | store held => [held.instruction.address.resolve registers].filter isRam
  | idle | done | branch _ | alu _ | load _ | stack _ | request _ => []

variable {occupancy later : Occupancy}

/-- What the next step of the course says of an instruction holds of it in its unit. -/
lemma carries_of_step {instruction : Instruction} {entry : Fetched}
    (step : Step words saved registers world instruction)
    (taken : ofInstruction? entry instruction = some later) :
    later.Carries words saved registers world
      ∧ later.storing registers = (instruction.written? registers).toList.filter isRam := by
  cases step with
  | alu held value result next =>
    obtain rfl := Option.some.inj taken
    exact ⟨⟨value, result, next⟩, rfl⟩
  | load target operand address next =>
    obtain rfl := Option.some.inj taken
    exact ⟨⟨target, operand, rfl, address, next⟩, rfl⟩
  | store held sends next =>
    obtain rfl := Option.some.inj taken
    exact ⟨⟨sends, next⟩, rfl⟩
  | branch held next =>
    obtain rfl := Option.some.inj taken
    exact ⟨next, rfl⟩
  | handlerReturn => contradiction

/-- **The unit goes on with it**, and its instruction is on the course when it is done. -/
theorem Work.carries (work : Work near path occupancy later after) (outlook : Outlook near see)
    (carries : occupancy.Carries words saved path.registers (see path.bus)) :
    later.Carries words saved after.registers (see after.bus)
      ∧ (see path.bus).stores.map Message.address ++ occupancy.storing path.registers
        = (see after.bus).stores.map Message.address ++ later.storing after.registers
      ∧ Deals near (Boot.Sends (see path.bus).installed called) path.bus after.bus := by
  cases work with
  | computed held value result =>
    obtain ⟨value', result', next⟩ := carries
    obtain rfl := Option.some.inj (Except.ok.inj (result.symm.trans result'))
    exact ⟨next, rfl, .refl⟩
  | computedNothing held result =>
    obtain ⟨value, result', -⟩ := carries
    simp [result] at result'
  | loadedNothing pending form =>
    obtain ⟨target, operand, form', -⟩ := carries
    simp [form] at form'
  | asked pending target operand bus form fresh sent =>
    obtain ⟨target', operand', form', carries⟩ := carries
    obtain ⟨rfl, rfl⟩ := LoadInstruction.load.inj (form.symm.trans form')
    simp only [fresh] at carries
    obtain ⟨address, next⟩ := carries
    rw [address] at sent
    have seen := (outlook.sends sent).trans (World.after_data _)
    have reading : (see path.bus).reading = [] := next.settled.reading
    change Carries words saved path.registers (see bus) _ ∧ _ = (see bus).stores.map _ ++ _ ∧ _
    rw [seen]
    refine ⟨⟨target, operand, form, address, (see path.bus).drive.word, ?_, ?_⟩, rfl,
      .send sent .data⟩
    · rw [reading]
      rfl
    · rw [← reading]
      exact next
  | loaded pending target operand address answer form waiting came =>
    obtain ⟨target', operand', form', carries⟩ := carries
    obtain ⟨rfl, rfl⟩ := LoadInstruction.load.inj (form.symm.trans form')
    simp only [waiting] at carries
    obtain ⟨rfl, value, reading, next⟩ := carries
    obtain ⟨waits, answers⟩ := Interconnect.answer?_eq_some came
    obtain ⟨rest, incoming, seen⟩ := outlook.takes waits (Message.tells_of_answers answers .disk)
    obtain ⟨rfl, rfl⟩ := List.cons_eq_cons.mp (incoming.symm.trans reading)
    change Course words (path.registers.set target value).advance (see (path.bus.clear near)) saved
      ∧ _ = (see (path.bus.clear near)).stores.map _ ++ _ ∧ _
    rw [seen]
    exact ⟨next, rfl, .answer came⟩
  | loadWaits | storeWaits => exact ⟨carries, rfl, .refl⟩
  | stored held bus sent =>
    obtain ⟨sends, next⟩ := carries
    have seen := outlook.sends sent
    change Course words path.registers.advance (see bus) saved
      ∧ _ = (see bus).stores.map _ ++ _ ∧ _
    rw [seen]
    refine ⟨next, ?_, .send sent ?_⟩
    · rw [World.stores_write, List.map_append, storing, List.filter_singleton]
      cases isRam (held.instruction.address.resolve path.registers) <;>
        simp [storing, Message.write, Message.address, Message.address?]
    · exact sends.mono id False.elim
  | pushed | popped | pushing | popping | requested | requestWaits => exact carries.elim

end Occupancy

/-! ## A core that boots -/

namespace Standing

/-- The address that the running handler returns to. -/
def saved? (standing : Standing) : Option Word :=
  if standing.inInterrupt then some standing.savedIp else none

/-- The core is on the course, or it looks for the disk's handler in between. -/
inductive OnCourse (words : Array Word) (called : Prop) (standing : Standing)
    (registers : RegisterFile) (world : World) : Prop where
  | works (reading : standing.fetch.searching = none)
      (carries : standing.occupancy.Carries words standing.saved? registers world)
  | seeks (idle : standing.occupancy = .idle) (saved : standing.saved? = some registers.ip)
      (seeks : standing.fetch.SeeksDisk) (vacant : standing.fetch.line = []) (ready : called)
      (installed : world.installed) (loading : Loading words registers world)

/-- The core boots.  `issued` are the addresses in main memory that the stores dispatched so far
write. -/
structure Boots (words : Array Word) (called : Prop) (standing : Standing)
    (registers : RegisterFile) (world : World) (issued : List Word) : Prop where
  here : ∃ index ≤ 26, registers.ip = label index
  loads : standing.fetch.Loads standing.saved?
  pending : standing.interruptPending = true → called
  issued : issued = world.stores.map Message.address ++ standing.occupancy.storing registers
  course : standing.OnCourse words called registers world

/-- The core is about to look up the first instruction of the copied program. -/
structure Arrived (words : Array Word) (standing : Standing) (registers : RegisterFile)
    (world : World) (issued : List Word) : Prop where
  here : registers.ip = ramStart
  idle : standing.occupancy = .idle
  stores : ∃ fetch, world.stores = stored words (4096 * size words) ++ fetch
    ∧ (fetch = [] ∨ fetch = [Message.read ramStart Fetch.blockWords])
  issued : issued = (stored words (4096 * size words)).map Message.address

/-- Fetch asks for nothing that is not close to the boot loader. -/
def StaysNear (standing : Standing) (ip : Word) : Prop :=
  ∀ edge, (∀ index ≤ 26, label index ∉ Fetch.approach edge) → standing.KeepsOff edge ip

variable {standing later : Standing} {issue : Option Dispatch} {outcome : CoreOutcome}
  {issued : List Word}

lemma StaysNear.fetch {ip : Word} (stays : standing.StaysNear ip) : standing.fetch.StaysNear ip :=
  fun edge away => (stays edge away).fetch

lemma Turn.staysNear {breakpoint : Option Word}
    (turn : Turn near path standing later after issue (.ok breakpoint))
    (sound : standing.Sound path.registers path.stages)
    (stays : standing.StaysNear path.registers.ip)
    (here : ∃ index ≤ 26, path.registers.ip = label index)
    (here' : ∃ index ≤ 26, after.registers.ip = label index) :
    later.StaysNear after.registers.ip := by
  obtain ⟨index, inside, here⟩ := here
  obtain ⟨index', inside', here'⟩ := here'
  exact fun edge away => turn.keepsOff sound (stays edge away) (here ▸ away index inside)
    (here' ▸ away index' inside')

/-- The addresses in main memory that the next dispatch writes. -/
def writing (issue : Option Dispatch) : List Word :=
  (issue.bind Dispatch.written?).toList.filter isRam

/-- What a tick makes of a core that boots. -/
def GoesOn (words : Array Word) (called : Prop) (near : Terminal) (path : Datapath)
    (see : Interconnect → World) (later : Standing) (after : Datapath) (issued : List Word) :
    Prop :=
  later.Boots words called after.registers (see after.bus) issued
      ∧ Deals near (Sends (see path.bus).installed called) path.bus after.bus
    ∨ later.Arrived words after.registers (see after.bus) issued

/-- What is found at the instruction pointer is the next instruction of the course. -/
lemma Boots.step_of_find? (boots : standing.Boots words called registers world issued)
    (few : 4096 * size words ≤ ramWords) (course : Course words registers world standing.saved?)
    {entry : Fetched} (found : standing.fetch.find? registers.ip = some entry) :
    ∃ instruction, entry.code.decode = .ok instruction
      ∧ Step words standing.saved? registers world instruction := by
  obtain ⟨index, instruction, here, listed, step⟩ := course.step few
  have address := (Fetch.mem_of_find? found).1
  have code := boots.loads.code entry (Fetch.mem_line_of_find? found)
    (by rw [address]; exact course.saved_ne)
  refine ⟨instruction, ?_, step⟩
  rw [code, address, here]
  exact decode_label listed

/-- Fetch has its turn first, which does not matter to the instruction in its unit. -/
lemma Boots.supply (boots : standing.Boots words called path.registers (see path.bus) issued)
    (stays : standing.StaysNear path.registers.ip) (outlook : Outlook near see)
    (tells : Tells near path.bus) (reading : standing.fetch.searching = none)
    (carries : standing.occupancy.Carries words standing.saved? path.registers (see path.bus))
    {fetch : Fetch} (supply : Fetch.Turn near path standing.fetch fetch after) :
    ({ standing with fetch := fetch } : Standing).Boots words called after.registers (see after.bus)
        issued
      ∧ fetch.searching = none
      ∧ standing.occupancy.Carries words standing.saved? after.registers (see after.bus)
      ∧ see after.bus = see path.bus
      ∧ Deals near (Sends (see path.bus).installed called) path.bus after.bus := by
  obtain ⟨loads, same, deals⟩ :=
    supply.loads outlook tells reading boots.loads stays.fetch boots.here
  have kept := supply.searching_eq_none reading
  rw [supply.registers_eq, same]
  exact ⟨⟨boots.here, loads, boots.pending, boots.issued, .works kept carries⟩, kept, carries, rfl,
    deals⟩

/-- What is dispatched goes to its unit. -/
lemma Boots.begins (boots : standing.Boots words called registers world issued)
    (idle : standing.occupancy = .idle) (reading : standing.fetch.searching = none)
    {entry : Fetched} {instruction : Instruction} (decoded : entry.code.decode = .ok instruction)
    (step : Step words standing.saved? registers world instruction) {occupancy : Occupancy}
    (taken : Occupancy.ofInstruction? entry instruction = some occupancy) :
    ({ standing with occupancy := occupancy, dispatched := some entry } : Standing).Boots words
      called registers world (issued ++ writing (some ⟨registers, entry⟩)) := by
  obtain ⟨carries, storing⟩ := Occupancy.carries_of_step step taken
  have none : standing.occupancy.storing registers = [] := by rw [idle]; rfl
  have issued := boots.issued
  rw [none, List.append_nil] at issued
  refine ⟨boots.here, boots.loads, boots.pending, ?_, .works reading carries⟩
  rw [issued, storing, writing, Option.bind_some, Dispatch.written?,
    Dispatch.instruction?_of_decode registers decoded]
  rfl

/-- The disk's handler returns to where the course goes on. -/
lemma Boots.returns (boots : standing.Boots words called registers world issued)
    (idle : standing.occupancy = .idle) (reading : standing.fetch.searching = none)
    {entry : Fetched}
    (step : Step words standing.saved? registers world (.interrupt .handlerReturn))
    (running : standing.inInterrupt = true) :
    ({ standing with
        fetch := standing.fetch.flush
        dispatched := some entry
        inInterrupt := false } : Standing).Boots words called
      (registers.jump standing.savedIp) world issued := by
  cases step with
  | handlerReturn ip saved next =>
    obtain rfl : standing.savedIp = ip := by simpa [saved?, running] using saved
    have issued := boots.issued
    rw [idle] at issued
    refine ⟨next.here, ⟨by simp [Fetch.line, Fetch.flush], by simp [Fetch.line, Fetch.flush],
      boots.loads.outstanding⟩, boots.pending, ?_, .works reading ?_⟩
    · rw [issued, idle]
      rfl
    · rw [idle]
      exact next

/-- The next instruction of the course is to be dispatched, or an interrupt is entered. -/
lemma Boots.enter {fetch : Fetch} (reading : fetch.searching = none)
    (idle : standing.occupancy = .idle) (same : standing.fetch = fetch)
    (loads : fetch.Loads standing.saved?) (pending : standing.interruptPending = true → called)
    (ready : called → world.installed) (course : Course words registers world standing.saved?)
    (issued_eq : issued = world.stores.map Message.address) :
    (standing.enter registers.ip).Boots words called registers world issued := by
  subst same
  rw [Standing.enter]
  split
  · next due =>
    obtain ⟨pends, outside⟩ := Bool.and_eq_true_iff.mp due
    have outside : standing.inInterrupt = false := by simpa using outside
    have called := pending pends
    rw [saved?, outside] at course
    have nothing : standing.fetch.beginSearch.line = [] := rfl
    refine ⟨Course.here course, ⟨by simp [nothing], by simp [nothing], loads.outstanding⟩, by simp,
      ?_, .seeks idle ?_ (Fetch.seeksDisk_beginSearch _) nothing called (ready called) course⟩
    · rw [issued_eq, idle]
      exact (List.append_nil _).symm
    · rfl
  · refine ⟨course.here, loads, pending, ?_, .works reading ?_⟩
    · rw [issued_eq, idle]
      exact (List.append_nil _).symm
    · rw [idle]
      exact course

/-- The instruction pointer moves on, to the next instruction or to the copied program. -/
lemma Boots.resolve (boots : standing.Boots words called path.registers (see path.bus) issued)
    (stays : standing.StaysNear path.registers.ip) (outlook : Outlook near see)
    (tells : Tells near path.bus) (ready : called → (see path.bus).installed)
    (reading : standing.fetch.searching = none)
    (carries : standing.occupancy.Carries words standing.saved? path.registers (see path.bus))
    (stage : standing.occupancy.stage = .branchPredict) {fetch : Fetch}
    (supply : Fetch.Turn near (standing.occupancy.resolve path) standing.fetch fetch after) :
    GoesOn words called near path see
      (({ standing with occupancy := .idle, fetch := fetch } : Standing).enter after.registers.ip)
      after issued := by
  have bus := standing.occupancy.resolve_bus path
  have kept := supply.searching_eq_none reading
  have registers := supply.registers_eq
  have stores : issued = (see path.bus).stores.map Message.address := by
    rw [boots.issued]
    cases occupied : standing.occupancy <;> simp [occupied, Occupancy.stage] at stage <;>
      exact List.append_nil _
  have next : Course words (standing.occupancy.resolve path).registers (see path.bus)
        standing.saved?
      ∨ Finished words (see path.bus)
        ∧ (standing.occupancy.resolve path).registers.ip = ramStart := by
    cases occupied : standing.occupancy with
    | done =>
      rw [occupied] at carries
      exact Or.inl carries
    | branch held =>
      rw [occupied] at carries
      exact carries
    | idle | alu | load | store | stack | request => simp [occupied, Occupancy.stage] at stage
  rcases next with course | ⟨finished, place⟩
  · have moved : standing.fetch.StaysNear (standing.occupancy.resolve path).registers.ip :=
      fun edge away => (stays edge away).fetch.move ((stays edge away).found (by simp [stage])) _
    obtain ⟨loads, same, deals⟩ := supply.loads outlook (by rw [bus]; exact tells) reading
      boots.loads moved course.here
    rw [bus] at same deals
    refine Or.inl ⟨?_, deals⟩
    rw [registers, same]
    exact Boots.enter kept rfl rfl loads boots.pending ready course stores
  · refine Or.inr ⟨by rw [registers]; exact place, ?_, ?_, ?_⟩
    · rcases enter_cases { standing with occupancy := Occupancy.idle, fetch := fetch }
        after.registers.ip with same | same <;> rw [same]
    · have asks : (Message.read ramStart Fetch.blockWords).asks .ram = true := by decide
      rcases supply.arrives outlook reading boots.loads place with same | same <;>
        rw [bus] at same <;> rw [same]
      · exact ⟨[], by rw [finished.stores, List.append_nil], Or.inl rfl⟩
      · refine ⟨[Message.read ramStart Fetch.blockWords], ?_, Or.inr rfl⟩
        rw [World.after, asks, finished.stores]
        rfl
    · rw [stores, finished.stores]

/-- A core that is on the course stays on it. -/
lemma Turn.boots_of_works (turn : Turn near path standing later after issue outcome)
    (boots : standing.Boots words called path.registers (see path.bus) issued)
    (stays : standing.StaysNear path.registers.ip) (outlook : Outlook near see)
    (tells : Tells near path.bus) (ready : called → (see path.bus).installed)
    (few : 4096 * size words ≤ ramWords) (reading : standing.fetch.searching = none)
    (carries : standing.occupancy.Carries words standing.saved? path.registers (see path.bus)) :
    (∃ breakpoint, outcome = .ok breakpoint)
      ∧ GoesOn words called near path see later after (issued ++ writing issue) := by
  -- what is found in the dispatch stage is the next instruction
  have steps {fetch : Fetch} {between : Datapath} {entry : Fetched}
      (idle : standing.occupancy = .idle)
      (supply : Fetch.Turn near path standing.fetch fetch between)
      (found : fetch.find? between.registers.ip = some entry) :
      ∃ instruction, entry.code.decode = .ok instruction
        ∧ Step words standing.saved? between.registers (see between.bus) instruction := by
    obtain ⟨supplied, -, carries, -⟩ := boots.supply stays outlook tells reading carries supply
    rw [idle] at carries
    exact supplied.step_of_find? few carries found
  cases turn with
  | stalled fetch between here supply missing =>
    obtain ⟨supplied, -, -, -, deals⟩ := boots.supply stays outlook tells reading carries supply
    rw [show writing none = [] from rfl, List.append_nil]
    exact ⟨⟨_, rfl⟩, Or.inl ⟨supplied, deals⟩⟩
  | issued fetch between entry instruction occupancy here supply found decoded taken =>
    obtain ⟨supplied, kept, -, -, deals⟩ := boots.supply stays outlook tells reading carries supply
    obtain ⟨instruction', decoded', step⟩ := steps here supply found
    obtain rfl := Except.ok.inj (decoded.symm.trans decoded')
    exact ⟨⟨_, rfl⟩, Or.inl ⟨supplied.begins here kept decoded step taken, deals⟩⟩
  | returned fetch between entry here supply found decoded running =>
    obtain ⟨supplied, kept, -, -, deals⟩ := boots.supply stays outlook tells reading carries supply
    obtain ⟨instruction', decoded', step⟩ := steps here supply found
    obtain rfl := Except.ok.inj (decoded.symm.trans decoded')
    have nothing : writing (some ⟨between.registers, entry⟩) = [] := by
      rw [writing, Option.bind_some, Dispatch.written?, Dispatch.instruction?_of_decode _ decoded]
      rfl
    rw [nothing, List.append_nil]
    exact ⟨⟨_, rfl⟩, Or.inl ⟨supplied.returns here kept step running, deals⟩⟩
  | undecodable fetch between entry cause here supply found decoded =>
    obtain ⟨instruction', decoded', step⟩ := steps here supply found
    simp [decoded] at decoded'
  | stray fetch between entry here supply found decoded running =>
    obtain ⟨instruction', decoded', step⟩ := steps here supply found
    obtain rfl := Except.ok.inj (decoded.symm.trans decoded')
    cases step with
    | handlerReturn ip saved next => simp [saved?, running] at saved
  | resolved fetch between here supply =>
    rw [show writing none = [] from rfl, List.append_nil]
    exact ⟨⟨_, rfl⟩, boots.resolve stays outlook tells ready reading carries here supply⟩
  | trapped fetch between held cause here supply result =>
    obtain ⟨-, -, carries, -⟩ := boots.supply stays outlook tells reading carries supply
    rw [here] at carries
    obtain ⟨value, result', -⟩ := carries
    simp [result] at result'
  | worked fetch between final occupancy here supply work =>
    obtain ⟨supplied, kept, carries, same, deals⟩ :=
      boots.supply stays outlook tells reading carries supply
    obtain ⟨goes, stores, deals'⟩ := work.carries outlook carries
    have ip := work.ip_eq
    rw [show writing none = [] from rfl, List.append_nil]
    rw [same] at deals'
    refine ⟨⟨_, rfl⟩, Or.inl ⟨⟨?_, supplied.loads, supplied.pending, ?_, .works kept goes⟩,
      deals.trans deals'⟩⟩
    · change ∃ index ≤ 26, final.registers.ip = label index
      rw [ip]
      exact supplied.here
    · exact supplied.issued.trans stores

/-- A core that looks for the disk's handler goes on looking, or dispatches the jump to it. -/
lemma Turn.boots_of_seeks (turn : Turn near path standing later after issue outcome)
    (boots : standing.Boots words called path.registers (see path.bus) issued)
    (outlook : Outlook near see) (tells : Tells near path.bus) (idle : standing.occupancy = .idle)
    (saved : standing.saved? = some path.registers.ip) (seeks : standing.fetch.SeeksDisk)
    (vacant : standing.fetch.line = []) (ready : called) (installed : (see path.bus).installed)
    (loading : Loading words path.registers (see path.bus)) :
    (∃ breakpoint, outcome = .ok breakpoint)
      ∧ GoesOn words called near path see later after (issued ++ writing issue) := by
  have issued_eq := boots.issued
  rw [idle] at issued_eq
  -- what is found is the jump
  have jumps {fetch : Fetch} {between : Datapath} {entry : Fetched}
      (supply : Fetch.Turn near path standing.fetch fetch between)
      (found : fetch.find? between.registers.ip = some entry) :
      fetch.searching = none ∧ entry.code.decode = .ok (.branch (.jump (label 7))) := by
    obtain ⟨⟨-, nothing⟩ | ⟨ended, single⟩, -⟩ :
        fetch.Heralds path.registers.ip ∧ _ ∧ _ ∧ Deals near (Sends True called) path.bus _ :=
      supply.heralds outlook tells seeks vacant boots.loads ready boots.here
    · exact absurd (Fetch.mem_line_of_find? found) (by simp [nothing])
    · have member := Fetch.mem_line_of_find? found
      rw [single, List.mem_singleton] at member
      rw [member]
      exact ⟨ended, Instruction.decode_encode _⟩
  cases turn with
  | stalled fetch between here supply missing =>
    obtain ⟨heralds, loads, same, deals⟩ :=
      supply.heralds outlook tells seeks vacant boots.loads ready boots.here
    rw [show writing none = [] from rfl, List.append_nil]
    refine ⟨⟨_, rfl⟩, Or.inl ⟨?_, deals⟩⟩
    change Boots words called _ between.registers (see between.bus) issued
    rw [supply.registers_eq] at missing ⊢
    rw [same]
    rcases heralds with ⟨on, nothing⟩ | ⟨-, single⟩
    · exact ⟨boots.here, saved ▸ loads, boots.pending, boots.issued,
        .seeks idle saved on nothing ready installed loading⟩
    · exact absurd (Fetch.find?_ne_none_iff.mpr
        ⟨_, by rw [single]; exact List.mem_singleton_self _, rfl⟩) (not_not.mpr missing)
  | issued fetch between entry instruction occupancy here supply found decoded taken =>
    obtain ⟨heralds, loads, same, deals⟩ :=
      supply.heralds outlook tells seeks vacant boots.loads ready boots.here
    obtain ⟨ended, jump⟩ := jumps supply found
    obtain rfl := Except.ok.inj (jump.symm.trans decoded)
    obtain rfl := Option.some.inj taken
    have nothing : writing (some ⟨between.registers, entry⟩) = [] := by
      rw [writing, Option.bind_some, Dispatch.written?, Dispatch.instruction?_of_decode _ jump]
      rfl
    rw [nothing, List.append_nil]
    refine ⟨⟨_, rfl⟩, Or.inl ⟨?_, deals⟩⟩
    change Boots words called _ between.registers (see between.bus) issued
    rw [supply.registers_eq, same]
    refine ⟨boots.here, saved ▸ loads, boots.pending, issued_eq, .works ended (Or.inl ?_)⟩
    change Course words (path.registers.jump (label 7)) (see path.bus) standing.saved?
    rw [saved]
    exact ⟨Or.inl rfl, installed, loading⟩
  | returned fetch between entry here supply found decoded
  | stray fetch between entry here supply found decoded
  | undecodable fetch between entry cause here supply found decoded =>
    obtain ⟨-, jump⟩ := jumps supply found
    simp [jump] at decoded
  | resolved _ _ here | worked _ _ _ _ here => simp [idle, Occupancy.stage] at here
  | trapped _ _ _ _ here => simp [idle] at here

/-- **A tick of a core that boots** ends without a fault, and the core boots on, or it has come to
the copied program. -/
theorem Turn.boots (turn : Turn near path standing later after issue outcome)
    (boots : standing.Boots words called path.registers (see path.bus) issued)
    (stays : standing.StaysNear path.registers.ip) (outlook : Outlook near see)
    (tells : Tells near path.bus) (ready : called → (see path.bus).installed)
    (few : 4096 * size words ≤ ramWords) :
    (∃ breakpoint, outcome = .ok breakpoint)
      ∧ GoesOn words called near path see later after (issued ++ writing issue) := by
  cases boots.course with
  | works reading carries =>
    exact turn.boots_of_works boots stays outlook tells ready few reading carries
  | seeks idle saved seeks vacant ready installed loading =>
    exact turn.boots_of_seeks boots outlook tells idle saved seeks vacant ready installed loading

end Standing

end PipelinedMachine
