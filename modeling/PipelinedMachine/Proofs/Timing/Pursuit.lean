import PipelinedMachine.Proofs.Core.Deals
import PipelinedMachine.Proofs.Core.Interruption
import PipelinedMachine.Proofs.Timing.Tracking

/-!
# In pursuit of the sequential machine

A core whose program stays in main memory goes through the steps of the sequential machine.  Two
things can lead it astray, and either way it leaves main memory.  A branch may lead out of it, as the
program says.  And reading ahead may have made the disk drive interrupt, though the program knows
nothing of the disk: then a jump is dispatched in place of the next instruction, and since no handler
has ever been installed it leads to the bottom of the address space.

* `Dispatch.InRam` — the instruction comes from main memory and accesses nothing else;
* `Standing.Tracks` — the core is at work on a step of the sequential machine;
* `Fetch.Seeking` — it looks for a handler, of which there is none;
* `Standing.Pursues` — **it tracks the machine, or looks for a handler, or has gone astray**;
* `Standing.Pursues.turn` — **what a tick makes of it**.
-/

namespace PipelinedMachine

/-! ## What a program keeps to -/

namespace Instruction

/-- The address that an instruction reads or writes. -/
def accessed? (registers : RegisterFile) : Instruction → Option Word
  | .load (.load _ operand) => some (operand.resolve registers)
  | .store held => some (held.address.resolve registers)
  | .stack (.pushStore _) => some registers.stackTop
  | .stack (.popLoad _) => some (registers.setStack (registers.sp + 1)).stackTop
  | .nop | .alu _ | .load .nop | .branch _ | .stack .push | .stack .pop | .interrupt _ => none

/-- The address that an instruction writes. -/
def written? (registers : RegisterFile) : Instruction → Option Word
  | .store held => some (held.address.resolve registers)
  | .stack (.pushStore _) => some registers.stackTop
  | .interrupt (.request (.install id _)) => some id
  | .nop | .alu _ | .load _ | .branch _ | .stack .push | .stack .pop | .stack (.popLoad _)
  | .interrupt (.request (.raise _)) | .interrupt .handlerReturn => none

/-- Whether an instruction sets or calls an interrupt. -/
def isRequest : Instruction → Bool
  | .interrupt (.request _) => true
  | .nop | .alu _ | .load _ | .store _ | .branch _ | .stack _ | .interrupt .handlerReturn => false

end Instruction

namespace Dispatch

/-- The instruction that is dispatched, if the words are one. -/
def instruction? (dispatch : Dispatch) : Option Instruction := dispatch.entry.code.decode.toOption

/-- The address that it reads or writes. -/
def accessed? (dispatch : Dispatch) : Option Word :=
  dispatch.instruction?.bind (Instruction.accessed? dispatch.registers)

/-- The address that it writes. -/
def written? (dispatch : Dispatch) : Option Word :=
  dispatch.instruction?.bind (Instruction.written? dispatch.registers)

/-- The instruction comes from main memory, neither sets nor calls an interrupt, and accesses main
memory alone. -/
structure InRam (dispatch : Dispatch) : Prop where
  fetched : isRam dispatch.registers.ip = true
  silent : ∀ instruction ∈ dispatch.instruction?, instruction.isRequest = false
  accesses : ∀ address ∈ dispatch.accessed?, isRam address = true

lemma inRam_iff {dispatch : Dispatch} : dispatch.InRam ↔ isRam dispatch.registers.ip = true
    ∧ dispatch.instruction?.any Instruction.isRequest = false
    ∧ dispatch.accessed?.all isRam = true := by
  rw [Option.all_eq_true, Option.any_eq_false]
  constructor
  · rintro ⟨fetched, silent, accesses⟩
    exact ⟨fetched, fun instruction found => by simp [silent instruction found], accesses⟩
  · rintro ⟨fetched, silent, accesses⟩
    exact ⟨fetched, fun instruction found => by simpa using silent instruction found, accesses⟩

instance (dispatch : Dispatch) : Decidable dispatch.InRam := decidable_of_iff' _ inRam_iff

lemma instruction?_of_decode (registers : RegisterFile) {entry : Fetched}
    {instruction : Instruction} (decoded : entry.code.decode = .ok instruction) :
    instruction? ⟨registers, entry⟩ = some instruction := by
  rw [instruction?, decoded]
  rfl

/-- Such an instruction is tame when it reaches its unit. -/
lemma InRam.tame {registers : RegisterFile} {entry : Fetched} (inRam : InRam ⟨registers, entry⟩)
    {instruction : Instruction} (decoded : entry.code.decode = .ok instruction)
    {occupancy : Occupancy} (taken : Occupancy.ofInstruction? entry instruction = some occupancy) :
    occupancy.Tame registers := by
  have found := instruction?_of_decode registers decoded
  have accesses (address : Word) (accessed : instruction.accessed? registers = some address) :
      isRam address = true :=
    inRam.accesses address (by rw [accessed?, found]; exact accessed)
  rcases instruction with _ | _ | (_ | _) | _ | _ | (request | _) | (_ | _ | _ | _) <;>
    simp only [Occupancy.ofInstruction?, Option.some.injEq, reduceCtorEq] at taken <;>
    subst taken
  case interrupt.request => exact absurd (inRam.silent _ found) (by simp [Instruction.isRequest])
  all_goals first | trivial | exact accesses _ rfl

/-- The instruction is a branch. -/
def Branches (dispatch : Dispatch) : Prop := ∃ branch, dispatch.instruction? = some (.branch branch)

end Dispatch

/-! ## What is written -/

/-- The address and the value that are written. -/
def Access.stored? : Access → Option (Word × Word)
  | .write address value => some (address, value)
  | .read _ _ | .interrupt _ => none

namespace Memory

/-- What has been written so far, oldest first. -/
def writes (memory : Memory) : List (Word × Word) := memory.accesses.filterMap Access.stored?

lemma writes_serve_of_inquiry (memory : Memory) {message : Message} (inquiry : message.Inquiry) :
    (memory.serve message).1.writes = memory.writes := by
  obtain ⟨address, count, rfl, -⟩ := inquiry
  change Memory.writes (if count = 1 then memory.load address else memory) = _
  split
  · rw [writes, load, List.filterMap_append]
    exact List.append_nil _
  · rfl

end Memory

section Deals

variable {near : Terminal} {see : Interconnect → View} {bus after : Interconnect}

lemma Window.memory_clear (window : Window near see) {message : Message}
    (waiting : bus.message? near = some message) :
    (see (bus.clear near)).memory = (see bus).memory := by
  cases kept : message.tells .ram with
  | true =>
    obtain ⟨rest, -, cleared⟩ := window.takes waiting kept
    rw [cleared]
  | false => rw [window.skips waiting kept]

/-- Reading writes nothing. -/
lemma Window.writes_eq (window : Window near see)
    (deals : Interconnect.Deals near Message.Inquiry bus after) :
    (see after).memory.writes = (see bus).memory.writes := by
  induction deals with
  | refl => rfl
  | tail _ deal before =>
    rw [← before]
    cases deal with
    | takes waiting => rw [window.memory_clear waiting]
    | sends inquiry sent =>
      rw [window.sends sent]
      split
      · exact Memory.writes_serve_of_inquiry _ inquiry
      · rfl

end Deals

/-! ## The search for a handler -/

/-- All that the interrupt controller ever has to say: that there is no handler, or that the disk
drive has interrupted. -/
def Mild (word : Word) : Prop := word = 0 ∨ word = AddressMap.diskInterrupt

lemma Mild.isRam {word : Word} (mild : Mild word) : isRam word = false := by
  rcases mild with rfl | rfl <;> decide

lemma Mild.ofAddress {id : Word} (mild : Mild id) :
    Component.ofAddress (AddressMap.vectorStart + id) = .controller := by
  rcases mild with rfl | rfl <;> decide

/-- The id whose handler is looked for is one of these. -/
def HandlerSearch.IsMild : HandlerSearch → Prop
  | askId | awaitId => True
  | askHandler id | awaitHandler id => Mild id

/-- The answers of the interrupt controller are of this kind. -/
def Told (near : Terminal) (bus : Interconnect) : Prop :=
  ∀ address answer, bus.answer? near address = some answer →
    Component.ofAddress address = .controller → Mild answer.value

lemma told_clear (near : Terminal) (bus : Interconnect) : Told near (bus.clear near) := by
  intro address answer came
  have waiting := (Interconnect.answer?_eq_some came).1
  rw [Interconnect.message?_clear] at waiting
  contradiction

namespace Fetch

/-- A handler is looked for, and nothing is at hand. -/
structure Seeking (fetch : Fetch) : Prop where
  phase : ∃ phase, fetch.searching = some phase ∧ phase.IsMild
  ahead : fetch.ahead = []
  passed : fetch.passed = []

lemma seeking_beginSearch (fetch : Fetch) : fetch.beginSearch.Seeking :=
  ⟨⟨.askId, rfl, trivial⟩, rfl, rfl⟩

variable {near : Terminal} {path after : Datapath} {fetch later : Fetch}

/-- The jump at the end of the search leads out of main memory. -/
def LeadsOut (fetch : Fetch) (ip : Word) : Prop :=
  ∃ handler, fetch.find? ip = some ⟨ip, (Assembler.jump handler).encode⟩ ∧ isRam handler = false

lemma SearchTurn.seeking {phase : HandlerSearch}
    (step : SearchTurn near path fetch phase later after) (searching : fetch.searching = some phase)
    (seeking : fetch.Seeking) (told : Told near path.bus) :
    later.Seeking ∨ later.LeadsOut path.registers.ip := by
  obtain ⟨⟨phase', same, mild⟩, ahead, passed⟩ := seeking
  obtain rfl : phase = phase' := Option.some.inj (searching.symm.trans same)
  cases step with
  | askedId bus sent => exact Or.inl ⟨⟨_, rfl, trivial⟩, ahead, passed⟩
  | gotId answer came =>
    exact Or.inl ⟨⟨_, rfl, told _ answer came (by decide)⟩, ahead, passed⟩
  | askedHandler id bus sent => exact Or.inl ⟨⟨_, rfl, mild⟩, ahead, passed⟩
  | gotHandler id answer came =>
    refine Or.inr ⟨answer.value, ?_, (told _ answer came mild.ofAddress).isRam⟩
    simp [find?, ahead]
  | waited => exact Or.inl ⟨⟨_, searching, mild⟩, ahead, passed⟩

/-- A turn of the search either goes on with it or supplies the jump. -/
lemma Turn.seeking (turn : Turn near path fetch later after) (seeking : fetch.Seeking)
    (told : Told near path.bus) : later.Seeking ∨ later.LeadsOut path.registers.ip := by
  cases turn with
  | searched phase _ _ searching fresh step => exact step.seeking searching seeking told
  | dropped phase address answer _ _ searching asked came step =>
    exact step.seeking searching ⟨seeking.phase, seeking.ahead, seeking.passed⟩ (told_clear _ _)
  | received _ _ reading | awaited _ reading | asked _ _ reading | refused _ reading
  | satisfied reading =>
    obtain ⟨⟨phase, searching, -⟩, -, -⟩ := seeking
    rw [reading] at searching
    contradiction

lemma Seeking.find?_eq_none (seeking : fetch.Seeking) (ip : Word) : fetch.find? ip = none := by
  simp [find?, seeking.ahead, seeking.passed]

end Fetch

/-! ## In pursuit -/

namespace Standing

/-- The core is at work on a step of a machine that stays in main memory. -/
structure Tracks (origin : Word → Word) (standing : Standing) (registers : RegisterFile)
    (view : View) : Prop where
  outside : standing.inInterrupt = false
  reading : standing.fetch.searching = none
  agrees : view.Agrees origin (standing.fetch.ramQuestion ++ standing.occupancy.loadQuestion)
  localized : standing.fetch.Local origin view.memory
  /-- While an instruction is in a unit, it is still at hand. -/
  supplied : standing.occupancy.stage ≠ .dispatch → standing.fetch.Supplied registers.ip
  exhausted : standing.occupancy.stage = .dispatch → standing.fetch.Exhausted registers.ip
  /-- While a load waits, fetch has nothing to ask. -/
  content : standing.occupancy.loadQuestion ≠ [] → standing.fetch.Content registers.ip
  tame : standing.occupancy.Tame registers
  here : isRam registers.ip = true

/-- The next instruction is not in main memory. -/
inductive Astray (standing : Standing) (registers : RegisterFile) : Prop where
  | arrived (idle : standing.occupancy = .idle) (away : isRam registers.ip = false)
  | leaving (stage : standing.occupancy.stage = .branchPredict)
      (away : isRam (standing.occupancy.successor registers) = false)

/-- How the core stands to a state of the sequential machine.  The last component is what it has
dispatched in place of the instruction that the machine executes next. -/
inductive Pursues (origin : Word → Word) (machine : Sequential) (standing : Standing)
    (registers : RegisterFile) (view : View) : Option Dispatch → Prop where
  /-- The core is at work on the step that leads to this state. -/
  | tracks (tracks : standing.Tracks origin registers view)
      (completed : standing.occupancy.completed registers view = machine) :
      Pursues origin machine standing registers view none
  /-- An interrupt has been entered in place of the next step. -/
  | seeks (idle : standing.occupancy = .idle) (seeking : standing.fetch.Seeking)
      (same : registers = machine.registers) (running : machine.fault = none)
      (writes : view.memory.writes = machine.memory.writes) :
      Pursues origin machine standing registers view none
  | strays (extra : Option Dispatch) (astray : standing.Astray registers)
      (running : machine.fault = none) (writes : view.memory.writes = machine.memory.writes)
      (jump : ∀ dispatch ∈ extra, dispatch.registers = machine.registers ∧ dispatch.Branches) :
      Pursues origin machine standing registers view extra

/-- What a tick leaves behind: a core in pursuit, or the fault of the machine. -/
def Reaches (origin : Word → Word) (machine : Sequential) (later : Standing)
    (registers : RegisterFile) (view : View) (outcome : CoreOutcome) (extra : Option Dispatch) :
    Prop :=
  match outcome with
  | .ok _ => later.Pursues origin machine registers view extra
  | .error fault =>
    extra = none ∧ machine.fault = some fault ∧ view.memory.writes = machine.memory.writes

section Turn

variable {origin : Word → Word} {machine : Sequential} {see : Interconnect → View}
  {near : Terminal} {path after : Datapath} {standing later : Standing} {issue : Option Dispatch}
  {outcome : CoreOutcome} {extra : Option Dispatch}

/-- A turn of fetch keeps the core on track. -/
lemma Tracks.supply {fetch : Fetch}
    (tracks : standing.Tracks origin path.registers (see path.bus)) (window : Window near see)
    (answered : Fetch.Answered near path.bus)
    (turn : Fetch.Turn near path standing.fetch fetch after) :
    ({ standing with fetch := fetch } : Standing).Tracks origin after.registers (see after.bus)
      ∧ (see after.bus).memory = (see path.bus).memory
      ∧ standing.occupancy.completed after.registers (see after.bus)
        = standing.occupancy.completed path.registers (see path.bus) := by
  obtain ⟨agrees, same, localized⟩ := turn.local window tracks.reading tracks.agrees tracks.content
    tracks.localized tracks.here answered
  rw [turn.registers_eq]
  refine ⟨?_, same, Occupancy.completed_local turn window tracks.reading tracks.agrees
    tracks.content same path.registers⟩
  exact {
    outside := tracks.outside
    reading := turn.searching_eq_none tracks.reading
    agrees := agrees
    localized := localized
    supplied := fun stage => turn.supplied tracks.reading (tracks.supplied stage)
    exhausted := fun stage => turn.exhausted (tracks.exhausted stage)
    content := fun asked => by
      have stage : standing.occupancy.stage ≠ .dispatch := fun idle =>
        asked (Occupancy.loadQuestion_eq_nil (by simp [idle]))
      exact turn.content tracks.reading (tracks.supplied stage) (Or.inl (tracks.content asked))
    tame := tracks.tame
    here := tracks.here }

/-- So does the turn of the unit in execution. -/
lemma Tracks.work {occupancy : Occupancy}
    (tracks : standing.Tracks origin path.registers (see path.bus)) (window : Window near see)
    (work : Occupancy.Work near path standing.occupancy occupancy after)
    (stage : standing.occupancy.stage = .execution)
    (content : (∃ address, (path.bus.send? near (Message.read address 1)).isSome) →
      standing.fetch.Content path.registers.ip)
    (unanswered : standing.occupancy.loadQuestion ≠ [] →
      ∀ address, standing.fetch.outstanding = some address →
        path.bus.answer? near address = none) :
    ({ standing with occupancy := occupancy } : Standing).Tracks origin after.registers
        (see after.bus)
      ∧ occupancy.completed after.registers (see after.bus)
        = standing.occupancy.completed path.registers (see path.bus) := by
  obtain ⟨agrees, more, completed⟩ :=
    work.carries_on window tracks.tame tracks.agrees unanswered
  have supplied := tracks.supplied (by simp [stage])
  have contented := tracks.content
  have ip := work.ip_eq
  refine ⟨?_, completed⟩
  exact {
    outside := tracks.outside
    reading := tracks.reading
    agrees := agrees
    localized := tracks.localized.mono more
    supplied := fun _ => by rw [ip]; exact supplied
    exhausted := fun idle => absurd idle work.later_ne_idle
    content := fun asked => by
      rw [ip]
      generalize standing.occupancy = before at work contented
      cases work with
      | asked _ _ _ bus _ _ sent => exact content ⟨_, Option.isSome_iff_exists.mpr ⟨bus, sent⟩⟩
      | loadWaits => exact contented asked
      | computed | computedNothing | loadedNothing | loaded | stored | storeWaits | pushed | popped
      | pushing | popping | requested | requestWaits => exact absurd rfl asked
    tame := work.tame tracks.tame
    here := by rw [ip]; exact tracks.here }

/-- The instruction pointer moves on within main memory. -/
lemma Tracks.resolve {registers : RegisterFile} {view : View}
    (tracks : standing.Tracks origin registers view)
    (stage : standing.occupancy.stage = .branchPredict) {next : RegisterFile}
    (inside : isRam next.ip = true) :
    ({ standing with occupancy := .idle } : Standing).Tracks origin next view where
  outside := tracks.outside
  reading := tracks.reading
  agrees := by
    have idle : standing.occupancy.loadQuestion = [] :=
      Occupancy.loadQuestion_eq_nil (by simp [stage])
    have agrees := tracks.agrees
    rwa [idle] at agrees
  localized := tracks.localized
  supplied := fun elsewhere => absurd rfl elsewhere
  exhausted := fun _ nothing => absurd nothing (tracks.supplied (by simp [stage])).1
  content := fun asked => absurd rfl asked
  tame := trivial
  here := inside

/-- What is dispatched next is what the machine executes next. -/
lemma Tracks.fetched {registers : RegisterFile} {view : View}
    (tracks : standing.Tracks origin registers view) {entry : Fetched}
    (found : standing.fetch.find? registers.ip = some entry)
    (intact : view.memory.Intact registers.ip) :
    entry = Sequential.fetched { registers := registers, memory := view.memory } := by
  have address := (Fetch.mem_of_find? found).1
  have genuine := tracks.localized.genuine entry (Fetch.mem_line_of_find? found)
    (by rw [address]; exact tracks.here)
  calc
    entry = Fetched.ofWords origin registers.ip := by
      rw [← address] at intact ⊢
      exact genuine.eq_ofWords intact
    _ = Fetched.ofWords view.memory.words registers.ip :=
      (tracks.agrees.sound.ofWords_eq intact).symm

/-- An instruction that has been found goes to its unit. -/
lemma Tracks.begins {registers : RegisterFile} {view : View}
    (tracks : standing.Tracks origin registers view) (idle : standing.occupancy = .idle)
    {entry : Fetched} (found : standing.fetch.find? registers.ip = some entry)
    {instruction : Instruction} {occupancy : Occupancy}
    (taken : Occupancy.ofInstruction? entry instruction = some occupancy)
    (tame : occupancy.Tame registers) :
    ({ standing with occupancy := occupancy, dispatched := some entry } : Standing).Tracks origin
      registers view where
  outside := tracks.outside
  reading := tracks.reading
  agrees := by
    have agrees := tracks.agrees
    rw [idle] at agrees
    rwa [loadQuestion_of_ofInstruction? taken]
  localized := tracks.localized
  supplied := fun _ => by
    have somewhere : ∃ entry ∈ standing.fetch.line, entry.address = registers.ip :=
      Fetch.find?_ne_none_iff.mp (by simp [found])
    refine ⟨fun nothing => ?_, somewhere⟩
    obtain ⟨other, member, address⟩ := somewhere
    rw [Fetch.line, nothing, List.append_nil] at member
    exact tracks.exhausted (by rw [idle]; rfl) nothing other member address
  exhausted := fun _ => tracks.exhausted (by rw [idle]; rfl)
  content := fun asked => absurd (loadQuestion_of_ofInstruction? taken) asked
  tame := tame
  here := tracks.here

lemma enter_cases (standing : Standing) (ip : Word) :
    standing.enter ip = standing
      ∨ standing.enter ip = { standing with
          savedIp := ip
          inInterrupt := true
          interruptPending := false
          fetch := standing.fetch.beginSearch } := by
  rw [enter]
  split
  · exact Or.inr rfl
  · exact Or.inl rfl

lemma occupancy_enter (standing : Standing) (ip : Word) :
    (standing.enter ip).occupancy = standing.occupancy := by
  rcases standing.enter_cases ip with same | same <;> rw [same]

section Idle

variable {fetch : Fetch} {between : Datapath} {entry : Fetched}

/-- What is found in the dispatch stage is what the machine executes next. -/
lemma Tracks.found (tracks : standing.Tracks origin path.registers (see path.bus))
    (window : Window near see) (answered : Fetch.Answered near path.bus)
    (completed : standing.occupancy.completed path.registers (see path.bus) = machine)
    (idle : standing.occupancy = .idle)
    (supply : Fetch.Turn near path standing.fetch fetch between)
    (found : fetch.find? between.registers.ip = some entry)
    (intact : machine.memory.Intact between.registers.ip) :
    ({ standing with fetch := fetch } : Standing).Tracks origin between.registers (see between.bus)
      ∧ machine = { registers := between.registers, memory := (see between.bus).memory }
      ∧ entry = machine.fetched
      ∧ some ⟨between.registers, entry⟩ = some machine.dispatch := by
  obtain ⟨supplied, -, same⟩ := tracks.supply window answered supply
  have whole : machine = { registers := between.registers, memory := (see between.bus).memory } := by
    rw [← completed, ← same, idle]
    rfl
  subst whole
  have fetched := supplied.fetched found intact
  exact ⟨supplied, rfl, fetched, by rw [Sequential.dispatch, ← fetched]⟩

/-- An instruction that is dispatched is the machine's, and its unit carries out the machine's
step. -/
lemma Tracks.issued (tracks : standing.Tracks origin path.registers (see path.bus))
    (window : Window near see) (answered : Fetch.Answered near path.bus)
    (completed : standing.occupancy.completed path.registers (see path.bus) = machine)
    (idle : standing.occupancy = .idle)
    (supply : Fetch.Turn near path standing.fetch fetch between)
    (found : fetch.find? between.registers.ip = some entry) {instruction : Instruction}
    {occupancy : Occupancy} (decoded : entry.code.decode = .ok instruction)
    (taken : Occupancy.ofInstruction? entry instruction = some occupancy)
    (inRam : Dispatch.InRam ⟨between.registers, entry⟩)
    (intact : machine.memory.Intact between.registers.ip) :
    some ⟨between.registers, entry⟩ = some machine.dispatch ∧ machine.fault = none
      ∧ ({ standing with
          fetch := fetch, occupancy := occupancy, dispatched := some entry } : Standing).Pursues
        origin machine.step between.registers (see between.bus) none := by
  obtain ⟨supplied, whole, fetched, dispatched⟩ :=
    tracks.found window answered completed idle supply found intact
  have running : machine.fault = none := by rw [whole]
  refine ⟨dispatched, running,
    .tracks (supplied.begins idle found taken (inRam.tame decoded taken)) ?_⟩
  rw [Sequential.step_of_decode running fetched decoded, whole]
  exact Occupancy.completed_of_ofInstruction? taken between.registers (see between.bus)

/-- A branch within main memory leads on, or an interrupt is entered in place of the next step. -/
lemma Tracks.resolved (tracks : standing.Tracks origin path.registers (see path.bus))
    (window : Window near see) (answered : Fetch.Answered near path.bus)
    (completed : standing.occupancy.completed path.registers (see path.bus) = machine)
    (stage : standing.occupancy.stage = .branchPredict)
    (supply : Fetch.Turn near (standing.occupancy.resolve path) standing.fetch fetch between)
    (inside : isRam (standing.occupancy.resolve path).registers.ip = true) :
    (({ standing with occupancy := .idle, fetch := fetch } : Standing).enter
      between.registers.ip).Pursues origin machine between.registers (see between.bus) none := by
  have bus := standing.occupancy.resolve_bus path
  have moved := tracks.resolve stage inside
  rw [← bus] at moved
  obtain ⟨supplied, -, same⟩ := moved.supply window (by rw [bus]; exact answered) supply
  have whole := Occupancy.completed_resolve standing.occupancy stage path (see path.bus)
  rw [bus, whole, completed] at same
  rcases enter_cases { standing with occupancy := Occupancy.idle, fetch := fetch }
    between.registers.ip with stays | enters
  · rw [stays]
    exact .tracks supplied same
  · rw [enters, ← same]
    exact .seeks rfl (Fetch.seeking_beginSearch fetch) rfl rfl rfl

/-- A branch out of main memory leads astray. -/
lemma pursues_resolved_away (window : Window near see)
    (completed : standing.occupancy.completed path.registers (see path.bus) = machine)
    (stage : standing.occupancy.stage = .branchPredict)
    (supply : Fetch.Turn near (standing.occupancy.resolve path) standing.fetch fetch between)
    (away : isRam (standing.occupancy.resolve path).registers.ip = false) :
    (({ standing with occupancy := .idle, fetch := fetch } : Standing).enter
      between.registers.ip).Pursues origin machine between.registers (see between.bus) none := by
  have whole := Occupancy.completed_resolve standing.occupancy stage path (see path.bus)
  have writes := window.writes_eq supply.deals
  rw [← completed, ← whole]
  refine .strays none (.arrived (occupancy_enter _ _) ?_) rfl ?_ (by simp)
  · rw [supply.registers_eq, away]
  · rw [writes, standing.occupancy.resolve_bus path]
    rfl

end Idle

/-- A core on track goes on with its step, or dispatches what the machine executes next. -/
lemma Turn.of_tracks (turn : Turn near path standing later after issue outcome)
    (tracks : standing.Tracks origin path.registers (see path.bus)) (window : Window near see)
    (answered : Fetch.Answered near path.bus)
    (completed : standing.occupancy.completed path.registers (see path.bus) = machine)
    (program : ∀ dispatch ∈ issue,
      dispatch.InRam ∧ machine.memory.Intact dispatch.registers.ip) :
    issue = none ∧ Reaches origin machine later after.registers (see after.bus) outcome none
      ∨ issue = some machine.dispatch ∧ machine.fault = none
        ∧ Reaches origin machine.step later after.registers (see after.bus) outcome none := by
  cases turn with
  | stalled fetch between here supply missing =>
    obtain ⟨supplied, -, same⟩ := tracks.supply window answered supply
    exact Or.inl ⟨rfl, .tracks supplied (same.trans completed)⟩
  | issued fetch between entry instruction occupancy here supply found decoded taken =>
    obtain ⟨inRam, intact⟩ := program _ rfl
    exact Or.inr (tracks.issued window answered completed here supply found decoded taken inRam
      intact)
  | returned fetch between entry here supply found decoded running =>
    rw [tracks.outside] at running
    contradiction
  | undecodable fetch between entry cause here supply found decoded =>
    obtain ⟨-, whole, fetched, dispatched⟩ :=
      tracks.found window answered completed here supply found (program _ rfl).2
    have running : machine.fault = none := by rw [whole]
    refine Or.inr ⟨dispatched, running, rfl, ?_⟩
    rw [Sequential.step_of_fault running fetched decoded, whole]
    exact ⟨rfl, rfl⟩
  | stray fetch between entry here supply found decoded running =>
    obtain ⟨-, whole, fetched, dispatched⟩ :=
      tracks.found window answered completed here supply found (program _ rfl).2
    have running : machine.fault = none := by rw [whole]
    refine Or.inr ⟨dispatched, running, rfl, ?_⟩
    rw [Sequential.step_of_decode running fetched decoded, whole]
    exact ⟨rfl, rfl⟩
  | resolved fetch between here supply =>
    refine Or.inl ⟨rfl, ?_⟩
    cases inside : isRam (standing.occupancy.resolve path).registers.ip with
    | false => exact pursues_resolved_away window completed here supply inside
    | true => exact tracks.resolved window answered completed here supply inside
  | trapped fetch between held cause here supply result =>
    obtain ⟨-, -, same⟩ := tracks.supply window answered supply
    rw [completed, here] at same
    refine Or.inl ⟨rfl, rfl, ?_⟩
    rw [← same]
    simp only [Occupancy.completed, Sequential.execute, result]
    exact ⟨rfl, rfl⟩
  | worked fetch between final occupancy here supply work =>
    obtain ⟨supplied, -, same⟩ := tracks.supply window answered supply
    have kept := tracks.supplied (by simp [here])
    obtain ⟨worked, goes⟩ := supplied.work window work here
      (fun sent => by
        rw [supply.registers_eq]
        exact supply.content tracks.reading kept (Or.inr sent))
      (fun asked => supply.unanswered tracks.reading (tracks.content asked))
    exact Or.inl ⟨rfl, .tracks worked (goes.trans (same.trans completed))⟩

/-- A core that looks for a handler goes on looking, or dispatches the jump out of main memory. -/
lemma Turn.of_seeks (turn : Turn near path standing later after issue outcome)
    (window : Window near see) (told : Told near path.bus) (idle : standing.occupancy = .idle)
    (seeking : standing.fetch.Seeking) (same : path.registers = machine.registers)
    (running : machine.fault = none)
    (writes : (see path.bus).memory.writes = machine.memory.writes) :
    issue = none ∧ Reaches origin machine later after.registers (see after.bus) outcome none
      ∨ ∃ dispatch, issue = some dispatch ∧ dispatch.registers = machine.registers
        ∧ dispatch.Branches
        ∧ Reaches origin machine later after.registers (see after.bus) outcome (some dispatch) := by
  -- what is found is the jump
  have jumps {fetch : Fetch} {between : Datapath} {entry : Fetched}
      (supply : Fetch.Turn near path standing.fetch fetch between)
      (found : fetch.find? between.registers.ip = some entry) :
      ∃ handler, entry.code.decode = .ok (.branch (.jump handler)) ∧ isRam handler = false := by
    rw [supply.registers_eq] at found
    rcases supply.seeking seeking told with on | ⟨handler, jump, away⟩
    · rw [on.find?_eq_none] at found
      contradiction
    · obtain rfl := Option.some.inj (jump.symm.trans found)
      exact ⟨handler, Instruction.decode_encode _, away⟩
  cases turn with
  | stalled fetch between here supply missing =>
    refine Or.inl ⟨rfl, .seeks here ?_ (supply.registers_eq.trans same) running
      ((window.writes_eq supply.deals).trans writes)⟩
    rcases supply.seeking seeking told with on | ⟨handler, jump, -⟩
    · exact on
    · rw [supply.registers_eq, jump] at missing
      contradiction
  | issued fetch between entry instruction occupancy here supply found decoded taken =>
    obtain ⟨handler, jump, away⟩ := jumps supply found
    obtain rfl := Except.ok.inj (jump.symm.trans decoded)
    obtain rfl := Option.some.inj taken
    have branches : Dispatch.Branches ⟨between.registers, entry⟩ :=
      ⟨_, Dispatch.instruction?_of_decode _ jump⟩
    refine Or.inr ⟨_, rfl, supply.registers_eq.trans same, branches, ?_⟩
    refine .strays _ (.leaving rfl away) running ((window.writes_eq supply.deals).trans writes) ?_
    rintro _ ⟨⟩
    exact ⟨supply.registers_eq.trans same, branches⟩
  | returned fetch between entry here supply found decoded
  | stray fetch between entry here supply found decoded
  | undecodable fetch between entry cause here supply found decoded =>
    obtain ⟨handler, jump, -⟩ := jumps supply found
    simp [jump] at decoded
  | resolved _ _ here | worked _ _ _ _ here => simp [idle, Occupancy.stage] at here
  | trapped _ _ _ _ here => simp [idle] at here

/-- A core that has gone astray dispatches nothing that is in main memory. -/
lemma Turn.of_strays (turn : Turn near path standing later after issue outcome)
    (window : Window near see) (astray : standing.Astray path.registers)
    (running : machine.fault = none)
    (writes : (see path.bus).memory.writes = machine.memory.writes)
    (jump : ∀ dispatch ∈ extra, dispatch.registers = machine.registers ∧ dispatch.Branches)
    (program : ∀ dispatch ∈ issue, dispatch.InRam) :
    issue = none ∧ Reaches origin machine later after.registers (see after.bus) outcome extra := by
  -- whatever is dispatched is not in main memory
  have nothing {fetch : Fetch} {between : Datapath} {entry : Fetched}
      (supply : Fetch.Turn near path standing.fetch fetch between)
      (idle : standing.occupancy = .idle)
      (inRam : Dispatch.InRam ⟨between.registers, entry⟩) : False := by
    have fetched := inRam.fetched
    cases astray with
    | arrived _ away =>
      rw [supply.registers_eq, away] at fetched
      contradiction
    | leaving stage => simp [idle, Occupancy.stage] at stage
  cases turn with
  | stalled fetch between here supply missing =>
    refine ⟨rfl, .strays extra ?_ running ((window.writes_eq supply.deals).trans writes) jump⟩
    cases astray with
    | arrived idle away => exact .arrived idle (by rw [← supply.registers_eq] at away; exact away)
    | leaving stage => simp [here, Occupancy.stage] at stage
  | issued _ _ _ _ _ here supply | returned _ _ _ here supply | undecodable _ _ _ _ here supply
  | stray _ _ _ here supply => exact (nothing supply here (program _ rfl)).elim
  | resolved fetch between here supply =>
    cases astray with
    | arrived idle => simp [idle, Occupancy.stage] at here
    | leaving stage away =>
      have moved := window.writes_eq supply.deals
      rw [Occupancy.resolve_bus] at moved
      refine ⟨rfl, .strays extra (.arrived ?_ ?_) running (moved.trans writes) jump⟩
      · exact occupancy_enter _ _
      · change isRam between.registers.ip = false
        rw [supply.registers_eq, Occupancy.resolve_ip, away]
  | trapped _ _ _ _ here =>
    cases astray with
    | arrived idle => simp [idle] at here
    | leaving stage => simp [here, Occupancy.stage] at stage
  | worked _ _ _ _ here =>
    cases astray with
    | arrived idle => simp [idle, Occupancy.stage] at here
    | leaving stage => simp [here] at stage

/-- **A tick of a core in pursuit.**  It goes on with its step, or it dispatches what the machine
executes next, or a branch in place of that; and if it ends in a fault, the fault is the
machine's. -/
theorem Turn.pursues (turn : Turn near path standing later after issue outcome)
    (pursues : standing.Pursues origin machine path.registers (see path.bus) extra)
    (window : Window near see) (answered : Fetch.Answered near path.bus)
    (told : Told near path.bus)
    (program : ∀ dispatch ∈ issue,
      dispatch.InRam ∧ machine.memory.Intact dispatch.registers.ip) :
    issue = none ∧ Reaches origin machine later after.registers (see after.bus) outcome extra
      ∨ extra = none ∧ machine.fault = none ∧ (issue = some machine.dispatch
          ∧ Reaches origin machine.step later after.registers (see after.bus) outcome none
        ∨ ∃ dispatch, issue = some dispatch ∧ dispatch.registers = machine.registers
          ∧ dispatch.Branches
          ∧ Reaches origin machine later after.registers (see after.bus) outcome
            (some dispatch)) := by
  cases pursues with
  | tracks tracks completed =>
    rcases turn.of_tracks tracks window answered completed program with on | ⟨issued, live, next⟩
    · exact Or.inl on
    · exact Or.inr ⟨rfl, live, Or.inl ⟨issued, next⟩⟩
  | seeks idle seeking same running writes =>
    rcases turn.of_seeks window told idle seeking same running writes with on | jumps
    · exact Or.inl on
    · exact Or.inr ⟨rfl, running, Or.inr jumps⟩
  | strays _ astray running writes jump =>
    exact Or.inl (turn.of_strays window astray running writes jump
      fun dispatch issued => (program dispatch issued).1)

/-- If the machine has stopped, the next tick ends in its fault. -/
lemma Turn.trips (see : Interconnect → View) {fault : Fault}
    (turn : Turn near path standing later after issue outcome)
    (faults : (standing.occupancy.completed path.registers (see path.bus)).fault = some fault) :
    outcome = .error fault := by
  obtain ⟨held, cause, here, result, rfl⟩ : ∃ held cause, standing.occupancy = .alu held
      ∧ held.instruction.evaluate path.registers = .error cause
      ∧ fault = held.entry.fault cause := by
    cases occupied : standing.occupancy with
    | alu held =>
      rw [occupied, Occupancy.completed, Sequential.execute] at faults
      split at faults
      · next cause result => exact ⟨held, cause, rfl, result, (Option.some.inj faults).symm⟩
      all_goals contradiction
    | load pending =>
      rw [occupied, Occupancy.completed] at faults
      split at faults
      · contradiction
      · cases form : pending.instruction <;>
          simp [form, Sequential.execute, Sequential.moveOn, Sequential.loadInto] at faults
    | stack held =>
      rw [occupied, Occupancy.completed] at faults
      cases form : held.instruction <;> rw [form] at faults <;> contradiction
    | request held =>
      rw [occupied, Occupancy.completed] at faults
      cases form : held.instruction <;> rw [form] at faults <;> contradiction
    | idle | done | branch | store => rw [occupied] at faults; contradiction
  cases turn with
  | trapped fetch between other cause' here' supply result' =>
    obtain rfl := Occupancy.alu.inj (here.symm.trans here')
    rw [supply.registers_eq, result, Except.error.injEq] at result'
    rw [result']
  | worked fetch between final occupancy stage supply work =>
    rw [here] at work
    cases work with
    | computed _ _ result' | computedNothing _ result' =>
      rw [supply.registers_eq, result] at result'
      contradiction
  | stalled _ _ here' | issued _ _ _ _ _ here' | returned _ _ _ here' | undecodable _ _ _ _ here'
  | stray _ _ _ here' => simp [here] at here'
  | resolved _ _ stage => simp [here, Occupancy.stage] at stage

end Turn

/-- What memory has been asked to write, the machine has written. -/
lemma Pursues.writes_prefix {origin : Word → Word} {machine : Sequential} {standing : Standing}
    {registers : RegisterFile} {view : View} {extra : Option Dispatch}
    (pursues : standing.Pursues origin machine registers view extra) :
    view.memory.writes <+: machine.memory.writes := by
  cases pursues with
  | tracks tracks completed =>
    rw [← completed]
    exact (standing.occupancy.accesses_prefix_completed registers view).filterMap _
  | seeks _ _ _ _ writes | strays _ _ _ writes => rw [writes]

/-- The interrupt line has no say in it. -/
lemma Pursues.signal {origin : Word → Word} {machine : Sequential} {standing : Standing}
    {registers : RegisterFile} {view : View} {extra : Option Dispatch}
    (pursues : standing.Pursues origin machine registers view extra) (raised : Bool) :
    (standing.signal raised).Pursues origin machine registers view extra := by
  cases raised with
  | false => exact pursues
  | true =>
    cases pursues with
    | tracks tracks completed =>
      exact .tracks ⟨tracks.outside, tracks.reading, tracks.agrees, tracks.localized,
        tracks.supplied, tracks.exhausted, tracks.content, tracks.tame, tracks.here⟩ completed
    | seeks idle seeking same running writes => exact .seeks idle seeking same running writes
    | strays _ astray running writes jump =>
      refine .strays _ ?_ running writes jump
      cases astray with
      | arrived idle away => exact .arrived idle away
      | leaving stage away => exact .leaving stage away

end Standing

end PipelinedMachine
