import PipelinedMachine.Proofs.Served.Questions

/-!
# What a core has at hand

Every instruction that fetch has at hand is one that memory holds, except for the jump that the
search for a handler supplies: it stands among the others, at the address that was interrupted,
until the handler returns or so much has been fetched that it is forgotten.

* `Fetch.GenuineBut` — every instruction is genuine, except that the oldest may be the jump;
* `Standing.Stocked` — **the invariant**: questions and answers agree, the instructions at hand are
  genuine but for the jump, and fetch asks for nothing while a load waits;
* `Standing.Turn.stocked` — **every tick without a fault keeps it**;
* `ServedCore.Stands`, `ServedCore.Stands.tick` — the same for a core with its memory;
* `ServedCore.exists_stands_run` — **every run keeps it**.
-/

namespace PipelinedMachine

namespace Fetch

/-! ## The instructions at hand -/

/-- Every instruction is genuine, except that the oldest may be `jump`. -/
def GenuineBut (origin : Word → Word) (memory : Memory) (jump : Option Fetched)
    (line : List Fetched) : Prop :=
  ∃ rest, (line = rest ∨ ∃ entry, jump = some entry ∧ line = entry :: rest)
    ∧ ∀ entry ∈ rest, entry.Genuine origin memory

section Line

variable {origin : Word → Word} {memory later : Memory} {jump : Option Fetched}
  {line : List Fetched}

lemma GenuineBut.nil : GenuineBut origin memory jump [] := ⟨[], Or.inl rfl, by simp⟩

lemma GenuineBut.mono (genuine : GenuineBut origin memory jump line)
    (more : memory.WritesIn later) : GenuineBut origin later jump line := by
  obtain ⟨rest, form, genuine⟩ := genuine
  exact ⟨rest, form, fun entry member => (genuine entry member).mono more⟩

/-- What is at hand is the jump, or it is genuine. -/
lemma GenuineBut.of_mem {entry : Fetched}
    (genuine : GenuineBut origin memory jump line) (member : entry ∈ line) :
    jump = some entry ∨ entry.Genuine origin memory := by
  obtain ⟨rest, rfl | ⟨first, same, rfl⟩, genuine⟩ := genuine
  · exact Or.inr (genuine entry member)
  · rcases List.mem_cons.mp member with rfl | later
    · exact Or.inl same
    · exact Or.inr (genuine entry later)

lemma GenuineBut.drop (genuine : GenuineBut origin memory jump line) (n : Nat) :
    GenuineBut origin memory jump (line.drop n) := by
  obtain ⟨rest, form, genuine⟩ := genuine
  rcases form with rfl | ⟨entry, same, rfl⟩
  · exact ⟨_, Or.inl rfl, fun entry member => genuine entry (List.mem_of_mem_drop member)⟩
  · cases n with
    | zero => exact ⟨rest, Or.inr ⟨entry, same, rfl⟩, genuine⟩
    | succ n =>
      exact ⟨_, Or.inl rfl, fun entry member => genuine entry (List.mem_of_mem_drop member)⟩

lemma GenuineBut.append (genuine : GenuineBut origin memory jump line) {new : List Fetched}
    (added : ∀ entry ∈ new, entry.Genuine origin memory) :
    GenuineBut origin memory jump (line ++ new) := by
  obtain ⟨rest, form, genuine⟩ := genuine
  refine ⟨rest ++ new, ?_, ?_⟩
  · rcases form with rfl | ⟨entry, same, rfl⟩
    · exact Or.inl rfl
    · exact Or.inr ⟨entry, same, rfl⟩
  · intro entry member
    exact (List.mem_append.mp member).elim (genuine entry) (added entry)

end Line

end Fetch

/-! ## The invariant -/

/-- The question of a load that has sent its read. -/
def PendingLoad.question (pending : PendingLoad) : List (Word × Nat) :=
  match pending.instruction with
  | .nop => []
  | .load _ _ => pending.requested.toList.map fun address => (address, 1)

/-- The question that the load unit waits with. -/
def Occupancy.loadQuestion : Occupancy → List (Word × Nat)
  | .load pending => pending.question
  | .idle | .done | .branch _ | .alu _ | .store _ | .stack _ | .request _ => []

/-- A load asks only in the stage that executes it. -/
lemma Occupancy.loadQuestion_eq_nil {occupancy : Occupancy}
    (elsewhere : occupancy.stage ≠ .execution) : occupancy.loadQuestion = [] := by
  cases occupancy with
  | load pending => exact absurd rfl elsewhere
  | idle | done | branch | alu | store | stack | request => rfl

namespace Standing

/-- Everything a core has asked and not been told.  The load unit never asks while a handler is
looked for. -/
def questions (standing : Standing) : List (Word × Nat) :=
  standing.fetch.blockQuestion
    ++ (standing.occupancy.loadQuestion ++ standing.fetch.vectorQuestion)

/-- The jump that the oldest instruction at hand may be: the one to the handler that is running. -/
def leftover (standing : Standing) (jump : Option Fetched) : Option Fetched :=
  if standing.inInterrupt then jump else none

/-- Questions, answers and instructions at hand fit together.  `jump` is what the last search has
supplied in place of an instruction. -/
structure Stocked (origin : Word → Word) (jump : Option Fetched) (standing : Standing) (ip : Word)
    (view : View) : Prop where
  agrees : view.Agrees origin standing.questions
  line : Fetch.GenuineBut origin view.memory (standing.leftover jump) standing.fetch.line
  /-- While an instruction is in a unit, it is still at hand. -/
  supplied : standing.occupancy.stage ≠ .dispatch → standing.fetch.Supplied ip
  exhausted : standing.occupancy.stage = .dispatch → standing.fetch.Exhausted ip
  /-- While a load waits, fetch has nothing to ask. -/
  content : standing.occupancy.loadQuestion ≠ [] → standing.fetch.Content ip
  handling : standing.fetch.searching ≠ none →
    standing.inInterrupt = true ∧ standing.savedIp = ip
  jump : ∀ entry, jump = some entry → standing.inInterrupt = true →
    standing.fetch.searching = none → entry.address = standing.savedIp

/-- While fetch reads ahead, the only other question is the load unit's. -/
lemma questions_of_reading {standing : Standing} (reading : standing.fetch.searching = none) :
    standing.questions = standing.fetch.blockQuestion ++ standing.occupancy.loadQuestion := by
  rw [questions, Fetch.vectorQuestion, reading, List.append_nil]

section Stocked

variable {origin : Word → Word} {jump : Option Fetched} {server : Server} {near : Terminal}
  {standing : Standing} {path after : Datapath}

lemma Stocked.agrees_of_reading {ip : Word} {view : View}
    (stocked : Stocked origin jump standing ip view) (reading : standing.fetch.searching = none) :
    view.Agrees origin (standing.fetch.blockQuestion ++ standing.occupancy.loadQuestion) := by
  rw [← questions_of_reading reading]
  exact stocked.agrees

/-- Reading ahead only adds genuine instructions, and memory stays as it is. -/
lemma Stocked.restock (stocked : Stocked origin jump standing path.registers.ip
      (server.view path.bus near)) (reading : standing.fetch.searching = none) {fetch : Fetch}
    (turn : Fetch.Turn near path standing.fetch fetch after) :
    (server.view after.bus near).Agrees origin
        (fetch.blockQuestion ++ standing.occupancy.loadQuestion)
      ∧ (server.view after.bus near).memory = (server.view path.bus near).memory
      ∧ Fetch.GenuineBut origin (server.view after.bus near).memory (standing.leftover jump)
        fetch.line := by
  obtain ⟨agrees, same, n, new, line, genuine⟩ :=
    turn.restock reading (stocked.agrees_of_reading reading) stocked.content
  refine ⟨agrees, same, ?_⟩
  rw [line]
  exact ((same ▸ stocked.line).drop n).append genuine

/-- A turn of fetch keeps the core stocked. -/
lemma Stocked.supply (stocked : Stocked origin jump standing path.registers.ip
      (server.view path.bus near)) (forgotten : standing.fetch.Forgotten)
    (idle : standing.fetch.searching ≠ none → standing.occupancy.stage = .dispatch)
    {fetch : Fetch} (turn : Fetch.Turn near path standing.fetch fetch after) :
    Stocked origin (standing.fetch.jumpAfter (fetch.find? path.registers.ip) jump)
      { standing with fetch := fetch } path.registers.ip (server.view after.bus near) := by
  cases searching : standing.fetch.searching with
  | none =>
    have calm := turn.searching_eq_none searching
    obtain ⟨agrees, _, line⟩ := stocked.restock searching turn
    rw [Fetch.jumpAfter, if_pos searching]
    exact {
      agrees := by
        rw [questions_of_reading (by exact calm)]
        exact agrees
      line := line
      supplied := fun stage => turn.supplied searching (stocked.supplied stage)
      exhausted := fun stage => turn.exhausted (stocked.exhausted stage)
      content := fun asked => by
        have stage : standing.occupancy.stage ≠ .dispatch := by
          intro idle
          exact asked (Occupancy.loadQuestion_eq_nil (by simp [idle]))
        exact turn.content searching (stocked.supplied stage) (Or.inl (stocked.content asked))
      handling := fun searching => absurd calm searching
      jump := fun entry same inside _ => stocked.jump entry same inside searching }
  | some phase =>
    have stage := idle (by simp [searching])
    have idle : standing.occupancy.loadQuestion = [] :=
      Occupancy.loadQuestion_eq_nil (by simp [stage])
    have agrees := stocked.agrees
    rw [questions, idle, List.nil_append] at agrees
    obtain ⟨agrees, more⟩ := turn.restock_search searching agrees
    obtain ⟨inside, savedIp⟩ := stocked.handling (by simp [searching])
    have found := turn.line_eq_of_search searching forgotten
    rw [Fetch.jumpAfter, if_neg (by simp [searching])]
    exact {
      agrees := by
        rw [questions, idle, List.nil_append]
        exact agrees
      line := by
        rcases found with ⟨_, vacant⟩ | ⟨handler, calm, passed, ahead⟩
        · rw [vacant]
          exact .nil
        · refine ⟨[], Or.inr ⟨_, ?_, by rw [Fetch.line, passed, ahead, List.nil_append]⟩, by simp⟩
          simp [leftover, inside, Fetch.find?, ahead]
      supplied := fun elsewhere => absurd stage elsewhere
      exhausted := fun _ => turn.exhausted (stocked.exhausted stage)
      content := fun asked => absurd idle asked
      handling := fun _ => ⟨inside, savedIp⟩
      jump := by
        intro entry same _ calm
        rcases found with ⟨ongoing, _⟩ | ⟨handler, _, _, ahead⟩
        · exact absurd calm ongoing
        · rw [savedIp]
          simp only [Fetch.find?, ahead, List.find?_cons, decide_true, Option.some_or,
            Option.some.injEq] at same
          rw [← same] }

/-- When the instruction pointer moves, there is still something ahead. -/
lemma Stocked.resolve {ip : Word} {view : View} (stocked : Stocked origin jump standing ip view)
    (here : standing.occupancy.stage = .branchPredict) (calm : standing.fetch.searching = none)
    (next : Word) : Stocked origin jump { standing with occupancy := .idle } next view where
  agrees := by
    have idle : standing.occupancy.loadQuestion = [] :=
      Occupancy.loadQuestion_eq_nil (by simp [here])
    have agrees := stocked.agrees
    rwa [questions, idle] at agrees
  line := stocked.line
  supplied := fun elsewhere => absurd rfl elsewhere
  exhausted := fun _ nothing =>
    absurd nothing (stocked.supplied (by simp [here])).1
  content := fun asked => absurd rfl asked
  handling := fun searching => absurd calm searching
  jump := stocked.jump

/-- Nothing is asked when an instruction reaches its unit. -/
lemma loadQuestion_of_ofInstruction? {entry : Fetched} {instruction : Instruction}
    {occupancy : Occupancy} (taken : Occupancy.ofInstruction? entry instruction = some occupancy) :
    occupancy.loadQuestion = [] := by
  rcases instruction with _ | _ | (_ | _) | _ | _ | (_ | _) | _ <;>
    simp only [Occupancy.ofInstruction?, Option.some.injEq, reduceCtorEq] at taken <;>
    subst taken <;> rfl

/-- An instruction that has been found is at hand with more behind it. -/
lemma Stocked.issue {ip : Word} {view : View} (stocked : Stocked origin jump standing ip view)
    (idle : standing.occupancy = .idle) (calm : standing.fetch.searching = none) {entry : Fetched}
    (found : standing.fetch.find? ip = some entry) {instruction : Instruction}
    {occupancy : Occupancy} (taken : Occupancy.ofInstruction? entry instruction = some occupancy) :
    Stocked origin jump
      { standing with occupancy := occupancy, dispatched := some entry } ip view where
  agrees := by
    have agrees := stocked.agrees
    rw [questions, idle] at agrees
    rwa [questions, loadQuestion_of_ofInstruction? taken]
  line := stocked.line
  supplied := fun _ => by
    have somewhere : ∃ entry ∈ standing.fetch.line, entry.address = ip :=
      Fetch.find?_ne_none_iff.mp (by simp [found])
    refine ⟨fun nothing => ?_, somewhere⟩
    obtain ⟨other, member, address⟩ := somewhere
    rw [Fetch.line, nothing, List.append_nil] at member
    exact stocked.exhausted (by rw [idle]; rfl) nothing other member address
  exhausted := fun _ => stocked.exhausted (by rw [idle]; rfl)
  content := fun asked => absurd (loadQuestion_of_ofInstruction? taken) asked
  handling := fun searching => absurd calm searching
  jump := stocked.jump

/-- What the unit in execution does keeps the core stocked.  A load that waits is answered after the
block that fetch waits for, and it has asked only once fetch was content. -/
lemma Stocked.work {ip : Word} {later : Occupancy}
    (stocked : Stocked origin jump standing ip (server.view path.bus near))
    (work : Occupancy.Work near path standing.occupancy later after)
    (here : standing.occupancy.stage = .execution) (calm : standing.fetch.searching = none)
    (content : (∃ address, (path.bus.send? near (Message.read address 1)).isSome) →
      standing.fetch.Content ip)
    (unanswered : standing.occupancy.loadQuestion ≠ [] →
      ∀ address, standing.fetch.outstanding = some address →
        path.bus.answer? near address = none) :
    Stocked origin jump { standing with occupancy := later } ip (server.view after.bus near) := by
  have supplied := stocked.supplied (by simp [here])
  have stocks (agrees : (server.view after.bus near).Agrees origin
        (standing.fetch.blockQuestion ++ later.loadQuestion))
      (more : (server.view path.bus near).memory.WritesIn (server.view after.bus near).memory)
      (content : later.loadQuestion ≠ [] → standing.fetch.Content ip) :
      Stocked origin jump { standing with occupancy := later } ip (server.view after.bus near) := {
    agrees := by rwa [questions_of_reading (by exact calm)]
    line := stocked.line.mono more
    supplied := fun _ => supplied
    exhausted := fun _ nothing => absurd nothing supplied.1
    content := content
    handling := fun searching => absurd calm searching
    jump := stocked.jump }
  have agrees := stocked.agrees_of_reading calm
  have send {message : Message} {bus : Interconnect}
      (sent : path.bus.send? near message = some bus)
      (silent : ((server.view path.bus near).memory.serve message).2 = []) :
      (server.view bus near).Agrees origin
          (standing.fetch.blockQuestion ++ standing.occupancy.loadQuestion)
        ∧ (server.view path.bus near).memory.WritesIn (server.view bus near).memory := by
    rw [server.view_send sent]
    exact ⟨agrees.request silent, Memory.writesIn_send _ _⟩
  generalize occupied : standing.occupancy = occupancy at work
  rw [occupied] at agrees unanswered send
  have contented := stocked.content
  rw [occupied] at contented
  cases work with
  | computed | computedNothing | pushed | popped | pushing | popping | storeWaits
  | requestWaits =>
    exact stocks agrees (fun _ => id) (fun asked => absurd rfl asked)
  | loadedNothing pending form =>
    refine stocks ?_ (fun _ => id) (fun asked => absurd rfl asked)
    change (server.view path.bus near).Agrees _ _
    simpa [Occupancy.loadQuestion, PendingLoad.question, form] using agrees
  | loadWaits => exact stocks agrees (fun _ => id) contented
  | asked pending target operand bus form fresh sent =>
    have joined := agrees.readWord (operand.resolve path.registers)
    rw [← server.view_send sent] at joined
    refine stocks ?_ ?_ fun _ => content ⟨_, Option.isSome_iff_exists.mpr ⟨bus, sent⟩⟩
    · simpa [Occupancy.loadQuestion, PendingLoad.question, form, fresh] using joined
    · change Memory.WritesIn _ (server.view bus near).memory
      rw [server.view_send sent]
      exact Memory.writesIn_send _ _
  | loaded pending target operand address answer form waiting came =>
    have asked : (Occupancy.load pending).loadQuestion = [(address, 1)] := by
      simp [Occupancy.loadQuestion, PendingLoad.question, form, waiting]
    have first := Fetch.blockQuestion_eq_nil agrees (unanswered (by simp [asked])) came
    obtain ⟨question, rest, questions, _, cleared, memory⟩ :=
      agrees.came (Interconnect.answer?_eq_some came).1
    rw [first, asked] at questions
    obtain ⟨rfl, rfl⟩ := List.cons_eq_cons.mp questions
    refine stocks ?_ ?_ fun asked => absurd rfl asked
    · rw [first]
      exact cleared
    · change Memory.WritesIn _ (server.view (path.bus.clear near) near).memory
      rw [memory]
      exact fun _ => id
  | stored held bus sent =>
    obtain ⟨agrees, more⟩ := send sent rfl
    exact stocks agrees more (fun asked => absurd rfl asked)
  | requested held bus sent =>
    obtain ⟨agrees, more⟩ := send sent (by cases held.instruction <;> rfl)
    exact stocks agrees more (fun asked => absurd rfl asked)

lemma Stocked.return {ip : Word} {view : View} (stocked : Stocked origin jump standing ip view)
    (idle : standing.occupancy = .idle) (calm : standing.fetch.searching = none)
    (entry : Fetched) (next : Word) :
    Stocked origin jump
      { standing with
        fetch := standing.fetch.flush, dispatched := some entry, inInterrupt := false } next
      view where
  agrees := stocked.agrees
  line := .nil
  supplied := fun elsewhere => absurd (by rw [idle]; rfl) elsewhere
  exhausted := fun _ _ => by simp [Fetch.flush]
  content := fun asked => absurd (by rw [idle]; rfl) asked
  handling := fun searching => absurd calm searching
  jump := fun _ _ inside => absurd inside (by simp)

lemma Stocked.enter {ip : Word} {view : View} (stocked : Stocked origin jump standing ip view)
    (idle : standing.occupancy = .idle) (calm : standing.fetch.searching = none) :
    Stocked origin jump (standing.enter ip) ip view := by
  rw [Standing.enter]
  split
  · exact {
      agrees := by
        have agrees := stocked.agrees
        rw [questions, Fetch.vectorQuestion, calm] at agrees
        exact agrees
      line := .nil
      supplied := fun elsewhere => absurd (by rw [idle]; rfl) elsewhere
      exhausted := fun _ _ => by simp [Fetch.beginSearch, Fetch.flush]
      content := fun asked => absurd (by rw [idle]; rfl) asked
      handling := fun _ => ⟨rfl, rfl⟩
      jump := fun _ _ _ calm => absurd calm (by simp [Fetch.beginSearch]) }
  · exact stocked

/-- A tick without a fault keeps the core stocked. -/
theorem Turn.stocked {later : Standing} {issue : Option Dispatch} {breakpoint : Option Word}
    (turn : Turn near path standing later after issue (.ok breakpoint))
    (sound : standing.Sound path.registers path.stages)
    (stocked : Stocked origin jump standing path.registers.ip (server.view path.bus near)) :
    Stocked origin (standing.fetch.jumpAfter (issue.map Dispatch.entry) jump) later
      after.registers.ip (server.view after.bus near) := by
  generalize result : (Except.ok breakpoint : CoreOutcome) = outcome at turn
  have calm (away : standing.occupancy.stage ≠ .dispatch) : standing.fetch.searching = none := by
    by_contra searching
    exact away (sound.searching searching)
  cases turn with
  | undecodable | stray | trapped => contradiction
  | stalled fetch between here supply missing =>
    have supplied := stocked.supply sound.forgotten sound.searching supply
    rw [← supply.registers_eq, missing] at supplied
    exact supplied
  | issued fetch between entry instruction occupancy here supply found decoded taken =>
    have supplied := stocked.supply sound.forgotten sound.searching supply
    rw [← supply.registers_eq, found] at supplied
    have calm := (supply.forgotten sound.forgotten).searching_eq_none found
    exact supplied.issue here calm found taken
  | returned fetch between entry here supply found decoded running =>
    have supplied := stocked.supply sound.forgotten sound.searching supply
    rw [← supply.registers_eq, found] at supplied
    have calm := (supply.forgotten sound.forgotten).searching_eq_none found
    exact supplied.return here calm entry _
  | resolved fetch between here supply =>
    have calm := calm (by simp [here])
    have moved := stocked.resolve here calm (standing.occupancy.resolve path).registers.ip
    rw [← Occupancy.resolve_bus standing.occupancy path] at moved
    have supplied := moved.supply sound.forgotten (fun _ => rfl) supply
    rw [Fetch.jumpAfter, if_pos calm, ← supply.registers_eq] at supplied
    rw [Fetch.jumpAfter, if_pos calm]
    exact supplied.enter rfl (supply.searching_eq_none calm)
  | worked fetch between final occupancy here supply work =>
    have calm := calm (by simp [here])
    have supplied := stocked.supply sound.forgotten sound.searching supply
    rw [Fetch.jumpAfter, if_pos calm, ← supply.registers_eq] at supplied
    rw [Fetch.jumpAfter, if_pos calm]
    have kept := stocked.supplied (by simp [here])
    have worked := supplied.work work here
      (supply.searching_eq_none calm)
      (fun sent => by
        rw [supply.registers_eq]
        exact supply.content calm kept (Or.inr sent))
      (fun asked => supply.unanswered calm (stocked.content asked))
    rw [← work.ip_eq] at worked
    exact worked

end Stocked

end Standing

/-! ## Cores with their memory -/

namespace Standing

lemma Stocked.signal {origin : Word → Word} {jump : Option Fetched} {standing : Standing}
    {ip : Word} {view : View} (stocked : Stocked origin jump standing ip view) (raised : Bool) :
    Stocked origin jump (standing.signal raised) ip view := by
  cases raised with
  | false => exact stocked
  | true =>
    exact ⟨stocked.agrees, stocked.line, stocked.supplied, stocked.exhausted, stocked.content,
      stocked.handling, stocked.jump⟩

end Standing

namespace ServedCore

variable {origin : Word → Word} {served : ServedCore} {standing : Standing}

/-- The core stands in one of the situations of its units, and it is stocked. -/
structure Stands (origin : Word → Word) (served : ServedCore) (standing : Standing) : Prop where
  core : served.core.StandsAs standing
  stocked : standing.Stocked origin served.jump served.core.registers.ip served.view

/-- The program has written to `address`: its write has been served, or it is on its way. -/
def HasWritten (served : ServedCore) (address : Word) : Prop :=
  served.view.memory.HasWritten address

instance (served : ServedCore) (address : Word) : Decidable (served.HasWritten address) :=
  inferInstanceAs (Decidable (served.view.memory.HasWritten address))

/-- The system once the core has ticked and left this behind. -/
def afterTick (served : ServedCore) (later : Standing) (after : Datapath)
    (outcome : CoreOutcome) : ServedCore :=
  { served with
    core := ⟨served.core.id, served.core.terminal, after.registers, after.stages, later.pipeline⟩
    env := ⟨after.bus, (served.env.lines.take served.core.id).2, after.counters⟩
    dispatches := served.dispatches ++ served.issue?.toList
    jump := served.core.pipeline.fetch.jumpAfter (served.issue?.map Dispatch.entry) served.jump
    stopped := match outcome with
      | .error fault => some fault
      | .ok _ => none }

/-- A tick of the core is a turn of its pipeline, and it leaves the core standing unless it ends in
a fault. -/
theorem Stands.tick (stands : served.Stands origin standing) (running : served.stopped = none) :
    ∃ later after outcome,
      Standing.Turn served.core.terminal (served.core.path served.env)
          (standing.signal (served.env.lines.take served.core.id).1) later after served.issue?
          outcome
        ∧ served.tickCore = served.afterTick later after outcome
        ∧ ∀ breakpoint, outcome = .ok breakpoint → served.tickCore.Stands origin later := by
  obtain ⟨later, after, outcome, ticked, turn⟩ := Core.exists_turn stands.core served.env
  have issue : served.issue? = served.core.issue? served.env := by
    simp only [issue?, running]
  rw [← issue] at turn
  have tick : served.tickCore = served.afterTick later after outcome := by
    cases outcome <;> simp only [tickCore, running, ticked, afterTick]
  refine ⟨later, after, outcome, turn, tick, ?_⟩
  rintro breakpoint rfl
  have sound := stands.core.sound.signal (served.env.lines.take served.core.id).1
  have stocked := turn.stocked sound (stands.stocked.signal _)
  rw [Standing.signal_fetch] at stocked
  rw [tick]
  refine ⟨⟨rfl, turn.sound sound⟩, ?_⟩
  rw [afterTick, stands.core.pipeline]
  exact stocked

/-- Whatever happens, a core that has not stopped stands somewhere. -/
lemma exists_stands_step
    (stands : served.stopped = none → ∃ standing, served.Stands origin standing)
    (action : Action) (running : (served.step action).stopped = none) :
    ∃ standing, (served.step action).Stands origin standing := by
  cases action with
  | core =>
    cases stopped : served.stopped with
    | some fault =>
      have still : served.step .core = served := by
        simp only [ServedCore.step, tickCore, stopped]
      rw [still, stopped] at running
      contradiction
    | none =>
      obtain ⟨standing, stands⟩ := stands stopped
      obtain ⟨later, after, outcome, turn, tick, stands⟩ := stands.tick stopped
      cases outcome with
      | ok breakpoint => exact ⟨later, stands breakpoint rfl⟩
      | error fault =>
        change served.tickCore.stopped = none at running
        rw [tick] at running
        contradiction
  | link | take | serve | reply | raise =>
    obtain ⟨standing, stands⟩ := stands running
    refine ⟨standing, stands.core, ?_⟩
    rw [served.view_step (by simp)]
    exact stands.stocked

/-- The same for whole runs. -/
theorem exists_stands_run
    (stands : served.stopped = none → ∃ standing, served.Stands origin standing)
    (actions : List Action) (running : (served.run actions).stopped = none) :
    ∃ standing, (served.run actions).Stands origin standing := by
  induction actions generalizing served with
  | nil => exact stands running
  | cons action rest ih => exact ih (exists_stands_step stands action) running

lemma view_reset (id : Nat) (entry : Word) (period : UInt32) (words : Word → Word) :
    (reset id entry period words).view = ⟨{ words := words }, []⟩ := by
  have idle (a : Terminal) :
      (Interconnect.empty.link period Interconnect.messageCapacity).1.carried? a = none := by
    rw [Interconnect.carried?, Interconnect.outgoing?_link]
    split_ifs <;> rfl
  simp only [view, Server.view, Server.requests, reset, idle]
  rfl

lemma stands_reset (id : Nat) (entry : Word) (period : UInt32) (words : Word → Word) :
    (reset id entry period words).Stands words
      { occupancy := .idle, fetch := {}, dispatched := none, interruptPending := false,
        inInterrupt := false, savedIp := entry } where
  core := Core.standsAs_reset id _ entry
  stocked := by
    rw [view_reset]
    exact {
      agrees := ⟨fun _ => Or.inl rfl, .nil⟩
      line := .nil
      supplied := fun elsewhere => absurd rfl elsewhere
      exhausted := fun _ _ => by simp
      content := fun asked => absurd rfl asked
      handling := fun searching => absurd rfl searching
      jump := by simp }

end ServedCore

end PipelinedMachine
