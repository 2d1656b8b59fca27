import PipelinedMachine.Proofs.Served.Sequential
import PipelinedMachine.Proofs.Served.Stock

/-!
# The pipeline refines the sequential machine

Between two ticks a core stands somewhere in the middle of an instruction, with a block or a word on
its way and stores that memory has not seen yet.  `Occupancy.completed` carries the instruction in
the unit to its end at once, under the core's view of its memory.  It does not change while the
instruction is being executed, however long that takes, and every dispatch is one step of the
sequential machine.

* `Occupancy.completed` — the state in which the instruction at work will have been executed;
* `Standing.Turn.follows` — **one tick**: completing comes to the same before and after, and a
  dispatch adds one sequential step;
* `ServedCore.Follows` — a core whose completed state is that of a sequential machine;
* `ServedCore.refines_sequential` — **every run**: dispatches, accesses and fault are those of the
  sequential machine.
-/

namespace PipelinedMachine

/-! ## Completing the instruction at work -/

namespace Occupancy

/-- The state once the instruction at work has been executed.  A load that has sent its read is
answered by the last message to come. -/
def completed (registers : RegisterFile) (view : View) : Occupancy → Sequential
  | idle => { registers := registers, memory := view.memory }
  | done => Sequential.moveOn { registers := registers, memory := view.memory }
  | branch held =>
    Sequential.execute { registers := registers, memory := view.memory } held.entry
      (.branch held.instruction)
  | alu held =>
    Sequential.execute { registers := registers, memory := view.memory } held.entry
      (.alu held.instruction)
  | load pending =>
    match pending.instruction, pending.requested with
    | .load target _, some _ =>
      Sequential.moveOn
        { registers := registers.set target (view.incoming.getLast?.getD []).value
          memory := view.memory }
    | instruction, _ =>
      Sequential.execute { registers := registers, memory := view.memory } pending.entry
        (.load instruction)
  | store held =>
    Sequential.execute { registers := registers, memory := view.memory } held.entry
      (.store held.instruction)
  | stack held =>
    Sequential.execute { registers := registers, memory := view.memory } held.entry
      (.stack held.instruction)
  | request held =>
    Sequential.execute { registers := registers, memory := view.memory } held.entry
      (.interrupt (.request held.instruction))

/-- What comes of the instruction depends on memory, and for a load that has sent its read on the
last message to come. -/
lemma completed_congr {occupancy : Occupancy} {view view' : View}
    (same : view'.memory = view.memory)
    (last : occupancy.loadQuestion ≠ [] → view'.incoming.getLast? = view.incoming.getLast?)
    (registers : RegisterFile) :
    occupancy.completed registers view' = occupancy.completed registers view := by
  cases occupancy with
  | load pending =>
    cases form : pending.instruction with
    | nop => simp only [completed, form, same]
    | load target operand =>
      cases waiting : pending.requested with
      | none => simp only [completed, form, waiting, same]
      | some address =>
        rw [completed, completed]
        simp only [form, waiting, same, last (by simp [loadQuestion, PendingLoad.question, *])]
  | idle | done | branch | alu | store | stack | request => simp only [completed, same]

/-- An instruction that has just reached its unit has all of its effect before it. -/
lemma completed_of_ofInstruction? {entry : Fetched} {instruction : Instruction}
    {occupancy : Occupancy} (taken : ofInstruction? entry instruction = some occupancy)
    (registers : RegisterFile) (view : View) :
    occupancy.completed registers view
      = Sequential.execute { registers := registers, memory := view.memory } entry
        instruction := by
  rcases instruction with _ | _ | (_ | _) | _ | _ | (_ | _) | _ <;>
    simp only [ofInstruction?, Option.some.injEq, reduceCtorEq] at taken <;>
    subst taken <;> rfl

lemma accesses_prefix_completed (occupancy : Occupancy) (registers : RegisterFile) (view : View) :
    view.memory.accesses <+: (occupancy.completed registers view).memory.accesses := by
  have execute (entry : Fetched) (instruction : Instruction) :
      view.memory.accesses <+:
        (Sequential.execute { registers := registers, memory := view.memory } entry
          instruction).memory.accesses :=
    Sequential.accesses_prefix_execute ⟨registers, view.memory, none⟩ entry instruction
  cases occupancy with
  | idle | done => exact List.prefix_rfl
  | branch | alu | store | stack | request => exact execute _ _
  | load pending =>
    cases form : pending.instruction with
    | nop =>
      simp only [completed, form]
      exact execute _ _
    | load target operand =>
      cases waiting : pending.requested with
      | none =>
        simp only [completed, form, waiting]
        exact execute _ _
      | some address =>
        simp only [completed, form, waiting]
        exact List.prefix_rfl

lemma completed_resolve (occupancy : Occupancy) (here : occupancy.stage = .branchPredict)
    (path : Datapath) (view : View) :
    idle.completed (occupancy.resolve path).registers view
      = occupancy.completed path.registers view := by
  cases occupancy <;> first | rfl | simp [stage] at here

section Work

variable {origin : Word → Word} {server : Server} {near : Terminal} {path after : Datapath}
  {occupancy later : Occupancy} {fetch next : Fetch}

/-- The turn of the unit in execution does not change what comes of the instruction. -/
lemma Work.completed_eq (work : Work near path occupancy later after)
    (agrees : (server.view path.bus near).Agrees origin
      (fetch.blockQuestion ++ occupancy.loadQuestion))
    (unanswered : occupancy.loadQuestion ≠ [] →
      ∀ address, fetch.outstanding = some address → path.bus.answer? near address = none) :
    later.completed after.registers (server.view after.bus near)
      = occupancy.completed path.registers (server.view path.bus near) := by
  cases work with
  | computed held value result =>
    simp only [completed, Sequential.execute, result]
    rfl
  | computedNothing held result =>
    simp only [completed, Sequential.execute, result]
    rfl
  | loadedNothing pending form =>
    simp only [completed, form]
    rfl
  | asked pending target operand bus form fresh sent =>
    -- the answer joins the messages to come, where it is the last
    change completed path.registers (server.view bus near) (.load _) = _
    rw [server.view_send sent]
    simp only [completed, form, fresh, View.send, Memory.serve_readWord]
    rw [List.getLast?_concat]
    rfl
  | loaded pending target operand address answer form waiting came =>
    -- the answer that has come is the only message to come
    have asked : (Occupancy.load pending).loadQuestion = [(address, 1)] := by
      simp [loadQuestion, PendingLoad.question, form, waiting]
    have first := Fetch.blockQuestion_eq_nil agrees (unanswered (by simp [asked])) came
    obtain ⟨rest, incoming, cleared⟩ :=
      server.view_message? (Interconnect.answer?_eq_some came).1
    have answers := agrees.answers
    rw [first, asked, incoming] at answers
    obtain rfl : rest = [] := by
      cases answers with
      | cons _ none => exact List.forall₂_nil_left_iff.mp none
    change completed (path.registers.set target answer.value)
      (server.view (path.bus.clear near) near) .done = _
    simp only [completed, form, waiting, cleared, incoming]
    rfl
  | loadWaits | storeWaits | requestWaits => rfl
  | stored held bus sent =>
    change completed path.registers (server.view bus near) .done = _
    rw [server.view_send sent]
    simp only [completed, View.send, Memory.serve_write]
    rfl
  | pushed held form | popped held form | pushing held source form | popping held target form =>
    simp only [completed, form]
    rfl
  | requested held bus sent =>
    change completed path.registers (server.view bus near) .done = _
    rw [server.view_send sent]
    cases form : held.instruction with
    | install id source =>
      simp only [completed, form, View.send, InterruptRequest.message, Memory.serve_write]
      rfl
    | raise id =>
      simp only [completed, form, View.send, InterruptRequest.message, Memory.serve_interrupt]
      rfl

/-- Nor does a turn of fetch: memory stays as it is, and what a load waits for still comes last. -/
lemma completed_supply (turn : Fetch.Turn near path fetch next after)
    (reading : fetch.searching = none)
    (agrees : (server.view path.bus near).Agrees origin
      (fetch.blockQuestion ++ occupancy.loadQuestion))
    (content : occupancy.loadQuestion ≠ [] → fetch.Content path.registers.ip)
    (registers : RegisterFile) :
    occupancy.completed registers (server.view after.bus near)
      = occupancy.completed registers (server.view path.bus near) := by
  obtain ⟨_, same, _⟩ := turn.restock reading agrees content
  have last (waiting : occupancy.loadQuestion ≠ []) :
      (server.view after.bus near).incoming.getLast?
        = (server.view path.bus near).incoming.getLast? := by
    cases turn with
    | received address answer _ asked came =>
      obtain ⟨waits, _⟩ := Interconnect.answer?_eq_some came
      obtain ⟨rest, incoming, cleared⟩ := server.view_message? waits
      obtain ⟨question, others, questions, _, left, _⟩ := agrees.came waits
      rw [Fetch.blockQuestion, asked] at questions
      obtain ⟨-, rfl⟩ := List.cons_eq_cons.mp questions
      have answers := left.answers
      change (server.view (path.bus.clear near) near).incoming.getLast? = _
      rw [cleared] at answers ⊢
      rw [incoming, List.getLast?_cons_of_ne_nil]
      rintro rfl
      exact waiting (List.forall₂_nil_right_iff.mp answers)
    | awaited | refused | satisfied => rfl
    | asked _ _ _ free wanted => exact absurd (content waiting free) (by simp [wanted])
    | searched _ _ _ searching | dropped _ _ _ _ _ searching =>
      rw [reading] at searching
      contradiction
  exact completed_congr same last registers

end Work

end Occupancy

/-! ## One tick -/

namespace Standing

/-- No interrupt has been signalled or entered. -/
structure Calm (standing : Standing) : Prop where
  pending : standing.interruptPending = false
  outside : standing.inInterrupt = false
  reading : standing.fetch.searching = none

/-- What a tick leaves behind, as a state of the sequential machine: the completed state, or the
fault that ends the run. -/
def Shows (standing : Standing) (registers : RegisterFile) (view : View) (outcome : CoreOutcome)
    (machine : Sequential) : Prop :=
  match outcome with
  | .ok _ => standing.occupancy.completed registers view = machine
  | .error fault => machine.fault = some fault ∧ machine.memory = view.memory

section Turn

variable {origin : Word → Word} {server : Server} {near : Terminal} {path after : Datapath}
  {standing later : Standing} {issue : Option Dispatch} {outcome : CoreOutcome}

/-- Without a signalled interrupt the step to the next instruction is only that. -/
lemma Calm.enter_eq {standing : Standing} (pending : standing.interruptPending = false)
    (ip : Word) : standing.enter ip = standing := by
  rw [enter, pending]
  rfl

lemma Turn.calm {breakpoint : Option Word}
    (turn : Turn near path standing later after issue (.ok breakpoint)) (calm : standing.Calm) :
    later.Calm := by
  generalize result : (Except.ok breakpoint : CoreOutcome) = outcome at turn
  cases turn with
  | undecodable | stray | trapped => contradiction
  | stalled _ _ _ supply | issued _ _ _ _ _ _ supply | worked _ _ _ _ _ supply =>
    exact ⟨calm.pending, calm.outside, supply.searching_eq_none calm.reading⟩
  | returned _ _ _ _ _ _ _ running =>
    rw [calm.outside] at running
    contradiction
  | resolved _ _ _ supply =>
    rw [Calm.enter_eq (by exact calm.pending)]
    exact ⟨calm.pending, calm.outside, supply.searching_eq_none calm.reading⟩

/-- An instruction dispatched from words that the program has not written is the one that memory
holds. -/
lemma Stocked.entry_eq {registers : RegisterFile} {view : View}
    (stocked : Stocked origin none standing registers.ip view) {entry : Fetched}
    (found : standing.fetch.find? registers.ip = some entry)
    (intact : view.memory.Intact registers.ip) :
    entry = Sequential.fetched { registers := registers, memory := view.memory } := by
  have address := (Fetch.mem_of_find? found).1
  have genuine := (stocked.line.of_mem (Fetch.mem_line_of_find? found)).resolve_left
    (by simp [leftover])
  calc
    entry = Fetched.ofWords origin registers.ip := by
      rw [← address] at intact ⊢
      exact genuine.eq_ofWords intact
    _ = Fetched.ofWords view.memory.words registers.ip :=
      (stocked.agrees.sound.ofWords_eq intact).symm

/-- A tick that dispatches nothing goes on with the same step of the sequential machine. -/
lemma Turn.shows_of_not_issued
    (turn : Turn near path standing later after none outcome)
    (stocked : Stocked origin none standing path.registers.ip (server.view path.bus near))
    (calm : standing.Calm) :
    later.Shows after.registers (server.view after.bus near) outcome
      (standing.occupancy.completed path.registers (server.view path.bus near)) := by
  have reading := calm.reading
  have agrees := stocked.agrees_of_reading reading
  generalize nothing : (none : Option Dispatch) = issue at turn
  cases turn with
  | issued | returned | undecodable | stray => contradiction
  | stalled fetch between here supply missing =>
    rw [Shows, ← Occupancy.completed_supply supply reading agrees stocked.content,
      ← supply.registers_eq]
    rfl
  | resolved fetch between here supply =>
    have moved := stocked.resolve here reading (standing.occupancy.resolve path).registers.ip
    rw [← Occupancy.resolve_bus standing.occupancy path] at moved
    have idle := Occupancy.completed_supply supply reading (moved.agrees_of_reading reading)
      (fun asked => absurd rfl asked) (standing.occupancy.resolve path).registers
    rw [Occupancy.resolve_bus] at idle
    rw [Calm.enter_eq (by exact calm.pending)]
    calc
      Occupancy.idle.completed between.registers (server.view between.bus near)
        = Occupancy.idle.completed (standing.occupancy.resolve path).registers
            (server.view between.bus near) := by rw [supply.registers_eq]
      _ = Occupancy.idle.completed (standing.occupancy.resolve path).registers
            (server.view path.bus near) := idle
      _ = standing.occupancy.completed path.registers (server.view path.bus near) :=
          Occupancy.completed_resolve _ here _ _
  | trapped fetch between held cause here supply result =>
    rw [supply.registers_eq] at result
    obtain ⟨_, same, _⟩ := supply.restock reading agrees stocked.content
    simp only [Shows, here, Occupancy.completed, Sequential.execute, result]
    exact ⟨rfl, same.symm⟩
  | worked fetch between final occupancy here supply work =>
    obtain ⟨agrees', _⟩ := supply.restock reading agrees stocked.content
    have worked := work.completed_eq agrees' fun asked =>
      supply.unanswered reading (stocked.content asked)
    rw [Occupancy.completed_supply supply reading agrees stocked.content,
      supply.registers_eq] at worked
    exact worked

/-- A tick that dispatches an instruction begins the next step. -/
lemma Turn.shows_of_issued {dispatch : Dispatch}
    (turn : Turn near path standing later after (some dispatch) outcome)
    (stocked : Stocked origin none standing path.registers.ip (server.view path.bus near))
    (calm : standing.Calm) (sound : standing.Sound path.registers path.stages) :
    standing.occupancy = .idle ∧ dispatch.registers = path.registers
      ∧ (¬ (server.view path.bus near).memory.HasWritten path.registers.ip →
        ¬ (server.view path.bus near).memory.HasWritten (path.registers.ip + 1) →
        dispatch.entry = (standing.occupancy.completed path.registers
            (server.view path.bus near)).fetched
          ∧ later.Shows after.registers (server.view after.bus near) outcome
            (standing.occupancy.completed path.registers (server.view path.bus near)).step) := by
  have reading := calm.reading
  have agrees := stocked.agrees_of_reading reading
  -- what is found after the turn of fetch is what memory holds
  have real {fetch : Fetch} {between : Datapath} {entry : Fetched}
      (supply : Fetch.Turn near path standing.fetch fetch between)
      (found : fetch.find? between.registers.ip = some entry)
      (unwritten : ¬ (server.view path.bus near).memory.HasWritten path.registers.ip)
      (unwritten' : ¬ (server.view path.bus near).memory.HasWritten (path.registers.ip + 1)) :
      entry = Sequential.fetched
        { registers := path.registers, memory := (server.view path.bus near).memory }
      ∧ (server.view between.bus near).memory = (server.view path.bus near).memory := by
    obtain ⟨_, same, _⟩ := supply.restock reading agrees stocked.content
    have supplied := stocked.supply sound.forgotten sound.searching supply
    rw [Fetch.jumpAfter, if_pos reading] at supplied
    rw [supply.registers_eq] at found
    rw [← same] at unwritten unwritten' ⊢
    exact ⟨supplied.entry_eq found ⟨unwritten, unwritten'⟩, rfl⟩
  generalize something : some dispatch = issue at turn
  cases turn with
  | stalled | resolved | trapped | worked => contradiction
  | issued fetch between entry instruction occupancy here supply found decoded taken =>
    obtain rfl := Option.some.inj something
    refine ⟨here, supply.registers_eq, fun unwritten unwritten' => ?_⟩
    obtain ⟨fetched, same⟩ := real supply found unwritten unwritten'
    rw [here]
    refine ⟨fetched, ?_⟩
    rw [Occupancy.completed, Sequential.step_of_decode rfl fetched decoded]
    have begun := Occupancy.completed_of_ofInstruction? taken between.registers
      (server.view between.bus near)
    exact begun.trans (by rw [same, supply.registers_eq])
  | returned _ _ _ _ _ _ _ running =>
    rw [calm.outside] at running
    contradiction
  | undecodable fetch between entry cause here supply found decoded =>
    obtain rfl := Option.some.inj something
    refine ⟨here, supply.registers_eq, fun unwritten unwritten' => ?_⟩
    obtain ⟨fetched, same⟩ := real supply found unwritten unwritten'
    rw [here]
    refine ⟨fetched, ?_⟩
    rw [Occupancy.completed, Sequential.step_of_fault rfl fetched decoded]
    exact ⟨rfl, same.symm⟩
  | stray fetch between entry here supply found decoded running =>
    obtain rfl := Option.some.inj something
    refine ⟨here, supply.registers_eq, fun unwritten unwritten' => ?_⟩
    obtain ⟨fetched, same⟩ := real supply found unwritten unwritten'
    rw [here]
    refine ⟨fetched, ?_⟩
    rw [Occupancy.completed, Sequential.step_of_decode rfl fetched decoded]
    exact ⟨rfl, same.symm⟩

end Turn

end Standing

/-! ## Runs -/

namespace ServedCore

/-- In the whole run, no instruction is dispatched from a word that the program has written. -/
def RunsOriginal : ServedCore → List Action → Prop
  | _, [] => True
  | served, action :: rest =>
    (action = .core → ∀ dispatch ∈ served.issue?,
      ¬ served.HasWritten dispatch.registers.ip
        ∧ ¬ served.HasWritten (dispatch.registers.ip + 1))
    ∧ RunsOriginal (served.step action) rest

instance decidableRunsOriginal :
    ∀ (served : ServedCore) (actions : List Action), Decidable (served.RunsOriginal actions)
  | _, [] => isTrue trivial
  | served, action :: rest =>
    have := decidableRunsOriginal (served.step action) rest
    inferInstanceAs (Decidable ((action = .core → ∀ dispatch ∈ served.issue?,
      ¬ served.HasWritten dispatch.registers.ip
        ∧ ¬ served.HasWritten (dispatch.registers.ip + 1))
      ∧ RunsOriginal (served.step action) rest))

/-- What the sequential machine says about a run: the registers and the instruction of every
dispatch, the data accesses in their order, and the fault. -/
structure Refines (served : ServedCore) (start : Sequential) : Prop where
  dispatches : served.dispatches
    = (start.states served.dispatches.length).map Sequential.dispatch
  running : ∀ machine ∈ start.states served.dispatches.length, machine.fault = none
  accesses : served.server.memory.accesses
    <+: (Sequential.step^[served.dispatches.length] start).memory.accesses
  fault : ∀ fault, served.stopped = some fault →
    (Sequential.step^[served.dispatches.length] start).fault = some fault

/-- The completed state of the core is that of the machine. -/
structure Follows (origin : Word → Word) (served : ServedCore) (machine : Sequential) : Prop where
  quiet : served.env.lines.isRaised served.core.id = false
  unjumped : served.jump = none
  running : served.stopped = none → ∃ standing, served.Stands origin standing ∧ standing.Calm
    ∧ standing.occupancy.completed served.core.registers served.view = machine
  stopped : ∀ fault, served.stopped = some fault →
    machine.fault = some fault ∧ machine.memory = served.view.memory

section Follows

variable {origin : Word → Word} {served : ServedCore} {machine : Sequential}

/-- Nothing but a tick of the core, and a raised line, concerns the machine. -/
lemma Follows.around (follows : served.Follows origin machine) {action : Action}
    (core : action ≠ .core) (raise : action ≠ .raise) :
    (served.step action).Follows origin machine := by
  have view := served.view_step core
  cases action with
  | core | raise => contradiction
  | link | take | serve | reply =>
    exact {
      quiet := follows.quiet
      unjumped := follows.unjumped
      running := fun live => by
        obtain ⟨standing, stands, calm, completed⟩ := follows.running live
        refine ⟨standing, ⟨stands.core, ?_⟩, calm, ?_⟩
        · rw [view]
          exact stands.stocked
        · rw [view]
          exact completed
      stopped := by
        rw [view]
        exact follows.stopped }

/-- A tick of a core that follows is a turn of its pipeline, and what the turn shows is followed. -/
lemma Follows.exists_turn (follows : served.Follows origin machine)
    (running : served.stopped = none) :
    ∃ (standing later : Standing) (after : Datapath) (outcome : CoreOutcome),
      standing.Turn served.core.terminal (served.core.path served.env) later after served.issue?
          outcome
        ∧ standing.Stocked origin none served.core.registers.ip served.view ∧ standing.Calm
        ∧ standing.Sound served.core.registers served.core.stages
        ∧ standing.occupancy.completed served.core.registers served.view = machine
        ∧ ∀ next : Sequential,
          later.Shows after.registers (served.server.view after.bus served.core.terminal) outcome
            next → served.tickCore.Follows origin next := by
  obtain ⟨standing, stands, calm, completed⟩ := follows.running running
  have unraised : served.env.lines.take served.core.id = (false, served.env.lines) := by
    simp [InterruptLines.take, follows.quiet]
  obtain ⟨later, after, outcome, turn, tick, still⟩ := stands.tick running
  rw [unraised] at turn
  change Standing.Turn _ _ standing _ _ _ _ at turn
  have unjumped : served.tickCore.jump = none := by
    simp only [tick, afterTick, stands.core.pipeline, Fetch.jumpAfter, Standing.pipeline_fetch,
      if_pos calm.reading, follows.unjumped]
  have stocked := stands.stocked
  rw [follows.unjumped] at stocked
  refine ⟨standing, later, after, outcome, turn, stocked, calm, stands.core.sound, completed, ?_⟩
  intro next shows'
  have quiet : served.tickCore.env.lines.isRaised served.tickCore.core.id = false := by
    simp only [tick, afterTick, unraised]
    exact follows.quiet
  cases outcome with
  | error fault =>
    refine ⟨quiet, unjumped, ?_, ?_⟩ <;> rw [tick]
    · exact fun live => absurd live (by simp [afterTick])
    · exact fun other same => Option.some.inj same ▸ shows'
  | ok breakpoint =>
    refine ⟨quiet, unjumped, fun _ => ⟨later, still breakpoint rfl, turn.calm calm, ?_⟩, ?_⟩ <;>
      rw [tick]
    · exact shows'
    · exact fun other same => absurd same (by simp [afterTick])

/-- A tick either goes on with the step at work, or dispatches the next instruction. -/
lemma Follows.tick (follows : served.Follows origin machine) (running : served.stopped = none)
    (original : ∀ dispatch ∈ served.issue?, ¬ served.HasWritten dispatch.registers.ip
      ∧ ¬ served.HasWritten (dispatch.registers.ip + 1)) :
    served.issue? = none ∧ served.tickCore.Follows origin machine
      ∨ served.issue? = some machine.dispatch ∧ machine.fault = none
        ∧ served.tickCore.Follows origin machine.step := by
  obtain ⟨standing, later, after, outcome, turn, stocked, calm, sound, completed, follow⟩ :=
    follows.exists_turn running
  have seen : served.server.view (served.core.path served.env).bus served.core.terminal
      = served.view := rfl
  cases issue : served.issue? with
  | none =>
    rw [issue] at turn
    refine Or.inl ⟨rfl, follow _ ?_⟩
    rw [← completed]
    exact turn.shows_of_not_issued stocked calm
  | some dispatch =>
    rw [issue] at turn
    obtain ⟨idle, registers, next⟩ := turn.shows_of_issued stocked calm sound
    obtain ⟨first, second⟩ := original dispatch issue
    rw [registers] at first second
    obtain ⟨fetched, shows'⟩ := next first second
    rw [seen] at fetched shows'
    change dispatch.entry = (standing.occupancy.completed served.core.registers
      served.view).fetched at fetched
    have begun : standing.occupancy.completed served.core.registers served.view
        = { registers := served.core.registers, memory := served.view.memory } := by
      rw [idle]
      rfl
    refine Or.inr ⟨?_, ?_, ?_⟩
    · have same : dispatch.registers = machine.registers := by
        rw [registers, ← completed, begun]
        rfl
      rw [completed] at fetched
      rw [Sequential.dispatch, ← same, ← fetched]
    · rw [← completed, begun]
    · rw [← completed]
      exact follow _ shows'

/-- The run so far is that of the machine, which the core now follows. -/
structure Retraces (origin : Word → Word) (served : ServedCore) (start : Sequential) : Prop where
  dispatches : served.dispatches
    = (start.states served.dispatches.length).map Sequential.dispatch
  running : ∀ machine ∈ start.states served.dispatches.length, machine.fault = none
  follows : served.Follows origin (Sequential.step^[served.dispatches.length] start)

/-- Each action keeps to the run of the machine. -/
lemma Retraces.step {start : Sequential} (retraces : served.Retraces origin start)
    {action : Action} (raise : action ≠ .raise)
    (original : action = .core → ∀ dispatch ∈ served.issue?,
      ¬ served.HasWritten dispatch.registers.ip
        ∧ ¬ served.HasWritten (dispatch.registers.ip + 1)) :
    (served.step action).Retraces origin start := by
  have same (kept : (served.step action).dispatches = served.dispatches)
      (follows : (served.step action).Follows origin
        (Sequential.step^[served.dispatches.length] start)) :
      (served.step action).Retraces origin start := by
    constructor <;> rw [kept]
    exacts [retraces.dispatches, retraces.running, follows]
  cases action with
  | raise => contradiction
  | link | take | serve | reply =>
    exact same rfl (retraces.follows.around (by simp) (by simp))
  | core =>
    cases stopped : served.stopped with
    | some fault =>
      have still : served.step .core = served := by
        simp only [ServedCore.step, tickCore, stopped]
      rw [still]
      exact retraces
    | none =>
      have added : (served.step .core).dispatches = served.dispatches ++ served.issue?.toList := by
        simp only [ServedCore.step, tickCore, stopped]
      rcases retraces.follows.tick stopped (original rfl) with
        ⟨nothing, follows⟩ | ⟨issued, live, follows⟩
      · exact same (by rw [added, nothing, Option.toList_none, List.append_nil]) follows
      · have longer : (served.step .core).dispatches.length = served.dispatches.length + 1 := by
          rw [added, issued]
          simp
        exact {
          dispatches := by
            rw [longer, Sequential.states_succ, List.map_append, ← retraces.dispatches, added,
              issued]
            rfl
          running := by
            rw [longer, Sequential.states_succ]
            intro machine member
            rcases List.mem_append.mp member with earlier | last
            · exact retraces.running machine earlier
            · rw [List.mem_singleton.mp last, live]
          follows := by
            rw [longer, Function.iterate_succ_apply']
            exact follows }

lemma Retraces.run {start : Sequential} {actions : List Action}
    (retraces : served.Retraces origin start) (calm : .raise ∉ actions)
    (original : served.RunsOriginal actions) : (served.run actions).Retraces origin start := by
  induction actions generalizing served with
  | nil => exact retraces
  | cons action rest ih =>
    rw [List.mem_cons, not_or] at calm
    exact ih (retraces.step (Ne.symm calm.1) original.1) calm.2 original.2

/-- What memory has served is part of what the machine has done. -/
lemma Retraces.refines {start : Sequential} (retraces : served.Retraces origin start) :
    served.Refines start where
  dispatches := retraces.dispatches
  running := retraces.running
  accesses := by
    have seen : served.server.memory.accesses <+: served.view.memory.accesses :=
      Memory.accesses_prefix_serveAll _ _
    refine seen.trans ?_
    cases stopped : served.stopped with
    | some fault =>
      have same := (retraces.follows.stopped fault stopped).2
      exact same ▸ List.prefix_rfl
    | none =>
      obtain ⟨standing, _, _, completed⟩ := retraces.follows.running stopped
      rw [← completed]
      exact standing.occupancy.accesses_prefix_completed _ _
  fault := fun fault stopped => (retraces.follows.stopped fault stopped).1

lemma retraces_reset (id : Nat) (entry : Word) (period : UInt32) (words : Word → Word) :
    (reset id entry period words).Retraces words (Sequential.start entry words) where
  dispatches := rfl
  running := by simp [Sequential.states, reset]
  follows := {
    quiet := by simp [reset, Core.reset, InterruptLines.quiet, InterruptLines.isRaised]
    unjumped := rfl
    running := fun _ => by
      refine ⟨_, stands_reset id entry period words, ⟨rfl, rfl, rfl⟩, ?_⟩
      rw [view_reset]
      rfl
    stopped := fun fault stopped => absurd stopped (by simp [reset]) }

/-- The pipeline refines the sequential machine: whatever the delays, in every run without a raised
interrupt that dispatches no instruction from a word the program has written, the core goes through
the dispatches, the data accesses and the fault of the machine that starts with the same words. -/
theorem refines_sequential (id : Nat) (entry : Word) (period : UInt32) (words : Word → Word)
    (actions : List Action) (calm : .raise ∉ actions)
    (original : (reset id entry period words).RunsOriginal actions) :
    ((reset id entry period words).run actions).Refines (Sequential.start entry words) :=
  ((retraces_reset id entry period words).run calm original).refines

/-- A program that stores a word and loads it again, with everything ticking in turn. -/
theorem refines_storing_and_loading :
    let program := assemble [Assembler.setLiteral ⟨1⟩ 7, Assembler.storeLiteral ⟨1⟩ 100,
      Assembler.loadLiteral ⟨2⟩ 100]
    let words (address : Word) : Word := program.getD address.toNatClampNeg 0
    let served := reset 0 0 1 words
    let actions := (List.replicate 28 [.core, .link, .take, .serve, .reply]).flatten
    .raise ∉ actions ∧ served.RunsOriginal actions
      ∧ (served.run actions).dispatches.length = 3
      ∧ (served.run actions).server.memory.accesses = [.write 100 7, .read 100 7]
      ∧ (served.run actions).Refines (Sequential.start 0 words) := by
  intro program words served actions
  have calm : Action.raise ∉ actions := by decide +kernel
  have original : served.RunsOriginal actions := by decide +kernel
  exact ⟨calm, original, by decide +kernel, by decide +kernel,
    refines_sequential 0 0 1 words actions calm original⟩

end Follows

end ServedCore

end PipelinedMachine
