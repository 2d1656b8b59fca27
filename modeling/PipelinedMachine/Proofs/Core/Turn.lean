import PipelinedMachine.Proofs.Core.Occupancy
import PipelinedMachine.Proofs.Core.Supply

/-!
# A turn of a core

A tick of a core runs every phase, and the stage decides which of them act.  This file lists once
everything a tick can do, so that nothing later has to look inside `Pipeline.tick`.

* `Standing` — a pipeline whose units are in one of the situations of `Occupancy`;
* `Standing.Turn` — everything that a tick can do to it;
* `Standing.Staged`, `Standing.Sound` — the facts that tie the occupancy to the stage, and to the
  instruction pointer and the instruction dispatched last;
* `Standing.Staged.exists_turn` — **the list is complete**: a tick is one of its cases;
* `Standing.Turn.sound` — **a tick without a fault leaves the core sound**;
* `Core.StandsAs`, `Core.exists_turn` — the same for a core, with its interrupt line.
-/

namespace PipelinedMachine

/-! ## What is dispatched -/

/-- An instruction that is dispatched, and the registers it is dispatched under. -/
structure Dispatch where
  registers : RegisterFile
  entry : Fetched
deriving DecidableEq

/-- What a tick dispatches: what dispatch finds after the branch unit and fetch have had their
turns. -/
def Pipeline.issue? (pipeline : Pipeline) (terminal : Terminal) (path : Datapath) :
    Option Dispatch :=
  let (pipeline, path, _) := pipeline.resolveBranch path
  let (pipeline, path) := pipeline.supply terminal path
  (pipeline.fetch.dispatch path).1.map fun entry => ⟨path.registers, entry⟩

/-! ## A pipeline whose units are in one of these states -/

/-- A pipeline between two ticks. -/
structure Standing where
  occupancy : Occupancy
  fetch : Fetch
  dispatched : Option Fetched
  interruptPending : Bool
  inInterrupt : Bool
  savedIp : Word

namespace Standing

/-- The units, spelled out. -/
def pipeline (standing : Standing) : Pipeline where
  fetch := standing.fetch
  dispatched := standing.dispatched
  alu := standing.occupancy.alu?
  load := standing.occupancy.load?
  store := standing.occupancy.store?
  branch := standing.occupancy.branch?
  stack := standing.occupancy.stack?
  request := standing.occupancy.request?
  interruptPending := standing.interruptPending
  inInterrupt := standing.inInterrupt
  savedIp := standing.savedIp

@[simp] lemma pipeline_fetch (standing : Standing) : standing.pipeline.fetch = standing.fetch := rfl

@[simp] lemma pipeline_inInterrupt (standing : Standing) :
    standing.pipeline.inInterrupt = standing.inInterrupt := rfl

@[simp] lemma pipeline_savedIp (standing : Standing) :
    standing.pipeline.savedIp = standing.savedIp := rfl

/-- What ties the occupancy to the stage and to fetch.  The registers have no part in it. -/
structure Staged (standing : Standing) (stages : StageControl) : Prop where
  stages : stages = ⟨standing.occupancy.stage, standing.occupancy.stage⟩
  /-- A handler is looked for only while nothing is held and nothing is done. -/
  searching : standing.fetch.searching ≠ none → standing.occupancy.stage = .dispatch
  /-- When the search begins, the instructions at hand are forgotten. -/
  forgotten : standing.fetch.Forgotten

/-- What ties the occupancy to the rest of the core. -/
structure Sound (standing : Standing) (registers : RegisterFile) (stages : StageControl) : Prop
    extends standing.Staged stages where
  /-- What is held is what was dispatched last, and it stands at the instruction pointer. -/
  held : ∀ entry, standing.occupancy.entry? = some entry →
    standing.dispatched = some entry ∧ entry.address = registers.ip

/-- The interrupt part of the step to the next instruction: a pending interrupt is entered unless a
handler is running. -/
def enter (standing : Standing) (ip : Word) : Standing :=
  if standing.interruptPending && !standing.inInterrupt then
    { standing with
      savedIp := ip
      inInterrupt := true
      interruptPending := false
      fetch := standing.fetch.beginSearch }
  else standing

/-! ## The turn of a whole core -/

/-- Everything that a tick can do to a pipeline.  The last two components are what the tick
dispatches and what it reports. -/
inductive Turn (terminal : Terminal) (path : Datapath) (standing : Standing) :
    Standing → Datapath → Option Dispatch → CoreOutcome → Prop where
  /-- The instruction at the instruction pointer is not at hand. -/
  | stalled (fetch : Fetch) (after : Datapath) (here : standing.occupancy = .idle)
      (supply : Fetch.Turn terminal path standing.fetch fetch after)
      (missing : fetch.find? after.registers.ip = none) :
      Turn terminal path standing { standing with fetch := fetch }
        ((after.record .cacheMisses).record .fetchWaits).advance none (.ok none)
  /-- The instruction is dispatched to its unit. -/
  | issued (fetch : Fetch) (after : Datapath) (entry : Fetched) (instruction : Instruction)
      (later : Occupancy) (here : standing.occupancy = .idle)
      (supply : Fetch.Turn terminal path standing.fetch fetch after)
      (found : fetch.find? after.registers.ip = some entry)
      (decoded : entry.code.decode = .ok instruction)
      (taken : Occupancy.ofInstruction? entry instruction = some later) :
      Turn terminal path standing
        { standing with occupancy := later, fetch := fetch, dispatched := some entry }
        ((after.record .cacheHits).request later.stage).advance (some ⟨after.registers, entry⟩)
        (.ok none)
  /-- A handler ends. -/
  | returned (fetch : Fetch) (after : Datapath) (entry : Fetched)
      (here : standing.occupancy = .idle)
      (supply : Fetch.Turn terminal path standing.fetch fetch after)
      (found : fetch.find? after.registers.ip = some entry)
      (decoded : entry.code.decode = .ok (.interrupt .handlerReturn))
      (running : standing.inInterrupt = true) :
      Turn terminal path standing
        { standing with fetch := fetch.flush, dispatched := some entry, inInterrupt := false }
        (({ after.record .cacheHits with
            registers := after.registers.jump standing.savedIp }.record
              .instructionsExecuted).request .dispatch).advance
        (some ⟨after.registers, entry⟩) (.ok none)
  /-- The words dispatched are no instruction. -/
  | undecodable (fetch : Fetch) (after : Datapath) (entry : Fetched) (cause : FaultCause)
      (here : standing.occupancy = .idle)
      (supply : Fetch.Turn terminal path standing.fetch fetch after)
      (found : fetch.find? after.registers.ip = some entry)
      (decoded : entry.code.decode = .error cause) :
      Turn terminal path standing { standing with fetch := fetch, dispatched := some entry }
        (after.record .cacheHits) (some ⟨after.registers, entry⟩)
        (.error (entry.fault cause))
  /-- A return is dispatched while no handler runs. -/
  | stray (fetch : Fetch) (after : Datapath) (entry : Fetched)
      (here : standing.occupancy = .idle)
      (supply : Fetch.Turn terminal path standing.fetch fetch after)
      (found : fetch.find? after.registers.ip = some entry)
      (decoded : entry.code.decode = .ok (.interrupt .handlerReturn))
      (running : standing.inInterrupt = false) :
      Turn terminal path standing
        { standing with fetch := fetch.flush, dispatched := some entry }
        (after.record .cacheHits) (some ⟨after.registers, entry⟩)
        (.error (entry.fault .returnOutsideInterrupt))
  /-- The instruction pointer moves on, and the next instruction or an interrupt begins. -/
  | resolved (fetch : Fetch) (after : Datapath)
      (here : standing.occupancy.stage = .branchPredict)
      (supply : Fetch.Turn terminal (standing.occupancy.resolve path) standing.fetch fetch after) :
      Turn terminal path standing
        ({ standing with occupancy := .idle, fetch := fetch }.enter after.registers.ip)
        after.advance none (.ok standing.occupancy.breakpoint?)
  /-- The arithmetic unit cannot compute its result. -/
  | trapped (fetch : Fetch) (after : Datapath) (held : Held AluInstruction) (cause : FaultCause)
      (here : standing.occupancy = .alu held)
      (supply : Fetch.Turn terminal path standing.fetch fetch after)
      (result : held.instruction.evaluate after.registers = .error cause) :
      Turn terminal path standing { standing with occupancy := .done, fetch := fetch } after
        none (.error (held.entry.fault cause))
  /-- The unit that holds the instruction has its turn. -/
  | worked (fetch : Fetch) (after final : Datapath) (later : Occupancy)
      (here : standing.occupancy.stage = .execution)
      (supply : Fetch.Turn terminal path standing.fetch fetch after)
      (work : Occupancy.Work terminal after standing.occupancy later final) :
      Turn terminal path standing { standing with occupancy := later, fetch := fetch }
        final.advance none (.ok none)

/-! ## The list is complete

`Pipeline.tick` runs every phase in every tick, and the stage decides which of them act.  So the
first step is one equation for each stage, with the phases of the other stages gone.
-/

lemma supply_pipeline (standing : Standing) (terminal : Terminal) (path : Datapath) :
    standing.pipeline.supply terminal path
      = (({ standing with fetch := (standing.fetch.tick terminal path).1 } : Standing).pipeline,
        (standing.fetch.tick terminal path).2) := rfl

lemma access_of_ne {pipeline : Pipeline} {path : Datapath} (terminal : Terminal)
    (elsewhere : path.stages.current ≠ .execution) (live : path.stages.current ≠ .retirement) :
    pipeline.access terminal path = (pipeline, path) := by
  have away : path.isIn .execution = false := by simp [Datapath.isIn, elsewhere]
  have retire : path.retire = path := by simp [Datapath.retire, Datapath.isIn, live]
  obtain ⟨_, _, _, load, store, _, stack, request, _, _, _⟩ := pipeline
  cases load <;> cases store <;> cases stack <;> cases request <;>
    simp [Pipeline.access, LoadUnit.tick, StoreUnit.tick, StackUnit.tick, RequestUnit.tick, away,
      retire]

lemma compute_of_ne {pipeline : Pipeline} {path : Datapath}
    (elsewhere : path.stages.current ≠ .execution) :
    pipeline.compute path = (pipeline, path, none) := by
  have away : path.isIn .execution = false := by simp [Datapath.isIn, elsewhere]
  obtain ⟨_, _, alu, _, _, _, _, _, _, _, _⟩ := pipeline
  cases alu <;> simp [Pipeline.compute, AluUnit.tick, away]

lemma dispatch_of_ne {pipeline : Pipeline} {path : Datapath}
    (elsewhere : path.stages.current ≠ .dispatch) :
    pipeline.dispatch path = (pipeline, path, none) := by
  simp [Pipeline.dispatch, Fetch.dispatch, Datapath.isIn, elsewhere]

lemma resolveBranch_of_ne {pipeline : Pipeline} {path : Datapath}
    (elsewhere : path.stages.current ≠ .branchPredict) :
    pipeline.resolveBranch path = (pipeline, path, none) := by
  simp [Pipeline.resolveBranch, BranchUnit.tick, Datapath.isIn, elsewhere]

lemma enterInterrupt_of_not_entering {pipeline : Pipeline} {path : Datapath}
    (staying : path.stages.entering .dispatch = false) :
    pipeline.enterInterrupt path = pipeline := by
  simp [Pipeline.enterInterrupt, staying]

lemma tick_of_dispatch {pipeline supplied routed : Pipeline} {terminal : Terminal}
    {path after final : Datapath} {fault? : Option Fault}
    (current : path.stages.current = .dispatch)
    (supply : pipeline.supply terminal path = (supplied, after))
    (dispatch : supplied.dispatch after = (routed, final, fault?))
    (still : final.stages.current = .dispatch) :
    pipeline.tick terminal path
      = match fault? with
        | some fault => (routed, final, .error fault)
        | none => (routed, final.advance, .ok none) := by
  rw [Pipeline.tick]
  rw [resolveBranch_of_ne (by simp [current])]
  simp only [supply, dispatch]
  cases fault? with
  | some fault => rfl
  | none =>
    simp only
    rw [compute_of_ne (by simp [still])]
    simp only
    rw [access_of_ne terminal (by simp [still]) (by simp [still]),
      enterInterrupt_of_not_entering (by simp [StageControl.entering, still])]

/-- A tick in the branch stage moves the instruction pointer first. -/
lemma tick_of_branchPredict {pipeline resolved supplied : Pipeline} {terminal : Terminal}
    {path moved after : Datapath} {breakpoint : Option Word}
    (resolve : pipeline.resolveBranch path = (resolved, moved, breakpoint))
    (supply : resolved.supply terminal moved = (supplied, after))
    (still : after.stages.current = .branchPredict) :
    pipeline.tick terminal path
      = (supplied.enterInterrupt after, after.advance, .ok breakpoint) := by
  rw [Pipeline.tick]
  simp only [resolve, supply]
  rw [dispatch_of_ne (by simp [still])]
  simp only
  rw [compute_of_ne (by simp [still])]
  simp only
  rw [access_of_ne terminal (by simp [still]) (by simp [still])]

/-- A tick in the execution stage is fetch's turn and the turns of the units. -/
lemma tick_of_execution {pipeline supplied computed : Pipeline} {terminal : Terminal}
    {path after between : Datapath} {fault? : Option Fault}
    (current : path.stages.current = .execution)
    (supply : pipeline.supply terminal path = (supplied, after))
    (still : after.stages.current = .execution)
    (compute : supplied.compute after = (computed, between, fault?)) :
    pipeline.tick terminal path
      = match fault? with
        | some fault => (computed, between, .error fault)
        | none =>
          ((computed.access terminal between).1.enterInterrupt
              (computed.access terminal between).2,
            (computed.access terminal between).2.advance, .ok none) := by
  rw [Pipeline.tick]
  rw [resolveBranch_of_ne (by simp [current])]
  simp only [supply]
  rw [dispatch_of_ne (by simp [still])]
  simp only [compute]
  cases fault? <;> rfl

/-- In the dispatch stage, what is dispatched is what fetch has at the instruction pointer. -/
lemma issue?_of_dispatch {pipeline supplied : Pipeline} {terminal : Terminal}
    {path after : Datapath} (current : path.stages.current = .dispatch)
    (supply : pipeline.supply terminal path = (supplied, after))
    (still : after.stages.current = .dispatch) :
    pipeline.issue? terminal path
      = (supplied.fetch.find? after.registers.ip).map fun entry => ⟨after.registers, entry⟩ := by
  rw [Pipeline.issue?]
  rw [resolveBranch_of_ne (by simp [current])]
  simp only [supply, Fetch.dispatch, Datapath.isIn, still, decide_true, if_true]
  cases supplied.fetch.find? after.registers.ip <;> rfl

/-- In every other stage nothing is dispatched. -/
lemma issue?_eq_none {pipeline resolved supplied : Pipeline} {terminal : Terminal}
    {path moved after : Datapath} {breakpoint : Option Word}
    (resolve : pipeline.resolveBranch path = (resolved, moved, breakpoint))
    (supply : resolved.supply terminal moved = (supplied, after))
    (elsewhere : after.stages.current ≠ .dispatch) : pipeline.issue? terminal path = none := by
  rw [Pipeline.issue?]
  simp only [resolve, supply, Fetch.dispatch, Datapath.isIn, elsewhere, decide_false,
    Bool.false_eq_true, if_false, Option.map_none]

section Complete

variable {standing : Standing} {path : Datapath}

lemma route_pipeline (standing : Standing) (idle : standing.occupancy = .idle) {entry : Fetched}
    {instruction : Instruction} {later : Occupancy}
    (taken : Occupancy.ofInstruction? entry instruction = some later) (path : Datapath) :
    standing.pipeline.route entry instruction path
      = (({ standing with occupancy := later } : Standing).pipeline, path.request later.stage,
        none) := by
  obtain ⟨occupancy, _, _, _, _, _⟩ := standing
  obtain rfl : occupancy = .idle := idle
  rcases instruction with _ | _ | _ | _ | _ | (_ | _) | _ <;>
    simp only [Occupancy.ofInstruction?, Option.some.injEq, reduceCtorEq] at taken <;>
    subst taken <;> rfl

/-- Only a return from a handler goes to no unit. -/
lemma eq_handlerReturn_of_ofInstruction? {entry : Fetched} {instruction : Instruction}
    (untaken : Occupancy.ofInstruction? entry instruction = none) :
    instruction = .interrupt .handlerReturn := by
  rcases instruction with _ | _ | _ | _ | _ | (_ | _) | _ <;>
    simp [Occupancy.ofInstruction?] at untaken ⊢

/-- A return ends the handler that is running; the instructions at hand belong to it. -/
lemma route_handlerReturn_of_running (standing : Standing)
    (running : standing.inInterrupt = true) (entry : Fetched) (path : Datapath) :
    standing.pipeline.route entry (.interrupt .handlerReturn) path
      = (({ standing with
            fetch := standing.fetch.flush, inInterrupt := false } : Standing).pipeline,
        ({ path with registers := path.registers.jump standing.savedIp }.record
          .instructionsExecuted).request .dispatch, none) := by
  simp [Pipeline.route, Pipeline.leaveInterrupt, pipeline, running]

lemma route_handlerReturn_of_not_running (standing : Standing)
    (running : standing.inInterrupt = false) (entry : Fetched) (path : Datapath) :
    standing.pipeline.route entry (.interrupt .handlerReturn) path
      = (({ standing with fetch := standing.fetch.flush } : Standing).pipeline, path,
        some (entry.fault .returnOutsideInterrupt)) := by
  simp [Pipeline.route, Pipeline.leaveInterrupt, pipeline, running]

lemma dispatch_of_missing (standing : Standing) (here : path.stages.current = .dispatch)
    (missing : standing.fetch.find? path.registers.ip = none) :
    standing.pipeline.dispatch path
      = (standing.pipeline, (path.record .cacheMisses).record .fetchWaits, none) := by
  simp [Pipeline.dispatch, Fetch.dispatch, Datapath.isIn, here, pipeline, missing]

lemma dispatch_of_found (standing : Standing) (here : path.stages.current = .dispatch)
    {entry : Fetched} (found : standing.fetch.find? path.registers.ip = some entry) :
    standing.pipeline.dispatch path
      = match entry.code.decode with
        | .ok instruction =>
          ({ standing with dispatched := some entry } : Standing).pipeline.route entry instruction
            (path.record .cacheHits)
        | .error cause =>
          (({ standing with dispatched := some entry } : Standing).pipeline,
            path.record .cacheHits, some (entry.fault cause)) := by
  cases decoded : entry.code.decode <;>
    simp only [Pipeline.dispatch, Fetch.dispatch, Datapath.isIn, here, pipeline, found, decoded,
      decide_true, if_true]

lemma exists_turn_of_idle (staged : standing.Staged path.stages)
    (idle : standing.occupancy = .idle) (terminal : Terminal) :
    ∃ later after outcome,
      standing.pipeline.tick terminal path = (later.pipeline, after, outcome)
        ∧ Turn terminal path standing later after (standing.pipeline.issue? terminal path)
          outcome := by
  have stages := staged.stages
  rw [idle] at stages
  have current : path.stages.current = .dispatch := by rw [stages]; rfl
  have supply := Fetch.turn_tick standing.fetch terminal path
  have supplied := supply_pipeline standing terminal path
  have kept := supply.stages_eq (Or.inr (by rw [stages]; rfl))
  generalize (standing.fetch.tick terminal path).1 = fetch at *
  generalize (standing.fetch.tick terminal path).2 = after at *
  have still : after.stages.current = .dispatch := by rw [kept, current]
  rw [issue?_of_dispatch current supplied still]
  simp only [pipeline_fetch]
  cases found : fetch.find? after.registers.ip with
  | none =>
    have nothing := dispatch_of_missing { standing with fetch := fetch } still found
    exact ⟨_, _, _, tick_of_dispatch current supplied nothing still,
      .stalled fetch after idle supply found⟩
  | some entry =>
    have dispatch := dispatch_of_found { standing with fetch := fetch } still found
    cases decoded : entry.code.decode with
    | error cause =>
      rw [decoded] at dispatch
      exact ⟨_, _, _, tick_of_dispatch current supplied dispatch still,
        .undecodable fetch after entry cause idle supply found decoded⟩
    | ok instruction =>
      rw [decoded] at dispatch
      cases taken : Occupancy.ofInstruction? entry instruction with
      | some later =>
        have routed := dispatch.trans (route_pipeline
          { standing with fetch := fetch, dispatched := some entry } idle taken _)
        exact ⟨_, _, _, tick_of_dispatch current supplied routed still,
          .issued fetch after entry instruction later idle supply found decoded taken⟩
      | none =>
        obtain rfl := eq_handlerReturn_of_ofInstruction? taken
        cases running : standing.inInterrupt with
        | true =>
          have left := dispatch.trans (route_handlerReturn_of_running
            { standing with fetch := fetch, dispatched := some entry } running entry _)
          exact ⟨_, _, _, tick_of_dispatch current supplied left still,
            .returned fetch after entry idle supply found decoded running⟩
        | false =>
          have refused := dispatch.trans (route_handlerReturn_of_not_running
            { standing with fetch := fetch, dispatched := some entry } running entry _)
          exact ⟨_, _, _, tick_of_dispatch current supplied refused still,
            .stray fetch after entry idle supply found decoded running⟩

lemma resolveBranch_pipeline (standing : Standing)
    (here : path.stages.current = .branchPredict)
    (stage : standing.occupancy.stage = .branchPredict) :
    standing.pipeline.resolveBranch path
      = (({ standing with occupancy := .idle } : Standing).pipeline,
        standing.occupancy.resolve path, standing.occupancy.breakpoint?) := by
  obtain ⟨occupancy, _, _, _, _, _⟩ := standing
  cases occupancy with
  | done | branch held =>
    simp [Pipeline.resolveBranch, BranchUnit.tick, Datapath.isIn, here, pipeline,
      Occupancy.alu?, Occupancy.load?, Occupancy.store?, Occupancy.branch?, Occupancy.stack?,
      Occupancy.request?, Occupancy.resolve, Occupancy.breakpoint?, Datapath.record,
      Datapath.request]
  | idle | alu | load | store | stack | request => simp [Occupancy.stage] at stage

/-- Between two instructions a pending interrupt is entered. -/
lemma enterInterrupt_pipeline (standing : Standing)
    (entering : path.stages.entering .dispatch = true) :
    standing.pipeline.enterInterrupt path = (standing.enter path.registers.ip).pipeline := by
  rw [Pipeline.enterInterrupt, enter]
  simp only [entering, Bool.and_true]
  by_cases due : (standing.interruptPending && !standing.inInterrupt) = true
  · simp [pipeline, due]
  · simp [pipeline, due]

lemma exists_turn_of_branchPredict (staged : standing.Staged path.stages)
    (stage : standing.occupancy.stage = .branchPredict) (terminal : Terminal) :
    ∃ later after outcome,
      standing.pipeline.tick terminal path = (later.pipeline, after, outcome)
        ∧ Turn terminal path standing later after (standing.pipeline.issue? terminal path)
          outcome := by
  have stages := staged.stages
  rw [stage] at stages
  have current : path.stages.current = .branchPredict := by rw [stages]
  have moved := standing.occupancy.resolve_stages stages
  have supply := Fetch.turn_tick standing.fetch terminal (standing.occupancy.resolve path)
  have supplied := supply_pipeline { standing with occupancy := .idle } terminal
    (standing.occupancy.resolve path)
  have kept := supply.stages_eq (Or.inr (by rw [moved]))
  rw [moved] at kept
  have result := tick_of_branchPredict (resolveBranch_pipeline standing current stage) supplied
    (by rw [kept])
  rw [issue?_eq_none (resolveBranch_pipeline standing current stage) supplied (by simp [kept])]
  rw [enterInterrupt_pipeline _ (by rw [kept]; rfl)] at result
  exact ⟨_, _, _, result, .resolved _ _ stage supply⟩

/-- With no instruction held, the units have nothing to do. -/
lemma access_done (standing : Standing) (vacant : standing.occupancy = .done)
    (terminal : Terminal) (live : path.stages.current ≠ .retirement) :
    standing.pipeline.access terminal path = (standing.pipeline, path) := by
  obtain ⟨_, _, _, _, _, _⟩ := standing
  obtain rfl := vacant
  have retire : path.retire = path := by simp [Datapath.retire, Datapath.isIn, live]
  simp [Pipeline.access, LoadUnit.tick, StoreUnit.tick, StackUnit.tick, RequestUnit.tick,
    pipeline, Occupancy.load?, Occupancy.store?, Occupancy.stack?, Occupancy.request?, retire]

/-- The arithmetic unit is done with its instruction in one turn. -/
lemma compute_alu (standing : Standing) (path : Datapath) {held : Held AluInstruction}
    (here : standing.occupancy = .alu held) (current : path.isIn .execution = true) :
    standing.pipeline.compute path
      = (({ standing with occupancy := .done } : Standing).pipeline,
        match held.instruction.evaluate path.registers with
        | .error cause => (path, some (held.entry.fault cause))
        | .ok none => (path.complete, none)
        | .ok (some value) => ((path.write held.instruction.target value).complete, none)) := by
  obtain ⟨_, _, _, _, _, _⟩ := standing
  obtain rfl := here
  simp only [Pipeline.compute, AluUnit.tick, pipeline, Occupancy.alu?, current, if_true]
  rcases held.instruction.evaluate path.registers with cause | _ | value <;> rfl

lemma compute_of_not_alu (standing : Standing) (path : Datapath)
    (other : standing.occupancy.alu? = none) :
    standing.pipeline.compute path = (standing.pipeline, path, none) := by
  simp [Pipeline.compute, AluUnit.tick, pipeline, other]

lemma access_load (standing : Standing) {pending : PendingLoad} {slot : Option PendingLoad}
    {after : Datapath} (here : standing.occupancy = .load pending)
    (ticked : LoadUnit.tick (some pending) terminal path = (slot, after))
    (live : after.stages.current ≠ .retirement) :
    standing.pipeline.access terminal path = ({ standing.pipeline with load := slot }, after) := by
  obtain ⟨_, _, _, _, _, _⟩ := standing
  obtain rfl := here
  have retire : after.retire = after := by simp [Datapath.retire, Datapath.isIn, live]
  simp [Pipeline.access, pipeline, Occupancy.load?, Occupancy.store?, Occupancy.stack?,
    Occupancy.request?, ticked, StoreUnit.tick, StackUnit.tick, RequestUnit.tick, retire]

lemma access_store (standing : Standing) {held : Held StoreInstruction}
    {slot : Slot StoreInstruction} {after : Datapath} (here : standing.occupancy = .store held)
    (ticked : StoreUnit.tick (some held) terminal path = (slot, after))
    (live : after.stages.current ≠ .retirement) :
    standing.pipeline.access terminal path = ({ standing.pipeline with store := slot }, after) := by
  obtain ⟨_, _, _, _, _, _⟩ := standing
  obtain rfl := here
  have retire : after.retire = after := by simp [Datapath.retire, Datapath.isIn, live]
  simp [Pipeline.access, pipeline, Occupancy.load?, Occupancy.store?, Occupancy.stack?,
    Occupancy.request?, ticked, LoadUnit.tick, StackUnit.tick, RequestUnit.tick, retire]

/-- The stack unit's turn, and what becomes of the access it passes on. -/
lemma access_stack (standing : Standing) {held : Held StackInstruction}
    {slot : Slot StackInstruction} {after : Datapath} {delegation : Option Delegation}
    (here : standing.occupancy = .stack held)
    (live : path.stages.current ≠ .retirement)
    (ticked : StackUnit.tick (some held) path = (slot, after, delegation)) :
    standing.pipeline.access terminal path
      = (match delegation with
          | some access => ({ standing.pipeline with stack := slot } : Pipeline).delegate access
          | none => { standing.pipeline with stack := slot },
        after) := by
  obtain ⟨_, _, _, _, _, _⟩ := standing
  obtain rfl := here
  have retire : path.retire = path := by simp [Datapath.retire, Datapath.isIn, live]
  rcases delegation with _ | (_ | _) <;>
    simp [Pipeline.access, Pipeline.delegate, pipeline, Occupancy.load?, Occupancy.store?,
      Occupancy.stack?, Occupancy.request?, ticked, LoadUnit.tick, StoreUnit.tick,
      RequestUnit.tick, retire]

lemma access_request (standing : Standing) {held : Held InterruptRequest}
    {slot : Slot InterruptRequest} {after : Datapath} (here : standing.occupancy = .request held)
    (live : path.stages.current ≠ .retirement)
    (ticked : RequestUnit.tick (some held) terminal path = (slot, after)) :
    standing.pipeline.access terminal path
      = ({ standing.pipeline with request := slot }, after) := by
  obtain ⟨_, _, _, _, _, _⟩ := standing
  obtain rfl := here
  have retire : path.retire = path := by simp [Datapath.retire, Datapath.isIn, live]
  simp [Pipeline.access, pipeline, Occupancy.load?, Occupancy.store?, Occupancy.stack?,
    Occupancy.request?, ticked, LoadUnit.tick, StoreUnit.tick, StackUnit.tick, retire]

/-- The turn of the load unit. -/
lemma exists_work_of_load (standing : Standing) (stages : path.stages.current = .execution)
    {pending : PendingLoad} (holds : standing.occupancy = .load pending) (terminal : Terminal) :
    ∃ later final,
      standing.pipeline.access terminal path
          = (({ standing with occupancy := later } : Standing).pipeline, final)
        ∧ Occupancy.Work terminal path (.load pending) later final := by
  obtain ⟨occupancy, fetch, dispatched, interruptPending, inInterrupt, savedIp⟩ := standing
  obtain rfl : occupancy = .load pending := holds
  have current : path.isIn .execution = true := by simp [Datapath.isIn, stages]
  have live : path.stages.current ≠ .retirement := by simp [stages]
  cases form : pending.instruction with
  | nop =>
    have ticked : LoadUnit.tick (some pending) terminal path = (none, path.complete) := by
      simp only [LoadUnit.tick, current, if_true, form]
    exact ⟨.done, _, access_load _ rfl ticked live, .loadedNothing pending form⟩
  | load target operand =>
    cases waiting : pending.requested with
    | none =>
      cases sent : path.bus.send? terminal
        (Message.read (operand.resolve path.registers) 1) with
      | some bus =>
        have ticked : LoadUnit.tick (some pending) terminal path
            = (some { pending with requested := some (operand.resolve path.registers) },
              { path with bus := bus }) := by
          simp only [LoadUnit.tick, current, if_true, form, waiting, sent]
        exact ⟨.load _, _, access_load _ rfl ticked live,
          .asked pending target operand bus form waiting sent⟩
      | none =>
        have ticked : LoadUnit.tick (some pending) terminal path
            = (some pending, path.record .loadWaits) := by
          simp only [LoadUnit.tick, current, if_true, form, waiting, sent]
        exact ⟨.load pending, _, access_load _ rfl ticked live, .loadWaits pending⟩
    | some address =>
      cases came : path.bus.answer? terminal address with
      | some answer =>
        have ticked : LoadUnit.tick (some pending) terminal path
            = (none, ((path.clear terminal).write target answer.value).complete) := by
          simp only [LoadUnit.tick, current, if_true, form, waiting, came]
        exact ⟨.done, _, access_load _ rfl ticked live,
          .loaded pending target operand address answer form waiting came⟩
      | none =>
        have ticked : LoadUnit.tick (some pending) terminal path
            = (some pending, path.record .loadWaits) := by
          simp only [LoadUnit.tick, current, if_true, form, waiting, came]
        exact ⟨.load pending, _, access_load _ rfl ticked live, .loadWaits pending⟩

/-- The turn of the stack unit, which may pass the instruction on. -/
lemma exists_work_of_stack (standing : Standing) (stages : path.stages.current = .execution)
    {held : Held StackInstruction} (holds : standing.occupancy = .stack held) (terminal : Terminal) :
    ∃ later final,
      standing.pipeline.access terminal path
          = (({ standing with occupancy := later } : Standing).pipeline, final)
        ∧ Occupancy.Work terminal path (.stack held) later final := by
  obtain ⟨occupancy, fetch, dispatched, interruptPending, inInterrupt, savedIp⟩ := standing
  obtain rfl : occupancy = .stack held := holds
  have current : path.isIn .execution = true := by simp [Datapath.isIn, stages]
  have live : path.stages.current ≠ .retirement := by simp [stages]
  cases form : held.instruction with
  | push =>
    have ticked : StackUnit.tick (some held) path
        = (none, { path with registers := path.registers.setStack (path.registers.sp - 1)
            }.complete, none) := by
      simp only [StackUnit.tick, current, if_true, form]
    exact ⟨.done, _, access_stack _ rfl live ticked, .pushed held form⟩
  | pop =>
    have ticked : StackUnit.tick (some held) path
        = (none, { path with registers := path.registers.setStack (path.registers.sp + 1)
            }.complete, none) := by
      simp only [StackUnit.tick, current, if_true, form]
    exact ⟨.done, _, access_stack _ rfl live ticked, .popped held form⟩
  | pushStore source =>
    have ticked : StackUnit.tick (some held) path
        = (none, { path with registers := path.registers.setStack (path.registers.sp - 1) },
          some (.store ⟨held.entry, source, .literal path.registers.stackTop⟩)) := by
      simp only [StackUnit.tick, current, if_true, form]
    exact ⟨.store _, _, access_stack _ rfl live ticked, .pushing held source form⟩
  | popLoad target =>
    have ticked : StackUnit.tick (some held) path
        = (none, { path with registers := path.registers.setStack (path.registers.sp + 1) },
          some (.load ⟨held.entry, .load target
            (.literal (path.registers.setStack (path.registers.sp + 1)).stackTop)⟩)) := by
      simp only [StackUnit.tick, current, if_true, form]
    exact ⟨.load _, _, access_stack _ rfl live ticked, .popping held target form⟩

/-- The turns of the units after the arithmetic unit. -/
lemma exists_work_of_access (standing : Standing) (stages : path.stages.current = .execution)
    (stage : standing.occupancy.stage = .execution) (other : standing.occupancy.alu? = none)
    (terminal : Terminal) :
    ∃ later final,
      standing.pipeline.access terminal path
          = (({ standing with occupancy := later } : Standing).pipeline, final)
        ∧ Occupancy.Work terminal path standing.occupancy later final := by
  obtain ⟨occupancy, fetch, dispatched, interruptPending, inInterrupt, savedIp⟩ := standing
  have current : path.isIn .execution = true := by simp [Datapath.isIn, stages]
  have live : path.stages.current ≠ .retirement := by simp [stages]
  cases occupancy with
  | idle | done | branch => simp [Occupancy.stage] at stage
  | alu held => simp [Occupancy.alu?] at other
  | load pending => exact exists_work_of_load _ stages rfl terminal
  | store held =>
    cases sent : path.bus.send? terminal (Message.write
      (held.instruction.address.resolve path.registers)
      (path.registers.get held.instruction.source)) with
    | some bus =>
      have ticked : StoreUnit.tick (some held) terminal path
          = (none, { path with bus := bus }.complete) := by
        simp only [StoreUnit.tick, current, if_true, sent]
      exact ⟨.done, _, access_store _ rfl ticked live, .stored held bus sent⟩
    | none =>
      have ticked : StoreUnit.tick (some held) terminal path
          = (some held, path.record .storeWaits) := by
        simp only [StoreUnit.tick, current, if_true, sent]
      exact ⟨.store held, _, access_store _ rfl ticked live, .storeWaits held⟩
  | stack held => exact exists_work_of_stack _ stages rfl terminal
  | request held =>
    cases sent : path.bus.send? terminal (held.instruction.message path.registers) with
    | some bus =>
      have ticked : RequestUnit.tick (some held) terminal path
          = (none, { path with bus := bus }.complete) := by
        simp only [RequestUnit.tick, current, if_true, sent]
      exact ⟨.done, _, access_request _ rfl live ticked, .requested held bus sent⟩
    | none =>
      have ticked : RequestUnit.tick (some held) terminal path
          = (some held, path.record .interruptWaits) := by
        simp only [RequestUnit.tick, current, if_true, sent]
      exact ⟨.request held, _, access_request _ rfl live ticked, .requestWaits held⟩

/-- The rest of a tick in which the arithmetic unit was the one to act. -/
lemma tick_of_computed {pipeline supplied : Pipeline} {terminal : Terminal}
    {after between : Datapath} {rest : Standing} (current : path.stages.current = .execution)
    (supply : pipeline.supply terminal path = (supplied, after))
    (still : after.stages.current = .execution) (vacant : rest.occupancy = .done)
    (compute : supplied.compute after = (rest.pipeline, between, none))
    (left : between.stages = ⟨.execution, .branchPredict⟩) :
    pipeline.tick terminal path = (rest.pipeline, between.advance, .ok none) := by
  rw [tick_of_execution current supply still compute]
  simp only
  rw [access_done rest vacant terminal (by simp [left]),
    enterInterrupt_of_not_entering (by simp [StageControl.entering, left])]

lemma exists_turn_of_execution (staged : standing.Staged path.stages)
    (stage : standing.occupancy.stage = .execution) (terminal : Terminal) :
    ∃ later after outcome,
      standing.pipeline.tick terminal path = (later.pipeline, after, outcome)
        ∧ Turn terminal path standing later after (standing.pipeline.issue? terminal path)
          outcome := by
  have stages := staged.stages
  rw [stage] at stages
  have current : path.stages.current = .execution := by rw [stages]
  have reading : standing.fetch.searching = none := by
    by_contra searching
    simp [staged.searching searching] at stage
  have supply := Fetch.turn_tick standing.fetch terminal path
  have supplied := supply_pipeline standing terminal path
  have kept := supply.stages_eq (Or.inl reading)
  generalize (standing.fetch.tick terminal path).1 = fetch at *
  generalize (standing.fetch.tick terminal path).2 = after at *
  have settled : after.stages = ⟨.execution, .execution⟩ := by rw [kept, stages]
  have still : after.stages.current = .execution := by rw [settled]
  rw [issue?_eq_none (resolveBranch_of_ne (by simp [current])) supplied (by simp [still])]
  cases here : standing.occupancy.alu? with
  | some held =>
    have hands : standing.occupancy = .alu held := by
      cases occupied : standing.occupancy <;> rw [occupied] at here <;>
        simp only [Occupancy.alu?, Option.some.injEq, reduceCtorEq] at here
      rw [here]
    have computed := compute_alu { standing with fetch := fetch } after hands
      (by simp [Datapath.isIn, still])
    cases result : held.instruction.evaluate after.registers with
    | error cause =>
      rw [result] at computed
      exact ⟨_, _, _, tick_of_execution current supplied still computed,
        .trapped fetch after held cause hands supply result⟩
    | ok value? =>
      cases value? with
      | none =>
        rw [result] at computed
        have work : Occupancy.Work terminal after standing.occupancy .done after.complete := by
          rw [hands]
          exact .computedNothing held result
        exact ⟨_, _, _, tick_of_computed current supplied still rfl computed
            (work.stages_eq settled),
          .worked fetch after _ .done stage supply work⟩
      | some value =>
        rw [result] at computed
        have work : Occupancy.Work terminal after standing.occupancy .done
            (after.write held.instruction.target value).complete := by
          rw [hands]
          exact .computed held value result
        exact ⟨_, _, _, tick_of_computed current supplied still rfl computed
            (work.stages_eq settled),
          .worked fetch after _ .done stage supply work⟩
  | none =>
    have computed := compute_of_not_alu { standing with fetch := fetch } after here
    obtain ⟨later, final, accessed, work⟩ :=
      exists_work_of_access { standing with fetch := fetch } still stage here terminal
    have result := tick_of_execution current supplied still computed
    have left := work.stages_eq settled
    rw [accessed] at result
    rw [enterInterrupt_of_not_entering
      (by simp [StageControl.entering, left, work.later_ne_idle])] at result
    exact ⟨_, _, _, result, .worked fetch after final later stage supply work⟩

/-- A tick does one of the things listed. -/
theorem Staged.exists_turn (staged : standing.Staged path.stages) (terminal : Terminal) :
    ∃ later after outcome,
      standing.pipeline.tick terminal path = (later.pipeline, after, outcome)
        ∧ Turn terminal path standing later after (standing.pipeline.issue? terminal path)
          outcome := by
  cases stage : standing.occupancy.stage with
  | branchPredict => exact exists_turn_of_branchPredict staged stage terminal
  | execution => exact exists_turn_of_execution staged stage terminal
  | dispatch =>
    exact exists_turn_of_idle staged (Occupancy.stage_eq_dispatch_iff.mp stage) terminal
  | retirement => cases here : standing.occupancy <;> simp [here, Occupancy.stage] at stage

end Complete

/-! ## What every tick keeps -/

section Sound

variable {terminal : Terminal} {standing later : Standing} {path after : Datapath}

/-- An instruction goes to its unit as it was fetched. -/
lemma entry?_of_ofInstruction? {entry : Fetched} {instruction : Instruction}
    {occupancy : Occupancy} (taken : Occupancy.ofInstruction? entry instruction = some occupancy) :
    ∀ held, occupancy.entry? = some held → held = entry := by
  intro held holds
  rcases instruction with _ | _ | _ | _ | _ | (_ | _) | _ <;>
    simp only [Occupancy.ofInstruction?, Option.some.injEq, reduceCtorEq] at taken <;>
    subst taken <;> simp_all [Occupancy.entry?]

/-- Entering an interrupt starts a search, with nothing held and nothing at hand. -/
lemma Staged.enter {stages : StageControl} (staged : standing.Staged stages)
    (idle : standing.occupancy = .idle) {ip : Word} : (standing.enter ip).Staged stages := by
  rw [Standing.enter]
  split
  · exact {
      stages := staged.stages
      searching := fun _ => by rw [idle]; rfl
      forgotten := fun _ => ⟨rfl, rfl⟩ }
  · exact staged

@[simp] lemma enter_occupancy (standing : Standing) (ip : Word) :
    (standing.enter ip).occupancy = standing.occupancy := by
  rw [Standing.enter]
  split <;> rfl

/-- A tick without a fault leaves the occupancy tied to the stage and to fetch. -/
theorem Turn.staged {breakpoint : Option Word} {issue : Option Dispatch}
    (turn : Turn terminal path standing later after issue (.ok breakpoint))
    (staged : standing.Staged path.stages) : later.Staged after.stages := by
  generalize result : (Except.ok breakpoint : CoreOutcome) = outcome at turn
  cases turn with
  | undecodable | stray | trapped => contradiction
  | stalled fetch between here supply missing =>
    have stages := staged.stages
    have kept := supply.stages_eq (Or.inr (by rw [stages, here]; rfl))
    exact {
      stages := by
        simp only [Datapath.advance, Datapath.record, StageControl.advance, kept, stages]
      searching := fun _ => by rw [here]; rfl
      forgotten := supply.forgotten staged.forgotten }
  | issued fetch between entry instruction occupancy here supply found decoded taken =>
    have forgotten := supply.forgotten staged.forgotten
    exact {
      stages := rfl
      searching := fun searching => absurd (forgotten.searching_eq_none found) searching
      forgotten := forgotten }
  | returned fetch between entry here supply found decoded running =>
    have forgotten := supply.forgotten staged.forgotten
    exact {
      stages := by rw [here]; rfl
      searching := fun searching => absurd (forgotten.searching_eq_none found) searching
      forgotten := fun _ => ⟨rfl, rfl⟩ }
  | resolved fetch between here supply =>
    have reading : standing.fetch.searching = none := by
      by_contra searching
      simp [staged.searching searching] at here
    have moved := Occupancy.resolve_stages standing.occupancy
      (staged.stages.trans (by rw [here]))
    have kept := supply.stages_eq (Or.inl reading)
    refine Standing.Staged.enter ?_ rfl
    exact {
      stages := by rw [Datapath.advance, StageControl.advance, kept, moved]; rfl
      searching := fun _ => rfl
      forgotten := supply.forgotten staged.forgotten }
  | worked fetch between final occupancy here supply work =>
    have reading : standing.fetch.searching = none := by
      by_contra searching
      simp [staged.searching searching] at here
    have stages := staged.stages
    have kept := supply.stages_eq (Or.inl reading)
    have left := work.stages_eq (by rw [kept, stages, here])
    exact {
      stages := by rw [Datapath.advance, StageControl.advance, left]
      searching := fun searching => absurd (supply.searching_eq_none reading) searching
      forgotten := supply.forgotten staged.forgotten }

/-- A tick without a fault leaves the core sound. -/
theorem Turn.sound {breakpoint : Option Word}
    {issue : Option Dispatch}
    (turn : Turn terminal path standing later after issue (.ok breakpoint))
    (sound : standing.Sound path.registers path.stages) :
    later.Sound after.registers after.stages := by
  have staged := turn.staged sound.toStaged
  refine ⟨staged, ?_⟩
  generalize result : (Except.ok breakpoint : CoreOutcome) = outcome at turn
  cases turn with
  | undecodable | stray | trapped => contradiction
  | stalled _ _ here | returned _ _ _ here => simp [here, Occupancy.entry?]
  | resolved => simp [Occupancy.entry?]
  | issued fetch between entry instruction occupancy here supply found decoded taken =>
    intro held holds
    rw [entry?_of_ofInstruction? taken held holds]
    exact ⟨rfl, (Fetch.mem_of_find? found).1⟩
  | worked fetch between final occupancy here supply work =>
    intro held holds
    rcases work.entry?_eq with same | vacant
    · obtain ⟨dispatched, address⟩ := sound.held held (same.symm.trans holds)
      refine ⟨dispatched, ?_⟩
      rw [address, ← supply.registers_eq, ← work.ip_eq]
      rfl
    · simp [vacant] at holds

end Sound

/-- The standing once the core's line has been looked at. -/
def signal (standing : Standing) (raised : Bool) : Standing :=
  if raised then { standing with interruptPending := true } else standing

@[simp] lemma signal_occupancy (standing : Standing) (raised : Bool) :
    (standing.signal raised).occupancy = standing.occupancy := by
  cases raised <;> rfl

@[simp] lemma signal_fetch (standing : Standing) (raised : Bool) :
    (standing.signal raised).fetch = standing.fetch := by
  cases raised <;> rfl

@[simp] lemma signal_dispatched (standing : Standing) (raised : Bool) :
    (standing.signal raised).dispatched = standing.dispatched := by
  cases raised <;> rfl

@[simp] lemma signal_inInterrupt (standing : Standing) (raised : Bool) :
    (standing.signal raised).inInterrupt = standing.inInterrupt := by
  cases raised <;> rfl

@[simp] lemma signal_savedIp (standing : Standing) (raised : Bool) :
    (standing.signal raised).savedIp = standing.savedIp := by
  cases raised <;> rfl

/-- What is dispatched does not depend on the line. -/
lemma issue?_signal (standing : Standing) (raised : Bool) (terminal : Terminal)
    (path : Datapath) :
    (standing.signal raised).pipeline.issue? terminal path
      = standing.pipeline.issue? terminal path := by
  cases raised <;> rfl

/-- Nothing that is sound depends on the line. -/
lemma Staged.signal {standing : Standing} {stages : StageControl}
    (staged : standing.Staged stages) (raised : Bool) : (standing.signal raised).Staged stages where
  stages := by simpa using staged.stages
  searching := by simpa using staged.searching
  forgotten := by simpa using staged.forgotten

lemma Sound.signal {standing : Standing} {registers : RegisterFile} {stages : StageControl}
    (sound : standing.Sound registers stages) (raised : Bool) :
    (standing.signal raised).Sound registers stages :=
  { sound.toStaged.signal raised with held := by simpa using sound.held }

end Standing

/-! ## Whole cores -/

namespace Core

/-- What the units of a core work on in an environment. -/
def path (core : Core) (env : Environment) : Datapath :=
  ⟨core.registers, core.stages, env.counters, env.bus⟩

/-- The core's units are in this standing, and it is sound. -/
structure StandsAs (core : Core) (standing : Standing) : Prop where
  pipeline : core.pipeline = standing.pipeline
  sound : standing.Sound core.registers core.stages

/-- A core with nothing at hand, whatever its registers are. -/
lemma standsAs_of_vacant {core : Core} {savedIp : Word}
    (pipeline : core.pipeline = { savedIp := savedIp }) (stages : core.stages = {}) :
    core.StandsAs
      { occupancy := .idle, fetch := {}, dispatched := none, interruptPending := false,
        inInterrupt := false, savedIp := savedIp } where
  pipeline := pipeline
  sound := {
    stages := stages
    held := by simp [Occupancy.entry?]
    searching := by simp
    forgotten := by simp [Fetch.Forgotten] }

lemma standsAs_reset (id : Nat) (terminal : Terminal) (entry : Word) :
    (reset id terminal entry).StandsAs
      { occupancy := .idle, fetch := {}, dispatched := none, interruptPending := false,
        inInterrupt := false, savedIp := entry } :=
  standsAs_of_vacant rfl rfl

/-- The pipeline's tick, with the line taken first. -/
lemma tick_eq (core : Core) (env : Environment) {standing : Standing}
    (same : core.pipeline = standing.pipeline) {later : Pipeline} {after : Datapath}
    {outcome : CoreOutcome}
    (ticked : (standing.signal (env.lines.take core.id).1).pipeline.tick core.terminal
      (core.path env) = (later, after, outcome)) :
    core.tick env
      = (⟨core.id, core.terminal, after.registers, after.stages, later⟩,
        ⟨after.bus, (env.lines.take core.id).2, after.counters⟩, outcome) := by
  obtain ⟨id, terminal, registers, stages, pipeline⟩ := core
  obtain ⟨bus, lines, counters⟩ := env
  obtain rfl := same
  have signalled :
      (if (lines.take id).1 = true then { standing.pipeline with interruptPending := true }
        else standing.pipeline) = (standing.signal (lines.take id).1).pipeline := by
    cases (lines.take id).1 <;> rfl
  simp only [tick, signalled]
  simp only [path] at ticked
  rw [ticked]

/-- What a tick of a core dispatches. -/
def issue? (core : Core) (env : Environment) : Option Dispatch :=
  core.pipeline.issue? core.terminal (core.path env)

/-- A tick of a core is a turn of its pipeline, whatever its registers are. -/
theorem exists_turn_of_staged {core : Core} {standing : Standing}
    (same : core.pipeline = standing.pipeline) (staged : standing.Staged core.stages)
    (env : Environment) :
    ∃ later after outcome,
      core.tick env
        = (⟨core.id, core.terminal, after.registers, after.stages, later.pipeline⟩,
          ⟨after.bus, (env.lines.take core.id).2, after.counters⟩, outcome)
      ∧ Standing.Turn core.terminal (core.path env)
          (standing.signal (env.lines.take core.id).1) later after (core.issue? env) outcome := by
  have signalled : (standing.signal (env.lines.take core.id).1).Staged (core.path env).stages :=
    staged.signal _
  obtain ⟨later, after, outcome, ticked, turn⟩ := signalled.exists_turn core.terminal
  refine ⟨later, after, outcome, tick_eq core env same ticked, ?_⟩
  rw [issue?, same, ← standing.issue?_signal (env.lines.take core.id).1]
  exact turn

/-- A tick of a core is a turn of its pipeline. -/
theorem exists_turn {core : Core} {standing : Standing} (stands : core.StandsAs standing)
    (env : Environment) :
    ∃ later after outcome,
      core.tick env
        = (⟨core.id, core.terminal, after.registers, after.stages, later.pipeline⟩,
          ⟨after.bus, (env.lines.take core.id).2, after.counters⟩, outcome)
      ∧ Standing.Turn core.terminal (core.path env)
          (standing.signal (env.lines.take core.id).1) later after (core.issue? env) outcome :=
  exists_turn_of_staged stands.pipeline stands.sound.toStaged env

/-- After a tick without a fault the core stands somewhere again. -/
theorem StandsAs.tick {core later : Core} {standing : Standing} (stands : core.StandsAs standing)
    {env rest : Environment} {breakpoint : Option Word}
    (ticked : core.tick env = (later, rest, .ok breakpoint)) :
    ∃ standing', later.StandsAs standing' := by
  obtain ⟨standing', after, outcome, equal, turn⟩ := exists_turn stands env
  rw [ticked] at equal
  obtain ⟨rfl, rfl, rfl⟩ := by simpa only [Prod.mk.injEq] using equal
  exact ⟨standing', rfl, turn.sound (stands.sound.signal _)⟩

end Core

end PipelinedMachine
