import Mathlib.Tactic.IntervalCases
import PipelinedMachine.Proofs.Core.Interruption
import PipelinedMachine.Proofs.Core.Reads

/-!
# Which units use the link

Fetch has its turn at the link in every tick.  Of the other units only those that hold a load, a
store or an interrupt request use it.  So a plain push or pop, which only moves the stack pointer,
leaves the link to fetch from its dispatch on until the next instruction.

* `Core.supplied`, `Core.LeavesLinkToFetch` — the link after fetch's turn, and a tick that leaves it
  so;
* `Standing.Staged.bus_tick` — **a tick of a core without a load, a store or a request does**;
* `Core.MovesStackTo`, `Core.StandsAs.movesStackTo` — **a plain push or pop**, from its dispatch to
  the next instruction.
-/

namespace PipelinedMachine

/-! ## The phases of a tick -/

namespace Pipeline

variable (pipeline : Pipeline) (near : Terminal) (path : Datapath)

/-- Fetch's turn in a tick, after that of the branch unit. -/
def supplied : Pipeline × Datapath :=
  (pipeline.resolveBranch path).1.supply near (pipeline.resolveBranch path).2.1

lemma current_route (entry : Fetched) (instruction : Instruction) :
    (pipeline.route entry instruction path).2.1.stages.current = path.stages.current := by
  rcases instruction with _ | _ | _ | _ | _ | (_ | _) | _
  case interrupt.handlerReturn =>
    simp only [route, leaveInterrupt]
    split <;> rfl
  all_goals rfl

/-- Dispatch leaves the stage of the tick alone. -/
lemma current_dispatch : (pipeline.dispatch path).2.1.stages.current = path.stages.current := by
  simp only [dispatch, Fetch.dispatch]
  split_ifs
  · cases pipeline.fetch.find? path.registers.ip with
    | none => rfl
    | some entry =>
      simp only
      split
      · exact current_route _ _ _ _
      · rfl
  · rfl

/-- Without a load, a store or a request, the units leave the link alone. -/
lemma bus_access {pipeline : Pipeline} (load : pipeline.load = none)
    (store : pipeline.store = none) (request : pipeline.request = none) :
    (pipeline.access near path).2.bus = path.bus := by
  have stack := bus_stack pipeline.stack path
  simp only [access, load, store, request, LoadUnit.tick, StoreUnit.tick]
  generalize StackUnit.tick pipeline.stack path.retire = result at stack ⊢
  obtain ⟨slot, after, delegation⟩ := result
  rcases delegation with _ | (_ | _) <;> simpa only [delegate, RequestUnit.tick] using stack

end Pipeline

/-- Whether the instruction that is held goes over the link. -/
def Occupancy.usesLink : Occupancy → Bool
  | load _ | store _ | request _ => true
  | idle | done | branch _ | alu _ | stack _ => false

namespace Standing

variable {standing : Standing} {path : Datapath}

/-- A tick of a core without a load, a store or a request leaves the link to fetch. -/
theorem Staged.bus_tick (staged : standing.Staged path.stages) (near : Terminal)
    (spares : standing.occupancy.usesLink = false) :
    (standing.pipeline.tick near path).2.1.bus
      = (standing.pipeline.supplied near path).2.bus := by
  obtain ⟨load, store, request⟩ : standing.occupancy.load? = none
      ∧ standing.occupancy.store? = none ∧ standing.occupancy.request? = none := by
    cases here : standing.occupancy with
    | load | store | request =>
      rw [here] at spares
      contradiction
    | idle | done | branch | alu | stack => exact ⟨rfl, rfl, rfl⟩
  have stages := staged.stages
  rw [Pipeline.supplied]
  cases stage : standing.occupancy.stage with
  | dispatch =>
    rw [stage] at stages
    have current : path.stages.current = .dispatch := by rw [stages]
    have kept := (Fetch.turn_tick standing.fetch near path).stages_eq (Or.inr (by rw [stages]))
    let next : Standing := { standing with fetch := (standing.fetch.tick near path).1 }
    have dispatched := next.pipeline.current_dispatch (standing.fetch.tick near path).2
    rw [resolveBranch_of_ne (by simp [current])]
    rw [tick_of_dispatch current (supply_pipeline standing near path) rfl
      (dispatched.trans (by rw [kept, current]))]
    rw [supply_pipeline]
    refine Eq.trans ?_ (next.pipeline.bus_dispatch (standing.fetch.tick near path).2)
    split <;> rfl
  | branchPredict =>
    rw [stage] at stages
    have current : path.stages.current = .branchPredict := by rw [stages]
    have kept := (Fetch.turn_tick standing.fetch near (standing.occupancy.resolve path)).stages_eq
      (Or.inr (by rw [standing.occupancy.resolve_stages stages]))
    rw [standing.occupancy.resolve_stages stages] at kept
    rw [tick_of_branchPredict (resolveBranch_pipeline standing current stage)
      (supply_pipeline { standing with occupancy := .idle } near (standing.occupancy.resolve path))
      (by rw [kept])]
    rw [resolveBranch_pipeline standing current stage]
    rfl
  | execution =>
    rw [stage] at stages
    have current : path.stages.current = .execution := by rw [stages]
    have reading : standing.fetch.searching = none := by
      by_contra searching
      simp [staged.searching searching] at stage
    have kept := (Fetch.turn_tick standing.fetch near path).stages_eq (Or.inl reading)
    let next : Standing := { standing with fetch := (standing.fetch.tick near path).1 }
    rw [resolveBranch_of_ne (by simp [current])]
    rw [tick_of_execution current (supply_pipeline standing near path)
      (by rw [kept, current]) rfl]
    rw [supply_pipeline]
    refine Eq.trans ?_ (next.pipeline.bus_compute (standing.fetch.tick near path).2)
    split
    · rfl
    · exact Pipeline.bus_access _ _ load store request
  | retirement => cases here : standing.occupancy <;> simp [here, Occupancy.stage] at stage

end Standing

/-! ## Whole cores -/

namespace Core

variable {core : Core} {standing : Standing}

/-- The link once fetch has had its turn in a tick. -/
def supplied (core : Core) (env : Environment) : Interconnect :=
  (core.pipeline.supplied core.terminal (core.path env)).2.bus

/-- In this tick nothing is sent or taken but by fetch. -/
def LeavesLinkToFetch (core : Core) (env : Environment) : Prop :=
  (core.tick env).2.1.bus = core.supplied env

lemma StandsAs.leavesLinkToFetch (stands : core.StandsAs standing)
    (spares : standing.occupancy.usesLink = false) (env : Environment) :
    core.LeavesLinkToFetch env := by
  have staged : (standing.signal (env.lines.take core.id).1).Staged (core.path env).stages :=
    stands.sound.toStaged.signal _
  have tick := staged.bus_tick core.terminal (by simpa using spares)
  have same : ((standing.signal (env.lines.take core.id).1).pipeline.supplied core.terminal
      (core.path env)).2 = (standing.pipeline.supplied core.terminal (core.path env)).2 := by
    cases (env.lines.take core.id).1 <;> rfl
  rw [LeavesLinkToFetch, tick_eq core env stands.pipeline rfl, supplied, stands.pipeline, ← same]
  exact tick

/-! ## Plain pushes and pops -/

/-- Three ticks without a fault that move the stack pointer to `sp` and the instruction pointer to
the next instruction, change no other register, and leave the link to fetch. -/
structure MovesStackTo (core : Core) (env : Nat → Environment) (sp : Word) : Prop where
  live : ∀ n < 3, ((core.after env n).tick (env n)).2.2 = .ok none
  registers : (core.after env 3).registers = (core.registers.setStack sp).advance
  link : ∀ n < 3, (core.after env n).LeavesLinkToFetch (env n)

/-- The tick that dispatches an instruction of the stack unit. -/
lemma StandsAs.tick_of_stack (stands : core.StandsAs standing) {env : Environment}
    {dispatch : Dispatch} {instruction : StackInstruction}
    (issued : core.issue? env = some dispatch)
    (decoded : dispatch.entry.code.decode = .ok (.stack instruction)) :
    standing.occupancy = .idle ∧ (core.tick env).2.2 = .ok none
      ∧ (core.tick env).1.registers = core.registers
      ∧ ∃ later, (core.tick env).1.StandsAs later
        ∧ later.occupancy = .stack ⟨dispatch.entry, instruction⟩ := by
  obtain ⟨later, after, outcome, tick, turn⟩ := exists_turn stands env
  have sound := stands.sound.signal (env.lines.take core.id).1
  rw [issued] at turn
  generalize something : some dispatch = issue at turn
  cases turn with
  | stalled | resolved | trapped | worked => contradiction
  | returned _ _ _ _ _ _ other | stray _ _ _ _ _ _ other | undecodable _ _ _ _ _ _ _ other =>
    obtain rfl := Option.some.inj something
    rw [decoded] at other
    simp at other
  | issued fetch between entry taken occupancy here supply found decoded' accepted =>
    obtain rfl := Option.some.inj something
    obtain rfl : taken = .stack instruction := Except.ok.inj (decoded'.symm.trans decoded)
    obtain rfl : Occupancy.stack ⟨entry, instruction⟩ = occupancy := Option.some.inj accepted
    have settled := (Standing.Turn.issued fetch between entry _ _ here supply found decoded'
      accepted).sound sound
    rw [tick]
    exact ⟨by simpa using here, rfl, supply.registers_eq, _, ⟨rfl, settled⟩, rfl⟩

/-- The tick in which a plain push or pop moves the stack pointer. -/
lemma StandsAs.tick_of_plain (stands : core.StandsAs standing) {held : Held StackInstruction}
    (here : standing.occupancy = .stack held) {sp : Word}
    (plain : held.instruction = .push ∧ sp = core.registers.sp - 1
      ∨ held.instruction = .pop ∧ sp = core.registers.sp + 1) (env : Environment) :
    (core.tick env).2.2 = .ok none
      ∧ (core.tick env).1.registers = core.registers.setStack sp
      ∧ ∃ later, (core.tick env).1.StandsAs later ∧ later.occupancy = .done := by
  obtain ⟨later, after, outcome, tick, turn⟩ := exists_turn stands env
  have sound := stands.sound.signal (env.lines.take core.id).1
  have occupied : (standing.signal (env.lines.take core.id).1).occupancy = .stack held := by
    simpa using here
  generalize standing.signal (env.lines.take core.id).1 = standing at *
  generalize core.issue? env = issue at turn
  cases turn with
  | stalled _ _ idle | issued _ _ _ _ _ idle | returned _ _ _ idle | undecodable _ _ _ _ idle
  | stray _ _ _ idle | trapped _ _ _ _ idle =>
    rw [occupied] at idle
    contradiction
  | resolved _ _ stage =>
    rw [occupied] at stage
    contradiction
  | worked fetch between final occupancy stage supply work =>
    have same : between.registers = core.registers := supply.registers_eq
    have settled := (Standing.Turn.worked fetch between final occupancy stage supply work).sound
      sound
    rw [tick]
    rw [occupied] at work
    refine ⟨rfl, ?_, _, ⟨rfl, settled⟩, ?_⟩ <;> rw [← same] at plain
    · cases work with
      | pushed _ form | popped _ form =>
        simp only [form, reduceCtorEq, false_and, true_and, or_false, false_or] at plain
        rw [plain, ← same]
        rfl
      | pushing _ _ form | popping _ _ form => simp [form] at plain
    · cases work with
      | pushed | popped => rfl
      | pushing _ _ form | popping _ _ form => simp [form] at plain

/-- The tick that moves the instruction pointer past an instruction that is done. -/
lemma StandsAs.tick_of_done (stands : core.StandsAs standing)
    (here : standing.occupancy = .done) (env : Environment) :
    (core.tick env).2.2 = .ok none ∧ (core.tick env).1.registers = core.registers.advance := by
  obtain ⟨later, after, outcome, tick, turn⟩ := exists_turn stands env
  have occupied : (standing.signal (env.lines.take core.id).1).occupancy = .done := by
    simpa using here
  generalize standing.signal (env.lines.take core.id).1 = standing at *
  generalize core.issue? env = issue at turn
  cases turn with
  | stalled _ _ idle | issued _ _ _ _ _ idle | returned _ _ _ idle | undecodable _ _ _ _ idle
  | stray _ _ _ idle | trapped _ _ _ _ idle =>
    rw [occupied] at idle
    contradiction
  | worked _ _ _ _ stage =>
    rw [occupied] at stage
    contradiction
  | resolved fetch between stage supply =>
    rw [tick]
    refine ⟨by rw [occupied]; rfl, ?_⟩
    have moved : between.registers = _ := supply.registers_eq
    rw [occupied] at moved
    exact moved

/-- **A plain push or pop** changes the stack pointer and the instruction pointer, and sends
nothing. -/
theorem StandsAs.movesStackTo (stands : core.StandsAs standing) {env : Nat → Environment}
    {dispatch : Dispatch} {instruction : StackInstruction}
    (issued : core.issue? (env 0) = some dispatch)
    (decoded : dispatch.entry.code.decode = .ok (.stack instruction)) {sp : Word}
    (plain : instruction = .push ∧ sp = core.registers.sp - 1
      ∨ instruction = .pop ∧ sp = core.registers.sp + 1) : core.MovesStackTo env sp := by
  obtain ⟨idle, issues, registers, _, stands₂, holds⟩ := stands.tick_of_stack issued decoded
  have second : core.after env 1 = (core.tick (env 0)).1 := rfl
  rw [← second] at registers stands₂
  rw [← registers] at plain
  obtain ⟨moves, moved, _, stands₃, done⟩ := stands₂.tick_of_plain holds plain (env 1)
  have third : core.after env 2 = ((core.after env 1).tick (env 1)).1 := rfl
  rw [← third] at moved stands₃
  obtain ⟨ends, advanced⟩ := stands₃.tick_of_done done (env 2)
  have fourth : core.after env 3 = ((core.after env 2).tick (env 2)).1 := rfl
  rw [← fourth, moved, registers] at advanced
  refine ⟨fun n inside => ?_, advanced, fun n inside => ?_⟩
  · interval_cases n
    exacts [issues, moves, ends]
  · interval_cases n
    · exact stands.leavesLinkToFetch (by rw [idle]; rfl) _
    · exact stands₂.leavesLinkToFetch (by rw [holds]; rfl) _
    · exact stands₃.leavesLinkToFetch (by rw [done]; rfl) _

end Core

end PipelinedMachine
