import PipelinedMachine.Proofs.Core.Turn

/-!
# One instruction at a time

Every unit of a core has its turn in every tick, and nothing but the stage keeps two of them from
acting on the same registers.  This file shows that this is enough: whatever its links and lines do,
a core that has not stopped holds at most one instruction, in the unit that the stage belongs to.

* `Core.Reachable` — the cores that ticks without a fault lead to, in any environments;
* `Pipeline.held`, `Pipeline.executing` — the instructions in all units, and in those of the
  execution stage;
* `Core.OneInstruction` — what holds between two ticks;
* `Core.Reachable.oneInstruction` — **it holds of every reachable core**.

The invariant behind it is that a core stands in one of the situations of `Occupancy`
(`Core.Reachable.exists_standing`).
-/

namespace PipelinedMachine

/-! ## What is held -/

namespace Pipeline

/-- The instructions in the units of the execution stage. -/
def executing (pipeline : Pipeline) : List Fetched :=
  pipeline.alu.entry?.toList ++ (pipeline.load.map fun pending => pending.entry).toList
    ++ pipeline.store.entry?.toList ++ pipeline.stack.entry?.toList
    ++ pipeline.request.entry?.toList

/-- The instructions in all units. -/
def held (pipeline : Pipeline) : List Fetched :=
  pipeline.executing ++ pipeline.branch.entry?.toList

end Pipeline

namespace Standing

/-- The units together hold what the occupancy says. -/
lemma held_pipeline (standing : Standing) :
    standing.pipeline.held = standing.occupancy.entry?.toList := by
  obtain ⟨occupancy, _, _, _, _, _⟩ := standing
  cases occupancy <;> rfl

lemma executing_pipeline (standing : Standing) :
    standing.pipeline.executing
      = if standing.occupancy.stage = .execution then standing.occupancy.entry?.toList
        else [] := by
  obtain ⟨occupancy, _, _, _, _, _⟩ := standing
  cases occupancy <;> rfl

/-- In the execution stage there is always an instruction. -/
lemma executing_pipeline_ne_nil (standing : Standing) :
    standing.pipeline.executing ≠ [] ↔ standing.occupancy.stage = .execution := by
  obtain ⟨occupancy, _, _, _, _, _⟩ := standing
  cases occupancy <;>
    simp [executing_pipeline, Occupancy.stage, Occupancy.entry?]

end Standing

/-! ## Reachable cores -/

namespace Core

/-- The cores that any number of ticks without a fault lead to.  The environment of each tick is
arbitrary, so the links, the lines and the memory behind them can do anything. -/
inductive Reachable : Core → Prop where
  | reset (id : Nat) (terminal : Terminal) (entry : Word) : Reachable (reset id terminal entry)
  | tick {core later : Core} (before : Reachable core) (env : Environment)
      {rest : Environment} {breakpoint : Option Word}
      (ticked : core.tick env = (later, rest, .ok breakpoint)) : Reachable later

lemma Reachable.after_tick {core : Core} (before : Reachable core) {env : Environment}
    {breakpoint : Option Word} (live : (core.tick env).2.2 = .ok breakpoint) :
    Reachable (core.tick env).1 :=
  before.tick env (Prod.ext rfl (Prod.ext rfl live))

/-- What holds of a core between two ticks. -/
structure OneInstruction (core : Core) : Prop where
  alone : core.pipeline.held.length ≤ 1
  executing : core.stages.current = .execution ↔ core.pipeline.executing ≠ []
  branching : core.pipeline.branch ≠ none → core.stages.current = .branchPredict
  dispatching : core.stages.current = .dispatch → core.pipeline.held = []
  neverRetires : core.stages.current ≠ .retirement ∧ core.stages.next ≠ .retirement
  dispatchedLast : ∀ entry ∈ core.pipeline.held,
    core.pipeline.dispatched = some entry ∧ entry.address = core.registers.ip
  active : core.pipeline.active? = core.pipeline.dispatched
  reading : LoadUnit.outstanding? core.pipeline.load ≠ none → core.stages.current = .execution
  searching : core.pipeline.fetch.searching ≠ none →
    core.stages.current = .dispatch ∧ core.pipeline.held = []

lemma Reachable.exists_standing {core : Core} (reachable : Reachable core) :
    ∃ standing, core.StandsAs standing := by
  induction reachable with
  | reset id terminal entry => exact ⟨_, standsAs_reset id terminal entry⟩
  | tick before env ticked previous =>
    obtain ⟨standing, stands⟩ := previous
    exact stands.tick ticked

/-- The unit that waits for the link holds the instruction that was dispatched last. -/
lemma StandsAs.active_eq {core : Core} {standing : Standing} (stands : core.StandsAs standing) :
    core.pipeline.active? = core.pipeline.dispatched := by
  rw [stands.pipeline]
  have held := stands.sound.held
  obtain ⟨occupancy, fetch, dispatched, _, _, _⟩ := standing
  cases occupancy with
  | load pending => exact (held pending.entry rfl).1.symm
  | store holding => exact (held holding.entry rfl).1.symm
  | idle | done | branch | alu | stack | request => rfl

/-- A core in one of these situations has one instruction at most. -/
lemma StandsAs.one_at_most {core : Core} {standing : Standing}
    (stands : core.StandsAs standing) : core.OneInstruction := by
  have stages := stands.sound.stages
  have holds := standing.held_pipeline
  rw [← stands.pipeline] at holds
  have vacant (stage : standing.occupancy.stage = .dispatch) : core.pipeline.held = [] := by
    rw [holds, Occupancy.stage_eq_dispatch_iff.mp stage]
    rfl
  exact {
    alone := by
      rw [holds]
      cases standing.occupancy.entry? <;> simp
    executing := by
      rw [stages, stands.pipeline]
      exact standing.executing_pipeline_ne_nil.symm
    branching := by
      rw [stages, stands.pipeline]
      cases here : standing.occupancy <;>
        simp [Standing.pipeline, here, Occupancy.branch?, Occupancy.stage]
    dispatching := by
      rw [stages]
      exact vacant
    neverRetires := by
      rw [stages]
      cases standing.occupancy <;> simp [Occupancy.stage]
    dispatchedLast := by
      intro entry member
      rw [holds, Option.mem_toList] at member
      rw [stands.pipeline]
      exact stands.sound.held entry member
    active := stands.active_eq
    reading := by
      rw [stages, stands.pipeline]
      cases here : standing.occupancy <;>
        simp [Standing.pipeline, here, Occupancy.load?, LoadUnit.outstanding?, Occupancy.stage]
    searching := by
      rw [stages, stands.pipeline]
      intro searching
      have stage := stands.sound.searching searching
      exact ⟨stage, stands.pipeline ▸ vacant stage⟩ }

/-- A core that has not stopped has at most one instruction, in the unit that the stage belongs
to. -/
theorem Reachable.oneInstruction {core : Core} (reachable : Reachable core) :
    core.OneInstruction := by
  obtain ⟨standing, stands⟩ := reachable.exists_standing
  exact stands.one_at_most

/-- Two ticks lead from reset to a core that holds an addition: the first asks for the block at
zero, and the answer is waiting at the second. -/
theorem oneInstruction_holding_addition :
    ∃ core, Reachable core ∧ core.pipeline.alu.isSome = true ∧ core.OneInstruction := by
  let addition := Assembler.arithmeticLiteral .add ⟨1⟩ ⟨1⟩ 7
  let free : Channel := Channel.opened 1 Interconnect.messageCapacity
  let block := Message.response 0 (assemble [addition, addition, addition, addition]).toList
  let first : Environment := ⟨⟨#[free, free]⟩, InterruptLines.quiet 1, {}⟩
  let second : Environment :=
    ⟨⟨#[free, { free with transfer := .delivered block }]⟩, InterruptLines.quiet 1, {}⟩
  let asking := ((reset 0 ⟨0⟩ 0).tick first).1
  have asked : ((reset 0 ⟨0⟩ 0).tick first).2.2 = .ok none := by decide +kernel
  have issued : (asking.tick second).2.2 = .ok none := by decide +kernel
  have reachable := ((Reachable.reset 0 ⟨0⟩ 0).after_tick asked).after_tick issued
  exact ⟨_, reachable, by decide +kernel, reachable.oneInstruction⟩

end Core

end PipelinedMachine
