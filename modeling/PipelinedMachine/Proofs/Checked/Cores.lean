import PipelinedMachine.Processor
import PipelinedMachine.Proofs.Checked.Devices
import PipelinedMachine.Proofs.Checked.Routing
import PipelinedMachine.Proofs.Core.Reads
import PipelinedMachine.Proofs.Machine.Layout

/-!
# Cores with checked accesses

All that a core looks up by an index is at its end of its link: fetch, loads, stores and interrupt
requests send a message from there or look at the one that waits.  Registers are named by their
type, instructions are found by comparing addresses, and register arithmetic wraps.

* `Fetch.tickChecked`, `LoadUnit.tickChecked`, `StoreUnit.tickChecked`, `RequestUnit.tickChecked` —
  the units that use the link;
* `Pipeline.tickChecked_eq`, `Core.tickChecked_eq` — no check fails in a tick of a core;
* **`Processor.Attached.tick_eq`** — nor in the turns of the cores, the router and the controller.
-/

namespace PipelinedMachine

open Interconnect

variable {bus : Interconnect} {terminals : Nat} {near : Terminal} {path : Datapath}

/-! ## The link -/

/-- The message waiting at a terminal, if it answers a read of an address. -/
def Interconnect.answerChecked (bus : Interconnect) (terminal : Terminal) (address : Word) :
    Checked (Option Message) := do
  match ← bus.messageChecked terminal with
  | some message => pure (if message.answers address then some message else none)
  | none => pure none

/-- Takes the waiting message away from a terminal. -/
def Datapath.clearChecked (path : Datapath) (terminal : Terminal) : Checked Datapath := do
  let bus ← path.bus.clearChecked terminal
  pure { path with bus := bus }

lemma Interconnect.answerChecked_eq (sturdy : bus.Sturdy terminals)
    (inside : near.index < terminals) (address : Word) :
    bus.answerChecked near address = pure (bus.answer? near address) := by
  rw [answerChecked, sturdy.messageChecked_eq inside, pure_bind, answer?]
  cases bus.message? near <;> rfl

lemma Datapath.clearChecked_eq (sturdy : path.bus.Sturdy terminals)
    (inside : near.index < terminals) : path.clearChecked near = pure (path.clear near) := by
  rw [clearChecked, sturdy.clearChecked_eq inside, pure_bind, clear]

/-! ## Fetch -/

namespace Fetch

/-- Takes in the block at an address, if its answer has come. -/
def receiveChecked (fetch : Fetch) (terminal : Terminal) (address : Word) (path : Datapath) :
    Checked (Fetch × Datapath) := do
  match ← path.bus.answerChecked terminal address with
  | some answer =>
    let path ← path.clearChecked terminal
    pure ({ fetch with
      outstanding := none
      ahead := fetch.ahead ++ block address answer.payload }, path)
  | none => pure (fetch, path.record .fetchWaits)

/-- Asks for the block at an address, if the link takes the request. -/
def askChecked (fetch : Fetch) (terminal : Terminal) (address : Word) (path : Datapath) :
    Checked (Fetch × Datapath) := do
  match ← path.bus.sendChecked terminal (Message.read address blockWords) with
  | some bus =>
    pure ({ fetch with outstanding := some address },
      { path with bus := bus }.record .fetchRequests)
  | none => pure (fetch, path.record .fetchWaits)

/-- One tick of reading ahead. -/
def readAheadChecked (fetch : Fetch) (terminal : Terminal) (path : Datapath) :
    Checked (Fetch × Datapath) :=
  let fetch := fetch.pass path.registers.ip
  match fetch.outstanding with
  | some address => fetch.receiveChecked terminal address path
  | none =>
    match fetch.wanted? path.registers.ip with
    | some address => fetch.askChecked terminal address path
    | none => pure (fetch, path)

/-- Drops the answer to a block that was asked for before the search began. -/
def dropStaleChecked (fetch : Fetch) (terminal : Terminal) (path : Datapath) :
    Checked (Fetch × Datapath) := do
  match fetch.outstanding with
  | some address =>
    match ← path.bus.answerChecked terminal address with
    | some _ =>
      let path ← path.clearChecked terminal
      pure ({ fetch with outstanding := none }, path)
    | none => pure (fetch, path)
  | none => pure (fetch, path)

/-- Asks for one word of the vector table. -/
def askVectorChecked (fetch : Fetch) (terminal : Terminal) (slot : Word) (next : HandlerSearch)
    (path : Datapath) : Checked (Fetch × Datapath) := do
  match ← path.bus.sendChecked terminal (Message.read slot 1) with
  | some bus => pure ({ fetch with searching := some next }, { path with bus := bus })
  | none => pure (fetch, path.record .interruptWaits)

/-- One step of the search for a handler. -/
def searchChecked (fetch : Fetch) (terminal : Terminal) (phase : HandlerSearch)
    (path : Datapath) : Checked (Fetch × Datapath) := do
  match phase with
  | .askId => fetch.askVectorChecked terminal AddressMap.lastInterrupt .awaitId path
  | .awaitId =>
    match ← path.bus.answerChecked terminal AddressMap.lastInterrupt with
    | some answer =>
      let path ← path.clearChecked terminal
      pure ({ fetch with searching := some (.askHandler answer.value) }, path)
    | none => pure (fetch, path.record .interruptWaits)
  | .askHandler id =>
    fetch.askVectorChecked terminal (AddressMap.vectorStart + id) (.awaitHandler id) path
  | .awaitHandler id =>
    match ← path.bus.answerChecked terminal (AddressMap.vectorStart + id) with
    | some answer =>
      let jump : Fetched := ⟨path.registers.ip, (Assembler.jump answer.value).encode⟩
      let path ← path.clearChecked terminal
      pure ({ fetch with ahead := fetch.ahead ++ [jump], searching := none },
        (path.request .dispatch).record .interruptsServiced)
    | none => pure (fetch, path.record .interruptWaits)

/-- One tick. -/
def tickChecked (fetch : Fetch) (terminal : Terminal) (path : Datapath) :
    Checked (Fetch × Datapath) := do
  match fetch.searching with
  | some phase =>
    let (fetch, path) ← fetch.dropStaleChecked terminal path
    fetch.searchChecked terminal phase path
  | none => fetch.readAheadChecked terminal path

variable {fetch : Fetch} (sturdy : path.bus.Sturdy terminals) (inside : near.index < terminals)
include sturdy inside

lemma receiveChecked_eq (address : Word) :
    fetch.receiveChecked near address path = pure (fetch.receive near address path) := by
  rw [receiveChecked, receive, answerChecked_eq sturdy inside, pure_bind]
  cases path.bus.answer? near address with
  | none => rfl
  | some answer => simp only [Datapath.clearChecked_eq sturdy inside, pure_bind]

lemma askChecked_eq (address : Word) :
    fetch.askChecked near address path = pure (fetch.ask near address path) := by
  rw [askChecked, ask, sturdy.sendChecked_eq inside, pure_bind]
  cases path.bus.send? near (Message.read address blockWords) <;> rfl

lemma readAheadChecked_eq :
    fetch.readAheadChecked near path = pure (fetch.readAhead near path) := by
  rw [readAheadChecked, readAhead]
  cases (fetch.pass path.registers.ip).outstanding with
  | some address => exact receiveChecked_eq sturdy inside address
  | none =>
    cases (fetch.pass path.registers.ip).wanted? path.registers.ip with
    | none => rfl
    | some address => exact askChecked_eq sturdy inside address

lemma dropStaleChecked_eq :
    fetch.dropStaleChecked near path = pure (fetch.dropStale near path) := by
  rw [dropStaleChecked, dropStale]
  cases fetch.outstanding with
  | none => rfl
  | some address =>
    simp only [answerChecked_eq sturdy inside, pure_bind]
    cases path.bus.answer? near address with
    | none => rfl
    | some answer => simp only [Datapath.clearChecked_eq sturdy inside, pure_bind]

lemma askVectorChecked_eq (slot : Word) (next : HandlerSearch) :
    fetch.askVectorChecked near slot next path = pure (fetch.askVector near slot next path) := by
  rw [askVectorChecked, askVector, sturdy.sendChecked_eq inside, pure_bind]
  cases path.bus.send? near (Message.read slot 1) <;> rfl

lemma searchChecked_eq (phase : HandlerSearch) :
    fetch.searchChecked near phase path = pure (fetch.search near phase path) := by
  cases phase with
  | askId => exact askVectorChecked_eq sturdy inside _ _
  | askHandler id => exact askVectorChecked_eq sturdy inside _ _
  | awaitId =>
    simp only [searchChecked, search, answerChecked_eq sturdy inside, pure_bind]
    cases path.bus.answer? near AddressMap.lastInterrupt with
    | none => rfl
    | some answer => simp only [Datapath.clearChecked_eq sturdy inside, pure_bind]
  | awaitHandler id =>
    simp only [searchChecked, search, answerChecked_eq sturdy inside, pure_bind]
    cases path.bus.answer? near (AddressMap.vectorStart + id) with
    | none => rfl
    | some answer => simp only [Datapath.clearChecked_eq sturdy inside, pure_bind]

end Fetch

lemma Fetch.kept_dropStale (near : Terminal) {P : Interconnect → Prop} (kept : Kept P)
    (fetch : Fetch) (before : P path.bus) : P (fetch.dropStale near path).2.bus := by
  rw [dropStale]
  split
  · split
    · next came => exact kept.answer came before
    · exact before
  · exact before

/-! ## The units -/

/-- One tick of fetch. -/
lemma Fetch.tickChecked_eq (fetch : Fetch) (sturdy : path.bus.Sturdy terminals)
    (inside : near.index < terminals) :
    fetch.tickChecked near path = pure (fetch.tick near path) := by
  rw [tickChecked, tick]
  cases fetch.searching with
  | none => exact readAheadChecked_eq sturdy inside
  | some phase =>
    have between := kept_dropStale near (Sturdy.kept terminals) fetch sturdy
    simp only [dropStaleChecked_eq sturdy inside, pure_bind]
    exact searchChecked_eq between inside phase

/-- One tick of the load unit. -/
def LoadUnit.tickChecked (slot : Option PendingLoad) (terminal : Terminal) (path : Datapath) :
    Checked (Option PendingLoad × Datapath) := do
  match slot with
  | none => pure (none, path)
  | some pending =>
    if path.isIn .execution then
      match pending.instruction with
      | .nop => pure (none, path.complete)
      | .load target operand =>
        match pending.requested with
        | none =>
          let address := operand.resolve path.registers
          match ← path.bus.sendChecked terminal (Message.read address 1) with
          | some bus =>
            pure (some { pending with requested := some address }, { path with bus := bus })
          | none => pure (slot, path.record .loadWaits)
        | some address =>
          match ← path.bus.answerChecked terminal address with
          | some answer =>
            let path ← path.clearChecked terminal
            pure (none, (path.write target answer.value).complete)
          | none => pure (slot, path.record .loadWaits)
    else pure (slot, path)

/-- One tick of the store unit. -/
def StoreUnit.tickChecked (slot : Slot StoreInstruction) (terminal : Terminal) (path : Datapath) :
    Checked (Slot StoreInstruction × Datapath) := do
  match slot with
  | none => pure (none, path)
  | some held =>
    if path.isIn .execution then
      let address := held.instruction.address.resolve path.registers
      let value := path.registers.get held.instruction.source
      match ← path.bus.sendChecked terminal (Message.write address value) with
      | some bus => pure (none, { path with bus := bus }.complete)
      | none => pure (slot, path.record .storeWaits)
    else pure (slot, path)

/-- One tick of the unit that sends interrupt requests. -/
def RequestUnit.tickChecked (slot : Slot InterruptRequest) (terminal : Terminal)
    (path : Datapath) : Checked (Slot InterruptRequest × Datapath) := do
  match slot with
  | none => pure (none, path)
  | some held =>
    if path.isIn .execution then
      match ← path.bus.sendChecked terminal (held.instruction.message path.registers) with
      | some bus => pure (none, { path with bus := bus }.complete)
      | none => pure (slot, path.record .interruptWaits)
    else pure (slot, path)

section Units

variable (sturdy : path.bus.Sturdy terminals) (inside : near.index < terminals)
include sturdy inside

lemma LoadUnit.tickChecked_eq (slot : Option PendingLoad) :
    tickChecked slot near path = pure (tick slot near path) := by
  cases slot with
  | none => rfl
  | some pending =>
    rw [tickChecked, tick]
    by_cases turn : path.isIn .execution
    · simp only [if_pos turn]
      cases pending.instruction with
      | nop => rfl
      | load target operand =>
        cases pending.requested with
        | none =>
          simp only [sturdy.sendChecked_eq inside, pure_bind]
          cases path.bus.send? near (Message.read (operand.resolve path.registers) 1) <;> rfl
        | some address =>
          simp only [answerChecked_eq sturdy inside, pure_bind]
          cases path.bus.answer? near address with
          | none => rfl
          | some answer => simp only [Datapath.clearChecked_eq sturdy inside, pure_bind]
    · simp only [if_neg turn]

lemma StoreUnit.tickChecked_eq (slot : Slot StoreInstruction) :
    tickChecked slot near path = pure (tick slot near path) := by
  cases slot with
  | none => rfl
  | some held =>
    rw [tickChecked, tick]
    by_cases turn : path.isIn .execution
    · simp only [if_pos turn, sturdy.sendChecked_eq inside, pure_bind]
      cases path.bus.send? near (Message.write (held.instruction.address.resolve path.registers)
        (path.registers.get held.instruction.source)) <;> rfl
    · simp only [if_neg turn]

lemma RequestUnit.tickChecked_eq (slot : Slot InterruptRequest) :
    tickChecked slot near path = pure (tick slot near path) := by
  cases slot with
  | none => rfl
  | some held =>
    rw [tickChecked, tick]
    by_cases turn : path.isIn .execution
    · simp only [if_pos turn, sturdy.sendChecked_eq inside, pure_bind]
      cases path.bus.send? near (held.instruction.message path.registers) <;> rfl
    · simp only [if_neg turn]

end Units

/-! ## Cores -/

namespace Pipeline

/-- Fetch's turn. -/
def supplyChecked (pipeline : Pipeline) (terminal : Terminal) (path : Datapath) :
    Checked (Pipeline × Datapath) := do
  let (fetch, path) ← pipeline.fetch.tickChecked terminal path
  pure ({ pipeline with fetch := fetch }, path)

/-- The turns of the units that follow the arithmetic unit. -/
def accessChecked (pipeline : Pipeline) (terminal : Terminal) (path : Datapath) :
    Checked (Pipeline × Datapath) := do
  let (load, path) ← LoadUnit.tickChecked pipeline.load terminal path
  let (store, path) ← StoreUnit.tickChecked pipeline.store terminal path
  let (stack, path, delegation) := StackUnit.tick pipeline.stack path.retire
  let pipeline := { pipeline with load := load, store := store, stack := stack }
  let pipeline := match delegation with
    | some access => pipeline.delegate access
    | none => pipeline
  let (request, path) ← RequestUnit.tickChecked pipeline.request terminal path
  pure ({ pipeline with request := request }, path)

/-- The phases of one tick in order. -/
def tickChecked (pipeline : Pipeline) (terminal : Terminal) (path : Datapath) :
    Checked (Pipeline × Datapath × CoreOutcome) := do
  let (pipeline, path, breakpoint) := pipeline.resolveBranch path
  let (pipeline, path) ← pipeline.supplyChecked terminal path
  match pipeline.dispatch path with
  | (pipeline, path, some fault) => pure (pipeline, path, .error fault)
  | (pipeline, path, none) =>
    match pipeline.compute path with
    | (pipeline, path, some fault) => pure (pipeline, path, .error fault)
    | (pipeline, path, none) => do
      let (pipeline, path) ← pipeline.accessChecked terminal path
      pure (pipeline.enterInterrupt path, path.advance, .ok breakpoint)

end Pipeline

namespace Core

/-- One tick of a core. -/
def tickChecked (core : Core) (env : Environment) :
    Checked (Core × Environment × CoreOutcome) := do
  let (raised, lines) := env.lines.take core.id
  let pipeline := if raised then { core.pipeline with interruptPending := true } else core.pipeline
  let (pipeline, path, outcome) ←
    pipeline.tickChecked core.terminal ⟨core.registers, core.stages, env.counters, env.bus⟩
  pure (⟨core.id, core.terminal, path.registers, path.stages, pipeline⟩,
    ⟨path.bus, lines, path.counters⟩, outcome)

end Core

namespace Pipeline

variable (pipeline : Pipeline)

lemma supplyChecked_eq (sturdy : path.bus.Sturdy terminals) (inside : near.index < terminals) :
    pipeline.supplyChecked near path = pure (pipeline.supply near path) := by
  rw [supplyChecked, supply, pipeline.fetch.tickChecked_eq sturdy inside, pure_bind]

lemma accessChecked_eq (sturdy : path.bus.Sturdy terminals) (inside : near.index < terminals) :
    pipeline.accessChecked near path = pure (pipeline.access near path) := by
  have kept := Sturdy.kept terminals
  have loaded := LoadUnit.kept_tick near kept pipeline.load sturdy
  rw [accessChecked, access, LoadUnit.tickChecked_eq sturdy inside, pure_bind]
  generalize LoadUnit.tick pipeline.load near path = state at loaded ⊢
  obtain ⟨load, path⟩ := state
  have stored := StoreUnit.kept_tick near kept pipeline.store loaded
  simp only
  rw [StoreUnit.tickChecked_eq loaded inside, pure_bind]
  generalize StoreUnit.tick pipeline.store near path = state at stored ⊢
  obtain ⟨store, path⟩ := state
  have stacked := bus_stack pipeline.stack path
  simp only
  generalize StackUnit.tick pipeline.stack path.retire = state at stacked ⊢
  obtain ⟨stack, path, delegation⟩ := state
  simp only at stacked stored ⊢
  rw [← stacked] at stored
  cases delegation <;> simp only [RequestUnit.tickChecked_eq stored inside, pure_bind]

/-- No check fails in the phases of a tick. -/
lemma tickChecked_eq (sturdy : path.bus.Sturdy terminals) (inside : near.index < terminals) :
    pipeline.tickChecked near path = pure (pipeline.tick near path) := by
  have branched := bus_resolveBranch pipeline path
  rw [tickChecked, tick]
  generalize pipeline.resolveBranch path = state at branched ⊢
  obtain ⟨pipeline, path, breakpoint⟩ := state
  simp only at branched ⊢
  rw [← branched] at sturdy
  have supplied : (pipeline.supply near path).2.bus.Sturdy terminals :=
    Fetch.kept_tick near (Sturdy.kept terminals) pipeline.fetch sturdy
  rw [pipeline.supplyChecked_eq sturdy inside, pure_bind]
  generalize pipeline.supply near path = state at supplied ⊢
  obtain ⟨pipeline, path⟩ := state
  have dispatched := bus_dispatch pipeline path
  simp only at supplied ⊢
  generalize pipeline.dispatch path = state at dispatched ⊢
  obtain ⟨pipeline, path, fault⟩ := state
  cases fault with
  | some fault => rfl
  | none =>
    have computed := bus_compute pipeline path
    simp only at dispatched ⊢
    generalize pipeline.compute path = state at computed ⊢
    obtain ⟨pipeline, path, fault⟩ := state
    cases fault with
    | some fault => rfl
    | none =>
      simp only at computed ⊢
      rw [← dispatched, ← computed] at supplied
      rw [pipeline.accessChecked_eq supplied inside, pure_bind]

end Pipeline

namespace Core

variable (core : Core) {env : Environment}

/-- No check fails in a tick of a core. -/
lemma tickChecked_eq (sturdy : env.bus.Sturdy terminals)
    (inside : core.terminal.index < terminals) :
    core.tickChecked env = pure (core.tick env) := by
  rw [tickChecked, tick]
  exact congrArg (· >>= _) (Pipeline.tickChecked_eq _ sturdy inside)

lemma kept_tick {P : Interconnect → Prop} (kept : Kept P) (before : P env.bus) :
    P (core.tick env).2.1.bus :=
  Pipeline.kept_tick kept _ before

end Core

/-! ## The processor -/

namespace Processor

/-- The turns of some cores. -/
def tickCoresChecked : List Core → Environment → Checked (List Core × Environment × CoreOutcome)
  | [], env => pure ([], env, .ok none)
  | core :: cores, env => do
    match ← core.tickChecked env with
    | (core, env, .error fault) => pure (core :: cores, env, .error fault)
    | (core, env, .ok breakpoint) =>
      match ← tickCoresChecked cores env with
      | (cores, env, .error fault) => pure (core :: cores, env, .error fault)
      | (cores, env, .ok later) => pure (core :: cores, env, .ok (breakpoint.or later))

/-- The turns of all cores, the boot core first. -/
def tickAllChecked (boot : Core) (others : List Core) (env : Environment) :
    Checked (Core × List Core × Environment × CoreOutcome) := do
  match ← boot.tickChecked env with
  | (boot, env, .error fault) => pure (boot, others, env, .error fault)
  | (boot, env, .ok breakpoint) =>
    match ← tickCoresChecked others env with
    | (others, env, .error fault) => pure (boot, others, env, .error fault)
    | (others, env, .ok later) => pure (boot, others, env, .ok (breakpoint.or later))

/-- One tick. -/
def tickChecked (processor : Processor) (bus : Interconnect) (counters : Counters) :
    Checked (Processor × Interconnect × Counters × CoreOutcome) := do
  match processor with
  | ⟨boot, others, router, controller, lines⟩ =>
    match ← tickAllChecked boot others ⟨bus, lines, counters⟩ with
    | (boot, others, ⟨bus, lines, counters⟩, .error fault) =>
      pure (⟨boot, others, router, controller, lines⟩, bus, counters, .error fault)
    | (boot, others, ⟨bus, lines, counters⟩, .ok breakpoint) =>
      let (router, bus) ← router.tickChecked bus
      let (controller, lines, bus) ← controller.tickChecked lines bus
      pure (⟨boot, others, router, controller, lines⟩, bus, counters, .ok breakpoint)

/-- The ends that the parts of the processor use are ends of links that there are. -/
structure Attached (processor : Processor) (terminals : Nat) : Prop where
  boot : processor.boot.terminal.index < terminals
  others : ∀ core ∈ processor.others, core.terminal.index < terminals
  router : processor.router.Attached terminals
  controller : processor.controller.terminal.index < terminals

/-- No check fails in the turns of some cores. -/
lemma tickCores_eq (cores : List Core) (inside : ∀ core ∈ cores, core.terminal.index < terminals)
    {env : Environment} (sturdy : env.bus.Sturdy terminals) :
    tickCoresChecked cores env = pure (tickCores cores env)
      ∧ (tickCores cores env).2.1.bus.Sturdy terminals
      ∧ ∀ core ∈ (tickCores cores env).1, core.terminal.index < terminals := by
  induction cores generalizing env with
  | nil => exact ⟨rfl, sturdy, inside⟩
  | cons core cores ih =>
    obtain ⟨here, rest⟩ := List.forall_mem_cons.mp inside
    rw [tickCoresChecked, tickCores, core.tickChecked_eq sturdy here, pure_bind]
    have after := core.kept_tick (Sturdy.kept terminals) sturdy
    rw [← core.terminal_tick env] at here
    generalize core.tick env = state at here after ⊢
    obtain ⟨core, env, outcome⟩ := state
    cases outcome with
    | error fault => exact ⟨rfl, after, List.forall_mem_cons.mpr ⟨here, rest⟩⟩
    | ok breakpoint =>
      obtain ⟨checked, after, rest⟩ := ih rest after
      simp only
      rw [checked, pure_bind]
      generalize tickCores cores env = state at after rest ⊢
      obtain ⟨cores, env, outcome⟩ := state
      cases outcome <;> exact ⟨rfl, after, List.forall_mem_cons.mpr ⟨here, rest⟩⟩

/-- No check fails in the turns of all cores. -/
lemma tickAll_eq {boot : Core} {others : List Core} (first : boot.terminal.index < terminals)
    (rest : ∀ core ∈ others, core.terminal.index < terminals) {env : Environment}
    (sturdy : env.bus.Sturdy terminals) :
    tickAllChecked boot others env = pure (tickAll boot others env)
      ∧ (tickAll boot others env).2.2.1.bus.Sturdy terminals
      ∧ (tickAll boot others env).1.terminal.index < terminals
      ∧ ∀ core ∈ (tickAll boot others env).2.1, core.terminal.index < terminals := by
  rw [tickAllChecked, tickAll, boot.tickChecked_eq sturdy first, pure_bind]
  have after := boot.kept_tick (Sturdy.kept terminals) sturdy
  rw [← boot.terminal_tick env] at first
  generalize boot.tick env = state at first after ⊢
  obtain ⟨boot, env, outcome⟩ := state
  cases outcome with
  | error fault => exact ⟨rfl, after, first, rest⟩
  | ok breakpoint =>
    obtain ⟨checked, after, rest⟩ := tickCores_eq others rest after
    simp only
    rw [checked, pure_bind]
    generalize tickCores others env = state at after rest ⊢
    obtain ⟨others, env, outcome⟩ := state
    cases outcome <;> exact ⟨rfl, after, first, rest⟩

/-- No check fails in a tick of the processor, and it stays attached. -/
theorem Attached.tick_eq {processor : Processor} (attached : processor.Attached terminals)
    (sturdy : bus.Sturdy terminals) (counters : Counters) :
    processor.tickChecked bus counters = pure (processor.tick bus counters)
      ∧ (processor.tick bus counters).1.Attached terminals
      ∧ (processor.tick bus counters).2.1.Sturdy terminals := by
  obtain ⟨boot, others, router, controller, lines⟩ := processor
  obtain ⟨first, rest, routes, controls⟩ := attached
  simp only at first rest routes controls
  have env : (⟨bus, lines, counters⟩ : Environment).bus.Sturdy terminals := sturdy
  obtain ⟨checked, after, first, rest⟩ := tickAll_eq first rest env
  simp only [tickChecked, tick]
  rw [checked, pure_bind]
  generalize tickAll boot others ⟨bus, lines, counters⟩ = state at after first rest ⊢
  obtain ⟨boot, others, ⟨bus, lines, counters⟩, outcome⟩ := state
  cases outcome with
  | error fault => exact ⟨rfl, ⟨first, rest, routes, controls⟩, after⟩
  | ok breakpoint =>
    obtain ⟨checked, routes⟩ := routes.tick_eq after
    have after := router.kept_tick (Sturdy.kept terminals) after
    simp only
    rw [checked, pure_bind]
    generalize router.tick bus = state at routes after ⊢
    obtain ⟨router, bus⟩ := state
    have final := (Peripheral.controller controller lines).kept_tick (Sturdy.kept terminals) after
    have same : (controller.tick lines bus).1.terminal = controller.terminal :=
      controller.terminal_tick lines bus
    simp only
    rw [controller.tickChecked_eq after controls lines, pure_bind]
    exact ⟨rfl, ⟨first, rest, routes, by rwa [same]⟩, final⟩

end Processor

end PipelinedMachine
