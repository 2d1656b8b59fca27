import PipelinedMachine.Core
import PipelinedMachine.Proofs.Instruction.Grammar
import PipelinedMachine.Proofs.Instruction.Phrase

/-!
# What a listing tells about a program

The text of two code words leaves out some of their fields.  None of these has an effect: words
with the same text do the same, however they differ.  This is said twice, of the instruction that
the words decode to, and of a core that fetches the one pair or the other.

* `Instruction.SameEffect` — two instructions that do the same, family by family;
* `CodeWords.shown` — the words with zero in every field that their text leaves out, and
  `Core.shown`, a core with its instructions replaced by what their texts show;
* `Pipeline.tick_shown` — a tick depends on no more of the instructions at hand than that, phase by
  phase, and `Core.shown_ticks` lifts it to runs;
* `Core.replace` — a core that has fetched other words in place of those it has fetched.

Main statement: **`sameMeaning_of_text_eq`**, words with the same text have the same meaning.
-/

namespace PipelinedMachine

/-! ## The same effect -/

/-- The registers after an arithmetic instruction has written its result, or the cause of its
trap. -/
def AluInstruction.update (instruction : AluInstruction) (registers : RegisterFile) :
    Except FaultCause RegisterFile :=
  (instruction.evaluate registers).map fun
    | some value => registers.set instruction.target value
    | none => registers

/-- Two instructions of one unit that do the same there, whatever the registers are. -/
inductive Instruction.SameEffect : Instruction → Instruction → Prop
  | nop : SameEffect nop nop
  | alu {i j : AluInstruction} (update : ∀ registers, i.update registers = j.update registers) :
      SameEffect (alu i) (alu j)
  | loadNop : SameEffect (load .nop) (load .nop)
  | load (target : Register) {a b : MemoryOperand}
      (resolve : ∀ registers, a.resolve registers = b.resolve registers) :
      SameEffect (load (.load target a)) (load (.load target b))
  | store (source : Register) {a b : MemoryOperand}
      (resolve : ∀ registers, a.resolve registers = b.resolve registers) :
      SameEffect (store ⟨source, a⟩) (store ⟨source, b⟩)
  | branch {i j : BranchInstruction} (next : ∀ registers, i.next registers = j.next registers)
      (breaks : i = .breakpoint ↔ j = .breakpoint) : SameEffect (branch i) (branch j)
  | request {i j : InterruptRequest}
      (message : ∀ registers, i.message registers = j.message registers) :
      SameEffect (interrupt (.request i)) (interrupt (.request j))
  | handlerReturn : SameEffect (interrupt .handlerReturn) (interrupt .handlerReturn)
  | stack {i j : StackInstruction} (moves : ∀ entry path,
      (StackUnit.tick (some ⟨entry, i⟩) path).2 = (StackUnit.tick (some ⟨entry, j⟩) path).2) :
      SameEffect (stack i) (stack j)

namespace Instruction.SameEffect

theorem refl (instruction : Instruction) : SameEffect instruction instruction := by
  rcases instruction with _ | _ | (_ | ⟨target, _⟩) | ⟨source, _⟩ | _ | (_ | _) | _
  case nop => exact nop
  case alu => exact alu fun _ => rfl
  case load.nop => exact loadNop
  case load.load => exact load target fun _ => rfl
  case store => exact store source fun _ => rfl
  case branch => exact branch (fun _ => rfl) Iff.rfl
  case interrupt.request => exact request fun _ => rfl
  case interrupt.handlerReturn => exact handlerReturn
  case stack => exact stack fun _ _ => rfl

end Instruction.SameEffect

namespace AluInstruction

@[simp] theorem evaluate_shown (instruction : AluInstruction) :
    instruction.shown.evaluate = instruction.evaluate := by
  rcases instruction with ⟨_ | _ | _ | _, _, _⟩ <;> rfl

@[simp] theorem shown_shown (instruction : AluInstruction) :
    instruction.shown.shown = instruction.shown := by
  rcases instruction with ⟨_ | _ | _ | _, _, _⟩ <;> rfl

/-- The target is written, unless it has no effect. -/
lemma target_shown {instruction : AluInstruction} {registers : RegisterFile} {value : Word}
    (evaluated : instruction.evaluate registers = .ok (some value)) :
    instruction.shown.target = instruction.target := by
  rcases instruction with ⟨_ | _ | _ | _, _, _⟩
  case nop => cases evaluated
  all_goals rfl

theorem update_shown (instruction : AluInstruction) (registers : RegisterFile) :
    instruction.shown.update registers = instruction.update registers := by
  rw [update, update, evaluate_shown]
  cases evaluated : instruction.evaluate registers with
  | error cause => rfl
  | ok result =>
    cases result with
    | none => rfl
    | some value => rw [target_shown evaluated]

end AluInstruction

namespace Instruction

@[simp] theorem shown_shown (instruction : Instruction) :
    instruction.shown.shown = instruction.shown := by
  cases instruction with
  | alu i => exact congrArg alu i.shown_shown
  | _ => rfl

/-- Instructions that show the same do the same. -/
theorem sameEffect_of_shown_eq {instruction other : Instruction}
    (same : instruction.shown = other.shown) : instruction.SameEffect other := by
  -- Outside the arithmetic unit an instruction is all that it shows.
  cases instruction with
  | alu i =>
    cases other with
    | alu j =>
      refine .alu fun registers => ?_
      rw [← i.update_shown, ← j.update_shown, Instruction.alu.inj same]
    | _ => cases same
  | _ =>
    cases other with
    | alu j => cases same
    | _ => cases same <;> exact .refl _

end Instruction

/-! ## What code words show -/

/-- Words that are invalid for the cause, if it is one that the decoder finds. -/
def FaultCause.sample : FaultCause → CodeWords
  | unknownUnit => ⟨Word.ofBytes 8 0 0 0, 0⟩
  | unknownOperation => ⟨Word.ofBytes 1 11 0 0, 0⟩
  | registerOutOfRange => ⟨Word.ofBytes 1 0 16 0, 0⟩
  | reservedUnit | _ => ⟨Word.ofBytes 5 0 0 0, 0⟩

lemma FaultCause.decode_sample {cause : FaultCause} (kind : cause.kind = .decode) :
    cause.sample.decode = .error cause := by
  cases cause
  case divideByZero | divideOverflow | returnOutsideInterrupt => cases kind
  all_goals decide

namespace CodeWords

lemma kind_of_decode {code : CodeWords} {cause : FaultCause}
    (invalid : code.decode = .error cause) : cause.kind = .decode := by
  rw [decode_eq] at invalid
  split at invalid
  · cases invalid
    rfl
  split at invalid
  · cases invalid
    rfl
  cases row : code.form? with
  | none =>
    rw [row] at invalid
    cases invalid
    rfl
  | some form =>
    rw [row] at invalid
    obtain ⟨rfl, _⟩ := read_eq_error.mp invalid
    rfl

/-- The words with zero in every field that their text leaves out. -/
def shown (code : CodeWords) : CodeWords :=
  match code.decode.map Instruction.shown with
  | .ok instruction => instruction.encode
  | .error cause => cause.sample

@[simp] theorem decode_shown (code : CodeWords) :
    code.shown.decode = code.decode.map Instruction.shown := by
  rw [shown]
  cases decoded : code.decode with
  | ok instruction => exact instruction.shown.decode_encode
  | error cause => exact FaultCause.decode_sample (kind_of_decode decoded)

/-- Words that show the same are those with the same text. -/
theorem shown_eq_shown_iff {code other : CodeWords} :
    code.shown = other.shown ↔ code.text = other.text := by
  rw [text_eq_text_iff]
  refine ⟨fun same => ?_, fun same => by rw [shown, same, shown]⟩
  rw [← decode_shown, same, decode_shown]

theorem text_shown (code : CodeWords) : code.shown.text = code.text := by
  rw [text_eq_text_iff, decode_shown]
  cases code.decode with
  | ok instruction => exact congrArg Except.ok instruction.shown_shown
  | error cause => rfl

@[simp] theorem shown_shown (code : CodeWords) : code.shown.shown = code.shown :=
  shown_eq_shown_iff.mpr code.text_shown

end CodeWords

/-! ## What a core shows -/

/-- The entry with its words as far as their text shows them. -/
def Fetched.shown (entry : Fetched) : Fetched := { entry with code := entry.code.shown }

@[simp] lemma Fetched.address_shown (entry : Fetched) : entry.shown.address = entry.address := rfl

@[simp] lemma Fetched.shown_shown (entry : Fetched) : entry.shown.shown = entry.shown := by
  simp [shown]

/-- The fault with the words it quotes as far as their text shows them. -/
def Fault.shown (fault : Fault) : Fault := { fault with origin := fault.origin.shown }

/-- The outcome with a fault as far as the text of its words shows it. -/
def CoreOutcome.shown (outcome : CoreOutcome) : CoreOutcome := outcome.mapError Fault.shown

/-- The instructions at hand as far as their texts show them. -/
def Fetch.shown (fetch : Fetch) : Fetch :=
  { fetch with ahead := fetch.ahead.map Fetched.shown, passed := fetch.passed.map Fetched.shown }

/-- The slot with its entry as far as its text shows it. -/
def Slot.shown {α : Type} (slot : Slot α) : Slot α :=
  slot.map fun held => { held with entry := held.entry.shown }

@[simp] lemma Slot.shown_shown {α : Type} (slot : Slot α) : Slot.shown slot.shown = slot.shown := by
  cases slot <;> simp [shown]

/-- The slot of the arithmetic unit, where the instruction too can have more to it than is
written. -/
def AluUnit.shown (slot : Slot AluInstruction) : Slot AluInstruction :=
  slot.map fun held => ⟨held.entry.shown, held.instruction.shown⟩

@[simp] lemma AluUnit.shown_shown (slot : Slot AluInstruction) :
    AluUnit.shown (AluUnit.shown slot) = AluUnit.shown slot := by
  cases slot <;> simp [shown]

/-- The slot of the load unit. -/
def LoadUnit.shown (slot : Option PendingLoad) : Option PendingLoad :=
  slot.map fun pending => { pending with entry := pending.entry.shown }

@[simp] lemma LoadUnit.shown_shown (slot : Option PendingLoad) :
    LoadUnit.shown (LoadUnit.shown slot) = LoadUnit.shown slot := by
  cases slot <;> simp [shown]

namespace Pipeline

/-- The units with their instructions as far as their texts show them. -/
def shown (pipeline : Pipeline) : Pipeline :=
  { pipeline with
    fetch := pipeline.fetch.shown
    dispatched := pipeline.dispatched.map Fetched.shown
    alu := AluUnit.shown pipeline.alu
    load := LoadUnit.shown pipeline.load
    store := pipeline.store.shown
    branch := pipeline.branch.shown
    stack := pipeline.stack.shown
    request := pipeline.request.shown }

/-- The result of a phase that can fault, as far as texts show it. -/
def showing (result : Pipeline × Datapath × Option Fault) : Pipeline × Datapath × Option Fault :=
  (result.1.shown, result.2.1, result.2.2.map Fault.shown)

end Pipeline

/-- The core with its instructions as far as their texts show them. -/
def Core.shown (core : Core) : Core := { core with pipeline := core.pipeline.shown }

/-! ## Fetch

Fetch goes by addresses alone. -/

namespace Fetch

variable (fetch : Fetch) (terminal : Terminal) (path : Datapath)

@[simp] lemma find?_shown (ip : Word) :
    fetch.shown.find? ip = (fetch.find? ip).map Fetched.shown := by
  have search (entries : List Fetched) :
      (entries.map Fetched.shown).find? (fun entry => decide (entry.address = ip)) =
        (entries.find? fun entry => decide (entry.address = ip)).map Fetched.shown := by
    rw [List.find?_map]
    rfl
  simp only [find?, shown, search]
  cases fetch.ahead.find? fun entry => decide (entry.address = ip) <;> rfl

@[simp] lemma newest?_shown : fetch.shown.newest? = fetch.newest?.map Fetched.shown := by
  simp only [newest?, shown, List.getLast?_map]
  cases fetch.ahead.getLast? <;> rfl

lemma wanted?_shown (ip : Word) : fetch.shown.wanted? ip = fetch.wanted? ip := by
  have ahead : fetch.shown.ahead.length = fetch.ahead.length := by simp [shown]
  rw [wanted?, wanted?, find?_shown, newest?_shown, ahead]
  cases fetch.find? ip with
  | none => rfl
  | some entry => cases fetch.newest? <;> rfl

lemma pass_shown (ip : Word) : fetch.shown.pass ip = (fetch.pass ip).shown := by
  have skipped : (fetch.ahead.map Fetched.shown).takeWhile (fun entry => entry.address ≠ ip) =
      (fetch.ahead.takeWhile fun entry => entry.address ≠ ip).map Fetched.shown := by
    rw [List.takeWhile_map]
    rfl
  have kept : (fetch.ahead.map Fetched.shown).dropWhile (fun entry => entry.address ≠ ip) =
      (fetch.ahead.dropWhile fun entry => entry.address ≠ ip).map Fetched.shown := by
    rw [List.dropWhile_map]
    rfl
  have among : (fetch.passed.map Fetched.shown).any (fun entry => entry.address = ip) =
      fetch.passed.any fun entry => entry.address = ip := by
    rw [List.any_map]
    rfl
  rw [pass, pass]
  simp only [shown, skipped]
  cases fetch.ahead.takeWhile fun entry => entry.address ≠ ip with
  | nil => rfl
  | cons first rest =>
    simp only [List.map_cons, among, kept]
    split
    · rfl
    · simp [keepNewest, List.map_drop]

lemma dropStale_shown :
    fetch.shown.dropStale terminal path = Prod.map shown id (fetch.dropStale terminal path) := by
  rcases fetch with ⟨ahead, passed, _ | address, searching⟩
  · rfl
  · simp only [dropStale, shown]
    cases path.bus.answer? terminal address <;> rfl

/-- What comes in is not cut down to what it shows, so the two sides agree only afterwards. -/
lemma search_shown (phase : HandlerSearch) :
    Prod.map shown id (fetch.shown.search terminal phase path) =
      Prod.map shown id (fetch.search terminal phase path) := by
  cases phase with
  | askId | askHandler =>
    simp only [search, askVector]
    split <;> simp [shown]
  | awaitId | awaitHandler =>
    simp only [search]
    split <;> simp [shown]

lemma readAhead_shown : Prod.map shown id (fetch.shown.readAhead terminal path) =
    Prod.map shown id (fetch.readAhead terminal path) := by
  rw [readAhead, readAhead, pass_shown]
  generalize fetch.pass path.registers.ip = passed
  rw [wanted?_shown]
  simp only [show passed.shown.outstanding = passed.outstanding from rfl]
  cases passed.outstanding with
  | some address =>
    simp only [receive]
    split <;> simp [shown]
  | none =>
    cases passed.wanted? path.registers.ip with
    | none => simp [shown]
    | some address =>
      simp only [ask]
      split <;> simp [shown]

theorem tick_shown : Prod.map shown id (fetch.shown.tick terminal path) =
    Prod.map shown id (fetch.tick terminal path) := by
  rw [tick, tick]
  simp only [show fetch.shown.searching = fetch.searching from rfl]
  cases fetch.searching with
  | none => exact fetch.readAhead_shown terminal path
  | some phase =>
    rw [dropStale_shown]
    exact search_shown _ terminal _ phase

lemma dispatch_shown : fetch.shown.dispatch path =
    Prod.map (Option.map Fetched.shown) id (fetch.dispatch path) := by
  rw [dispatch, dispatch, find?_shown]
  split
  · cases fetch.find? path.registers.ip <;> rfl
  · rfl

end Fetch

/-! ## The units

No unit looks at the entry of its instruction, but to quote it. -/

section

variable (terminal : Terminal) (path : Datapath)

lemma AluUnit.tick_shown (slot : Slot AluInstruction) :
    AluUnit.tick (AluUnit.shown slot) path =
      Prod.map AluUnit.shown (Prod.map id (Option.map Fault.shown)) (AluUnit.tick slot path) := by
  cases slot with
  | none => rfl
  | some held =>
    simp only [tick, shown, Option.map_some, AluInstruction.evaluate_shown]
    split
    · cases evaluated : held.instruction.evaluate path.registers with
      | error cause => rfl
      | ok result =>
        cases result with
        | none => rfl
        | some value =>
          simp only [AluInstruction.target_shown evaluated]
          rfl
    · rfl

lemma BranchUnit.tick_shown (slot : Slot BranchInstruction) :
    BranchUnit.tick slot.shown path = Prod.map Slot.shown id (BranchUnit.tick slot path) := by
  cases slot <;> simp only [tick, Slot.shown] <;> split <;> rfl

lemma LoadUnit.tick_shown (slot : Option PendingLoad) :
    LoadUnit.tick (LoadUnit.shown slot) terminal path =
      Prod.map LoadUnit.shown id (LoadUnit.tick slot terminal path) := by
  rcases slot with _ | ⟨⟨entry, _ | ⟨target, operand⟩⟩, _ | address⟩
  case none => rfl
  all_goals
    simp only [tick, shown, Option.map_some]
    split
  case load.none.isTrue => cases path.bus.send? terminal _ <;> rfl
  case load.some.isTrue => cases path.bus.answer? terminal address <;> rfl
  all_goals rfl

lemma StoreUnit.tick_shown (slot : Slot StoreInstruction) :
    StoreUnit.tick slot.shown terminal path =
      Prod.map Slot.shown id (StoreUnit.tick slot terminal path) := by
  cases slot with
  | none => rfl
  | some held =>
    simp only [tick, Slot.shown, Option.map_some]
    split
    · cases path.bus.send? terminal _ <;> rfl
    · rfl

lemma RequestUnit.tick_shown (slot : Slot InterruptRequest) :
    RequestUnit.tick slot.shown terminal path =
      Prod.map Slot.shown id (RequestUnit.tick slot terminal path) := by
  cases slot with
  | none => rfl
  | some held =>
    simp only [tick, Slot.shown, Option.map_some]
    split
    · cases path.bus.send? terminal _ <;> rfl
    · rfl

/-- The access that the stack unit passes on, with its entry as far as its text shows it. -/
def Delegation.shown : Delegation → Delegation
  | store held => store { held with entry := held.entry.shown }
  | load held => load { held with entry := held.entry.shown }

lemma StackUnit.tick_shown (slot : Slot StackInstruction) :
    StackUnit.tick slot.shown path =
      Prod.map Slot.shown (Prod.map id (Option.map Delegation.shown))
        (StackUnit.tick slot path) := by
  rcases slot with _ | ⟨entry, _ | _ | _ | _⟩
  case none => rfl
  all_goals
    simp only [tick, Slot.shown, Option.map_some]
    split <;> rfl

end

/-! ## Ticks -/

namespace Pipeline

variable (pipeline : Pipeline) (terminal : Terminal) (path : Datapath)

lemma resolveBranch_shown :
    pipeline.shown.resolveBranch path = Prod.map shown id (pipeline.resolveBranch path) := by
  simp only [resolveBranch, shown, BranchUnit.tick_shown]
  rfl

lemma supply_shown : Prod.map shown id (pipeline.shown.supply terminal path) =
    Prod.map shown id (pipeline.supply terminal path) := by
  have fetched := Prod.ext_iff.mp (pipeline.fetch.tick_shown terminal path)
  simp only [Prod.map_fst, Prod.map_snd, id] at fetched
  have twice : Fetched.shown ∘ Fetched.shown = Fetched.shown := funext Fetched.shown_shown
  refine Prod.ext ?_ fetched.2
  simp [supply, shown, fetched.1, twice]

lemma route_shown (entry : Fetched) (instruction : Instruction) :
    pipeline.shown.route entry.shown instruction.shown path =
      showing (pipeline.route entry instruction path) := by
  rcases instruction with _ | _ | _ | _ | _ | (_ | _) | _
  case interrupt.handlerReturn =>
    simp only [Instruction.shown, route, leaveInterrupt]
    rw [show pipeline.shown.inInterrupt = pipeline.inInterrupt from rfl]
    cases pipeline.inInterrupt <;> rfl
  all_goals rfl

lemma dispatch_shown : pipeline.shown.dispatch path = showing (pipeline.dispatch path) := by
  simp only [dispatch, show pipeline.shown.fetch = pipeline.fetch.shown from rfl,
    Fetch.dispatch_shown]
  rcases pipeline.fetch.dispatch path with ⟨_ | entry, later⟩
  · rfl
  · simp only [Prod.map_apply, Option.map_some, id, Fetched.shown, CodeWords.decode_shown]
    cases entry.code.decode with
    | error cause => rfl
    | ok instruction =>
      exact route_shown { pipeline with dispatched := some entry } later entry instruction

lemma compute_shown : pipeline.shown.compute path = showing (pipeline.compute path) := by
  simp only [compute, show pipeline.shown.alu = AluUnit.shown pipeline.alu from rfl,
    AluUnit.tick_shown]
  rfl

lemma access_shown : pipeline.shown.access terminal path =
    Prod.map shown id (pipeline.access terminal path) := by
  simp only [access, show pipeline.shown.load = LoadUnit.shown pipeline.load from rfl,
    show pipeline.shown.store = pipeline.store.shown from rfl,
    show pipeline.shown.stack = pipeline.stack.shown from rfl, LoadUnit.tick_shown,
    StoreUnit.tick_shown, StackUnit.tick_shown, Prod.map_fst, Prod.map_snd, id]
  generalize LoadUnit.tick pipeline.load terminal path = loaded
  generalize StoreUnit.tick pipeline.store terminal loaded.2 = stored
  generalize StackUnit.tick pipeline.stack stored.2.retire = stacked
  rcases stacked with ⟨stack, later, _ | delegation⟩
  · simp only [Option.map_none, shown, RequestUnit.tick_shown]
    rfl
  · cases delegation <;>
      simp only [Option.map_some, Delegation.shown, delegate, shown, RequestUnit.tick_shown] <;> rfl

lemma enterInterrupt_shown :
    pipeline.shown.enterInterrupt path = (pipeline.enterInterrupt path).shown := by
  simp only [enterInterrupt, apply_ite shown]
  rfl

/-- The result of a tick as far as texts show it. -/
def tickShowing (result : Pipeline × Datapath × CoreOutcome) : Pipeline × Datapath × CoreOutcome :=
  (result.1.shown, result.2.1, result.2.2.shown)

/-- The phases of a tick after fetch's turn. -/
def afterSupply (breakpoint : Option Word) : Pipeline × Datapath × CoreOutcome :=
  match pipeline.dispatch path with
  | (pipeline, path, some fault) => (pipeline, path, .error fault)
  | (pipeline, path, none) =>
    match pipeline.compute path with
    | (pipeline, path, some fault) => (pipeline, path, .error fault)
    | (pipeline, path, none) =>
      let (pipeline, path) := pipeline.access terminal path
      (pipeline.enterInterrupt path, path.advance, .ok breakpoint)

lemma tick_eq_afterSupply : pipeline.tick terminal path =
    let (pipeline, path, breakpoint) := pipeline.resolveBranch path
    let (pipeline, path) := pipeline.supply terminal path
    pipeline.afterSupply terminal path breakpoint := rfl

lemma afterSupply_shown (breakpoint : Option Word) :
    pipeline.shown.afterSupply terminal path breakpoint =
      tickShowing (pipeline.afterSupply terminal path breakpoint) := by
  rw [afterSupply, afterSupply, dispatch_shown]
  rcases pipeline.dispatch path with ⟨dispatched, path, _ | fault⟩
  · simp only [showing, Option.map_none, compute_shown]
    rcases dispatched.compute path with ⟨computed, path, _ | fault⟩
    · simp only [Option.map_none, access_shown, Prod.map_fst, Prod.map_snd, id,
        enterInterrupt_shown]
      rfl
    · rfl
  · rfl

/-- A tick depends on no more of the instructions at hand than their texts show. -/
theorem tick_shown :
    tickShowing (pipeline.shown.tick terminal path)
      = tickShowing (pipeline.tick terminal path) := by
  simp only [tick_eq_afterSupply, resolveBranch_shown, Prod.map_fst, Prod.map_snd, id]
  generalize pipeline.resolveBranch path = resolved
  have supplied := Prod.ext_iff.mp (resolved.1.supply_shown terminal resolved.2.1)
  simp only [Prod.map_fst, Prod.map_snd, id] at supplied
  rw [← afterSupply_shown, ← afterSupply_shown, supplied.1, supplied.2]

end Pipeline

namespace Core

/-- Cores that show the same stay so for a tick, and the tick has the same effects. -/
theorem shown_tick {core other : Core} (same : core.shown = other.shown) (env : Environment) :
    (core.tick env).1.shown = (other.tick env).1.shown ∧
      (core.tick env).2.1 = (other.tick env).2.1 ∧
        (core.tick env).2.2.shown = (other.tick env).2.2.shown := by
  -- Both are compared with the core that is no more than what they show.
  have step (core : Core) : (core.shown.tick env).1.shown = (core.tick env).1.shown ∧
      (core.shown.tick env).2.1 = (core.tick env).2.1 ∧
        (core.shown.tick env).2.2.shown = (core.tick env).2.2.shown := by
    rcases core with ⟨id, terminal, registers, stages, pipeline⟩
    rcases env with ⟨bus, lines, counters⟩
    rw [show shown ⟨id, terminal, registers, stages, pipeline⟩ =
      ⟨id, terminal, registers, stages, pipeline.shown⟩ from rfl]
    simp only [tick]
    generalize lines.take id = taken
    have signalled : (if taken.1 then { pipeline.shown with interruptPending := true }
        else pipeline.shown) =
        (if taken.1 then { pipeline with interruptPending := true } else pipeline).shown := by
      cases taken.1 <;> rfl
    rw [signalled]
    have ticked := Pipeline.tick_shown
      (if taken.1 then { pipeline with interruptPending := true } else pipeline)
      terminal ⟨registers, stages, counters, bus⟩
    simp only [Pipeline.tickShowing, Prod.mk.injEq] at ticked
    simp [shown, ticked]
  obtain ⟨cores, envs, outcomes⟩ := step core
  obtain ⟨cores', envs', outcomes'⟩ := step other
  rw [same] at cores envs outcomes
  exact ⟨cores.symm.trans cores', envs.symm.trans envs', outcomes.symm.trans outcomes'⟩

/-- Ticks of a core, with something happening to its environment in front of each. -/
def ticks (core : Core) (env : Environment) :
    List (Environment → Environment) → Core × Environment × List CoreOutcome
  | [] => (core, env, [])
  | change :: rest =>
    let (core, env, outcome) := core.tick (change env)
    let (core, env, outcomes) := core.ticks env rest
    (core, env, outcome :: outcomes)

/-- Cores that show the same cannot be told apart by running them. -/
theorem shown_ticks {core other : Core} (same : core.shown = other.shown) (env : Environment)
    (changes : List (Environment → Environment)) :
    (core.ticks env changes).1.shown = (other.ticks env changes).1.shown ∧
      (core.ticks env changes).2.1 = (other.ticks env changes).2.1 ∧
        (core.ticks env changes).2.2.map CoreOutcome.shown =
          (other.ticks env changes).2.2.map CoreOutcome.shown := by
  induction changes generalizing core other env with
  | nil => exact ⟨same, rfl, rfl⟩
  | cons change rest ih =>
    obtain ⟨cores, envs, outcomes⟩ := shown_tick same (change env)
    obtain ⟨later, laterEnvs, laterOutcomes⟩ := ih cores (core.tick (change env)).2.1
    simp only [ticks, List.map_cons, outcomes, ← envs]
    exact ⟨later, laterEnvs, congrArg _ laterOutcomes⟩

end Core

/-! ## The meaning of code words -/

/-- The entry with `other` in place of `code`. -/
def Fetched.replace (code other : CodeWords) (entry : Fetched) : Fetched :=
  if entry.code = code then { entry with code := other } else entry

/-- The core as it is if it has fetched `other` wherever it has fetched `code`. -/
def Core.replace (code other : CodeWords) (core : Core) : Core :=
  { core with
    pipeline := { core.pipeline with
      fetch := { core.pipeline.fetch with
        ahead := core.pipeline.fetch.ahead.map (Fetched.replace code other)
        passed := core.pipeline.fetch.passed.map (Fetched.replace code other) } } }

lemma Core.shown_replace {code other : CodeWords} (same : code.shown = other.shown) (core : Core) :
    (core.replace code other).shown = core.shown := by
  have entry : Fetched.shown ∘ Fetched.replace code other = Fetched.shown := by
    funext entry
    by_cases found : entry.code = code
    · simp [Fetched.replace, Fetched.shown, found, same]
    · simp [Fetched.replace, found]
  simp [replace, shown, Pipeline.shown, Fetch.shown, entry]

/-- What is told about a fault: its cause, the address of the instruction, and the text of its
words. -/
def Fault.told (fault : Fault) : FaultCause × Word × String :=
  (fault.cause, fault.origin.address, fault.origin.code.text)

@[simp] lemma Fault.told_shown (fault : Fault) : fault.shown.told = fault.told := by
  simp [told, shown, Fetched.shown, CodeWords.text_shown]

lemma CoreOutcome.told_shown (outcome : CoreOutcome) :
    outcome.shown.mapError Fault.told = outcome.mapError Fault.told := by
  rcases outcome with fault | breakpoint
  · exact congrArg Except.error fault.told_shown
  · rfl

/-- Two pairs of words that mean the same. -/
structure CodeWords.SameMeaning (code other : CodeWords) : Prop where
  /-- They are invalid for the same causes. -/
  invalid : ∀ cause, code.decode = .error cause ↔ other.decode = .error cause
  /-- Otherwise both decode, and the instructions do the same. -/
  decoded : ∀ instruction, code.decode = .ok instruction →
    ∃ instruction', other.decode = .ok instruction' ∧ instruction.SameEffect instruction'
  /-- A core that has fetched one for the other does the same tick by tick, whatever goes on around
  it: it has the same registers, does the same to the links, interrupt lines and counters, and
  reports the same breakpoints and faults, but for the words that a fault quotes. -/
  executed : ∀ (core : Core) (env : Environment) (changes : List (Environment → Environment)),
    ((core.replace code other).ticks env changes).1.registers =
        (core.ticks env changes).1.registers ∧
      ((core.replace code other).ticks env changes).2.1 = (core.ticks env changes).2.1 ∧
      ((core.replace code other).ticks env changes).2.2.map (·.mapError Fault.told) =
        (core.ticks env changes).2.2.map (·.mapError Fault.told)

/-- **The text of code words determines their meaning.**  Two pairs of words with the same text are
invalid for the same cause, or decode to instructions with the same effect in every state, and no
core can tell one from the other. -/
theorem sameMeaning_of_text_eq {code other : CodeWords} (sameText : code.text = other.text) :
    code.SameMeaning other where
  invalid cause := by
    have same := CodeWords.text_eq_text_iff.mp sameText
    cases decoded : code.decode <;> cases decoded' : other.decode <;>
      simp_all [Except.map]
  decoded instruction decoded := by
    have same := CodeWords.text_eq_text_iff.mp sameText
    rw [decoded] at same
    cases decoded' : other.decode with
    | error cause => simp [decoded', Except.map] at same
    | ok instruction' =>
      rw [decoded'] at same
      exact ⟨instruction', rfl, Instruction.sameEffect_of_shown_eq (Except.ok.inj same)⟩
  executed core env changes := by
    have same := core.shown_replace (CodeWords.shown_eq_shown_iff.mpr sameText)
    obtain ⟨cores, envs, outcomes⟩ := Core.shown_ticks same env changes
    have told (outcomes : List CoreOutcome) : outcomes.map (·.mapError Fault.told) =
        (outcomes.map CoreOutcome.shown).map (·.mapError Fault.told) := by
      simp [CoreOutcome.told_shown]
    refine ⟨(Core.mk.inj cores).2.2.1, envs, ?_⟩
    rw [told, outcomes, ← told]

/-- The source of a `set` is not written, and has no say. -/
theorem sameMeaning_set :
    (⟨Word.ofBytes 1 1 1 0, 5⟩ : CodeWords).text = (⟨Word.ofBytes 1 1 1 3, 5⟩ : CodeWords).text ∧
      (⟨Word.ofBytes 1 1 1 0, 5⟩ : CodeWords).SameMeaning ⟨Word.ofBytes 1 1 1 3, 5⟩ :=
  have sameText : (⟨Word.ofBytes 1 1 1 0, 5⟩ : CodeWords).text =
      (⟨Word.ofBytes 1 1 1 3, 5⟩ : CodeWords).text := by decide +kernel
  ⟨sameText, sameMeaning_of_text_eq sameText⟩

end PipelinedMachine
