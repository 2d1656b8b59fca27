import PipelinedMachine.Proofs.Served.Stock

/-!
# The jump to a handler

When the search for a handler ends, a jump to the handler stands among the instructions at hand, at
the address that was interrupted, and is dispatched at once.  Nothing takes it away afterwards: it
is passed and forgotten like any other instruction.  So a handler that comes back to the interrupted
address without having returned can meet the jump there, in place of the instruction that memory
holds.  This file says exactly when it does.

* `ServedCore.stock` — the instructions at hand when dispatch has its turn;
* `ServedCore.JumpsAgain` — a handler has come back to the jump that led to it;
* `Fetch.GenuineBut.find?_eq` — **one look-up**: the jump, if it is kept, and otherwise the
  instruction that memory holds;
* `ServedCore.dispatches_of_run` — **every dispatch of every run**: one for the jump at the end of a
  search, and afterwards what memory holds, unless the jump is met again;
* `ServedCore.jump_dispatched_again` — a run in which it is met again.
-/

namespace PipelinedMachine

namespace Fetch

/-! ## Looking up the address of the jump -/

/-- The jump is at hand, and no instruction with its address has been read ahead since. -/
def Keeps (fetch : Fetch) (jump : Fetched) : Prop :=
  jump ∈ fetch.ahead
    ∨ jump ∈ fetch.passed ∧ ∀ entry ∈ fetch.ahead, entry.address ≠ jump.address

section Line

variable {origin : Word → Word} {memory : Memory} {fetch : Fetch} {jump entry : Fetched}

/-- Where the jump is the oldest instruction at hand, it is found, unless an instruction behind it
has been read ahead for the same address. -/
lemma find?_of_oldest {rest : List Fetched} (first : fetch.line = jump :: rest)
    (found : fetch.find? jump.address = some entry) :
    fetch.Keeps jump ∧ entry = jump
      ∨ entry ∈ rest ∧ (fetch.Keeps jump → jump ∈ rest) := by
  cases passed : fetch.passed with
  | nil =>
    have ahead : fetch.ahead = jump :: rest := by rw [← first, line, passed, List.nil_append]
    rw [find?, ahead, List.find?_cons_of_pos (by simp)] at found
    exact Or.inl ⟨Or.inl (by simp [ahead]), (Option.some.inj found).symm⟩
  | cons oldest others =>
    rw [line, passed, List.cons_append] at first
    obtain ⟨rfl, rfl⟩ := List.cons_eq_cons.mp first
    cases newer : fetch.ahead.find? fun entry => entry.address = oldest.address with
    | some other =>
      obtain rfl : other = entry := by simpa [find?, newer] using found
      have there := List.mem_of_find?_eq_some newer
      have again : other.address = oldest.address := by simpa using List.find?_some newer
      refine Or.inr ⟨List.mem_append_right others there, ?_⟩
      rintro (ahead | ⟨_, away⟩)
      · exact List.mem_append_right others ahead
      · exact absurd again (away other there)
    | none =>
      obtain rfl : oldest = entry := by simpa [find?, newer, passed] using found
      refine Or.inl ⟨Or.inr ⟨by simp [passed], fun other member => ?_⟩, rfl⟩
      simpa using List.find?_eq_none.mp newer other member

/-- The jump, if it is kept, and otherwise the instruction that memory holds. -/
theorem GenuineBut.find?_eq (genuine : GenuineBut origin memory (some jump) fetch.line)
    (intact : memory.Intact jump.address) (found : fetch.find? jump.address = some entry) :
    (fetch.Keeps jump → entry = jump)
      ∧ (¬ fetch.Keeps jump → entry = Fetched.ofWords origin jump.address) := by
  have address := (mem_of_find? found).1
  have atHand := mem_line_of_find? found
  obtain ⟨rest, form, genuine⟩ := genuine
  have held {other : Fetched} (member : other ∈ rest) (same : other.address = jump.address) :
      other = Fetched.ofWords origin jump.address := by
    rw [← same] at intact ⊢
    exact (genuine other member).eq_ofWords intact
  rcases form with all | ⟨_, same, first⟩
  · -- the jump is only at hand if memory holds the same one
    rw [all] at atHand
    refine ⟨fun kept => ?_, fun _ => held atHand address⟩
    have kept : jump ∈ rest := by
      rw [← all, line, List.mem_append]
      exact kept.symm.imp And.left id
    rw [held atHand address, ← held kept rfl]
  · obtain rfl := Option.some.inj same
    rcases find?_of_oldest first found with ⟨kept, front⟩ | ⟨member, again⟩
    · exact ⟨fun _ => front, fun lost => absurd kept lost⟩
    · refine ⟨fun kept => ?_, fun _ => held member address⟩
      rw [held member address, ← held (again kept) rfl]

end Line

end Fetch

namespace ServedCore

/-! ## What the next tick dispatches -/

/-- The instructions at hand when dispatch has its turn in the next tick. -/
def stock (served : ServedCore) : Fetch :=
  (served.core.pipeline.fetch.tick served.core.terminal (served.core.path served.env)).1

/-- While its interrupt is being handled, the core is back at the address that was interrupted, and
the jump that was supplied there is still kept. -/
structure JumpsAgain (served : ServedCore) (jump : Fetched) : Prop where
  reading : served.core.pipeline.fetch.searching = none
  handling : served.core.pipeline.inInterrupt = true
  supplied : served.jump = some jump
  back : served.core.registers.ip = served.core.pipeline.savedIp
  kept : served.stock.Keeps jump

/-- What the next tick dispatches, in a core whose program has not written to it. -/
structure Dispatches (origin : Word → Word) (served : ServedCore) : Prop where
  /-- A search goes on without a dispatch, and in the tick that ends it the jump is dispatched. -/
  search : served.core.pipeline.fetch.searching ≠ none →
    served.stock.searching ≠ none ∧ served.issue? = none
    ∨ served.stock.searching = none ∧ ∃ handler, ∃ jump : Fetched,
        jump = ⟨served.core.pipeline.savedIp, (Assembler.jump handler).encode⟩
          ∧ served.issue? = some ⟨served.core.registers, jump⟩
          ∧ served.tickCore.jump = some jump
  /-- A jump that is met again is dispatched again. -/
  again : ∀ jump, served.JumpsAgain jump → ∀ dispatch ∈ served.issue?,
    served.view.memory.Intact dispatch.registers.ip → dispatch.entry = jump
  /-- Every other dispatch is of the words that memory holds. -/
  memory : served.core.pipeline.fetch.searching = none → ∀ dispatch ∈ served.issue?,
    served.view.memory.Intact dispatch.registers.ip →
      (dispatch.entry = Fetched.ofWords origin dispatch.registers.ip
        ↔ ∀ jump, served.JumpsAgain jump →
          jump = Fetched.ofWords origin dispatch.registers.ip)

section Stands

variable {origin : Word → Word} {served : ServedCore} {standing : Standing}

lemma Stands.idle_of_mem_issue? (stands : served.Stands origin standing)
    (running : served.stopped = none) {dispatch : Dispatch} (issued : dispatch ∈ served.issue?) :
    standing.occupancy = .idle := by
  obtain ⟨later, after, outcome, turn, _⟩ := stands.tick running
  rw [Option.mem_def.mp issued] at turn
  cases turn <;> simpa using ‹(standing.signal _).occupancy = .idle›

/-- An idle core dispatches what it has at hand at the instruction pointer. -/
lemma Stands.issue?_eq (stands : served.Stands origin standing)
    (running : served.stopped = none) (idle : standing.occupancy = .idle) :
    served.issue? = (served.stock.find? served.core.registers.ip).map fun entry =>
      ⟨served.core.registers, entry⟩ := by
  have stages := stands.core.sound.stages
  rw [idle] at stages
  have supply := Fetch.turn_tick standing.fetch served.core.terminal (served.core.path served.env)
  have kept := supply.stages_eq (Or.inr (by rw [Core.path, stages]; rfl))
  have current : (served.core.path served.env).stages.current = .dispatch := by
    rw [Core.path, stages]
    rfl
  have issue := Standing.issue?_of_dispatch current
    (Standing.supply_pipeline standing served.core.terminal (served.core.path served.env))
    (by rw [kept, current])
  rw [supply.registers_eq] at issue
  have same : served.issue? = standing.pipeline.issue? served.core.terminal
      (served.core.path served.env) := by
    simp only [issue?, running, Core.issue?, stands.core.pipeline]
  rw [same, issue, stock, stands.core.pipeline]
  rfl

lemma Stands.find?_of_mem_issue? (stands : served.Stands origin standing)
    (running : served.stopped = none) {dispatch : Dispatch} (issued : dispatch ∈ served.issue?) :
    served.stock.find? served.core.registers.ip = some dispatch.entry
      ∧ dispatch.registers = served.core.registers := by
  have issue := stands.issue?_eq running (stands.idle_of_mem_issue? running issued)
  rw [Option.mem_def.mp issued, eq_comm, Option.map_eq_some_iff] at issue
  obtain ⟨entry, found, rfl⟩ := issue
  exact ⟨found, rfl⟩

/-- A tick of a search either goes on with it or dispatches the jump. -/
lemma Stands.dispatches_of_searching (stands : served.Stands origin standing)
    (running : served.stopped = none) (searching : served.core.pipeline.fetch.searching ≠ none) :
    served.stock.searching ≠ none ∧ served.issue? = none
    ∨ served.stock.searching = none ∧ ∃ handler, ∃ jump : Fetched,
        jump = ⟨served.core.pipeline.savedIp, (Assembler.jump handler).encode⟩
          ∧ served.issue? = some ⟨served.core.registers, jump⟩
          ∧ served.tickCore.jump = some jump := by
  rw [stands.core.pipeline] at searching ⊢
  obtain ⟨phase, phase_eq⟩ := Option.ne_none_iff_exists'.mp searching
  have idle := Occupancy.stage_eq_dispatch_iff.mp (stands.core.sound.searching searching)
  have interrupted := (stands.stocked.handling searching).2
  have issue := stands.issue?_eq running idle
  have turn := Fetch.turn_tick standing.fetch served.core.terminal (served.core.path served.env)
  have stocked : served.stock = (standing.fetch.tick served.core.terminal
      (served.core.path served.env)).1 := by
    rw [stock, stands.core.pipeline]
    rfl
  rw [← stocked] at turn
  rcases turn.line_eq_of_search phase_eq stands.core.sound.forgotten with
    ⟨ongoing, vacant⟩ | ⟨handler, ended, _, ahead⟩
  · refine Or.inl ⟨ongoing, ?_⟩
    rw [issue, Option.map_eq_none_iff]
    by_contra found
    simpa [vacant] using Fetch.find?_ne_none_iff.mp found
  · have found : served.stock.find? served.core.registers.ip
        = some ⟨standing.savedIp, (Assembler.jump handler).encode⟩ := by
      rw [Fetch.find?, ahead, interrupted, List.find?_cons_of_pos]
      · rfl
      · exact decide_eq_true rfl
    rw [found, Option.map_some] at issue
    rw [← Standing.pipeline_savedIp] at issue
    refine Or.inr ⟨ended, handler, _, rfl, issue, ?_⟩
    simp only [tickCore, running, issue, Option.map_some, Fetch.jumpAfter]
    rw [if_neg (by rwa [stands.core.pipeline]), Option.some_or]

/-- A turn of reading ahead leaves genuine instructions at hand, and the jump. -/
lemma Stands.genuineBut_stock (stands : served.Stands origin standing)
    (reading : served.core.pipeline.fetch.searching = none) :
    Fetch.GenuineBut origin served.view.memory
      (if served.core.pipeline.inInterrupt then served.jump else none) served.stock.line := by
  rw [stands.core.pipeline, Standing.pipeline_fetch] at reading
  obtain ⟨_, same, line⟩ := stands.stocked.restock reading
    (Fetch.turn_tick standing.fetch served.core.terminal (served.core.path served.env))
  rw [same] at line
  rw [stock, stands.core.pipeline]
  exact line

lemma Stands.jump_address (stands : served.Stands origin standing)
    (reading : served.core.pipeline.fetch.searching = none)
    (handling : served.core.pipeline.inInterrupt = true) {jump : Fetched}
    (supplied : served.jump = some jump) : jump.address = served.core.pipeline.savedIp := by
  rw [stands.core.pipeline] at reading handling ⊢
  exact stands.stocked.jump jump supplied handling reading

/-- A jump that is met again is dispatched again. -/
lemma Stands.entry_of_jumpsAgain (stands : served.Stands origin standing)
    (running : served.stopped = none) {jump : Fetched} (again : served.JumpsAgain jump)
    {dispatch : Dispatch} (issued : dispatch ∈ served.issue?)
    (intact : served.view.memory.Intact dispatch.registers.ip) : dispatch.entry = jump := by
  obtain ⟨found, registers⟩ := stands.find?_of_mem_issue? running issued
  have address := stands.jump_address again.reading again.handling again.supplied
  rw [← again.back] at address
  have line := stands.genuineBut_stock again.reading
  rw [if_pos again.handling, again.supplied] at line
  rw [registers, ← address] at intact
  rw [← address] at found
  exact (line.find?_eq intact found).1 again.kept

/-- Unless it meets the jump again, a core that reads ahead dispatches what memory holds. -/
lemma Stands.entry_of_not_jumpsAgain (stands : served.Stands origin standing)
    (running : served.stopped = none) (reading : served.core.pipeline.fetch.searching = none)
    (never : ∀ jump, ¬ served.JumpsAgain jump) {dispatch : Dispatch}
    (issued : dispatch ∈ served.issue?)
    (intact : served.view.memory.Intact dispatch.registers.ip) :
    dispatch.entry = Fetched.ofWords origin dispatch.registers.ip := by
  obtain ⟨found, registers⟩ := stands.find?_of_mem_issue? running issued
  have address := (Fetch.mem_of_find? found).1
  have line := stands.genuineBut_stock reading
  rw [registers, ← address] at intact ⊢
  rcases line.of_mem (Fetch.mem_line_of_find? found) with supplied | genuine
  · obtain ⟨handling, supplied⟩ := Option.ite_none_right_eq_some.mp supplied
    have back := stands.jump_address reading handling supplied
    rw [if_pos handling, supplied] at line
    refine (line.find?_eq intact (by rwa [address])).2 fun kept => ?_
    exact never _ ⟨reading, handling, supplied, address.symm.trans back, kept⟩
  · exact genuine.eq_ofWords intact

lemma Stands.dispatches (stands : served.Stands origin standing)
    (running : served.stopped = none) : served.Dispatches origin where
  search := stands.dispatches_of_searching running
  again := fun _ again _ issued => stands.entry_of_jumpsAgain running again issued
  memory := by
    intro reading dispatch issued intact
    constructor
    · intro same jump again
      rw [← stands.entry_of_jumpsAgain running again issued intact, same]
    · intro harmless
      by_cases met : ∃ jump, served.JumpsAgain jump
      · obtain ⟨jump, again⟩ := met
        rw [stands.entry_of_jumpsAgain running again issued intact]
        exact harmless jump again
      · exact stands.entry_of_not_jumpsAgain running reading (not_exists.mp met) issued intact

end Stands

/-! ## Every run -/

/-- The jump to a handler is dispatched when the search for the handler ends.  Every other dispatch
is of the words that memory holds, unless the handler meets the jump again. -/
theorem dispatches_of_run (id : Nat) (entry : Word) (period : UInt32) (words : Word → Word)
    (actions : List Action) (running : ((reset id entry period words).run actions).stopped = none) :
    ((reset id entry period words).run actions).Dispatches words := by
  obtain ⟨standing, stands⟩ := exists_stands_run
    (fun _ => ⟨_, stands_reset id entry period words⟩) actions running
  exact stands.dispatches running

/-- A loop of two instructions, which is also the handler of interrupt 40. -/
def loopWords (address : Word) : Word :=
  if address = AddressMap.lastInterrupt then 40
  else if address = AddressMap.vectorStart + 40 then 512
  else (assemble [Assembler.setLiteral (Assembler.register 1) 7, Assembler.jump 512]).getD
    (address - 512).toNatClampNeg 0

/-- Everything ticks in turn, and the line is raised after seventeen rounds, when the loop is about
to begin again. -/
def loopActions (rounds : Nat) : List Action :=
  let round : List Action := [.core, .link, .take, .serve, .reply]
  (List.replicate 17 round).flatten ++ .raise :: (List.replicate rounds round).flatten

/-- After 21 rounds more, the search ends in the next tick and the jump is dispatched. -/
theorem dispatches_interrupted_loop :
    let served := (reset 0 512 1 loopWords).run (loopActions 21)
    served.stopped = none
      ∧ served.core.pipeline.fetch.searching ≠ none
      ∧ served.issue?.map Dispatch.entry = some ⟨512, (Assembler.jump 512).encode⟩
      ∧ served.Dispatches loopWords := by
  intro served
  have running : served.stopped = none := by decide +kernel
  exact ⟨running, by decide +kernel, by decide +kernel,
    dispatches_of_run 0 512 1 loopWords (loopActions 21) running⟩

/-- Two rounds later the jump is dispatched again, in place of the first instruction of the loop. -/
theorem jump_dispatched_again :
    let served := (reset 0 512 1 loopWords).run (loopActions 23)
    let jump : Fetched := ⟨512, (Assembler.jump 512).encode⟩
    served.core.pipeline.fetch.searching = none
      ∧ served.dispatches.getLast?.map Dispatch.entry = some jump
      ∧ served.issue?.map Dispatch.entry = some jump
      ∧ served.view.memory.Intact 512
      ∧ jump ≠ Fetched.ofWords loopWords 512 := by
  intro served jump
  exact ⟨by decide +kernel, by decide +kernel, by decide +kernel, by decide +kernel,
    by decide +kernel⟩

end ServedCore

end PipelinedMachine
