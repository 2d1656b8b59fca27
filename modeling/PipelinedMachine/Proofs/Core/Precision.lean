import PipelinedMachine.Proofs.Core.Interruption

/-!
# Faults name their instruction

A fault is found in one of two places: dispatch meets words that are no instruction, or a return
while no handler runs; and the arithmetic unit, one tick later, meets operands it cannot divide.  In
both ticks the branch unit and fetch have already had their turns.  All the same the instruction
pointer still stands at the instruction that faults, and no register has been touched since it was
dispatched.

* `Fetched.Rejected`, `Fetched.Traps` — the instructions that dispatch and that the arithmetic unit
  cannot carry out, and for which cause;
* `Core.Culprit` — what a faulting tick leaves of a core;
* `Core.Run.FaultsPrecise` — what holds of every tick of a run;
* `Core.Run.faultsPrecise` — **it holds of every run**.

A trap needs no invariant over the whole run: an instruction is in the arithmetic unit for one tick
only, so the tick before was the one that dispatched it (`Standing.Turn.issued_of_alu`).
-/

namespace PipelinedMachine

/-! ## Instructions that cannot be carried out -/

/-- Dispatch cannot hand the instruction to a unit; `handling` says whether a handler runs. -/
inductive Fetched.Rejected (entry : Fetched) (handling : Bool) : FaultCause → Prop where
  | undecodable {cause : FaultCause} (decoded : entry.code.decode = .error cause) :
      Rejected entry handling cause
  | stray (decoded : entry.code.decode = .ok (.interrupt .handlerReturn))
      (free : handling = false) : Rejected entry handling .returnOutsideInterrupt

/-- The instruction is a division that has no result under these registers. -/
inductive Fetched.Traps (entry : Fetched) (registers : RegisterFile) : FaultCause → Prop where
  | byZero {operand : Operand} {target source : Register}
      (decoded : entry.code.decode = .ok (.alu ⟨.arithmetic .divide operand, target, source⟩))
      (divisor : operand.value registers = 0) : Traps entry registers .divideByZero
  | overflow {operand : Operand} {target source : Register}
      (decoded : entry.code.decode = .ok (.alu ⟨.arithmetic .divide operand, target, source⟩))
      (dividend : registers.get source = Int32.minValue)
      (divisor : operand.value registers = -1) : Traps entry registers .divideOverflow

/-- Only a division by zero, or of the smallest word by minus one, has no result. -/
lemma Arithmetic.apply_eq_error_iff {operation : Arithmetic} {lhs rhs : Word}
    {cause : FaultCause} :
    operation.apply lhs rhs = .error cause
      ↔ operation = .divide ∧ (rhs = 0 ∧ cause = .divideByZero
          ∨ lhs = Int32.minValue ∧ rhs = -1 ∧ cause = .divideOverflow) := by
  cases operation with
  | add | subtract | multiply => simp [Arithmetic.apply]
  | divide =>
    have apart : (-1 : Word) ≠ 0 := by decide
    simp only [Arithmetic.apply, true_and]
    split_ifs with zero extremes
    · subst zero
      simp [apart.symm, eq_comm]
    · obtain ⟨rfl, rfl⟩ := extremes
      simp [apart, eq_comm]
    · simp only [false_iff, not_or, not_and]
      exact ⟨fun same => absurd same zero, fun first second => absurd ⟨first, second⟩ extremes⟩

/-- The arithmetic unit refuses exactly the divisions that have no result. -/
lemma Fetched.traps_iff {entry : Fetched} {instruction : AluInstruction}
    (decoded : entry.code.decode = .ok (.alu instruction)) {registers : RegisterFile}
    {cause : FaultCause} :
    entry.Traps registers cause ↔ instruction.evaluate registers = .error cause := by
  constructor
  · intro traps
    cases traps with
    | byZero form zero =>
      obtain rfl := by simpa only [decoded, Except.ok.injEq, Instruction.alu.injEq] using form
      simp only [AluInstruction.evaluate,
        Arithmetic.apply_eq_error_iff.mpr ⟨rfl, Or.inl ⟨zero, rfl⟩⟩, Except.map]
    | overflow form dividend divisor =>
      obtain rfl := by simpa only [decoded, Except.ok.injEq, Instruction.alu.injEq] using form
      simp only [AluInstruction.evaluate,
        Arithmetic.apply_eq_error_iff.mpr ⟨rfl, Or.inr ⟨dividend, divisor, rfl⟩⟩, Except.map]
  · intro refused
    obtain ⟨operation, target, source⟩ := instruction
    cases operation with
    | nop | set | copy => simp [AluInstruction.evaluate] at refused
    | arithmetic operation operand =>
      simp only [AluInstruction.evaluate] at refused
      cases result : operation.apply (registers.get source) (operand.value registers) with
      | ok value => simp [result, Except.map] at refused
      | error found =>
        obtain rfl : found = cause := by simpa [result, Except.map] using refused
        obtain ⟨rfl, ⟨zero, rfl⟩ | ⟨dividend, divisor, rfl⟩⟩ :=
          Arithmetic.apply_eq_error_iff.mp result
        · exact .byZero decoded zero
        · exact .overflow decoded dividend divisor

/-- Only the arithmetic unit traps. -/
lemma Fetched.Traps.exists_alu {entry : Fetched} {registers : RegisterFile} {cause : FaultCause}
    (traps : entry.Traps registers cause) :
    ∃ instruction, entry.code.decode = .ok (.alu instruction) := by
  cases traps with
  | byZero decoded | overflow decoded => exact ⟨_, decoded⟩

/-! ## One tick -/

namespace Standing

section Turn

variable {terminal : Terminal} {standing later : Standing} {path after : Datapath}
  {issue : Option Dispatch} {outcome : CoreOutcome}

/-- An instruction is in the arithmetic unit because it was dispatched in the tick before. -/
lemma Turn.issued_of_alu (turn : Turn terminal path standing later after issue outcome)
    {held : Held AluInstruction} (holds : later.occupancy = .alu held) :
    issue = some ⟨after.registers, held.entry⟩
      ∧ held.entry.code.decode = .ok (.alu held.instruction) := by
  cases turn with
  | stalled _ _ here | returned _ _ _ here | undecodable _ _ _ _ here | stray _ _ _ here =>
    simp [here] at holds
  | issued fetch between entry instruction occupancy here supply found decoded taken =>
    obtain rfl : occupancy = .alu held := holds
    rcases instruction with _ | instruction | _ | _ | _ | (_ | _) | _ <;>
      simp only [Occupancy.ofInstruction?, Option.some.injEq, reduceCtorEq,
        Occupancy.alu.injEq] at taken
    subst taken
    exact ⟨rfl, decoded⟩
  | resolved fetch between here supply =>
    rw [enter] at holds
    split at holds <;> simp at holds
  | trapped => simp at holds
  | worked fetch between final occupancy here supply work =>
    obtain rfl : occupancy = .alu held := holds
    generalize standing.occupancy = before at work
    cases work

/-- What is dispatched is found at the instruction pointer. -/
lemma Turn.address_of_issue {dispatch : Dispatch}
    (turn : Turn terminal path standing later after (some dispatch) outcome) :
    dispatch.registers = path.registers ∧ dispatch.entry.address = path.registers.ip := by
  cases turn with
  | issued fetch between entry instruction occupancy here supply found
  | returned fetch between entry here supply found
  | undecodable fetch between entry cause here supply found
  | stray fetch between entry here supply found =>
    have same := supply.registers_eq
    exact ⟨same, same ▸ (Fetch.mem_of_find? found).1⟩

/-- A fault belongs to what this tick dispatches, or to what the arithmetic unit holds. -/
lemma Turn.of_fault {fault : Fault}
    (turn : Turn terminal path standing later after issue (.error fault)) :
    after.registers = path.registers
      ∧ (issue = some ⟨path.registers, fault.origin⟩
          ∧ later.dispatched = some fault.origin
          ∧ fault.origin.Rejected standing.inInterrupt fault.cause
        ∨ issue = none ∧ later.dispatched = standing.dispatched
          ∧ ∃ held, standing.occupancy = .alu held ∧ held.entry = fault.origin
            ∧ held.instruction.evaluate path.registers = .error fault.cause) := by
  cases turn with
  | undecodable fetch between entry cause here supply found decoded =>
    have same : between.registers = path.registers := supply.registers_eq
    exact ⟨same, Or.inl ⟨by rw [same]; rfl, rfl, .undecodable decoded⟩⟩
  | stray fetch between entry here supply found decoded running =>
    have same : between.registers = path.registers := supply.registers_eq
    exact ⟨same, Or.inl ⟨by rw [same]; rfl, rfl, .stray decoded running⟩⟩
  | trapped fetch between held cause here supply result =>
    have same : after.registers = path.registers := supply.registers_eq
    rw [same] at result
    exact ⟨same, Or.inr ⟨rfl, rfl, held, here, rfl, result⟩⟩

/-- What dispatch cannot carry out is a fault. -/
lemma Turn.fault_of_rejected {dispatch : Dispatch}
    (turn : Turn terminal path standing later after (some dispatch) outcome)
    {cause : FaultCause} (rejected : dispatch.entry.Rejected standing.inInterrupt cause) :
    outcome = .error (dispatch.entry.fault cause) := by
  cases rejected with
  | undecodable decoded =>
    cases turn with
    | issued _ _ _ _ _ _ _ _ decoded' | returned _ _ _ _ _ _ decoded'
    | stray _ _ _ _ _ _ decoded' => simp [decoded] at decoded'
    | undecodable fetch between entry cause' here supply found decoded' =>
      obtain rfl := by simpa only [decoded, Except.error.injEq] using decoded'
      rfl
  | stray decoded free =>
    rcases turn.of_handlerReturn decoded with ⟨handling, -⟩ | ⟨-, refused⟩
    · exact absurd (handling.symm.trans free) (by decide)
    · exact refused

/-- What the arithmetic unit holds and cannot compute is a fault. -/
lemma Turn.fault_of_trap (turn : Turn terminal path standing later after issue outcome)
    {held : Held AluInstruction} (holds : standing.occupancy = .alu held) {cause : FaultCause}
    (refused : held.instruction.evaluate path.registers = .error cause) :
    outcome = .error (held.entry.fault cause) := by
  cases turn with
  | stalled _ _ here | issued _ _ _ _ _ here | returned _ _ _ here | undecodable _ _ _ _ here
  | stray _ _ _ here => simp [here] at holds
  | resolved _ _ here => simp [holds, Occupancy.stage] at here
  | trapped fetch between held' cause' here supply result =>
    obtain rfl := by simpa only [holds, Occupancy.alu.injEq] using here
    rw [supply.registers_eq, refused, Except.error.injEq] at result
    rw [result]
  | worked fetch between final occupancy here supply work =>
    rw [holds] at work
    cases work with
    | computed _ _ result | computedNothing _ result =>
      rw [supply.registers_eq, refused] at result
      contradiction

/-- A division that is dispatched goes to the arithmetic unit as it is. -/
lemma Turn.alu_of_issue {dispatch : Dispatch}
    (turn : Turn terminal path standing later after (some dispatch) outcome)
    {instruction : AluInstruction} (decoded : dispatch.entry.code.decode = .ok (.alu instruction)) :
    outcome = .ok none ∧ later.occupancy = .alu ⟨dispatch.entry, instruction⟩
      ∧ after.registers = dispatch.registers := by
  cases turn with
  | issued fetch between entry instruction' occupancy here supply found decoded' taken =>
    obtain rfl := by simpa only [decoded, Except.ok.injEq] using decoded'
    obtain rfl := Option.some.inj taken
    exact ⟨rfl, rfl, rfl⟩
  | returned _ _ _ _ _ _ decoded' | stray _ _ _ _ _ _ decoded' | undecodable _ _ _ _ _ _ _ decoded' =>
    simp [decoded] at decoded'

end Turn

end Standing

/-! ## Runs -/

namespace Core

/-- What a tick that ends in `fault` finds and leaves. -/
structure Culprit (before after : Core) (fault : Fault) : Prop where
  /-- The instruction pointer stands at the instruction that faults. -/
  address : fault.origin.address = before.registers.ip
  /-- The instruction is the one dispatched last. -/
  dispatched : after.pipeline.dispatched = some fault.origin
  /-- No general register, nor the stack pointer or the instruction pointer, has moved. -/
  registers : after.registers = before.registers

namespace Run

/-- Every fault names an instruction that cannot be carried out, and every such instruction
faults. -/
structure FaultsPrecise (run : Run) : Prop where
  culprit : ∀ i < run.length, ∀ fault, run.outcome i = .error fault →
    Culprit (run.core i) (run.core (i + 1)) fault
  /-- The instruction has been dispatched under the registers as they still are: in the same tick
  if dispatch rejects it, in the tick before if the arithmetic unit traps. -/
  reason : ∀ i < run.length, ∀ fault, run.outcome i = .error fault →
    run.issue? i = some ⟨(run.core i).registers, fault.origin⟩
        ∧ fault.origin.Rejected (run.core i).pipeline.inInterrupt fault.cause
      ∨ run.issue? i = none
        ∧ (∃ j, j + 1 = i ∧ run.issue? j = some ⟨(run.core i).registers, fault.origin⟩)
        ∧ fault.origin.Traps (run.core i).registers fault.cause
  rejected : ∀ i < run.length, ∀ dispatch, run.issue? i = some dispatch →
    ∀ cause, dispatch.entry.Rejected (run.core i).pipeline.inInterrupt cause →
      run.outcome i = .error (dispatch.entry.fault cause)
  /-- A division without a result is dispatched all the same, and faults in the next tick. -/
  traps : ∀ i < run.length, ∀ dispatch, run.issue? i = some dispatch →
    ∀ cause, dispatch.entry.Traps dispatch.registers cause →
      run.outcome i = .ok none
        ∧ (i + 1 < run.length → run.outcome (i + 1) = .error (dispatch.entry.fault cause))
  /-- Whatever the arithmetic unit holds and cannot compute faults. -/
  executing : ∀ i < run.length, ∀ held, (run.core i).pipeline.alu = some held →
    ∀ cause, held.instruction.evaluate (run.core i).registers = .error cause →
      run.outcome i = .error (held.entry.fault cause)

section Ticks

variable {run : Run} {i : Nat} {standing later : Standing} {after : Datapath}

lemma Ticks.inInterrupt_eq (ticks : run.Ticks i standing later after) :
    (run.core i).pipeline.inInterrupt = standing.inInterrupt := by
  rw [ticks.units]
  rfl

lemma Ticks.registers_next (ticks : run.Ticks i standing later after) :
    (run.core (i + 1)).registers = after.registers := by
  rw [ticks.next]

/-- An instruction in the arithmetic unit was dispatched in the tick before, under the registers as
they still are. -/
lemma Ticks.exists_issue_of_alu (ticks : run.Ticks i standing later after)
    (inside : i < run.length) {held : Held AluInstruction}
    (holds : standing.occupancy = .alu held) :
    held.entry.code.decode = .ok (.alu held.instruction)
      ∧ ∃ j, j + 1 = i ∧ run.issue? j = some ⟨(run.core i).registers, held.entry⟩ := by
  have slot : (run.core i).pipeline.alu = some held := by
    rw [ticks.units]
    simp [Standing.pipeline, holds, Occupancy.alu?]
  cases i with
  | zero => simp [core, Core.after, reset] at slot
  | succ j =>
    obtain ⟨before, between, rest, earlier⟩ := run.exists_ticks (i := j) (by omega)
    have holds' : between.occupancy = .alu held := by
      rw [earlier.next] at slot
      cases here : between.occupancy <;>
        simp only [Standing.pipeline, here, Occupancy.alu?, Option.some.injEq, reduceCtorEq]
          at slot
      rw [slot]
    obtain ⟨issued, decoded⟩ := earlier.turn.issued_of_alu holds'
    exact ⟨decoded, j, rfl, by rw [issued, earlier.registers_next]⟩

lemma culprit_of_fault (inside : i < run.length) {fault : Fault}
    (faults : run.outcome i = .error fault) :
    Culprit (run.core i) (run.core (i + 1)) fault
      ∧ (run.issue? i = some ⟨(run.core i).registers, fault.origin⟩
          ∧ fault.origin.Rejected (run.core i).pipeline.inInterrupt fault.cause
        ∨ run.issue? i = none
          ∧ (∃ j, j + 1 = i ∧ run.issue? j = some ⟨(run.core i).registers, fault.origin⟩)
          ∧ fault.origin.Traps (run.core i).registers fault.cause) := by
  obtain ⟨standing, later, after, ticks⟩ := run.exists_ticks inside
  have turn := ticks.turn
  rw [faults] at turn
  have unchanged : (run.core (i + 1)).registers = (run.core i).registers :=
    ticks.registers_next.trans turn.of_fault.1
  rw [ticks.inInterrupt_eq]
  obtain ⟨-, ⟨issued, last, rejected⟩ | ⟨silent, last, held, holds, same, refused⟩⟩ := turn.of_fault
  · rw [issued] at turn
    refine ⟨⟨turn.address_of_issue.2, ?_, unchanged⟩, Or.inl ⟨issued, rejected⟩⟩
    rw [ticks.next]
    exact last
  · obtain ⟨decoded, j, next, issued⟩ := ticks.exists_issue_of_alu inside holds
    obtain ⟨dispatched, address⟩ := ticks.sound.held held.entry (by rw [holds]; rfl)
    rw [same] at decoded issued dispatched address
    refine ⟨⟨address, ?_, unchanged⟩, Or.inr ⟨silent, ⟨j, next, issued⟩, ?_⟩⟩
    · rw [ticks.next]
      exact last.trans dispatched
    · exact (Fetched.traps_iff decoded).mpr refused

lemma fault_of_trap (inside : i < run.length) {held : Held AluInstruction}
    (holds : (run.core i).pipeline.alu = some held) {cause : FaultCause}
    (refused : held.instruction.evaluate (run.core i).registers = .error cause) :
    run.outcome i = .error (held.entry.fault cause) := by
  obtain ⟨standing, later, after, ticks⟩ := run.exists_ticks inside
  rw [ticks.units] at holds
  have holding : standing.occupancy = .alu held := by
    cases here : standing.occupancy <;>
      simp only [Standing.pipeline, here, Occupancy.alu?, Option.some.injEq, reduceCtorEq] at holds
    rw [holds]
  exact ticks.turn.fault_of_trap holding refused

lemma fault_of_traps (inside : i < run.length) {dispatch : Dispatch}
    (issued : run.issue? i = some dispatch) {cause : FaultCause}
    (traps : dispatch.entry.Traps dispatch.registers cause) :
    run.outcome i = .ok none
      ∧ (i + 1 < run.length → run.outcome (i + 1) = .error (dispatch.entry.fault cause)) := by
  obtain ⟨instruction, decoded⟩ := traps.exists_alu
  obtain ⟨standing, later, after, ticks⟩ := run.exists_ticks inside
  have turn := ticks.turn
  rw [issued] at turn
  obtain ⟨live, holds, registers⟩ := turn.alu_of_issue decoded
  have slot : (run.core (i + 1)).pipeline.alu = some ⟨dispatch.entry, instruction⟩ := by
    rw [ticks.next]
    simp [Standing.pipeline, holds, Occupancy.alu?]
  have refused : instruction.evaluate (run.core (i + 1)).registers = .error cause := by
    rw [ticks.registers_next, registers]
    exact (Fetched.traps_iff decoded).mp traps
  exact ⟨live, fun next => fault_of_trap next slot refused⟩

end Ticks

/-- Faults are precise in every run. -/
theorem faultsPrecise (run : Run) : run.FaultsPrecise where
  culprit := fun _ inside _ faults => (culprit_of_fault inside faults).1
  reason := fun _ inside _ faults => (culprit_of_fault inside faults).2
  rejected := by
    intro i inside dispatch issued cause rejected
    obtain ⟨standing, later, after, ticks⟩ := run.exists_ticks inside
    rw [ticks.inInterrupt_eq] at rejected
    have turn := ticks.turn
    rw [issued] at turn
    exact turn.fault_of_rejected rejected
  traps := fun _ inside _ issued _ => fault_of_traps inside issued
  executing := fun _ inside _ holds _ => fault_of_trap inside holds

end Run

end Core

end PipelinedMachine
