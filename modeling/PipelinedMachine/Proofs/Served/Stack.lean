import PipelinedMachine.Proofs.Core.LinkUse
import PipelinedMachine.Proofs.Served.Nesting
import PipelinedMachine.Proofs.Served.Unwritten

/-!
# The stack of a served core

A push that stores and a pop that loads are each split between the stack unit, which moves the stack
pointer, and another unit, which has the value on its way over the link for any number of ticks.
None of this shows in a program of nested pushes and pops, whatever the delays: every pop gives its
target what the matching push has stored, and in the end the stack pointer is where it was.

* `ServedCore.Stacks` — what has become of the program, as far as a run has got;
* `ServedCore.PlainlyMoves` — what a plain push or pop does;
* `ServedCore.Keeps.stacks` — a core that keeps to the sequential machine has its stack;
* `ServedCore.last_in_first_out` — **every run has**, and under a fair schedule it gets to the end
  of the program.
-/

namespace PipelinedMachine

open AddressMap PipelinedMachine.Sequential

namespace ServedCore

/-- How far a run has got with a program of nested pushes and pops, which begins with `registers`
and a memory of `words`.  The registers after an instruction are those under which the next one is
dispatched. -/
structure Stacks (registers : RegisterFile) (words : Word → Word)
    (program : List StackInstruction) (served : ServedCore) : Prop where
  /-- The instructions of the program are dispatched, one after the other. -/
  straight : ∀ k instruction dispatch, program[k]? = some instruction →
    served.dispatches[k]? = some dispatch →
      dispatch.registers.ip = registers.ip + Int32.ofNat (2 * k)
        ∧ dispatch.entry.address = dispatch.registers.ip
        ∧ dispatch.entry.code.decode = .ok (.stack instruction)
  /-- After a pop, its target holds what the source of the matching push held before the push. -/
  popped : ∀ i j source target, Matches program i j source target → ∀ pushing after,
    served.dispatches[i]? = some pushing → served.dispatches[j + 1]? = some after →
      after.registers.get target = pushing.registers.get source
  /-- After the program, the stack pointer is where it was. -/
  returned : ∀ after, served.dispatches[program.length]? = some after →
    after.registers.sp = registers.sp
  /-- Until then memory changes in the slots of the program only. -/
  kept : served.dispatches.length ≤ program.length → ∀ address ∉ touched registers.sp program,
    served.server.memory.words address = words address
  /-- Until then no fault stops the core. -/
  live : served.dispatches.length ≤ program.length → served.stopped = none

/-- If a plain push or pop comes next, then it moves the stack pointer and does nothing else,
whatever happens around the core in the meantime. -/
def PlainlyMoves (served : ServedCore) : Prop :=
  ∀ dispatch instruction, served.issue? = some dispatch →
    dispatch.entry.code.decode = .ok (.stack instruction) →
    (instruction = .push ∨ instruction = .pop) → ∀ env : Nat → Environment, env 0 = served.env →
    served.core.MovesStackTo env (instruction.move served.core.registers.sp)

section Program

variable {registers : RegisterFile} {words : Word → Word} {program : List StackInstruction}
  {served : ServedCore}

lemma not_hasWritten_of_carries (carries : (beginning registers words).Carries program) {k : Nat}
    (within : k ≤ program.length) {address : Word}
    (apart : address ∉ touched registers.sp program) :
    ¬ (Sequential.step^[k] (beginning registers words)).memory.HasWritten address := by
  intro written
  rcases carries.hasWritten_iterate within written with ⟨access, member, _⟩ | touches
  · contradiction
  · exact apart touches

lemma unwritten_of_carries (carries : (beginning registers words).Carries program) :
    (beginning registers words).Unwritten program.length := by
  intro k inside
  have apart (i : Nat) (inside : i < 2 * program.length) :
      registers.ip + Int32.ofNat i ∉ touched registers.sp program := carries.apart i inside
  have next : Int32.ofNat (2 * k) + 1 = Int32.ofNat (2 * k + 1) := (Int32.ofNat_add _ _).symm
  rw [carries.ip_iterate inside.le]
  refine ⟨not_hasWritten_of_carries carries inside.le (apart _ (by omega)),
    not_hasWritten_of_carries carries inside.le ?_⟩
  rw [Int32.add_assoc, next]
  exact apart _ (by omega)

/-- A core that keeps to the machine as far as the program goes has the stack of the machine. -/
lemma Keeps.stacks (keeps : served.Keeps words (beginning registers words) program.length)
    (sound : served.server.memory.Sound words) (nested : WellNested program)
    (carries : (beginning registers words).Carries program)
    (inRam : ∀ slot ∈ touched registers.sp program, isRam slot = true) :
    served.Stacks registers words program where
  straight k instruction dispatch here found := by
    have inside : k < program.length := (List.getElem?_eq_some_iff.mp here).1
    obtain rfl := keeps.dispatches k inside dispatch found
    exact ⟨carries.ip_iterate inside.le, rfl, carries.decode_iterate here⟩
  popped i j source target matching pushing after pushed popped := by
    have inside := matching.lt_length
    rw [keeps.registers i (by omega) pushing pushed, keeps.registers (j + 1) inside.2 after popped,
      carries.iterate_step_eq inside.2, carries.iterate_step_eq (by omega)]
    exact Sequential.get_performAll_of_matches matching inRam
  returned after found := by
    rw [keeps.registers program.length le_rfl after found, carries.iterate_step_eq le_rfl,
      List.take_length, Sequential.sp_performAll, nested.moved_eq]
    rfl
  kept few address apart :=
    (keeps.retraces few).words_eq sound (not_hasWritten_of_carries carries few apart)
  live few := by
    refine (keeps.retraces few).stopped_eq_none ?_
    rw [carries.iterate_step_eq few, Sequential.fault_performAll]
    rfl

end Program

/-- Wherever a core with any registers gets to, plain pushes and pops only move its stack
pointer. -/
lemma plainlyMoves_run (id : Nat) (registers : RegisterFile) (period : UInt32) (words : Word → Word)
    (actions : List Action) : ((starting id registers period words).run actions).PlainlyMoves := by
  intro dispatch instruction issued decoded plain env first
  generalize reached : (starting id registers period words).run actions = served at *
  cases stopped : served.stopped with
  | some fault => simp [issue?, stopped] at issued
  | none =>
    obtain ⟨standing, stands⟩ := exists_stands_run
      (fun _ => ⟨_, stands_starting id registers period words⟩) actions
      (by rw [reached, stopped])
    rw [reached] at stands
    simp only [issue?, stopped, ← first] at issued
    refine stands.core.movesStackTo issued decoded ?_
    rcases plain with rfl | rfl
    · exact Or.inl ⟨rfl, rfl⟩
    · exact Or.inr ⟨rfl, rfl⟩

/-- **The stack is last-in first-out.**  A core with any registers has a well-nested program of
pushes and pops before it; the slots of the program are in main memory and apart from the program
itself. -/
theorem last_in_first_out (id : Nat) (registers : RegisterFile) (period : UInt32)
    (words : Word → Word) {program : List StackInstruction} (nested : WellNested program)
    (held : HoldsCode words registers.ip (assemble (program.map .stack)))
    (inRam : ∀ slot ∈ touched registers.sp program, isRam slot = true)
    (apart : ∀ i < 2 * program.length,
      registers.ip + Int32.ofNat i ∉ touched registers.sp program) :
    (∀ j target, program[j]? = some (.popLoad target) →
        ∃ i source, Matches program i j source target)
      ∧ (∀ actions, .raise ∉ actions →
        ((starting id registers period words).run actions).Stacks registers words program)
      ∧ (∀ schedule, Fair schedule → ∃ time, program.length
        < ((starting id registers period words).during schedule time).dispatches.length)
      ∧ ∀ otherId otherRegisters otherPeriod otherWords actions,
        ((starting otherId otherRegisters otherPeriod otherWords).run actions).PlainlyMoves := by
  have carries : (beginning registers words).Carries program := ⟨rfl, held, apart⟩
  have starts := (retraces_starting id registers period words).keeps program.length
  have settled {actions : List Action} (calm : .raise ∉ actions) :
      ((starting id registers period words).run actions).Stacks registers words program :=
    (starts.run (unwritten_of_carries carries) calm).stacks
      (sound_run (fun _ => Or.inl rfl) actions) nested carries inRam
  refine ⟨fun j target => nested.exists_matches, fun actions => settled, fun schedule fair => ?_,
    plainlyMoves_run⟩
  obtain ⟨time, ends⟩ := (undisturbed_starting id registers period words).exists_dispatches fair
    (program.length + 1)
  refine ⟨time, ?_⟩
  rcases ends with stopped | enough
  · by_contra few
    refine stopped ((settled ?_).live (not_lt.mp few))
    simpa using fun moment _ => fair.calm moment
  · exact enough

/-- Two values go onto the stack, and each comes off it into the register of the other. -/
def swapProgram : List StackInstruction :=
  [.pushStore (Assembler.register 1), .pushStore (Assembler.register 2),
    .popLoad (Assembler.register 1), .popLoad (Assembler.register 2)]

/-- The program at the start of main memory, with a plain push behind it. -/
def swapWords (address : Word) : Word :=
  (assemble (swapProgram.map .stack ++ [.stack .push])).getD (address - ramStart).toNatClampNeg 0

/-- The two values, and a stack behind the program. -/
def swapRegisters : RegisterFile :=
  (((RegisterFile.reset ramStart).setStack 100).set (Assembler.register 1) 7).set
    (Assembler.register 2) 9

/-- After 43 rounds the values have been exchanged, and the next tick dispatches the plain push. -/
theorem exchanged_through_stack :
    let served := (starting 0 swapRegisters 1 swapWords).during inTurn (5 * 43)
    served.Stacks swapRegisters swapWords swapProgram
      ∧ served.PlainlyMoves
      ∧ served.dispatches.length = 4
      ∧ served.issue?.map (fun next => next.entry.code.decode.toOption) = some (some (.stack .push))
      ∧ served.issue?.map (fun next => (next.registers.get (Assembler.register 1),
        next.registers.get (Assembler.register 2), next.registers.sp)) = some (9, 7, 100)
      ∧ ∃ time,
        4 < ((starting 0 swapRegisters 1 swapWords).during inTurn time).dispatches.length := by
  intro served
  have nested : WellNested swapProgram := .nest _ _ (.nest _ _ .nil .nil) .nil
  -- not by deciding the `∀`, which may go through all words
  have inRam : (touched swapRegisters.sp swapProgram).all isRam = true := by decide +kernel
  obtain ⟨_, runs, ends, moves⟩ := last_in_first_out 0 swapRegisters 1 swapWords nested
    (by decide +kernel) (List.all_eq_true.mp inRam) (by decide +kernel)
  exact ⟨runs _ (by simpa using fun moment _ => fair_inTurn.calm moment), moves _ _ _ _ _,
    by decide +kernel, by decide +kernel, by decide +kernel, ends inTurn fair_inTurn⟩

end ServedCore

end PipelinedMachine
