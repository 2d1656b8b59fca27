import Mathlib.Data.List.Basic
import PipelinedMachine.Proofs.Served.Sequential
import PipelinedMachine.Proofs.Served.Questions

/-!
# Nested pushes and pops

A value is pushed by a store to the old top of the stack and popped by a load from the new one.
This file follows the sequential machine through a straight-line program of such instructions.
The slots are counted down from the first one, so what is pushed further in lies below, and a slot
holds its value until it is popped.

* `StackInstruction.slot?`, `touched` — the slots that instructions access;
* `WellNested` — every pop takes back what the push before it has left;
* `Matches`, `WellNested.exists_matches` — which push that is, and that there is one;
* `WellNested.exists_height` — the slots that a well-nested program touches are the topmost ones;
* `Sequential.performAll` — the instructions of a program, one after the other;
* `Sequential.get_performAll_of_matches` — **last in, first out**;
* `Sequential.Carries`, `Sequential.Carries.iterate_step_eq` — a machine whose memory holds the
  program performs it.
-/

namespace PipelinedMachine

open AddressMap

/-! ## Slots -/

namespace StackInstruction

/-- The stack pointer after the instruction. -/
def move (sp : Word) : StackInstruction → Word
  | push | pushStore _ => sp - 1
  | pop | popLoad _ => sp + 1

/-- The slot that is accessed. -/
def slot? (sp : Word) : StackInstruction → Option Word
  | push | pop => none
  | pushStore _ => some (ramStart + sp)
  | popLoad _ => some (ramStart + (sp + 1))

end StackInstruction

/-- The stack pointer after some instructions. -/
def moved (sp : Word) (program : List StackInstruction) : Word :=
  program.foldl StackInstruction.move sp

/-- The slots that some instructions access, in their order. -/
def touched (sp : Word) : List StackInstruction → List Word
  | [] => []
  | instruction :: rest => (instruction.slot? sp).toList ++ touched (instruction.move sp) rest

lemma moved_append (sp : Word) (first second : List StackInstruction) :
    moved sp (first ++ second) = moved (moved sp first) second :=
  List.foldl_append

lemma touched_append (sp : Word) (first second : List StackInstruction) :
    touched sp (first ++ second) = touched sp first ++ touched (moved sp first) second := by
  induction first generalizing sp with
  | nil => rfl
  | cons instruction rest ih => simp only [List.cons_append, touched, ih, List.append_assoc]; rfl

/-! ## Nesting -/

/-- A sequence of pushes and pops in which every pop takes back what the push before it has left,
with a well-nested sequence in between. -/
inductive WellNested : List StackInstruction → Prop where
  | nil : WellNested []
  | nest (source target : Register) {inner rest : List StackInstruction}
      (inside : WellNested inner) (behind : WellNested rest) :
      WellNested (.pushStore source :: (inner ++ .popLoad target :: rest))

/-- Instruction `j` of the program pops into `target` what instruction `i` pushes from `source`. -/
def Matches (program : List StackInstruction) (i j : Nat) (source target : Register) : Prop :=
  ∃ before inner after, program
      = before ++ .pushStore source :: (inner ++ .popLoad target :: after)
    ∧ WellNested inner ∧ before.length = i ∧ i + inner.length + 1 = j

/-- What matches in a part of a program matches in the whole. -/
lemma Matches.within {program : List StackInstruction} {i j : Nat} {source target : Register}
    (matching : Matches program i j source target) (front back : List StackInstruction) :
    Matches (front ++ (program ++ back)) (front.length + i) (front.length + j) source target := by
  obtain ⟨before, inner, after, rfl, nested, rfl, rfl⟩ := matching
  exact ⟨front ++ before, inner, after ++ back, by simp, nested, by simp, by omega⟩

lemma Matches.lt_length {program : List StackInstruction} {i j : Nat} {source target : Register}
    (matching : Matches program i j source target) : i < j ∧ j < program.length := by
  obtain ⟨before, inner, after, rfl, _, rfl, rfl⟩ := matching
  simp only [List.length_append, List.length_cons]
  omega

namespace WellNested

variable {program inner : List StackInstruction}

/-- In the end the stack pointer is where it was. -/
lemma moved_eq (nested : WellNested program) (sp : Word) : moved sp program = sp := by
  induction nested generalizing sp with
  | nil => rfl
  | @nest source target inner rest inside behind ihInside ihBehind =>
    calc
      moved sp (.pushStore source :: (inner ++ .popLoad target :: rest))
        = moved (moved (sp - 1) inner + 1) rest := moved_append (sp - 1) inner _
      _ = moved sp rest := by rw [ihInside, Int32.sub_add_cancel]
      _ = sp := ihBehind sp

/-- Every pop has its push. -/
theorem exists_matches (nested : WellNested program) {j : Nat} {target : Register}
    (pops : program[j]? = some (.popLoad target)) :
    ∃ i source, Matches program i j source target := by
  induction nested generalizing j with
  | nil => simp at pops
  | @nest source last inner rest inside behind ihInside ihBehind =>
    cases j with
    | zero => simp at pops
    | succ j =>
      rw [List.getElem?_cons_succ] at pops
      rcases lt_trichotomy j inner.length with inside' | rfl | behind'
      · rw [List.getElem?_append_left inside'] at pops
        obtain ⟨i, source', matching⟩ := ihInside pops
        refine ⟨1 + i, source', ?_⟩
        rw [Nat.add_comm j]
        exact matching.within [.pushStore source] (.popLoad last :: rest)
      · rw [List.getElem?_append_right le_rfl, Nat.sub_self, List.getElem?_cons_zero,
          Option.some.injEq, StackInstruction.popLoad.injEq] at pops
        subst pops
        exact ⟨0, source, [], inner, rest, rfl, inside, rfl, by omega⟩
      · obtain ⟨k, rfl⟩ := Nat.exists_eq_add_of_lt behind'
        rw [List.getElem?_append_right (by omega),
          show inner.length + k + 1 - inner.length = k + 1 by omega,
          List.getElem?_cons_succ] at pops
        obtain ⟨i, source', matching⟩ := ihBehind pops
        refine ⟨inner.length + 2 + i, source', ?_⟩
        have whole := matching.within (.pushStore source :: (inner ++ [.popLoad last])) []
        simpa [Nat.add_assoc, Nat.add_comm, Nat.add_left_comm] using whole

/-! ### The slots of a well-nested program -/

lemma mem_touched_nest (inside : WellNested inner) (source target : Register)
    (rest : List StackInstruction) (sp slot : Word) :
    slot ∈ touched sp (.pushStore source :: (inner ++ .popLoad target :: rest))
      ↔ slot = ramStart + sp ∨ slot ∈ touched (sp - 1) inner ∨ slot ∈ touched sp rest := by
  have slots : touched sp (.pushStore source :: (inner ++ .popLoad target :: rest))
      = [ramStart + sp] ++ (touched (sp - 1) inner
        ++ ([ramStart + sp] ++ touched sp rest)) := by
    change [ramStart + sp] ++ touched (sp - 1) (inner ++ _) = _
    rw [touched_append, inside.moved_eq]
    change _ ++ (_ ++ ([ramStart + (sp - 1 + 1)] ++ touched (sp - 1 + 1) rest)) = _
    rw [Int32.sub_add_cancel]
  rw [slots]
  simp only [List.mem_append, List.mem_singleton]
  tauto

/-- They are the topmost ones, however deep the nesting. -/
lemma exists_height (nested : WellNested program) :
    ∃ height : Nat, ∀ sp slot, slot ∈ touched sp program
      ↔ ∃ k < height, slot = ramStart + (sp - Int32.ofNat k) := by
  induction nested with
  | nil => exact ⟨0, fun sp slot => by simp [touched]⟩
  | @nest source target inner rest inside behind ihInside ihBehind =>
    obtain ⟨deep, inner⟩ := ihInside
    obtain ⟨wide, rest⟩ := ihBehind
    have below (sp : Word) (k : Nat) :
        sp - 1 - Int32.ofNat k = sp - Int32.ofNat (k + 1) := by
      rw [Int32.ofNat_add]
      grind
    refine ⟨max (deep + 1) wide, fun sp slot => ?_⟩
    rw [mem_touched_nest inside, inner, rest]
    constructor
    · rintro (rfl | ⟨k, less, rfl⟩ | ⟨k, less, rfl⟩)
      · exact ⟨0, by omega, by simp⟩
      · exact ⟨k + 1, by omega, by rw [below]⟩
      · exact ⟨k, by omega, rfl⟩
    · rintro ⟨k, less, rfl⟩
      cases k with
      | zero => exact Or.inl (by simp)
      | succ k =>
        by_cases shallow : k < deep
        · exact Or.inr (Or.inl ⟨k, shallow, by rw [below]⟩)
        · exact Or.inr (Or.inr ⟨k + 1, by omega, rfl⟩)

/-- The slot on top is not among those below it.  Otherwise these would go round all addresses, and
not all of them are in main memory. -/
lemma notMem_touched (nested : WellNested program) {sp : Word}
    (inRam : ∀ slot ∈ touched (sp - 1) program, isRam slot = true) :
    ramStart + sp ∉ touched (sp - 1) program := by
  obtain ⟨height, slots⟩ := nested.exists_height
  intro member
  obtain ⟨k, less, same⟩ := (slots _ _).mp member
  have around : Int32.ofNat (k + 1) = 0 := by
    rw [Int32.ofNat_add]
    grind
  have far : 2 ^ 32 ≤ k + 1 := by
    have bits := congrArg Int32.toBitVec around
    have rest : (k + 1) % 2 ^ 32 = 0 := by
      simpa [BitVec.ofNat_eq_ofNat, ← BitVec.toNat_inj] using bits
    omega
  have whole (word : Word) : Int32.ofNat word.toBitVec.toNat = word :=
    Int32.toBitVec_inj.mp (by simp)
  have bottom := inRam 0 ((slots _ _).mpr ⟨(ramStart + (sp - 1)).toBitVec.toNat, ?_, ?_⟩)
  · exact absurd bottom (by decide)
  · exact lt_of_lt_of_le (ramStart + (sp - 1)).toBitVec.isLt (by omega)
  · rw [whole]
    grind

end WellNested

/-! ## Performing a program -/

namespace Sequential

variable {machine : Sequential}

/-- Executes an instruction of the stack unit. -/
def perform (machine : Sequential) (instruction : StackInstruction) : Sequential :=
  machine.execute machine.fetched (.stack instruction)

/-- Executes some of them, one after the other. -/
def performAll (machine : Sequential) (program : List StackInstruction) : Sequential :=
  program.foldl perform machine

lemma performAll_append (machine : Sequential) (first second : List StackInstruction) :
    machine.performAll (first ++ second) = (machine.performAll first).performAll second :=
  List.foldl_append

section Perform

variable (machine : Sequential) (instruction : StackInstruction)

lemma fault_perform : (machine.perform instruction).fault = machine.fault := by
  cases instruction <;> rfl

lemma ip_perform : (machine.perform instruction).registers.ip = machine.registers.ip + 2 := by
  cases instruction <;> rfl

lemma sp_perform :
    (machine.perform instruction).registers.sp = instruction.move machine.registers.sp := by
  cases instruction <;> rfl

/-- Only the slot that is accessed can change. -/
lemma words_perform {slot : Word}
    (apart : slot ∉ (instruction.slot? machine.registers.sp).toList) :
    (machine.perform instruction).memory.words slot = machine.memory.words slot := by
  cases instruction with
  | push | pop | popLoad => rfl
  | pushStore source =>
    simp only [StackInstruction.slot?, Option.toList_some, List.mem_singleton] at apart
    exact Function.update_of_ne apart _ _

lemma hasWritten_perform {slot : Word}
    (written : (machine.perform instruction).memory.HasWritten slot) :
    machine.memory.HasWritten slot
      ∨ slot ∈ (instruction.slot? machine.registers.sp).toList := by
  obtain ⟨access, member, writes⟩ := written
  cases instruction with
  | push | pop => exact Or.inl ⟨access, member, writes⟩
  | pushStore source =>
    rcases List.mem_append.mp member with earlier | now
    · exact Or.inl ⟨access, earlier, writes⟩
    · rw [List.mem_singleton.mp now, Access.written?, Option.some.injEq] at writes
      exact Or.inr (by simp [StackInstruction.slot?, RegisterFile.stackTop, ← writes])
  | popLoad target =>
    rcases List.mem_append.mp member with earlier | now
    · exact Or.inl ⟨access, earlier, writes⟩
    · rw [List.mem_singleton.mp now] at writes
      contradiction

end Perform

lemma fault_performAll (machine : Sequential) (program : List StackInstruction) :
    (machine.performAll program).fault = machine.fault := by
  induction program generalizing machine with
  | nil => rfl
  | cons instruction rest ih => exact (ih _).trans (machine.fault_perform instruction)

lemma sp_performAll (machine : Sequential) (program : List StackInstruction) :
    (machine.performAll program).registers.sp = moved machine.registers.sp program := by
  induction program generalizing machine with
  | nil => rfl
  | cons instruction rest ih =>
    refine (ih _).trans ?_
    rw [sp_perform]
    rfl

lemma ip_performAll (machine : Sequential) (program : List StackInstruction) :
    (machine.performAll program).registers.ip
      = machine.registers.ip + Int32.ofNat (2 * program.length) := by
  induction program generalizing machine with
  | nil => simp [performAll]
  | cons instruction rest ih =>
    refine (ih _).trans ?_
    rw [ip_perform, List.length_cons, Nat.mul_succ, Int32.ofNat_add]
    grind

lemma words_performAll (machine : Sequential) {program : List StackInstruction} {slot : Word}
    (apart : slot ∉ touched machine.registers.sp program) :
    (machine.performAll program).memory.words slot = machine.memory.words slot := by
  induction program generalizing machine with
  | nil => rfl
  | cons instruction rest ih =>
    rw [touched, List.mem_append, not_or] at apart
    exact (ih _ (by rw [sp_perform]; exact apart.2)).trans (machine.words_perform _ apart.1)

lemma hasWritten_performAll (machine : Sequential) {program : List StackInstruction}
    {slot : Word} (written : (machine.performAll program).memory.HasWritten slot) :
    machine.memory.HasWritten slot ∨ slot ∈ touched machine.registers.sp program := by
  induction program generalizing machine with
  | nil => exact Or.inl written
  | cons instruction rest ih =>
    rw [touched, List.mem_append]
    rcases ih _ written with earlier | later
    · exact (machine.hasWritten_perform _ earlier).imp_right Or.inl
    · rw [sp_perform] at later
      exact Or.inr (Or.inr later)

/-- **Last in, first out**: a pop gives its target what the source of the matching push held. -/
theorem get_performAll_of_matches {program : List StackInstruction} {i j : Nat}
    {source target : Register} (matching : Matches program i j source target)
    (inRam : ∀ slot ∈ touched machine.registers.sp program, isRam slot = true) :
    (machine.performAll (program.take (j + 1))).registers.get target
      = (machine.performAll (program.take i)).registers.get source := by
  obtain ⟨before, inner, after, rfl, nested, rfl, rfl⟩ := matching
  have first : (before ++ .pushStore source :: (inner ++ .popLoad target :: after)).take
      before.length = before := List.take_left
  have second : (before ++ .pushStore source :: (inner ++ .popLoad target :: after)).take
      (before.length + inner.length + 1 + 1)
        = before ++ (.pushStore source :: (inner ++ [.popLoad target])) := by
    have whole : before ++ .pushStore source :: (inner ++ .popLoad target :: after)
        = (before ++ .pushStore source :: (inner ++ [.popLoad target])) ++ after := by simp
    rw [whole]
    exact List.take_left' (by simp [Nat.add_assoc])
  rw [first, second, performAll_append]
  have top := machine.sp_performAll before
  generalize machine.performAll before = pushing at top ⊢
  have below : ∀ slot ∈ touched (pushing.registers.sp - 1) inner, isRam slot = true := by
    intro slot member
    refine inRam slot ?_
    rw [touched_append, List.mem_append, ← top]
    refine Or.inr ?_
    change slot ∈ [_] ++ touched (pushing.registers.sp - 1) (inner ++ _)
    rw [touched_append]
    simp [member]
  -- the value stands in its slot until the pop
  have kept := (pushing.perform (.pushStore source)).words_performAll
    (nested.notMem_touched below)
  have stored : (pushing.perform (.pushStore source)).memory.words
      (ramStart + pushing.registers.sp) = pushing.registers.get source :=
    Function.update_self _ _ _
  have back := (pushing.perform (.pushStore source)).sp_performAll inner
  rw [nested.moved_eq] at back
  change ((pushing.perform (.pushStore source)).performAll
    (inner ++ [.popLoad target])).registers.get target = _
  rw [performAll_append]
  generalize (pushing.perform (.pushStore source)).performAll inner = popping at kept back ⊢
  have here : ramStart + (popping.registers.sp + 1) = ramStart + pushing.registers.sp := by
    rw [back]
    change ramStart + (pushing.registers.sp - 1 + 1) = _
    rw [Int32.sub_add_cancel]
  calc
    (popping.perform (.popLoad target)).registers.get target
      = popping.memory.words (ramStart + (popping.registers.sp + 1)) :=
        (RegisterFile.get_set _ _ _ _).trans (if_pos rfl)
    _ = pushing.registers.get source := by rw [here, kept, stored]

end Sequential

/-! ## A program in memory -/

/-- The words from `address` on are those of `code`. -/
def HoldsCode (words : Word → Word) (address : Word) (code : Array Word) : Prop :=
  ∀ i (inside : i < code.size), words (address + Int32.ofNat i) = code[i]

instance (words : Word → Word) (address : Word) (code : Array Word) :
    Decidable (HoldsCode words address code) :=
  inferInstanceAs (Decidable
    (∀ i (inside : i < code.size), words (address + Int32.ofNat i) = code[i]))

lemma size_assemble (program : List Instruction) :
    (assemble program).size = 2 * program.length := by
  induction program with
  | nil => rfl
  | cons instruction rest ih =>
    simp only [assemble, List.size_toArray, List.flatMap_cons, List.length_append,
      List.length_cons, List.length_nil] at ih ⊢
    omega

/-- The words of the first instruction, and then those of the rest. -/
lemma HoldsCode.cons {words : Word → Word} {address : Word} {instruction : Instruction}
    {rest : List Instruction} (holds : HoldsCode words address (assemble (instruction :: rest))) :
    words address = instruction.encode.first ∧ words (address + 1) = instruction.encode.second
      ∧ HoldsCode words (address + 2) (assemble rest) := by
  have size := size_assemble (instruction :: rest)
  rw [List.length_cons] at size
  refine ⟨?_, ?_, fun i inside => ?_⟩
  · simpa [assemble] using holds 0 (by omega)
  · simpa [assemble] using holds 1 (by omega)
  · rw [size_assemble] at inside
    have further : address + 2 + Int32.ofNat i = address + Int32.ofNat (i + 2) := by
      rw [Int32.ofNat_add]
      grind
    rw [further, holds (i + 2) (by omega)]
    simp [assemble]

namespace Sequential

/-- Memory holds the program at the instruction pointer, and no word of the program is a slot that
it touches. -/
structure Carries (machine : Sequential) (program : List StackInstruction) : Prop where
  running : machine.fault = none
  holds : HoldsCode machine.memory.words machine.registers.ip (assemble (program.map .stack))
  apart : ∀ i < 2 * program.length,
    machine.registers.ip + Int32.ofNat i ∉ touched machine.registers.sp program

variable {machine : Sequential} {program : List StackInstruction}

/-- The next step performs the first instruction, and what is left is carried on. -/
lemma Carries.cons {instruction : StackInstruction} {rest : List StackInstruction}
    (carries : machine.Carries (instruction :: rest)) :
    machine.fetched.code.decode = .ok (.stack instruction)
      ∧ (machine.perform instruction).Carries rest := by
  obtain ⟨first, second, others⟩ := HoldsCode.cons carries.holds
  have code : machine.fetched.code = (Instruction.stack instruction).encode := by
    simp only [fetched, first, second]
  have further (i : Nat) : machine.registers.ip + 2 + Int32.ofNat i
      = machine.registers.ip + Int32.ofNat (i + 2) := by
    rw [Int32.ofNat_add]
    grind
  have untouched {i : Nat} (inside : i < 2 * rest.length) :
      machine.registers.ip + Int32.ofNat (i + 2)
          ∉ (instruction.slot? machine.registers.sp).toList
        ∧ machine.registers.ip + Int32.ofNat (i + 2)
          ∉ touched (instruction.move machine.registers.sp) rest := by
    have apart := carries.apart (i + 2) (by rw [List.length_cons]; omega)
    rwa [touched, List.mem_append, not_or] at apart
  refine ⟨by rw [code, Instruction.decode_encode], ⟨?_, ?_, ?_⟩⟩
  · rw [fault_perform, carries.running]
  · intro i inside
    have short := inside
    rw [size_assemble, List.length_map] at short
    rw [← others i inside, ip_perform, further]
    exact machine.words_perform instruction (untouched short).1
  · intro i inside
    rw [ip_perform, sp_perform, further]
    exact (untouched inside).2

/-- A machine whose memory holds the program performs it. -/
lemma Carries.iterate_step_eq (carries : machine.Carries program) {k : Nat}
    (within : k ≤ program.length) : step^[k] machine = machine.performAll (program.take k) := by
  induction program generalizing machine k with
  | nil =>
    obtain rfl : k = 0 := Nat.le_zero.mp within
    rfl
  | cons instruction rest ih =>
    cases k with
    | zero => rfl
    | succ k =>
      obtain ⟨decoded, others⟩ := carries.cons
      have first : machine.step = machine.perform instruction :=
        step_of_decode carries.running rfl decoded
      rw [Function.iterate_succ_apply, first, ih others (Nat.le_of_succ_le_succ within)]
      rfl

lemma Carries.ip_iterate (carries : machine.Carries program) {k : Nat}
    (within : k ≤ program.length) :
    (step^[k] machine).registers.ip = machine.registers.ip + Int32.ofNat (2 * k) := by
  rw [carries.iterate_step_eq within, ip_performAll, List.length_take, min_eq_left within]

/-- Instruction by instruction, it comes to those of the program. -/
lemma Carries.decode_iterate (carries : machine.Carries program) {k : Nat}
    {instruction : StackInstruction} (here : program[k]? = some instruction) :
    (step^[k] machine).fetched.code.decode = .ok (.stack instruction) := by
  induction program generalizing machine k with
  | nil => simp at here
  | cons first rest ih =>
    obtain ⟨decoded, others⟩ := carries.cons
    cases k with
    | zero =>
      rw [List.getElem?_cons_zero, Option.some.injEq] at here
      rwa [← here]
    | succ k =>
      have performed : machine.step = machine.perform first :=
        step_of_decode carries.running rfl decoded
      rw [Function.iterate_succ_apply, performed]
      exact ih others (by rwa [List.getElem?_cons_succ] at here)

/-- It writes nothing but the slots of the program, however far it has come. -/
lemma Carries.hasWritten_iterate (carries : machine.Carries program) {k : Nat}
    (within : k ≤ program.length) {slot : Word}
    (written : (step^[k] machine).memory.HasWritten slot) :
    machine.memory.HasWritten slot ∨ slot ∈ touched machine.registers.sp program := by
  rw [carries.iterate_step_eq within] at written
  refine (machine.hasWritten_performAll written).imp_right fun member => ?_
  rw [← List.take_append_drop k program, touched_append]
  exact List.mem_append_left _ member

end Sequential

end PipelinedMachine
