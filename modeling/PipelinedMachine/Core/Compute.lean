import PipelinedMachine.Core.Datapath

/-!
# Units that work on registers alone

The arithmetic, branch and stack units finish within the tick in which their stage comes up, because
they never wait for a link.  Pushing and popping a value also needs memory; the stack unit moves the
stack pointer and passes the access on as a `Delegation`.

* `AluUnit.tick` — arithmetic, which can end in a fault;
* `BranchUnit.tick` — moves the instruction pointer, and reports breakpoints;
* `StackUnit.tick` — moves the stack pointer.
-/

namespace PipelinedMachine

/-- One tick of the arithmetic unit.  The instruction leaves the unit even when it faults; then
nothing else changes. -/
def AluUnit.tick (slot : Slot AluInstruction) (path : Datapath) :
    Slot AluInstruction × Datapath × Option Fault :=
  match slot with
  | none => (none, path, none)
  | some held =>
    if path.isIn .execution then
      match held.instruction.evaluate path.registers with
      | .error cause => (none, path, some (held.entry.fault cause))
      | .ok none => (none, path.complete, none)
      | .ok (some value) => (none, (path.write held.instruction.target value).complete, none)
    else (slot, path, none)

/-- One tick of the branch unit.  With no branch in hand it moves past the instruction that has just
executed.  The last component is the address of a breakpoint, if the branch is one. -/
def BranchUnit.tick (slot : Slot BranchInstruction) (path : Datapath) :
    Slot BranchInstruction × Datapath × Option Word :=
  if path.isIn .branchPredict then
    let path := path.request .dispatch
    match slot with
    | none => (none, { path with registers := path.registers.advance }, none)
    | some held =>
      let path := path.record .instructionsExecuted
      let breakpoint := if held.instruction = .breakpoint then some held.entry.address else none
      (none, { path with registers := held.instruction.next path.registers }, breakpoint)
  else (slot, path, none)

/-- A memory access that the stack unit passes on. -/
inductive Delegation where
  | store (held : Held StoreInstruction)
  | load (held : Held LoadInstruction)
deriving DecidableEq, Repr

/-- One tick of the stack unit.  A value is pushed at the old top of the stack and popped from the
new one.  The unit that takes over the access also completes the instruction. -/
def StackUnit.tick (slot : Slot StackInstruction) (path : Datapath) :
    Slot StackInstruction × Datapath × Option Delegation :=
  match slot with
  | none => (none, path, none)
  | some held =>
    if path.isIn .execution then
      let lowered := path.registers.setStack (path.registers.sp - 1)
      let raised := path.registers.setStack (path.registers.sp + 1)
      match held.instruction with
      | .push => (none, { path with registers := lowered }.complete, none)
      | .pop => (none, { path with registers := raised }.complete, none)
      | .pushStore source =>
        let access := ⟨source, .literal path.registers.stackTop⟩
        (none, { path with registers := lowered }, some (.store ⟨held.entry, access⟩))
      | .popLoad target =>
        let access := .load target (.literal raised.stackTop)
        (none, { path with registers := raised }, some (.load ⟨held.entry, access⟩))
    else (slot, path, none)

end PipelinedMachine
