import PipelinedMachine.Counters
import PipelinedMachine.Instruction
import PipelinedMachine.Link.Interconnect

/-!
# The datapath of a core

A core's units take turns: the stage says which of them may act, and the unit that is done asks for
the next stage.  All units work on the same `Datapath`, which is handed from one to the next within
a tick, and each unit keeps at most one instruction of its own in a `Slot`.

* `Stage`, `StageControl` — the stage of this tick and the one asked for;
* `Datapath` — registers, stage, counters and links, as one value;
* `Slot` — the instruction that a unit holds.
-/

namespace PipelinedMachine

/-! ## Stages -/

/-- The stage of a core, which decides which units act. -/
inductive Stage where
  /-- The branch unit moves the instruction pointer. -/
  | branchPredict
  /-- The instruction at the instruction pointer goes to its unit. -/
  | dispatch
  /-- The unit that holds the instruction executes it. -/
  | execution
  /-- Leads straight back to `branchPredict`; no unit asks for it. -/
  | retirement
deriving DecidableEq, Repr

/-- The stage as it is written in reports. -/
def Stage.text : Stage → String
  | branchPredict => "branch-predict"
  | dispatch => "dispatch"
  | execution => "execution"
  | retirement => "retirement"

/-- The stage of the current tick, and the stage that the next tick will be in. -/
structure StageControl where
  current : Stage := .dispatch
  next : Stage := .dispatch
deriving DecidableEq, Repr

namespace StageControl

/-- Asks for a stage; the last one to ask in a tick is heard. -/
def request (stages : StageControl) (stage : Stage) : StageControl :=
  { stages with next := stage }

/-- Whether the next tick enters `stage` from a different one. -/
def entering (stages : StageControl) (stage : Stage) : Bool :=
  stages.current ≠ stage && stages.next = stage

/-- Moves to the stage asked for. -/
def advance (stages : StageControl) : StageControl :=
  { stages with current := stages.next }

end StageControl

/-! ## The datapath -/

/-- What the units of a core work on during a tick. -/
structure Datapath where
  registers : RegisterFile
  stages : StageControl
  counters : Counters
  bus : Interconnect

namespace Datapath

/-- Whether this tick belongs to `stage`. -/
def isIn (path : Datapath) (stage : Stage) : Bool := path.stages.current = stage

/-- Counts an event. -/
def record (path : Datapath) (event : Counter) : Datapath :=
  { path with counters := path.counters.record event }

/-- Asks for a stage. -/
def request (path : Datapath) (stage : Stage) : Datapath :=
  { path with stages := path.stages.request stage }

/-- Writes a general register. -/
def write (path : Datapath) (target : Register) (value : Word) : Datapath :=
  { path with registers := path.registers.set target value }

/-- Takes the waiting message away from a terminal. -/
def clear (path : Datapath) (terminal : Terminal) : Datapath :=
  { path with bus := path.bus.clear terminal }

/-- Ends the instruction in execution: it counts as executed, and the instruction pointer moves
next. -/
def complete (path : Datapath) : Datapath :=
  (path.record .instructionsExecuted).request .branchPredict

/-- The retirement stage, which does nothing but lead on. -/
def retire (path : Datapath) : Datapath :=
  if path.isIn .retirement then path.request .branchPredict else path

/-- Moves to the stage asked for. -/
def advance (path : Datapath) : Datapath :=
  { path with stages := path.stages.advance }

end Datapath

/-! ## Slots -/

/-- An instruction in a unit, with the words it was decoded from. -/
structure Held (α : Type) where
  entry : Fetched
  instruction : α
deriving DecidableEq, Repr

/-- The place in a unit for the instruction it works on. -/
abbrev Slot (α : Type) := Option (Held α)

/-- The fetched words of the held instruction. -/
def Slot.entry? {α : Type} (slot : Slot α) : Option Fetched := slot.map Held.entry

end PipelinedMachine
