import PipelinedMachine.Proofs.Device.Controller
import PipelinedMachine.Proofs.Machine.Fresh

/-!
# Interrupts and the boot core's line

The controller keeps the latest interrupt only: the next one takes its place, whether or not the
boot core has looked it up.  Of the line the core remembers no more than that it was raised.  So
interrupts that come close together become one, but a signal that has been raised is there until the
core begins to look for a handler.

* `Machine.accepted?`, `Machine.put?` — the interrupt that the controller accepts with anything that
  can happen to a machine, and what that puts into the slot of the latest one;
* `Machine.lastInterrupt_act` — nothing else changes the slot;
* `Machine.Attached` — the controller raises the boot core's line;
* `Machine.signalled_of_accepted?`, **`Machine.signalled_act`** — an interrupt that is accepted
  signals the boot core, and the signal is kept until a search begins.
-/

namespace PipelinedMachine

open Interconnect

/-! ## The lines -/

lemma Core.lines_tick (core : Core) (env : Environment) :
    (core.tick env).2.1.lines = (env.lines.take core.id).2 := rfl

lemma Core.id_tick (core : Core) (env : Environment) : (core.tick env).1.id = core.id := rfl

/-! ## Machines -/

namespace Traffic

variable {traffic after : Traffic}

/-- A move neither adds a line nor takes one away. -/
lemma Move.size_lines (move : Move traffic after) :
    after.lines.raised.size = traffic.lines.raised.size := by
  cases move with
  | core left right core later counters rest breakpoint place ticked =>
    have lines := core.lines_tick ⟨traffic.bus, traffic.lines, counters⟩
    rw [ticked] at lines
    simp only at lines ⊢
    rw [lines, InterruptLines.size_take]
  | controller =>
    simp only
    rw [(traffic.controller.heeds_tick traffic.lines traffic.bus).lines]
    split
    · exact InterruptLines.size_raise _ _
    · rfl
  | raise id => exact InterruptLines.size_raise _ _
  | request | reply | ram | hubRequest | hubReply | device | links | load | host => rfl

lemma size_lines_of_moves (moves : Moves traffic after) :
    after.lines.raised.size = traffic.lines.raised.size := by
  induction moves with
  | refl => rfl
  | tail _ move same => exact move.size_lines.trans same

lemma heeds_controlled (traffic : Traffic) :
    traffic.controller.Heeds traffic.lines (traffic.bus.message? traffic.controller.terminal)
      traffic.controlled.controller traffic.controlled.lines :=
  traffic.controller.heeds_tick traffic.lines traffic.bus

end Traffic

namespace Machine

open Traffic

/-- The message that the controller finds in its turn of the machine's next tick. -/
def offered? (machine : Machine) : Option Message :=
  machine.routed.bus.message? machine.routed.controller.terminal

/-- The interrupt that the controller accepts. -/
def accepted? (machine : Machine) : MachineAction → Option Word
  | .tick => machine.offered?.bind Message.accepted?
  | .raiseInterrupt id => some id
  | .load _ _ | .press _ => none

/-- What is put into the slot of the latest interrupt. -/
def put? (machine : Machine) : MachineAction → Option Word
  | .tick => machine.offered?.bind Message.put?
  | .raiseInterrupt id => some id
  | .load _ _ | .press _ => none

/-- What the boot core is doing to find a handler. -/
def searching (machine : Machine) : Option HandlerSearch :=
  machine.processor.boot.pipeline.fetch.searching

/-- The boot core has yet to react to an interrupt: its line is raised, or it remembers that it
was. -/
def Signalled (machine : Machine) : Prop :=
  machine.processor.lines.isRaised machine.processor.boot.id = true
    ∨ machine.processor.boot.pipeline.interruptPending = true

/-- The controller raises the line of the boot core, which has one. -/
structure Attached (machine : Machine) : Prop where
  steady : machine.processor.boot.Steady
  line : machine.processor.controller.bootCore = machine.processor.boot.id
  inside : machine.processor.boot.id < machine.processor.lines.raised.size

variable {machine later : Machine} {action : MachineAction} {id : Word}

lemma put?_of_accepted? (accepts : machine.accepted? action = some id) :
    machine.put? action = some id := by
  cases action with
  | tick =>
    rw [accepted?, Option.bind_eq_some_iff] at accepts
    obtain ⟨message, offered, accepts⟩ := accepts
    rw [put?, Option.bind_eq_some_iff]
    exact ⟨message, offered, Message.put?_of_accepted? accepts⟩
  | raiseInterrupt => exact accepts
  | load | press => contradiction

/-! ### Ticks -/

namespace Turns

/-- The controller heeds the message that it finds when the cores and the router have had their
turns, which leave the controller itself alone. -/
lemma heeds (turns : machine.Turns later) :
    machine.processor.controller.Heeds machine.routed.lines machine.offered?
      later.processor.controller later.processor.lines := by
  have still : machine.routed.controller = machine.processor.controller := rfl
  rw [turns.controller, turns.lines, offered?, ← still]
  exact machine.routed.heeds_controlled

lemma lastInterrupt (turns : machine.Turns later) :
    later.processor.controller.lastInterrupt
      = (machine.put? .tick).getD machine.processor.controller.lastInterrupt :=
  turns.heeds.lastInterrupt

lemma bootCore (turns : machine.Turns later) :
    later.processor.controller.bootCore = machine.processor.controller.bootCore :=
  turns.heeds.bootCore

lemma lines_eq (turns : machine.Turns later) :
    later.processor.lines = if (machine.accepted? .tick).isSome
      then machine.routed.lines.raise machine.processor.controller.bootCore
      else machine.routed.lines :=
  turns.heeds.lines

lemma id_boot (turns : machine.Turns later) :
    later.processor.boot.id = machine.processor.boot.id := by
  obtain ⟨rest, breakpoint, turn⟩ := turns.boot
  have same := machine.processor.boot.id_tick machine.environment
  rwa [turn] at same

lemma size_lines (turns : machine.Turns later) :
    machine.routed.lines.raised.size = machine.processor.lines.raised.size := by
  obtain ⟨rest, breakpoint, turn⟩ := turns.boot
  have lines := machine.processor.boot.lines_tick machine.environment
  rw [turn] at lines
  rw [size_lines_of_moves (moves_of_asides turns.routed), booted, turn]
  simp only at lines ⊢
  rw [lines, InterruptLines.size_take]
  rfl

lemma attached (turns : machine.Turns later) (attached : machine.Attached) : later.Attached where
  steady := by
    obtain ⟨rest, breakpoint, turn⟩ := turns.boot
    obtain ⟨steady, -⟩ := attached.steady.talk turn
    exact steady
  line := by rw [turns.bootCore, turns.id_boot, attached.line]
  inside := by
    rw [turns.id_boot, turns.lines_eq]
    split
    · rw [InterruptLines.size_raise, turns.size_lines]
      exact attached.inside
    · rw [turns.size_lines]
      exact attached.inside

end Turns

/-! ### Everything that can happen -/

/-- Only a tick changes the boot core. -/
lemma boot_act (host : action ≠ .tick) :
    (machine.act action).processor.boot = machine.processor.boot := by
  cases action with
  | tick => contradiction
  | load | press | raiseInterrupt => rfl

/-- The slot of the latest interrupt holds what was put there last. -/
theorem lastInterrupt_act (survives : machine.Survives action) :
    (machine.act action).processor.controller.lastInterrupt
      = (machine.put? action).getD machine.processor.controller.lastInterrupt := by
  cases action with
  | tick =>
    obtain ⟨outcome, live⟩ := survives rfl
    exact (turns_tick live).lastInterrupt
  | raiseInterrupt id =>
    exact (machine.processor.controller.lastInterrupt_setVector _ id).trans (if_pos rfl)
  | load | press => rfl

lemma attached_wire (config : MachineConfig) (image : DiskImage) :
    (wire config image).Attached where
  steady := Core.steady_reset _ _ _
  line := rfl
  inside := by
    change 0 < (Array.replicate (max config.cores 1) false).size
    simp

lemma Attached.act (attached : machine.Attached) (survives : machine.Survives action) :
    (machine.act action).Attached := by
  cases action with
  | tick =>
    obtain ⟨outcome, live⟩ := survives rfl
    exact (turns_tick live).attached attached
  | raiseInterrupt id =>
    exact ⟨attached.steady, (InterruptController.bootCore_setVector _ _ _).trans attached.line,
      (InterruptLines.size_raise _ _).symm ▸ attached.inside⟩
  | load | press => exact ⟨attached.steady, attached.line, attached.inside⟩

/-- An interrupt that is accepted signals the boot core. -/
theorem signalled_of_accepted? (attached : machine.Attached)
    (survives : machine.Survives action) (accepts : machine.accepted? action = some id) :
    (machine.act action).Signalled := by
  refine Or.inl ?_
  cases action with
  | tick =>
    obtain ⟨outcome, live⟩ := survives rfl
    have turns := turns_tick live
    change machine.tick.1.processor.lines.isRaised machine.tick.1.processor.boot.id = true
    rw [turns.lines_eq, accepts, turns.id_boot, attached.line]
    exact InterruptLines.isRaised_raise _ (by rw [turns.size_lines]; exact attached.inside)
  | raiseInterrupt id =>
    change (machine.processor.lines.raise machine.processor.controller.bootCore).isRaised
      machine.processor.boot.id = true
    rw [attached.line]
    exact InterruptLines.isRaised_raise _ attached.inside
  | load | press => contradiction

/-- The search for a handler begins. -/
def Begins (machine : Machine) (action : MachineAction) : Prop :=
  machine.searching = none ∧ (machine.act action).searching = some .askId

/-- A signal is kept until a search begins. -/
theorem signalled_act (attached : machine.Attached) (survives : machine.Survives action)
    (signalled : machine.Signalled) :
    (machine.act action).Signalled ∨ machine.Begins action := by
  cases action with
  | tick =>
    obtain ⟨outcome, live⟩ := survives rfl
    obtain ⟨rest, breakpoint, turn⟩ := (turns_tick live).boot
    rcases attached.steady.pending turn signalled with pending | ⟨reading, asking⟩
    · exact Or.inl (Or.inr pending)
    · exact Or.inr ⟨reading, asking⟩
  | raiseInterrupt id =>
    refine Or.inl (signalled.imp (fun raised => ?_) fun pending => pending)
    change (machine.processor.lines.raise machine.processor.controller.bootCore).isRaised
      machine.processor.boot.id = true
    rw [attached.line]
    exact InterruptLines.isRaised_raise _ attached.inside
  | load | press => exact Or.inl signalled

end Machine

end PipelinedMachine
