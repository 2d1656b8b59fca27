import PipelinedMachine.Proofs.Machine.Loaded
import PipelinedMachine.Proofs.Machine.Stopping
import PipelinedMachine.Proofs.Timing.Confinement

/-!
# Timing never changes results

How fast the links are and how long the devices take decides when reads overlap, what is read
ahead, which answer comes first and how long a store waits.  It decides nothing about what a program
does that keeps to main memory: two machines that start from the same words dispatch the same
instructions under the same registers, write the same words in the same order, and stop at the same
fault, as far as each of them gets.

Each of the machines is compared with the sequential machine, so that the two need not be compared
with one another tick by tick.

* `Dispatch.KeepToRam` — what the program keeps to;
* `Machine.dispatches`, `Machine.ramWrites` — what a machine does in so many ticks;
* `Machine.Follows` — its core is in pursuit of a state of the sequential machine, which **a tick**
  keeps (`Machine.Follows.tick`);
* `Machine.Retraces` — a whole run, **which every run is** (`Machine.retraces_loaded`);
* `Machine.Alike`, `Machine.timing_irrelevant` — **two runs compared**.
-/

namespace PipelinedMachine

/-! ## What the sequential machine has written -/

namespace Dispatch

/-- Everything that is dispatched comes from main memory and accesses main memory alone, and nothing
is dispatched from a word that has been written. -/
structure KeepToRam (dispatches : List Dispatch) : Prop where
  inRam : ∀ dispatch ∈ dispatches, dispatch.InRam
  original : dispatches.Pairwise fun earlier later =>
    earlier.written? ≠ some later.registers.ip ∧ earlier.written? ≠ some (later.registers.ip + 1)

instance (dispatches : List Dispatch) : Decidable (KeepToRam dispatches) :=
  decidable_of_iff ((∀ dispatch ∈ dispatches, dispatch.InRam)
      ∧ dispatches.Pairwise fun earlier later => earlier.written? ≠ some later.registers.ip
        ∧ earlier.written? ≠ some (later.registers.ip + 1))
    ⟨fun ⟨inRam, original⟩ => ⟨inRam, original⟩, fun ⟨inRam, original⟩ => ⟨inRam, original⟩⟩

lemma KeepToRam.of_append {first second : List Dispatch} (keeps : KeepToRam (first ++ second)) :
    KeepToRam first :=
  ⟨fun dispatch member => keeps.inRam dispatch (List.mem_append_left _ member),
    (List.pairwise_append.mp keeps.original).1⟩

end Dispatch

namespace Sequential

variable {machine start : Sequential} {address : Word}

/-- A step writes to the address that its instruction writes. -/
lemma hasWritten_step (running : machine.fault = none)
    (written : machine.step.memory.HasWritten address) :
    machine.memory.HasWritten address ∨ machine.dispatch.written? = some address := by
  have noted {later : Memory} (more : List Access)
      (same : later.accesses = machine.memory.accesses ++ more)
      (written : later.HasWritten address) :
      machine.memory.HasWritten address ∨ ∃ access ∈ more, access.written? = some address := by
    obtain ⟨access, member, written⟩ := written
    rw [same, List.mem_append] at member
    exact member.imp (fun old => ⟨access, old, written⟩) fun new => ⟨access, new, written⟩
  cases decoded : machine.fetched.code.decode with
  | error cause =>
    rw [step_of_fault running rfl decoded] at written
    exact Or.inl written
  | ok instruction =>
    rw [step_of_decode running rfl decoded] at written
    have writes : machine.dispatch.written? = instruction.written? machine.registers := by
      rw [Dispatch.written?, dispatch, Dispatch.instruction?_of_decode _ decoded]
      rfl
    rw [writes]
    rcases instruction with
      _ | instruction | (_ | _) | _ | _ | ((_ | _) | _) | (_ | _ | _ | _)
    case alu =>
      simp only [execute] at written
      split at written <;> exact Or.inl written
    case load.load => exact (noted [_] rfl written).imp id (by simp [Access.written?])
    case store =>
      exact (noted [_] rfl written).imp id (by simp [Access.written?, Instruction.written?])
    case interrupt.request.install =>
      exact (noted [_] rfl written).imp id (by simp [Access.written?, Instruction.written?])
    case interrupt.request.raise =>
      exact (noted [_] rfl written).imp id (by simp [Access.written?])
    case stack.pushStore =>
      exact (noted [_] rfl written).imp id (by simp [Access.written?, Instruction.written?])
    case stack.popLoad => exact (noted [_] rfl written).imp id (by simp [Access.written?])
    all_goals exact Or.inl written

/-- What has been written was written by an instruction. -/
lemma exists_written (fresh : start.memory.accesses = []) {count : Nat}
    (running : ∀ state ∈ start.states count, state.fault = none)
    (written : (step^[count] start).memory.HasWritten address) :
    ∃ state ∈ start.states count, state.dispatch.written? = some address := by
  induction count with
  | zero => simp [Memory.HasWritten, fresh] at written
  | succ count ih =>
    rw [states_succ] at running ⊢
    rw [Function.iterate_succ_apply'] at written
    rcases hasWritten_step (running _ (by simp)) written with before | now
    · obtain ⟨state, member, writes⟩ :=
        ih (fun state member => running state (List.mem_append_left _ member)) before
      exact ⟨state, List.mem_append_left _ member, writes⟩
    · exact ⟨step^[count] start, by simp, now⟩

lemma states_prefix (start : Sequential) {count more : Nat} (le : count ≤ more) :
    start.states count <+: start.states more := by
  obtain ⟨rest, rfl⟩ := Nat.exists_eq_add_of_le le
  rw [states, states, List.range_add, List.map_append]
  exact List.prefix_append _ _

lemma iterate_mem_states (start : Sequential) {count k : Nat} (lt : k < count) :
    step^[k] start ∈ start.states count :=
  List.mem_map_of_mem (List.mem_range.mpr lt)

lemma accesses_prefix_iterate (start : Sequential) {count more : Nat} (le : count ≤ more) :
    (step^[count] start).memory.accesses <+: (step^[more] start).memory.accesses := by
  induction more, le using Nat.le_induction with
  | base => exact List.prefix_rfl
  | succ more _ ih =>
    rw [Function.iterate_succ_apply']
    refine ih.trans ?_
    rw [step]
    split
    · exact List.prefix_rfl
    · split
      · exact accesses_prefix_execute _ _ _
      · exact List.prefix_rfl

end Sequential

/-- The same machine with links of other speeds and devices of other latencies. -/
def MachineConfig.retimed (config : MachineConfig) (corePeriod devicePeriod : UInt32)
    (timings : DeviceTimings) : MachineConfig :=
  { config with corePeriod := corePeriod, devicePeriod := devicePeriod, timings := timings }

namespace Machine

variable {machine : Machine}

/-! ## What a machine does -/

/-- What the core dispatches in the next tick.  A machine that has been stopped dispatches
nothing. -/
def issue? (machine : Machine) : Option Dispatch :=
  if machine.fault?.isNone then machine.processor.boot.issue? machine.environment else none

/-- The address and the value that main memory writes in the next tick. -/
def ramWrite? (machine : Machine) : Option (Word × Word) :=
  if machine.tick.1.fault?.isNone then
    (machine.ram.taken? machine.beforeRam).bind Message.stored?
  else none

/-- The machine after so many ticks. -/
def ticked (machine : Machine) (ticks : Nat) : Machine :=
  (fun machine => machine.tick.1)^[ticks] machine

/-- What is dispatched in the first so many ticks. -/
def dispatches (machine : Machine) (ticks : Nat) : List Dispatch :=
  (List.range ticks).filterMap fun k => (machine.ticked k).issue?

/-- What main memory writes in the first so many ticks. -/
def ramWrites (machine : Machine) (ticks : Nat) : List (Word × Word) :=
  (List.range ticks).filterMap fun k => (machine.ticked k).ramWrite?

lemma ticked_succ (machine : Machine) (ticks : Nat) :
    machine.ticked (ticks + 1) = (machine.ticked ticks).tick.1 :=
  Function.iterate_succ_apply' _ _ _

lemma dispatches_succ (machine : Machine) (ticks : Nat) :
    machine.dispatches (ticks + 1)
      = machine.dispatches ticks ++ (machine.ticked ticks).issue?.toList := by
  rw [dispatches, List.range_succ, List.filterMap_append]
  cases h : (machine.ticked ticks).issue? <;> simp [dispatches, h]

lemma ramWrites_succ (machine : Machine) (ticks : Nat) :
    machine.ramWrites (ticks + 1)
      = machine.ramWrites ticks ++ (machine.ticked ticks).ramWrite?.toList := by
  rw [ramWrites, List.range_succ, List.filterMap_append]
  cases h : (machine.ticked ticks).ramWrite? <;> simp [ramWrites, h]

/-- A tick of a running machine with one core ends in a fault if the core's turn does. -/
lemma tick_of_core (running : machine.fault? = none) (alone : machine.processor.others = []) :
    match (machine.processor.boot.tick machine.environment).2.2 with
    | .error fault => machine.tick.1.fault? = some fault
    | .ok _ => machine.tick.1.fault? = none ∧ ∃ outcome, machine.tick.2 = .ok outcome := by
  obtain ⟨config, bus, ⟨boot, others, router, controller, lines⟩, ram, hub, rom, display, disk,
    keyboard, counters, fault?, ticks⟩ := machine
  obtain rfl : fault? = none := running
  obtain rfl : others = [] := alone
  simp only [tick, Processor.tick, Processor.tickAll, environment]
  generalize boot.tick ⟨bus, lines, counters⟩ = turn
  obtain ⟨boot', rest, fault | breakpoint⟩ := turn
  · rfl
  · simp only [Processor.tickCores]
    exact ⟨rfl, _, rfl⟩

/-- A tick that does not end in a fault comes from a running machine, whose core has a turn without a
fault. -/
lemma core_of_tick {outcome : TickOutcome} (live : machine.tick.2 = .ok outcome) :
    machine.tick.1.fault? = none ∧ ∃ core rest breakpoint,
      machine.processor.boot.tick machine.environment = (core, rest, .ok breakpoint) := by
  obtain ⟨config, bus, ⟨boot, others, router, controller, lines⟩, ram, hub, rom, display, disk,
    keyboard, counters, fault?, ticks⟩ := machine
  cases fault? with
  | some fault => simp [tick] at live
  | none =>
    simp only [tick, Processor.tick, Processor.tickAll, environment] at live ⊢
    generalize boot.tick ⟨bus, lines, counters⟩ = turn at live ⊢
    obtain ⟨boot', rest, fault | breakpoint⟩ := turn
    · contradiction
    · simp only at live ⊢
      generalize Processor.tickCores others rest = turns at live ⊢
      obtain ⟨others', rest', fault | breakpoint'⟩ := turns
      · contradiction
      · exact ⟨rfl, _, _, _, rfl⟩

/-- In every state that a machine can reach, its memory is where the address map says. -/
lemma Reachable.whole (reachable : machine.Reachable) : machine.ram.Whole := by
  induction reachable with
  | wire config image => exact ⟨rfl, rfl⟩
  | @act machine before action survives whole =>
    cases action with
    | tick =>
      obtain ⟨outcome, live⟩ := survives rfl
      rw [Machine.act, ram_tick (core_of_tick live).1]
      exact whole.tick machine.beforeRam
    | load address words => exact whole.load address words
    | press | raiseInterrupt => exact whole

/-- These are the changes of main memory, and there are no others. -/
theorem Reachable.readWord_tick (reachable : machine.Reachable) (single : machine.config.cores ≤ 1)
    {outcome : TickOutcome} (live : machine.tick.2 = .ok outcome) :
    machine.tick.1.ram.readWord = machine.ramWrite?.elim machine.ram.readWord fun write =>
      Function.update machine.ram.readWord write.1 write.2 := by
  obtain ⟨stays, core, rest, breakpoint, ticked⟩ := core_of_tick live
  obtain ⟨before, around, bus, same, -⟩ := exists_relays_tick live
  have onward : before.InOrder := by
    clear bus same
    induction around with
    | refl => exact (reachable.inOrder single).cored ticked
    | tail _ step inOrder =>
      obtain ⟨actor, -, relay⟩ := step
      exact inOrder.relay relay
  rw [ram_tick stays, Ram.readWord_tick, ramWrite?, stays]
  simp only [Option.isNone_none, if_true]
  cases taken : machine.ram.taken? machine.beforeRam with
  | none => rfl
  | some message =>
    rw [Option.bind_some]
    change (machine.ram.take message machine.beforeRam).readWord = _
    obtain ⟨answered, visit⟩ := machine.ram.visit_taken? machine.beforeRam
    have waiting := visit.handled.waiting message taken
    rw [← bus, ← same] at waiting
    cases access : message.access? with
    | none =>
      rw [Ram.readWord_take_of_plain reachable.whole access, Message.stored?]
      split_ifs with writes
      · rw [Message.access?, if_pos (Or.inr writes)] at access
        rw [access]
        rfl
      · rfl
    | some address =>
      have inside : isRam address = true := Component.ofAddress_eq_ram_iff.mp
        (onward.arrives .ram waiting access)
      obtain rfl := Message.address_of_access access
      have named := message.address?_of_access access
      rcases Message.kind_of_access access with reads | writes
      · simp only [Message.stored?, reads, Ram.take]
        rfl
      · simp only [Message.stored?, writes, named, if_true, Option.map_some, Option.elim_some]
        rw [← Ram.readWord_writeWord reachable.whole inside]
        simp only [Ram.take, writes]
        rfl

/-! ## One tick -/

/-- The core is in pursuit of a state of the sequential machine, or the fault of that state has
stopped it.  What has been written so far stands in the log. -/
structure Follows (origin : Word → Word) (machine : Machine) (log : List Access)
    (state : Sequential) (extra : Option Dispatch) : Prop where
  running : machine.fault? = none → machine.Confined
    ∧ ∃ standing, machine.processor.boot.StandsAs standing
      ∧ standing.Pursues origin state machine.processor.boot.registers
        (machine.memoryView log machine.bus) extra
  stopped : ∀ fault, machine.fault? = some fault → extra = none ∧ state.fault = some fault
  writes : log.filterMap Access.stored? <+: state.memory.writes

section Tick

variable {origin : Word → Word} {log : List Access} {state : Sequential} {extra : Option Dispatch}
  {standing : Standing}

lemma writes_prefix_memoryView (machine : Machine) (log : List Access) (bus : Interconnect) :
    log.filterMap Access.stored? <+: (machine.memoryView log bus).memory.writes :=
  ((machine.ram.memory log).accesses_prefix_serveAll _).filterMap _

/-- In pursuit of a state, the core sends nothing but harmless messages. -/
lemma harmless_of_pursues {registers : RegisterFile} {view : View}
    (pursues : standing.Pursues origin state registers view extra) {message : Message}
    (sends : message.Inquiry ∨ standing.occupancy.Sends registers message) : message.Harmless := by
  refine sends.imp id fun sends => ?_
  have stage : standing.occupancy.stage = .execution := by
    cases occupied : standing.occupancy <;> rw [occupied] at sends <;> first | rfl | exact sends.elim
  cases pursues with
  | tracks tracks completed =>
    have tame := tracks.tame
    cases occupied : standing.occupancy with
    | store held =>
      rw [occupied] at sends tame
      exact ⟨_, _, sends, tame⟩
    | request held =>
      rw [occupied] at tame
      exact tame.elim
    | idle | done | branch | alu | load | stack =>
      rw [occupied] at sends
      exact sends.elim
  | seeks idle => simp [idle, Occupancy.stage] at stage
  | strays _ astray =>
    cases astray with
    | arrived idle => simp [idle, Occupancy.stage] at stage
    | leaving leaving => simp [leaving] at stage

/-- What the core's turn leaves behind, the tick leaves behind. -/
lemma Follows.of_reaches (running : machine.fault? = none) (confined : machine.Confined)
    (pursues : standing.Pursues origin state machine.processor.boot.registers
      (machine.memoryView log machine.bus) extra)
    {later : Standing} {after : Datapath} {outcome : CoreOutcome} {issue : Option Dispatch}
    {next : Sequential} {extra' : Option Dispatch}
    (ticked : machine.processor.boot.tick machine.environment
      = (⟨machine.processor.boot.id, machine.processor.boot.terminal, after.registers, after.stages,
          later.pipeline⟩,
        ⟨after.bus, (machine.processor.lines.take machine.processor.boot.id).2, after.counters⟩,
        outcome))
    (sound : standing.Sound machine.processor.boot.registers machine.processor.boot.stages)
    (turn : Standing.Turn machine.processor.boot.terminal
      (machine.processor.boot.path machine.environment) standing later after issue outcome)
    (reaches : later.Reaches origin next after.registers (machine.memoryView log after.bus) outcome
      extra') :
    ∃ log', machine.tick.1.Follows origin log' next extra'
      ∧ log'.filterMap Access.stored?
        = log.filterMap Access.stored? ++ machine.ramWrite?.toList := by
  have core := tick_of_core running confined.inOrder.alone
  rw [ticked] at core
  cases outcome with
  | error fault =>
    change machine.tick.1.fault? = some fault at core
    obtain ⟨nothing, faults, writes⟩ := reaches
    refine ⟨log, ⟨fun live => ?_, fun other same => ?_, ?_⟩, ?_⟩
    · rw [core] at live
      contradiction
    · rw [core] at same
      exact ⟨nothing, same ▸ faults⟩
    · exact writes ▸ machine.writes_prefix_memoryView log after.bus
    · simp [ramWrite?, core]
  | ok breakpoint =>
    obtain ⟨live, outcome', ends⟩ := core
    have deals := turn.deals.mono fun message sends => harmless_of_pursues pursues sends
    obtain ⟨cored, boot, views⟩ := confined.cored ticked deals
    obtain ⟨confined', boot', log', view, writes⟩ := cored.tick ends log
    rw [views log] at view
    have stands : machine.tick.1.processor.boot.StandsAs later := by
      rw [boot', boot]
      exact ⟨rfl, turn.sound sound⟩
    have onward : later.Pursues origin next machine.tick.1.processor.boot.registers
        (machine.tick.1.memoryView log' machine.tick.1.bus) extra' := by
      rw [view, boot', boot]
      exact reaches
    refine ⟨log', ⟨fun _ => ⟨confined', later, stands, onward⟩, fun fault same => ?_, ?_⟩, ?_⟩
    · rw [live] at same
      contradiction
    · exact (machine.tick.1.writes_prefix_memoryView log' _).trans onward.writes_prefix
    · simpa [ramWrite?, live] using writes

/-- A core that follows has a turn in which it is in pursuit. -/
lemma Follows.exists_turn (follows : machine.Follows origin log state extra)
    (running : machine.fault? = none) :
    ∃ (standing later : Standing) (after : Datapath) (outcome : CoreOutcome),
      Standing.Turn machine.processor.boot.terminal
          (machine.processor.boot.path machine.environment) standing later after machine.issue?
          outcome
        ∧ standing.Pursues origin state machine.processor.boot.registers
          (machine.memoryView log machine.bus) extra
        ∧ (machine.processor.boot.tick machine.environment).2.2 = outcome
        ∧ ∀ next extra', later.Reaches origin next after.registers
            (machine.memoryView log after.bus) outcome extra' →
          ∃ log', machine.tick.1.Follows origin log' next extra'
            ∧ log'.filterMap Access.stored?
              = log.filterMap Access.stored? ++ machine.ramWrite?.toList := by
  obtain ⟨confined, standing, stands, pursues⟩ := follows.running running
  obtain ⟨later, after, outcome, ticked, turn⟩ :=
    Core.exists_turn stands machine.environment
  have issue : machine.processor.boot.issue? machine.environment = machine.issue? := by
    simp [issue?, running]
  rw [issue] at turn
  have signalled := pursues.signal (machine.processor.lines.take machine.processor.boot.id).1
  refine ⟨_, later, after, outcome, turn, signalled, by rw [ticked], fun next extra' reaches => ?_⟩
  exact Follows.of_reaches running confined signalled ticked (stands.sound.signal _) turn reaches

/-- **One tick**: it goes on with the step at work, or it dispatches what the sequential machine
executes next, or a branch in place of that. -/
theorem Follows.tick (follows : machine.Follows origin log state extra)
    (program : ∀ dispatch ∈ machine.issue?,
      dispatch.InRam ∧ state.memory.Intact dispatch.registers.ip) :
    ∃ log' next extra', machine.tick.1.Follows origin log' next extra'
      ∧ log'.filterMap Access.stored? = log.filterMap Access.stored? ++ machine.ramWrite?.toList
      ∧ (machine.issue? = none ∧ next = state ∧ extra' = extra
        ∨ extra = none ∧ state.fault = none
          ∧ (machine.issue? = some state.dispatch ∧ next = state.step ∧ extra' = none
            ∨ next = state ∧ extra' = machine.issue? ∧ ∃ dispatch, machine.issue? = some dispatch
              ∧ dispatch.registers = state.registers ∧ dispatch.Branches)) := by
  cases running : machine.fault? with
  | some fault =>
    have still := (stopped_of_fault? running).tick
    have same : machine.tick.1 = machine := by rw [still]
    refine ⟨log, state, extra, by rwa [same], ?_, Or.inl ⟨by simp [issue?, running], rfl, rfl⟩⟩
    simp [ramWrite?, same, running]
  | none =>
    obtain ⟨confined, -⟩ := follows.running running
    obtain ⟨standing, later, after, outcome, turn, pursues, -, next⟩ := follows.exists_turn running
    rcases turn.pursues pursues (confined.inOrder.window log) confined.inOrder.answered
      (confined.tabled.told confined.inOrder) program with
      ⟨nothing, reaches⟩ | ⟨free, live, ⟨issued, reaches⟩ | ⟨dispatch, issued, same, branches, reaches⟩⟩
    · obtain ⟨log', follows', writes⟩ := next _ _ reaches
      exact ⟨log', _, _, follows', writes, Or.inl ⟨nothing, rfl, rfl⟩⟩
    · obtain ⟨log', follows', writes⟩ := next _ _ reaches
      exact ⟨log', _, _, follows', writes, Or.inr ⟨free, live, Or.inl ⟨issued, rfl, rfl⟩⟩⟩
    · obtain ⟨log', follows', writes⟩ := next _ _ reaches
      exact ⟨log', _, _, follows', writes,
        Or.inr ⟨free, live, Or.inr ⟨rfl, issued.symm, dispatch, issued, same, branches⟩⟩⟩

/-- Where the sequential machine has stopped, the machine stops in its next tick. -/
lemma Follows.trips (follows : machine.Follows origin log state extra) {fault : Fault}
    (faults : state.fault = some fault) :
    extra = none ∧ machine.tick.1.fault? = some fault := by
  cases running : machine.fault? with
  | some other =>
    obtain ⟨nothing, same⟩ := follows.stopped other running
    rw [faults, Option.some.injEq] at same
    exact ⟨nothing, by rw [(stopped_of_fault? running).tick, running, same]⟩
  | none =>
    obtain ⟨confined, -⟩ := follows.running running
    obtain ⟨standing, later, after, outcome, turn, pursues, ends, -⟩ := follows.exists_turn running
    cases pursues with
    | seeks _ _ _ live | strays _ _ live =>
      rw [faults] at live
      contradiction
    | tracks tracks completed =>
      have core := tick_of_core running confined.inOrder.alone
      rw [← completed] at faults
      rw [ends, turn.trips (machine.memoryView log) faults] at core
      exact ⟨rfl, core⟩

end Tick

/-! ## A run -/

/-- So many ticks are so many steps of the sequential machine, with at most one branch dispatched in
place of the next one. -/
structure Retraces (origin : Word → Word) (start : Sequential) (machine : Machine) (ticks : Nat)
    (count : Nat) (extra : Option Dispatch) : Prop where
  dispatches : machine.dispatches ticks
    = (start.states count).map Sequential.dispatch ++ extra.toList
  running : ∀ state ∈ start.states count, state.fault = none
  jump : ∀ dispatch ∈ extra,
    dispatch.registers = (Sequential.step^[count] start).registers ∧ dispatch.Branches
  follows : ∃ log, (machine.ticked ticks).Follows origin log (Sequential.step^[count] start) extra
    ∧ log.filterMap Access.stored? = machine.ramWrites ticks

section Run

variable {origin : Word → Word} {start : Sequential} {ticks count : Nat} {extra : Option Dispatch}

/-- Nothing has been written where the next instruction stands. -/
lemma intact_of_keepToRam (fresh : start.memory.accesses = []) {before : List Dispatch}
    {dispatch : Dispatch} (keeps : Dispatch.KeepToRam (before ++ [dispatch]))
    (running : ∀ state ∈ start.states count, state.fault = none)
    (covers : ∀ state ∈ start.states count, state.dispatch ∈ before) :
    (Sequential.step^[count] start).memory.Intact dispatch.registers.ip := by
  have original := (List.pairwise_append.mp keeps.original).2.2
  constructor <;> intro written <;>
    obtain ⟨state, member, writes⟩ := Sequential.exists_written fresh running written
  · exact (original _ (covers state member) dispatch (List.mem_singleton_self _)).1 writes
  · exact (original _ (covers state member) dispatch (List.mem_singleton_self _)).2 writes

/-- **A whole run.** -/
theorem exists_retraces (fresh : start.memory.accesses = [])
    (follows : machine.Follows origin [] start none) (ticks : Nat)
    (keeps : Dispatch.KeepToRam (machine.dispatches ticks)) :
    ∃ count extra, Retraces origin start machine ticks count extra := by
  induction ticks with
  | zero => exact ⟨0, none, rfl, by simp [Sequential.states], by simp, [], follows, rfl⟩
  | succ ticks ih =>
    rw [dispatches_succ] at keeps
    obtain ⟨count, extra, before⟩ := ih keeps.of_append
    obtain ⟨log, follows, written⟩ := before.follows
    have program : ∀ dispatch ∈ (machine.ticked ticks).issue?, dispatch.InRam
        ∧ (Sequential.step^[count] start).memory.Intact dispatch.registers.ip := by
      intro dispatch issued
      rw [Option.mem_def.mp issued] at keeps
      refine ⟨keeps.inRam dispatch (by simp), intact_of_keepToRam fresh keeps before.running ?_⟩
      intro state member
      rw [before.dispatches]
      exact List.mem_append_left _ (List.mem_map_of_mem member)
    obtain ⟨log', next, extra', follows', writes, cases'⟩ := follows.tick program
    rw [written, ← ramWrites_succ] at writes
    rw [← ticked_succ] at follows'
    have issued := before.dispatches
    rcases cases' with ⟨nothing, rfl, rfl⟩
        | ⟨rfl, live, ⟨issue, rfl, rfl⟩ | ⟨rfl, rfl, dispatch, issue, same, branches⟩⟩
    · refine ⟨count, extra', ?_, before.running, before.jump, log', follows', writes⟩
      rw [dispatches_succ, nothing, Option.toList_none, List.append_nil, issued]
    · refine ⟨count + 1, none, ?_, ?_, by simp, log', ?_, writes⟩
      · rw [dispatches_succ, issue, issued, Sequential.states_succ]
        simp
      · rw [Sequential.states_succ]
        intro state member
        rcases List.mem_append.mp member with earlier | last
        · exact before.running state earlier
        · rw [List.mem_singleton.mp last, live]
      · rw [Function.iterate_succ_apply']
        exact follows'
    · refine ⟨count, _, ?_, before.running, ?_, log', follows', writes⟩
      · rw [dispatches_succ, issued]
        simp
      · intro other member
        rw [issue, Option.mem_def, Option.some.injEq] at member
        exact member ▸ ⟨same, branches⟩

/-- A machine that has not begun to run is in pursuit of the sequential machine that has not
either. -/
lemma Ready.follows {config : MachineConfig} {image : DiskImage}
    (ready : machine.Ready config image) (single : config.cores ≤ 1)
    (inside : isRam config.entry = true) :
    machine.Follows machine.ram.readWord []
      (Sequential.start config.entry machine.ram.readWord) none where
  running := fun _ => by
    obtain ⟨id, boot⟩ := ready.boot
    refine ⟨⟨ready.inOrder single, ready.remembers, ready.tabled fun _ => Or.inl rfl⟩, _,
      boot ▸ Core.standsAs_reset id _ config.entry, .tracks ?_ ?_⟩
    · rw [ready.memoryView, boot]
      exact {
        outside := rfl
        reading := rfl
        agrees := ⟨fun _ => Or.inl rfl, .nil⟩
        localized := ⟨by simp [Fetch.line], by simp [Fetch.line], by simp⟩
        supplied := fun elsewhere => absurd rfl elsewhere
        exhausted := fun _ _ => by simp
        content := fun asked => absurd rfl asked
        tame := trivial
        here := inside }
    · rw [ready.memoryView, boot]
      rfl
  stopped := fun fault stopped => by
    rw [ready.running] at stopped
    contradiction
  writes := List.nil_prefix

end Run

/-! ## Two runs -/

/-- What a fault of the first machine says about the second one: it cannot have got any further; if
a fault has stopped it, it is the same one; and if it has dispatched the same instructions, that
fault stops it by the next tick. -/
def FaultBinds (first second : Machine) (n m : Nat) : Prop :=
  ∀ fault, (first.ticked n).fault? = some fault →
    (second.dispatches m).length ≤ (first.dispatches n).length
      ∧ (∀ other, (second.ticked m).fault? = some other → other = fault)
      ∧ (second.dispatches m = first.dispatches n →
        (second.ticked (m + 1)).fault? = some fault)

/-- After `n` ticks of the first machine and `m` ticks of the second one, one of them has done what
the other has done, and perhaps more. -/
structure Alike (first second : Machine) (n m : Nat) : Prop where
  dispatches : (first.dispatches n).map Dispatch.registers
      <+: (second.dispatches m).map Dispatch.registers
    ∨ (second.dispatches m).map Dispatch.registers
      <+: (first.dispatches n).map Dispatch.registers
  writes : first.ramWrites n <+: second.ramWrites m ∨ second.ramWrites m <+: first.ramWrites n
  binds : FaultBinds first second n m
  binds' : FaultBinds second first m n

section Comparison

variable {origin : Word → Word} {start : Sequential} {first second : Machine} {n m k l : Nat}
  {extra extra' : Option Dispatch}

namespace Retraces

lemma length_dispatches (retraces : Retraces origin start first n k extra) :
    (first.dispatches n).length = k + extra.toList.length := by
  rw [retraces.dispatches]
  simp [Sequential.states]

/-- The registers are those of the states of the sequential machine, one after the other. -/
lemma registers (retraces : Retraces origin start first n k extra) :
    (first.dispatches n).map Dispatch.registers
      = (start.states (first.dispatches n).length).map Sequential.registers := by
  rw [retraces.length_dispatches, retraces.dispatches, List.map_append, List.map_map]
  cases extra with
  | none => simp [Function.comp_def, Sequential.dispatch]
  | some dispatch =>
    rw [Option.toList_some, List.length_singleton, Sequential.states_succ, List.map_append]
    simp [Function.comp_def, Sequential.dispatch, (retraces.jump dispatch rfl).1]

lemma dispatches_comparable (one : Retraces origin start first n k extra)
    (two : Retraces origin start second m l extra') :
    (first.dispatches n).map Dispatch.registers <+: (second.dispatches m).map Dispatch.registers
      ∨ (second.dispatches m).map Dispatch.registers
        <+: (first.dispatches n).map Dispatch.registers := by
  rw [one.registers, two.registers]
  rcases Nat.le_total (first.dispatches n).length (second.dispatches m).length with le | le
  · exact Or.inl ((start.states_prefix le).map _)
  · exact Or.inr ((start.states_prefix le).map _)

lemma writes_prefix (retraces : Retraces origin start first n k extra) {later : Nat}
    (le : k ≤ later) : first.ramWrites n <+: (Sequential.step^[later] start).memory.writes := by
  obtain ⟨log, follows, written⟩ := retraces.follows
  rw [← written]
  exact follows.writes.trans ((start.accesses_prefix_iterate le).filterMap _)

lemma writes_comparable (one : Retraces origin start first n k extra)
    (two : Retraces origin start second m l extra') :
    first.ramWrites n <+: second.ramWrites m ∨ second.ramWrites m <+: first.ramWrites n :=
  List.prefix_or_prefix_of_prefix (one.writes_prefix (Nat.le_max_left k l))
    (two.writes_prefix (Nat.le_max_right k l))

/-- A fault ends the run of the sequential machine, and with it both runs. -/
theorem faultBinds (one : Retraces origin start first n k extra)
    (two : Retraces origin start second m l extra') : FaultBinds first second n m := by
  intro fault stopped
  obtain ⟨log, follows, -⟩ := one.follows
  obtain ⟨log', follows', -⟩ := two.follows
  obtain ⟨rfl, faults⟩ := follows.stopped fault stopped
  have ends : l ≤ k := by
    by_contra further
    have live := two.running _ (start.iterate_mem_states (Nat.lt_of_not_le further))
    rw [faults] at live
    contradiction
  have lengths := one.length_dispatches
  have lengths' := two.length_dispatches
  rw [Option.toList_none, List.length_nil] at lengths
  have few : extra'.toList.length ≤ 1 := by cases extra' <;> simp
  refine ⟨?_, fun other stopped' => ?_, fun equal => ?_⟩
  · rcases ends.eq_or_lt with rfl | before
    · obtain ⟨rfl, -⟩ := follows'.trips faults
      rw [lengths, lengths']
      exact Nat.le_refl _
    · omega
  · obtain ⟨rfl, faults'⟩ := follows'.stopped other stopped'
    have same : l = k := by
      by_contra apart
      have live := one.running _ (start.iterate_mem_states (lt_of_le_of_ne ends apart))
      rw [faults'] at live
      contradiction
    subst same
    exact Option.some.inj (faults'.symm.trans faults)
  · rw [ticked_succ]
    cases extra' with
    | none =>
      obtain rfl : l = k := by
        rw [← equal, lengths'] at lengths
        simpa using lengths
      exact (follows'.trips faults).2
    | some dispatch =>
      -- the last dispatch would be a branch, which cannot have been the end
      obtain rfl : l + 1 = k := by
        rw [← equal, lengths'] at lengths
        simpa using lengths
      rw [one.dispatches, two.dispatches, Sequential.states_succ, List.map_append, Option.toList_none,
        List.append_nil] at equal
      have last := List.append_cancel_left equal
      obtain rfl : dispatch = (Sequential.step^[l] start).dispatch := by simpa using last
      obtain ⟨branch, found⟩ := (two.jump _ rfl).2
      have live := one.running _ (start.iterate_mem_states (Nat.lt_succ_self l))
      cases decoded : (Sequential.step^[l] start).fetched.code.decode with
      | error cause => simp [Dispatch.instruction?, Sequential.dispatch, decoded, Except.toOption] at found
      | ok instruction =>
        rw [Sequential.dispatch, Dispatch.instruction?_of_decode _ decoded, Option.some.injEq] at found
        subst found
        rw [Function.iterate_succ_apply', Sequential.step_of_decode live rfl decoded] at faults
        exact absurd (live.symm.trans faults) (by simp)

end Retraces

end Comparison

/-- **Timing never changes results.**  Two machines with one core are built alike but for the speed
of their links and the latencies of their devices, and their hosts have put the same words into main
memory.  If all that they dispatch in so many ticks keeps to main memory, then one of them has
dispatched what the other has dispatched, and perhaps more, under the same registers; the same goes
for what main memory has written; and the fault of one binds the other. -/
theorem timing_irrelevant (config : MachineConfig) (single : config.cores ≤ 1)
    (inside : isRam config.entry = true) (corePeriod devicePeriod : UInt32)
    (timings : DeviceTimings) (image : DiskImage) (contents contents' : List (Word × Array Word))
    (same : (loaded config image contents).ram.readWord
      = (loaded (config.retimed corePeriod devicePeriod timings) image contents').ram.readWord)
    (n m : Nat) (keeps : Dispatch.KeepToRam ((loaded config image contents).dispatches n))
    (keeps' : Dispatch.KeepToRam
      ((loaded (config.retimed corePeriod devicePeriod timings) image contents').dispatches m)) :
    Alike (loaded config image contents)
      (loaded (config.retimed corePeriod devicePeriod timings) image contents') n m := by
  have ready := ready_loaded config image contents
  have ready' := ready_loaded (config.retimed corePeriod devicePeriod timings) image contents'
  have follows' := ready'.follows single inside
  rw [← same] at follows'
  obtain ⟨k, extra, one⟩ := exists_retraces rfl (ready.follows single inside) n keeps
  obtain ⟨l, extra', two⟩ := exists_retraces rfl follows' m keeps'
  exact ⟨one.dispatches_comparable two, one.writes_comparable two, one.faultBinds two,
    two.faultBinds one⟩

/-- Filling main memory in the same way gives the same words. -/
lemma readWord_loaded_retimed (config : MachineConfig) (corePeriod devicePeriod : UInt32)
    (timings : DeviceTimings) (image : DiskImage) (contents : List (Word × Array Word)) :
    (loaded config image contents).ram.readWord
      = (loaded (config.retimed corePeriod devicePeriod timings) image contents).ram.readWord := by
  have fills (first second : Machine) (base : first.ram.base = second.ram.base)
      (words : first.ram.words = second.ram.words) :
      (contents.foldl (fun machine words => machine.load words.1 words.2) first).ram.readWord
        = (contents.foldl (fun machine words => machine.load words.1 words.2)
          second).ram.readWord := by
    induction contents generalizing first second with
    | nil =>
      funext address
      simp only [List.foldl_nil, Ram.readWord, base, words]
    | cons run rest ih =>
      refine ih _ _ ?_ ?_ <;> simp only [load, Ram.load, base] <;> split <;> simp [base, words]
  exact fills _ _ rfl rfl

/-- A program that stores a word, loads it again and divides by it, which is zero. -/
def divideByStored : List Instruction :=
  let word := Assembler.register 1
  let place := AddressMap.ramStart + 100
  [Assembler.storeLiteral word place, Assembler.loadLiteral word place,
    Assembler.arithmetic .divide (Assembler.register 2) word word]

/-- What it dispatches. -/
def dividing : List Dispatch :=
  let start := RegisterFile.reset AddressMap.ramStart
  [⟨start, ⟨start.ip, divideByStored[0].encode⟩⟩,
    ⟨start.advance, ⟨start.advance.ip, divideByStored[1].encode⟩⟩,
    ⟨start.advance.advance, ⟨start.advance.advance.ip, divideByStored[2].encode⟩⟩]

/-- One core that begins with the program. -/
def dividingConfig : MachineConfig := { MachineConfig.fast with entry := AddressMap.ramStart }

/-- The same with other latencies. -/
def dividingRetimed : MachineConfig :=
  dividingConfig.retimed 0 5 ⟨0, 7, MachineConfig.standard.timings.disk⟩

/-- The machine that runs the program. -/
def dividingLoaded (config : MachineConfig) : Machine :=
  loaded config (DiskImage.blank 1) [(AddressMap.ramStart, assemble divideByStored)]

/-- With some latencies the program has come to its fault after 64 ticks.  With others it has come
to its load after 40 ticks, and main memory has written the word already. -/
theorem timing_irrelevant_divideByStored :
    (dividingConfig.cores ≤ 1 ∧ isRam dividingConfig.entry = true
        ∧ (dividingLoaded dividingConfig).ram.readWord
          = (dividingLoaded dividingRetimed).ram.readWord
        ∧ Dispatch.KeepToRam ((dividingLoaded dividingConfig).dispatches 64)
        ∧ Dispatch.KeepToRam ((dividingLoaded dividingRetimed).dispatches 40))
      ∧ ((dividingLoaded dividingConfig).dispatches 64 = dividing
        ∧ ((dividingLoaded dividingConfig).ticked 64).fault?.map Fault.cause = some .divideByZero
        ∧ (dividingLoaded dividingRetimed).dispatches 40 = dividing.take 2
        ∧ (dividingLoaded dividingRetimed).ramWrites 40 = [(AddressMap.ramStart + 100, 0)])
      ∧ Alike (dividingLoaded dividingConfig) (dividingLoaded dividingRetimed) 64 40 := by
  have single : dividingConfig.cores ≤ 1 := by decide
  have inside : isRam dividingConfig.entry = true := by decide
  have same : (dividingLoaded dividingConfig).ram.readWord
      = (dividingLoaded dividingRetimed).ram.readWord :=
    readWord_loaded_retimed dividingConfig 0 5 _ _ _
  have dispatches : (dividingLoaded dividingConfig).dispatches 64 = dividing := by decide +kernel
  have stops : ((dividingLoaded dividingConfig).ticked 64).fault?.map Fault.cause
      = some .divideByZero := by
    decide +kernel
  have dispatches' : (dividingLoaded dividingRetimed).dispatches 40 = dividing.take 2 := by
    decide +kernel
  have writes : (dividingLoaded dividingRetimed).ramWrites 40
      = [(AddressMap.ramStart + 100, 0)] := by
    decide +kernel
  have keeps : Dispatch.KeepToRam dividing := by decide +kernel
  have keeps' : Dispatch.KeepToRam (dividing.take 2) := by decide +kernel
  rw [← dispatches] at keeps
  rw [← dispatches'] at keeps'
  exact ⟨⟨single, inside, same, keeps, keeps'⟩, ⟨dispatches, stops, dispatches', writes⟩,
    timing_irrelevant dividingConfig single inside 0 5 _ _ _ _ same 64 40 keeps keeps'⟩

end Machine

end PipelinedMachine
