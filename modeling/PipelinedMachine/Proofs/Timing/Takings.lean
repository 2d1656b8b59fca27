import PipelinedMachine.Proofs.Timing.Retiming

/-!
# What main memory takes

In a machine with one core, main memory takes the requests for it in the order in which the core has
sent them.  So what it has taken and what is on its way to it make up one sequence, and the core
only ever adds to its end.

* `Machine.ramTakes` — the requests that main memory takes in so many ticks;
* `Machine.arrivals` — the same, and behind them those that are on their way, which **a tick** only
  adds to (`Machine.arrivals_tick`);
* **`Machine.comparable_ramTakes`** — what stands first in the sequence is taken first;
* `Message.leave`, **`Machine.readWord_ticked`** — main memory holds what the requests that it has
  taken leave.
-/

namespace PipelinedMachine

open Interconnect

/-! ## What requests leave -/

namespace Message

/-- The words once some requests have been served, one after the other. -/
def leave (words : Word → Word) (messages : List Message) : Word → Word :=
  (messages.filterMap stored?).foldl
    (fun words store => Function.update words store.1 store.2) words

lemma leave_append (words : Word → Word) (first second : List Message) :
    leave words (first ++ second) = leave (leave words first) second := by
  rw [leave, List.filterMap_append, List.foldl_append]
  rfl

end Message

/-- A core only adds to what is on its way from it. -/
lemma Machine.InOrder.requests_prefix {machine : Machine} (inOrder : machine.InOrder)
    (component : Component) {fine : Message → Prop} {bus after : Interconnect}
    (deals : Deals machine.processor.boot.terminal fine bus after) :
    bus.along (Message.asks component) (machine.outward component)
      <+: after.along (Message.asks component) (machine.outward component) := by
  induction deals with
  | refl => exact List.prefix_rfl
  | tail _ deal before =>
    refine before.trans ?_
    cases deal with
    | sends allowed sent =>
      rw [inOrder.requests_send component sent]
      exact List.prefix_append _ _
    | takes waiting => rw [inOrder.requests_clear component]

namespace Machine

variable {machine later : Machine} {outcome : TickOutcome}

/-! ## What main memory takes -/

/-- The request that main memory takes in the next tick. -/
def ramTake? (machine : Machine) : Option Message :=
  if machine.tick.1.fault?.isNone then
    (machine.ram.taken? machine.beforeRam).filter (Message.asks .ram)
  else none

/-- The requests that main memory takes in the first so many ticks. -/
def ramTakes (machine : Machine) (ticks : Nat) : List Message :=
  (List.range ticks).filterMap fun k => (machine.ticked k).ramTake?

/-- What main memory has taken in the first so many ticks, and behind it what is on its way. -/
def arrivals (machine : Machine) (ticks : Nat) : List Message :=
  machine.ramTakes ticks ++ (machine.ticked ticks).requests .ram

lemma ramTakes_succ (machine : Machine) (ticks : Nat) :
    machine.ramTakes (ticks + 1)
      = machine.ramTakes ticks ++ (machine.ticked ticks).ramTake?.toList := by
  rw [ramTakes, List.range_succ, List.filterMap_append]
  cases h : (machine.ticked ticks).ramTake? <;> simp [ramTakes, h]

lemma ramTakes_prefix (machine : Machine) {ticks later : Nat} (le : ticks ≤ later) :
    machine.ramTakes ticks <+: machine.ramTakes later := by
  induction later, le using Nat.le_induction with
  | base => exact List.prefix_rfl
  | succ later _ ih =>
    rw [ramTakes_succ]
    exact ih.trans (List.prefix_append _ _)

/-! ## One tick -/

/-- A machine that is not stopped after a tick has had a tick without a fault. -/
lemma exists_outcome (running : machine.tick.1.fault? = none) :
    ∃ outcome, machine.tick.2 = .ok outcome := by
  obtain ⟨config, bus, processor, ram, hub, rom, display, disk, keyboard, counters, fault?,
    ticks⟩ := machine
  cases fault? with
  | some fault => simp [tick] at running
  | none =>
    simp only [tick] at running ⊢
    generalize processor.tick bus counters = turn at running ⊢
    obtain ⟨processor', bus', counters', fault | breakpoint⟩ := turn
    · contradiction
    · exact ⟨_, rfl⟩

/-- Before a tick without a fault there was no fault either. -/
lemma running_of_tick (running : machine.tick.1.fault? = none) : machine.fault? = none := by
  by_contra stopped
  obtain ⟨fault, stopped⟩ := Option.ne_none_iff_exists'.mp stopped
  rw [(stopped_of_fault? stopped).tick] at running
  exact absurd (running.symm.trans stopped) (by simp)

/-- A fault comes before main memory's turn. -/
lemma ram_tick_of_fault (stopped : machine.tick.1.fault? ≠ none) :
    machine.tick.1.ram = machine.ram := by
  obtain ⟨config, bus, processor, ram, hub, rom, display, disk, keyboard, counters, fault?,
    ticks⟩ := machine
  cases fault? with
  | some fault => rfl
  | none =>
    simp only [tick] at stopped ⊢
    generalize processor.tick bus counters = turn at stopped ⊢
    obtain ⟨processor', bus', counters', fault | breakpoint⟩ := turn
    · rfl
    · exact absurd rfl stopped

namespace InOrder

lemma relays (inOrder : machine.InOrder) (relays : Relays machine later) : later.InOrder := by
  induction relays with
  | refl => exact inOrder
  | tail _ step before =>
    obtain ⟨actor, turn⟩ := step
    exact before.relay turn

/-- The turns of anything else leave what is on its way to a component. -/
lemma requests_arounds {component : Component} (inOrder : machine.InOrder)
    (arounds : Relation.ReflTransGen (Around component) machine later) :
    later.requests component = machine.requests component := by
  induction arounds with
  | refl => rfl
  | tail others step before =>
    obtain ⟨actor, away, turn⟩ := step
    exact ((inOrder.relays (relays_of_around others)).requests_around turn away).trans before

/-- The turns behind the core take the first request at most. -/
lemma requests_behind (inOrder : machine.cored.InOrder) (live : machine.tick.2 = .ok outcome) :
    machine.cored.requests .ram
      = machine.ramTake?.toList ++ machine.tick.1.requests .ram := by
  obtain ⟨before, first, bus, ram, rest⟩ := exists_relays_tick live
  have between := inOrder.relays (relays_of_around first)
  obtain ⟨answered, visit⟩ := before.ram.visit_taken? before.bus
  have own := between.requests_own .ram .ram visit.handled
  have behind := (between.relay .ram).requests_arounds rest
  rw [← inOrder.requests_arounds first, own, ← behind, ramTake?, (core_of_tick live).1, ram, bus]
  rfl

/-- What the core does in its turn is at most to send further requests. -/
lemma requests_cored (inOrder : machine.InOrder) :
    machine.requests .ram <+: machine.cored.requests .ram := by
  have lane := inOrder.sound.lanes _ (boot_mem machine)
  obtain ⟨standing, stands, -⟩ := lane.steady
  obtain ⟨later, after, outcome, ticked, turn⟩ := Core.exists_turn stands machine.environment
  have same := machine.cored_of_alone inOrder.alone
  rw [ticked] at same
  rw [same]
  exact inOrder.requests_prefix .ram turn.deals

/-- What main memory writes are the stores among what it takes. -/
lemma ramWrite?_eq (inOrder : machine.InOrder) :
    machine.ramWrite? = machine.ramTake?.bind Message.stored? := by
  cases running : machine.tick.1.fault? with
  | some fault => simp [ramWrite?, ramTake?, running]
  | none =>
    obtain ⟨outcome, live⟩ := exists_outcome running
    obtain ⟨-, core, rest, breakpoint, ticked⟩ := core_of_tick live
    obtain ⟨before, first, bus, ram, -⟩ := exists_relays_tick live
    have between := (inOrder.cored ticked).relays (relays_of_around first)
    have stores := between.stored?_taken
    rw [ram, bus] at stores
    simp only [ramWrite?, ramTake?, running, stores, Option.isNone_none, if_true]

end InOrder

/-! ## A run -/

section Run

variable (reachable : machine.Reachable) (single : machine.config.cores ≤ 1)

include reachable in
/-- As long as no fault occurs, a run leads to machines that can be reached. -/
lemma Reachable.ticked {ticks : Nat} (running : (machine.ticked ticks).fault? = none) :
    (machine.ticked ticks).Reachable ∧ (machine.ticked ticks).config = machine.config := by
  induction ticks with
  | zero => exact ⟨reachable, rfl⟩
  | succ ticks ih =>
    rw [ticked_succ] at running ⊢
    obtain ⟨reached, same⟩ := ih (running_of_tick running)
    exact ⟨reached.act .tick fun _ => exists_outcome running,
      ((machine.ticked ticks).config_act .tick).trans same⟩

include reachable single in
lemma Reachable.inOrder_ticked {ticks : Nat} (running : (machine.ticked ticks).fault? = none) :
    (machine.ticked ticks).InOrder := by
  obtain ⟨reached, same⟩ := reachable.ticked running
  exact reached.inOrder (by rwa [same])

include reachable single in
/-- **A tick only adds to the end of the sequence.** -/
theorem arrivals_tick {ticks : Nat} (running : (machine.ticked (ticks + 1)).fault? = none) :
    machine.arrivals ticks <+: machine.arrivals (ticks + 1) := by
  rw [ticked_succ] at running
  have inOrder := reachable.inOrder_ticked single (running_of_tick running)
  obtain ⟨outcome, live⟩ := exists_outcome running
  obtain ⟨-, core, rest, breakpoint, ticked⟩ := core_of_tick live
  have behind := (inOrder.cored ticked).requests_behind live
  rw [arrivals, arrivals, ramTakes_succ, ticked_succ, List.append_assoc, ← behind]
  exact List.prefix_append_right_inj _ |>.mpr inOrder.requests_cored

include reachable single in
/-- **What stands first in the sequence is taken first.** -/
theorem comparable_ramTakes {ticks : Nat} {first : List Message}
    (ahead : first <+: machine.arrivals ticks) (later : Nat) :
    machine.ramTakes later <+: first ∨ first <+: machine.ramTakes later := by
  have taken (k : Nat) : machine.ramTakes k <+: machine.arrivals k := List.prefix_append _ _
  rcases Nat.le_total later ticks with sooner | after
  · exact List.prefix_or_prefix_of_prefix ((machine.ramTakes_prefix sooner).trans (taken ticks))
      ahead
  · have both : ((machine.ticked later).fault? = none → first <+: machine.arrivals later)
        ∧ (machine.ramTakes later <+: first ∨ first <+: machine.ramTakes later) := by
      induction later, after using Nat.le_induction with
      | base => exact ⟨fun _ => ahead, List.prefix_or_prefix_of_prefix (taken ticks) ahead⟩
      | succ later _ ih =>
        cases live : (machine.ticked (later + 1)).fault? with
        | none =>
          have before : (machine.ticked later).fault? = none :=
            running_of_tick (by rwa [ticked_succ] at live)
          have on := (ih.1 before).trans (arrivals_tick reachable single live)
          exact ⟨fun _ => on, List.prefix_or_prefix_of_prefix (taken _) on⟩
        | some fault =>
          have nothing : (machine.ticked later).ramTake? = none := by
            rw [ticked_succ] at live
            simp [ramTake?, live]
          refine ⟨by simp, ?_⟩
          rw [ramTakes_succ, nothing, Option.toList_none, List.append_nil]
          exact ih.2
    exact both.2

include reachable single in
/-- **Main memory holds what the requests that it has taken leave.** -/
theorem readWord_ticked (ticks : Nat) :
    (machine.ticked ticks).ram.readWord
      = Message.leave machine.ram.readWord (machine.ramTakes ticks) := by
  induction ticks with
  | zero => rfl
  | succ ticks ih =>
    rw [ticked_succ, ramTakes_succ, Message.leave_append, ← ih]
    cases running : (machine.ticked ticks).tick.1.fault? with
    | some fault =>
      rw [ram_tick_of_fault (by simp [running])]
      simp [ramTake?, running, Message.leave]
    | none =>
      have before := running_of_tick running
      obtain ⟨reached, same⟩ := reachable.ticked before
      obtain ⟨outcome, live⟩ := exists_outcome running
      have inOrder := reachable.inOrder_ticked single before
      rw [reached.readWord_tick (by rwa [same]) live, inOrder.ramWrite?_eq]
      cases (machine.ticked ticks).ramTake? with
      | none => rfl
      | some message => cases h : message.stored? <;> simp [Message.leave, h]

end Run

end Machine

end PipelinedMachine
