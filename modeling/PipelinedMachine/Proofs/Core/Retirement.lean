import PipelinedMachine.Proofs.Core.Exclusion
import PipelinedMachine.Proofs.Core.Interruption

/-!
# Every instruction retires once

Dispatch counts a hit for each instruction it finds, and whichever unit ends an instruction counts
it as executed, possibly many ticks later and after another unit has handed it over.  This file
keeps the books of a core with counters of its own: nothing that was dispatched is lost, and nothing
is counted twice, whatever the links do, whichever interrupts are raised and whatever the host puts
into the registers.

* `Counted` — a core, its counters, and everything that it has dispatched and retired;
* `Standing.Turn.settles` — what one tick does to the two counters and to what is in hand;
* **`Counted.Reachable.retires_once`** — as long as no no-op has been dispatched, the hits are the
  instructions executed and the one that a unit holds, and what has been dispatched is, in order,
  what has retired and what is held.
-/

namespace PipelinedMachine

/-! ## Counts -/

namespace Counters

/-- The count of an event as a natural number. -/
def count (counters : Counters) (event : Counter) : Nat := (counters.get event).toNat

/-- Where every counter stops. -/
def saturation : Nat := UInt64.size - 1

lemma count_le (counters : Counters) (event : Counter) : counters.count event ≤ saturation :=
  Nat.le_sub_one_of_lt (counters.get event).toNat_lt_size

@[simp] lemma count_record_self (counters : Counters) (event : Counter) :
    (counters.record event).count event = min (counters.count event + 1) saturation := by
  rw [count, get_record, if_pos rfl, toNat_saturatingSucc]
  rfl

lemma count_record_of_ne (counters : Counters) (event : Counter) {other : Counter}
    (apart : event ≠ other) : (counters.record event).count other = counters.count other := by
  rw [count, get_record, if_neg apart, count]

end Counters

namespace Datapath

/-- The count of an event so far. -/
def count (path : Datapath) (event : Counter) : Nat := path.counters.count event

lemma count_le (path : Datapath) (event : Counter) : path.count event ≤ Counters.saturation :=
  path.counters.count_le event

variable (path : Datapath) (event : Counter) {other : Counter}

@[simp] lemma count_record_self : (path.record event).count event
    = min (path.count event + 1) Counters.saturation :=
  path.counters.count_record_self event

lemma count_record_of_ne (apart : event ≠ other) :
    (path.record event).count other = path.count other :=
  path.counters.count_record_of_ne event apart

@[simp] lemma count_request (stage : Stage) : (path.request stage).count event = path.count event :=
  rfl

@[simp] lemma count_advance : path.advance.count event = path.count event := rfl

@[simp] lemma count_complete : path.complete.count .instructionsExecuted
    = min (path.count .instructionsExecuted + 1) Counters.saturation :=
  path.counters.count_record_self .instructionsExecuted

lemma count_complete_of_ne (apart : .instructionsExecuted ≠ other) :
    path.complete.count other = path.count other :=
  path.count_record_of_ne .instructionsExecuted apart

end Datapath

/-! ## What a turn counts -/

/-- The two counters that the books are kept with. -/
def Counter.IsBooked (event : Counter) : Prop :=
  event = .cacheHits ∨ event = .instructionsExecuted

namespace Fetch

variable {terminal : Terminal} {path after : Datapath} {fetch later : Fetch} {event : Counter}

lemma SearchTurn.count_eq {phase : HandlerSearch}
    (step : SearchTurn terminal path fetch phase later after) (booked : event.IsBooked) :
    after.count event = path.count event := by
  cases step with
  | askedId | gotId | askedHandler => rfl
  | gotHandler => exact Datapath.count_record_of_ne _ _ (by rcases booked with rfl | rfl <;> decide)
  | waited => exact Datapath.count_record_of_ne _ _ (by rcases booked with rfl | rfl <;> decide)

/-- Fetch neither dispatches nor executes. -/
lemma Turn.count_eq (turn : Turn terminal path fetch later after) (booked : event.IsBooked) :
    after.count event = path.count event := by
  cases turn with
  | received | satisfied => rfl
  | awaited | refused =>
    exact Datapath.count_record_of_ne _ _ (by rcases booked with rfl | rfl <;> decide)
  | asked =>
    exact Datapath.count_record_of_ne _ _ (by rcases booked with rfl | rfl <;> decide)
  | searched phase _ _ _ _ step => exact step.count_eq booked
  | dropped phase _ _ _ _ _ _ _ step => exact step.count_eq booked

end Fetch

namespace Occupancy

variable {terminal : Terminal} {path after : Datapath} {occupancy later : Occupancy}

/-- A unit that ends its instruction counts it, and one that does not counts nothing. -/
lemma Work.settles (work : Work terminal path occupancy later after) :
    after.count .cacheHits = path.count .cacheHits
      ∧ (later.entry? = occupancy.entry?
            ∧ after.count .instructionsExecuted = path.count .instructionsExecuted
          ∨ later.entry? = none ∧ (∃ entry, occupancy.entry? = some entry)
            ∧ after.count .instructionsExecuted
              = min (path.count .instructionsExecuted + 1) Counters.saturation) := by
  cases work with
  | computed | computedNothing | loadedNothing | loaded | stored | pushed | popped | requested =>
    refine ⟨?_, Or.inr ⟨rfl, ⟨_, rfl⟩, ?_⟩⟩
    · exact Datapath.count_complete_of_ne _ (by decide)
    · exact Datapath.count_complete _
  | asked | pushing | popping => exact ⟨rfl, Or.inl ⟨rfl, rfl⟩⟩
  | loadWaits | storeWaits | requestWaits =>
    exact ⟨Datapath.count_record_of_ne _ _ (by decide),
      Or.inl ⟨rfl, Datapath.count_record_of_ne _ _ (by decide)⟩⟩

/-- The branch unit ends a branch, and moves past any other instruction, which has ended already. -/
lemma resolve_settles (occupancy : Occupancy) (path : Datapath)
    (stage : occupancy.stage = .branchPredict) :
    (occupancy.resolve path).count .cacheHits = path.count .cacheHits
      ∧ (occupancy.entry? = none
            ∧ (occupancy.resolve path).count .instructionsExecuted
              = path.count .instructionsExecuted
          ∨ (∃ entry, occupancy.entry? = some entry)
            ∧ (occupancy.resolve path).count .instructionsExecuted
              = min (path.count .instructionsExecuted + 1) Counters.saturation) := by
  cases occupancy with
  | idle | alu | load | store | stack | request => simp [Occupancy.stage] at stage
  | done => exact ⟨rfl, Or.inl ⟨rfl, rfl⟩⟩
  | branch held =>
    exact ⟨path.counters.count_record_of_ne .instructionsExecuted (by decide),
      Or.inr ⟨⟨_, rfl⟩, path.counters.count_record_self .instructionsExecuted⟩⟩

end Occupancy

/-- The words are a no-op, which no unit takes. -/
def Fetched.isNop (entry : Fetched) : Bool :=
  match entry.code.decode with
  | .ok .nop => true
  | _ => false

lemma Fetched.isNop_of_decode {entry : Fetched} {instruction : Instruction}
    (decoded : entry.code.decode = .ok instruction) :
    entry.isNop = true ↔ instruction = .nop := by
  cases instruction <;> simp [isNop, decoded]

/-- The instruction that a tick dispatches, unless it is a no-op. -/
def Dispatch.work? (issue : Option Dispatch) : List Fetched :=
  (issue.toList.map Dispatch.entry).filter fun entry => !entry.isNop

namespace Standing

variable {terminal : Terminal} {path after : Datapath} {standing later : Standing}
  {issue : Option Dispatch}

/-- What a tick has in hand: the instruction that a unit holds, and the one that is dispatched. -/
def inHand (standing : Standing) (issue : Option Dispatch) : List Fetched :=
  standing.occupancy.entry?.toList ++ Dispatch.work? issue

/-- Dispatch hands its instruction to a unit, unless it is a no-op. -/
lemma entry?_of_taken {entry : Fetched} {instruction : Instruction} {occupancy : Occupancy}
    (decoded : entry.code.decode = .ok instruction)
    (taken : Occupancy.ofInstruction? entry instruction = some occupancy)
    (registers : RegisterFile) :
    occupancy.entry?.toList = Dispatch.work? (some ⟨registers, entry⟩) := by
  have nop := Fetched.isNop_of_decode decoded
  rcases instruction with _ | _ | _ | _ | _ | (_ | _) | _ <;>
    simp only [Occupancy.ofInstruction?, Option.some.injEq, reduceCtorEq] at taken <;>
    subst taken <;> simp_all [Dispatch.work?, Occupancy.entry?]

/-- **A tick settles its books**: a dispatch is a hit, and either nothing is executed and all that
was in hand is still held, or one instruction is executed and nothing is held. -/
theorem Turn.settles {breakpoint : Option Word}
    (turn : Turn terminal path standing later after issue (.ok breakpoint)) :
    after.count .cacheHits
        = min (path.count .cacheHits + issue.toList.length) Counters.saturation
      ∧ (later.occupancy.entry?.toList = standing.inHand issue
            ∧ after.count .instructionsExecuted = path.count .instructionsExecuted
          ∨ later.occupancy.entry? = none ∧ (standing.inHand issue).length = 1
            ∧ after.count .instructionsExecuted
              = min (path.count .instructionsExecuted + 1) Counters.saturation) := by
  have fits := path.count_le .cacheHits
  generalize result : (Except.ok breakpoint : CoreOutcome) = outcome at turn
  cases turn with
  | undecodable | stray | trapped => contradiction
  | stalled fetch between here supply missing =>
    have hits := supply.count_eq (Or.inl rfl)
    have executed := supply.count_eq (Or.inr rfl)
    refine ⟨?_, Or.inl ⟨by simp [inHand, Dispatch.work?], ?_⟩⟩
    · simp [Datapath.count_record_of_ne, hits, fits]
    · simp [Datapath.count_record_of_ne, executed]
  | issued fetch between entry instruction occupancy here supply found decoded taken =>
    have hits := supply.count_eq (Or.inl rfl)
    have executed := supply.count_eq (Or.inr rfl)
    refine ⟨by simp [hits], Or.inl ⟨?_, by simp [Datapath.count_record_of_ne, executed]⟩⟩
    rw [inHand, here, entry?_of_taken decoded taken]
    rfl
  | returned fetch between entry here supply found decoded running =>
    have hits := supply.count_eq (Or.inl rfl)
    have executed := supply.count_eq (Or.inr rfl)
    have works : entry.isNop = false := by simp [Fetched.isNop, decoded]
    refine ⟨?_, Or.inr ⟨by rw [here]; rfl, ?_, ?_⟩⟩
    · change ((between.counters.record .cacheHits).record _).count .cacheHits = _
      rw [Counters.count_record_of_ne _ _ (by decide), Counters.count_record_self, ← hits]
      rfl
    · simp [inHand, here, Dispatch.work?, works, Occupancy.entry?]
    · change ((between.counters.record .cacheHits).record .instructionsExecuted).count _ = _
      rw [Counters.count_record_self, Counters.count_record_of_ne _ _ (by decide), ← executed]
      rfl
  | resolved fetch between here supply =>
    have hits := supply.count_eq (Or.inl rfl)
    have executed := supply.count_eq (Or.inr rfl)
    obtain ⟨moved, ends⟩ := standing.occupancy.resolve_settles path here
    rw [moved] at hits
    refine ⟨by simp [hits, fits], ?_⟩
    rw [enter_occupancy]
    rcases ends with ⟨vacant, same⟩ | ⟨⟨entry, held⟩, counts⟩
    · exact Or.inl ⟨by rw [inHand, vacant]; rfl, executed.trans same⟩
    · refine Or.inr ⟨rfl, by simp [inHand, Dispatch.work?, held], ?_⟩
      exact executed.trans counts
  | worked fetch between final occupancy here supply work =>
    have hits := supply.count_eq (Or.inl rfl)
    have executed := supply.count_eq (Or.inr rfl)
    obtain ⟨kept, ends⟩ := work.settles
    rw [hits] at kept
    rw [executed] at ends
    refine ⟨by simp [kept, fits], ?_⟩
    rcases ends with ⟨same, counts⟩ | ⟨vacant, ⟨entry, held⟩, counts⟩
    · exact Or.inl ⟨by simp [inHand, Dispatch.work?, same], counts⟩
    · exact Or.inr ⟨vacant, by simp [inHand, Dispatch.work?, held], counts⟩

end Standing

/-! ## The books of a core -/

/-- A core with counters of its own, and what it has done so far. -/
structure Counted where
  core : Core
  counters : Counters
  /-- Every instruction dispatched so far, oldest first. -/
  dispatched : List Fetched
  /-- Every instruction that has been executed to its end, oldest first. -/
  retired : List Fetched

namespace Counted

/-- What the core works with in a tick. -/
def env (counted : Counted) (bus : Interconnect) (lines : InterruptLines) : Environment :=
  ⟨bus, lines, counted.counters⟩

/-- What a tick has in hand: the instructions that units hold, and the one that is dispatched. -/
def inHand (counted : Counted) (bus : Interconnect) (lines : InterruptLines) : List Fetched :=
  counted.core.pipeline.held ++ Dispatch.work? (counted.core.issue? (counted.env bus lines))

/-- What a tick retires: when it counts an instruction as executed, whatever it has in hand. -/
def retires (counted : Counted) (bus : Interconnect) (lines : InterruptLines) : List Fetched :=
  if (counted.core.tick (counted.env bus lines)).2.1.counters.count .instructionsExecuted
      = counted.counters.count .instructionsExecuted
  then [] else counted.inHand bus lines

/-- One tick. -/
def tick (counted : Counted) (bus : Interconnect) (lines : InterruptLines) : Counted where
  core := (counted.core.tick (counted.env bus lines)).1
  counters := (counted.core.tick (counted.env bus lines)).2.1.counters
  dispatched := counted.dispatched
    ++ (counted.core.issue? (counted.env bus lines)).toList.map Dispatch.entry
  retired := counted.retired ++ counted.retires bus lines

/-- A core after its reset. -/
def reset (id : Nat) (terminal : Terminal) (entry : Word) : Counted :=
  ⟨Core.reset id terminal entry, {}, [], []⟩

/-- The cores that ticks without a fault lead to.  The links and the lines of each tick are
arbitrary, and between two ticks the host can change the registers. -/
inductive Reachable : Counted → Prop where
  | reset (id : Nat) (terminal : Terminal) (entry : Word) : Reachable (reset id terminal entry)
  | tick {counted : Counted} (before : Reachable counted) (bus : Interconnect)
      (lines : InterruptLines) {breakpoint : Option Word}
      (live : (counted.core.tick (counted.env bus lines)).2.2 = .ok breakpoint) :
      Reachable (counted.tick bus lines)
  | host {counted : Counted} (before : Reachable counted) (registers : RegisterFile) :
      Reachable { counted with core := { counted.core with registers := registers } }

/-- The instructions dispatched so far that are no no-ops. -/
def work (counted : Counted) : List Fetched := counted.dispatched.filter fun entry => !entry.isNop

/-- The books balance. -/
structure Balanced (counted : Counted) : Prop where
  stands : ∃ standing : Standing, counted.core.pipeline = standing.pipeline
    ∧ standing.Staged counted.core.stages
  hits : counted.counters.count .cacheHits = min counted.dispatched.length Counters.saturation
  /-- As long as the hits are exact, so is everything else. -/
  executed : counted.dispatched.length < Counters.saturation →
    counted.counters.count .instructionsExecuted = counted.retired.length
  work : counted.dispatched.length < Counters.saturation →
    counted.work = counted.retired ++ counted.core.pipeline.held

variable {counted : Counted} {bus : Interconnect} {lines : InterruptLines}

lemma balanced_reset (id : Nat) (terminal : Terminal) (entry : Word) :
    (reset id terminal entry).Balanced where
  stands := ⟨_, (Core.standsAs_reset id terminal entry).pipeline,
    (Core.standsAs_reset id terminal entry).sound.toStaged⟩
  hits := rfl
  executed := fun _ => rfl
  work := fun _ => rfl

lemma work_tick (counted : Counted) (bus : Interconnect) (lines : InterruptLines) :
    (counted.tick bus lines).work
      = counted.work ++ Dispatch.work? (counted.core.issue? (counted.env bus lines)) := by
  simp [work, tick, Dispatch.work?]

/-- A tick that executes nothing retires nothing. -/
lemma retired_tick_of_same (same : (counted.tick bus lines).counters.count .instructionsExecuted
      = counted.counters.count .instructionsExecuted) :
    (counted.tick bus lines).retired = counted.retired := by
  have nothing : counted.retires bus lines = [] := if_pos same
  rw [tick, nothing, List.append_nil]

lemma retired_tick_of_succ
    (exact : counted.counters.count .instructionsExecuted < Counters.saturation)
    (counts : (counted.tick bus lines).counters.count .instructionsExecuted
      = min (counted.counters.count .instructionsExecuted + 1) Counters.saturation) :
    (counted.tick bus lines).retired = counted.retired ++ counted.inHand bus lines := by
  have moved : (counted.tick bus lines).counters.count .instructionsExecuted
      ≠ counted.counters.count .instructionsExecuted := by omega
  have everything : counted.retires bus lines = counted.inHand bus lines := if_neg moved
  rw [tick, everything]

/-- A tick settles the books of the core. -/
lemma settles {standing : Standing} (same : counted.core.pipeline = standing.pipeline)
    (staged : standing.Staged counted.core.stages) {breakpoint : Option Word}
    (live : (counted.core.tick (counted.env bus lines)).2.2 = .ok breakpoint) :
    (∃ later : Standing, (counted.tick bus lines).core.pipeline = later.pipeline
        ∧ later.Staged (counted.tick bus lines).core.stages)
      ∧ (counted.tick bus lines).counters.count .cacheHits
        = min (counted.counters.count .cacheHits
            + (counted.core.issue? (counted.env bus lines)).toList.length) Counters.saturation
      ∧ ((counted.tick bus lines).core.pipeline.held = counted.inHand bus lines
            ∧ (counted.tick bus lines).counters.count .instructionsExecuted
              = counted.counters.count .instructionsExecuted
          ∨ (counted.tick bus lines).core.pipeline.held = []
            ∧ (counted.inHand bus lines).length = 1
            ∧ (counted.tick bus lines).counters.count .instructionsExecuted
              = min (counted.counters.count .instructionsExecuted + 1) Counters.saturation) := by
  obtain ⟨later, after, outcome, ticked, turn⟩ :=
    Core.exists_turn_of_staged same staged (counted.env bus lines)
  obtain rfl : outcome = .ok breakpoint := by rw [← live, ticked]
  obtain ⟨hits, ends⟩ := turn.settles
  have inHand : (standing.signal ((counted.env bus lines).lines.take counted.core.id).1).inHand
      (counted.core.issue? (counted.env bus lines)) = counted.inHand bus lines := by
    rw [Standing.inHand, Standing.signal_occupancy, Counted.inHand, same, standing.held_pipeline]
  rw [inHand] at ends
  simp only [Counted.tick, ticked]
  refine ⟨⟨later, rfl, turn.staged (staged.signal _)⟩, hits, ?_⟩
  rw [later.held_pipeline]
  rcases ends with kept | ⟨vacant, rest⟩
  · exact Or.inl kept
  · exact Or.inr ⟨by rw [vacant]; rfl, rest⟩

/-- No more is executed than has been dispatched. -/
lemma Balanced.executed_lt (balanced : counted.Balanced)
    (exact : counted.dispatched.length < Counters.saturation) :
    counted.counters.count .instructionsExecuted < Counters.saturation := by
  have work := congrArg List.length (balanced.work exact)
  rw [List.length_append] at work
  have fewer : counted.work.length ≤ counted.dispatched.length := List.length_filter_le _ _
  rw [balanced.executed exact]
  omega

lemma Balanced.tick (balanced : counted.Balanced) {breakpoint : Option Word}
    (live : (counted.core.tick (counted.env bus lines)).2.2 = .ok breakpoint) :
    (counted.tick bus lines).Balanced := by
  obtain ⟨standing, same, staged⟩ := balanced.stands
  obtain ⟨stands, hits, ends⟩ := settles same staged live
  have dispatched : (counted.tick bus lines).dispatched.length
      = counted.dispatched.length
        + (counted.core.issue? (counted.env bus lines)).toList.length := by
    rw [Counted.tick, List.length_append, List.length_map]
  have books (exact : (counted.tick bus lines).dispatched.length < Counters.saturation) :
      (counted.tick bus lines).counters.count .instructionsExecuted
          = (counted.tick bus lines).retired.length
        ∧ (counted.tick bus lines).work
          = (counted.tick bus lines).retired ++ (counted.tick bus lines).core.pipeline.held := by
    have before : counted.dispatched.length < Counters.saturation := by omega
    have executed := balanced.executed before
    have below := balanced.executed_lt before
    rw [work_tick, balanced.work before, List.append_assoc, ← Counted.inHand]
    rcases ends with ⟨kept, counts⟩ | ⟨vacant, single, counts⟩
    · rw [retired_tick_of_same counts, kept, counts]
      exact ⟨executed, rfl⟩
    · rw [retired_tick_of_succ below counts, vacant, List.append_nil, List.length_append, single,
        counts, ← executed]
      exact ⟨Nat.min_eq_left below, rfl⟩
  refine ⟨stands, ?_, fun exact => (books exact).1, fun exact => (books exact).2⟩
  have before := balanced.hits
  -- the bound is a large number, and here any other would do
  generalize Counters.saturation = bound at *
  omega

/-- The books do not depend on the registers. -/
lemma Balanced.host (balanced : counted.Balanced) (registers : RegisterFile) :
    ({ counted with core := { counted.core with registers := registers } } : Counted).Balanced :=
  ⟨balanced.stands, balanced.hits, balanced.executed, balanced.work⟩

lemma Reachable.balanced (reachable : counted.Reachable) : counted.Balanced := by
  induction reachable with
  | reset id terminal entry => exact balanced_reset id terminal entry
  | tick before bus lines live balanced => exact balanced.tick live
  | host before registers balanced => exact balanced.host registers

/-! ## Once -/

/-- Every instruction that has been dispatched retires once. -/
structure RetiresOnce (counted : Counted) : Prop where
  /-- What has been found by dispatch has been executed, or is held by a unit. -/
  hits : counted.counters.count .cacheHits
    = counted.counters.count .instructionsExecuted
      + if counted.core.pipeline.held = [] then 0 else 1
  /-- A hit is a dispatch, and an instruction counted as executed is one that has retired. -/
  counts : counted.counters.count .cacheHits = counted.dispatched.length
    ∧ counted.counters.count .instructionsExecuted = counted.retired.length
  /-- No instruction is dropped, executed twice, left behind or overtaken by another. -/
  inOrder : counted.dispatched = counted.retired ++ counted.core.pipeline.held

/-- **Every dispatched instruction retires exactly once**, as long as none of them is a no-op and
the hits are below the largest count. -/
theorem Reachable.retires_once (reachable : counted.Reachable)
    (working : ∀ entry ∈ counted.dispatched, entry.isNop = false)
    (exact : counted.counters.count .cacheHits < Counters.saturation) : counted.RetiresOnce := by
  have balanced := reachable.balanced
  have hits := balanced.hits
  have below : counted.dispatched.length < Counters.saturation := by omega
  have every : counted.work = counted.dispatched :=
    List.filter_eq_self.mpr fun entry member => by rw [working entry member]; rfl
  have inOrder := balanced.work below
  have executed := balanced.executed below
  rw [every] at inOrder
  have length := congrArg List.length inOrder
  obtain ⟨standing, same, -⟩ := balanced.stands
  have alone : counted.core.pipeline.held.length
      = if counted.core.pipeline.held = [] then 0 else 1 := by
    rw [same, standing.held_pipeline]
    cases standing.occupancy.entry? <;> rfl
  rw [List.length_append, alone] at length
  exact ⟨by omega, ⟨by omega, executed⟩, inOrder⟩

/-- The core after so many ticks. -/
def after (counted : Counted) (env : Nat → Environment) : Nat → Counted
  | 0 => counted
  | n + 1 => (counted.after env n).tick (env n).bus (env n).lines

lemma Reachable.after (before : counted.Reachable) {env : Nat → Environment} {n : Nat}
    (live : ∀ i < n, ((counted.after env i).core.tick
      ((counted.after env i).env (env i).bus (env i).lines)).2.2 = .ok none) :
    (counted.after env n).Reachable := by
  induction n with
  | zero => exact before
  | succ n ih =>
    exact (ih fun i inside => live i (Nat.lt_succ_of_lt inside)).tick _ _ (live n n.lt_succ_self)

/-- In the run in which an interrupt is handled, the first instruction and the jump to the handler
have been dispatched after 8 ticks and the jump is still held; two ticks later it has retired, and
so has the return from the handler. -/
theorem retires_once_handled :
    ∃ halfway handled : Counted, halfway.Reachable ∧ handled.Reachable
      ∧ (∀ entry ∈ halfway.dispatched, entry.isNop = false)
      ∧ (∀ entry ∈ handled.dispatched, entry.isNop = false)
      ∧ halfway.core.pipeline.held = [⟨2, (Assembler.jump 100).encode⟩]
      ∧ handled.core.pipeline.held = [] ∧ handled.dispatched.length = 3
      ∧ halfway.RetiresOnce ∧ handled.RetiresOnce := by
  let start := reset 0 ⟨0⟩ 0
  have live : ∀ i < 10, ((start.after Core.Run.handledEnv i).core.tick
      ((start.after Core.Run.handledEnv i).env (Core.Run.handledEnv i).bus
        (Core.Run.handledEnv i).lines)).2.2 = .ok none := by decide +kernel
  have begun : start.Reachable := .reset 0 ⟨0⟩ 0
  have halfway := begun.after (n := 8) fun i inside => live i (by omega)
  have handled := begun.after (n := 10) live
  have working : ∀ entry ∈ (start.after Core.Run.handledEnv 8).dispatched,
      entry.isNop = false := by decide +kernel
  have working' : ∀ entry ∈ (start.after Core.Run.handledEnv 10).dispatched,
      entry.isNop = false := by decide +kernel
  exact ⟨_, _, halfway, handled, working, working', by decide +kernel, by decide +kernel,
    by decide +kernel, halfway.retires_once working (by decide +kernel),
    handled.retires_once working' (by decide +kernel)⟩

end Counted

end PipelinedMachine
