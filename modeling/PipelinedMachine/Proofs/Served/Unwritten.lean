import PipelinedMachine.Proofs.Served.Progress

/-!
# Programs that leave their instructions alone

That a core refines the sequential machine was shown of runs in which nothing is dispatched from a
word that has been written.  Here this is read off the program: if the sequential machine comes to
its first instructions without having written to them, then so does the core, in every run, and the
registers are those of the machine up to and including the instruction after them.

* `ServedCore.starting`, `Sequential.beginning` — a core with any registers, behind a link to its
  memory, and a machine like it;
* `Sequential.Unwritten` — **the condition**, about the sequential machine alone;
* `ServedCore.Keeps`, `ServedCore.Keeps.run` — **the core keeps to the machine that far**;
* `ServedCore.Retraces.words_eq` — until then, no word has changed that the machine does not write.
-/

namespace PipelinedMachine

/-- A machine with these registers, in a memory that holds `words`. -/
def Sequential.beginning (registers : RegisterFile) (words : Word → Word) : Sequential where
  registers := registers
  memory := { words := words }

/-- The machine comes to its first `count` instructions without having written to them. -/
def Sequential.Unwritten (start : Sequential) (count : Nat) : Prop :=
  ∀ k < count, (step^[k] start).memory.Intact (step^[k] start).registers.ip

namespace ServedCore

variable {origin : Word → Word} {served : ServedCore} {machine start : Sequential}

/-! ## Starting with any registers -/

/-- Core `id` with these registers, with a memory that holds `words` behind a link that carries a
word every `period` ticks. -/
def starting (id : Nat) (registers : RegisterFile) (period : UInt32) (words : Word → Word) :
    ServedCore :=
  let served := reset id registers.ip period words
  { served with core := { served.core with registers := registers } }

section Starting

variable (id : Nat) (registers : RegisterFile) (period : UInt32) (words : Word → Word)

lemma stands_starting :
    (starting id registers period words).Stands words
      { occupancy := .idle, fetch := {}, dispatched := none, interruptPending := false,
        inInterrupt := false, savedIp := registers.ip } where
  core := {
    pipeline := rfl
    sound := {
      toStaged := (stands_reset id registers.ip period words).core.sound.toStaged
      held := by simp [Occupancy.entry?] } }
  stocked := (stands_reset id registers.ip period words).stocked

lemma retraces_starting :
    (starting id registers period words).Retraces words (.beginning registers words) where
  dispatches := rfl
  running := by simp [Sequential.states, starting, reset]
  follows := {
    quiet := (retraces_reset id registers.ip period words).follows.quiet
    unjumped := rfl
    running := fun _ => by
      refine ⟨_, stands_starting id registers period words, ⟨rfl, rfl, rfl⟩, ?_⟩
      have seen : (starting id registers period words).view = ⟨{ words := words }, []⟩ :=
        view_reset id registers.ip period words
      rw [seen]
      rfl
    stopped := fun fault stopped => absurd stopped (by simp [starting, reset]) }

lemma undisturbed_starting : (starting id registers period words).Undisturbed words where
  quiet := (retraces_reset id registers.ip period words).follows.quiet
  wide := ⟨rfl, rfl⟩
  running _ := ⟨_, stands_starting id registers period words, rfl, rfl, rfl⟩

end Starting

/-! ## What is dispatched -/

/-- What is dispatched next comes under the registers of the machine, and the core sees its
memory. -/
lemma Follows.issued (follows : served.Follows origin machine) (running : served.stopped = none)
    {dispatch : Dispatch} (issued : served.issue? = some dispatch) :
    dispatch.registers = machine.registers ∧ served.view.memory = machine.memory := by
  obtain ⟨standing, later, after, outcome, turn, stocked, calm, sound, completed, _⟩ :=
    follows.exists_turn running
  rw [issued] at turn
  obtain ⟨idle, registers, _⟩ := turn.shows_of_issued stocked calm sound
  rw [idle] at completed
  subst completed
  exact ⟨registers, rfl⟩

/-- As far as a run is that of the machine, so is what has been dispatched. -/
lemma Retraces.dispatch_eq (retraces : served.Retraces origin start) {k : Nat}
    {dispatch : Dispatch} (found : served.dispatches[k]? = some dispatch) :
    dispatch = (Sequential.step^[k] start).dispatch := by
  rw [retraces.dispatches] at found
  obtain ⟨inside, rfl⟩ := List.getElem?_eq_some_iff.mp found
  simp only [Sequential.states, List.getElem_map, List.getElem_range]

/-- The core keeps to the machine for its first `count` instructions, and the registers are the same
once more. -/
structure Keeps (origin : Word → Word) (served : ServedCore) (start : Sequential) (count : Nat) :
    Prop where
  retraces : served.dispatches.length ≤ count → served.Retraces origin start
  dispatches : ∀ k < count, ∀ dispatch, served.dispatches[k]? = some dispatch →
    dispatch = (Sequential.step^[k] start).dispatch
  registers : ∀ k ≤ count, ∀ dispatch, served.dispatches[k]? = some dispatch →
    dispatch.registers = (Sequential.step^[k] start).registers

lemma Retraces.keeps (retraces : served.Retraces origin start) (count : Nat) :
    served.Keeps origin start count where
  retraces _ := retraces
  dispatches _ _ _ found := retraces.dispatch_eq found
  registers _ _ _ found := by rw [retraces.dispatch_eq found]; rfl

/-- Each action keeps it so.  The instruction after the first `count` may have been written over,
but the registers under which it is dispatched have not. -/
lemma Keeps.step {count : Nat} (keeps : served.Keeps origin start count)
    (unwritten : start.Unwritten count) {action : Action} (calm : action ≠ .raise) :
    (served.step action).Keeps origin start count := by
  cases action with
  | raise => contradiction
  | link | take | serve | reply =>
    exact ⟨fun few => (keeps.retraces few).step calm (by simp), keeps.dispatches, keeps.registers⟩
  | core =>
    cases stopped : served.stopped with
    | some fault =>
      have still : served.step .core = served := by
        simp only [ServedCore.step, tickCore, stopped]
      rwa [still]
    | none =>
      have added : (served.step .core).dispatches = served.dispatches ++ served.issue?.toList := by
        simp only [ServedCore.step, tickCore, stopped]
      have retraces (few : (served.step .core).dispatches.length ≤ count) :
          (served.step .core).Retraces origin start := by
        rw [added, List.length_append] at few
        have retraces := keeps.retraces (by omega)
        refine retraces.step calm fun _ dispatch issued => ?_
        obtain ⟨registers, memory⟩ := retraces.follows.issued stopped issued
        rw [Option.mem_def.mp issued, Option.toList_some, List.length_singleton] at few
        rw [HasWritten, HasWritten, registers, memory]
        exact unwritten _ (by omega)
      -- a dispatch was there before, or it is the one that comes now
      have new {k : Nat} {dispatch : Dispatch}
          (found : (served.step .core).dispatches[k]? = some dispatch) :
          served.dispatches[k]? = some dispatch
            ∨ k = served.dispatches.length ∧ served.issue? = some dispatch := by
        rw [added] at found
        by_cases earlier : k < served.dispatches.length
        · rw [List.getElem?_append_left earlier] at found
          exact Or.inl found
        · rw [List.getElem?_append_right (by omega)] at found
          cases issue : served.issue? with
          | none => simp [issue] at found
          | some other =>
            rw [issue, Option.toList_some, List.getElem?_singleton] at found
            split_ifs at found with first
            exact Or.inr ⟨by omega, found⟩
      refine ⟨retraces, fun k within dispatch found => ?_, fun k within dispatch found => ?_⟩
      · rcases new found with earlier | ⟨rfl, issued⟩
        · exact keeps.dispatches k within dispatch earlier
        · refine (retraces ?_).dispatch_eq found
          rw [added, issued, List.length_append, Option.toList_some, List.length_singleton]
          omega
      · rcases new found with earlier | ⟨rfl, issued⟩
        · exact keeps.registers k within dispatch earlier
        · exact ((keeps.retraces within).follows.issued stopped issued).1

/-- **In every run** the core keeps to the machine. -/
theorem Keeps.run {count : Nat} (keeps : served.Keeps origin start count)
    (unwritten : start.Unwritten count) {actions : List Action} (calm : .raise ∉ actions) :
    (served.run actions).Keeps origin start count := by
  induction actions generalizing served with
  | nil => exact keeps
  | cons action rest ih =>
    rw [List.mem_cons, not_or] at calm
    exact ih (keeps.step unwritten (Ne.symm calm.1)) calm.2

/-! ## What has not changed -/

/-- The memory itself only changes where it is written, and it notes where. -/
lemma sound_run (sound : served.server.memory.Sound origin) (actions : List Action) :
    (served.run actions).server.memory.Sound origin := by
  induction actions generalizing served with
  | nil => exact sound
  | cons action rest ih =>
    refine ih ?_
    cases action with
    | link | raise => exact sound
    | core =>
      simp only [step, tickCore]
      split <;> exact sound
    | take =>
      simp only [step, Server.take]
      split <;> exact sound
    | serve =>
      simp only [step, Server.serve]
      split
      · exact sound
      · exact sound.serve _
    | reply =>
      simp only [step, Server.reply]
      split
      · exact sound
      · split <;> exact sound

/-- Where the machine has written nothing, memory holds what it held. -/
lemma Retraces.words_eq (retraces : served.Retraces origin start)
    (sound : served.server.memory.Sound origin) {address : Word}
    (unwritten : ¬ (Sequential.step^[served.dispatches.length] start).memory.HasWritten address) :
    served.server.memory.words address = origin address :=
  (sound address).resolve_right fun written =>
    unwritten (Memory.writesIn_of_prefix retraces.refines.accesses address written)

/-- A fault that stops the core is one of the machine. -/
lemma Retraces.stopped_eq_none (retraces : served.Retraces origin start)
    (live : (Sequential.step^[served.dispatches.length] start).fault = none) :
    served.stopped = none := by
  by_contra stopped
  obtain ⟨fault, stopped⟩ := Option.ne_none_iff_exists'.mp stopped
  rw [(retraces.follows.stopped fault stopped).1] at live
  contradiction

end ServedCore

end PipelinedMachine
