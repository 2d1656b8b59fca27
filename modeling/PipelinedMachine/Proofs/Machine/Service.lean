import PipelinedMachine.Proofs.Machine.Signals
import PipelinedMachine.Proofs.Machine.Wiring

/-!
# What becomes of an interrupt

The interrupts that come before the boot core has looked one up are answered by a single search, and
the search finds the latest of them.  This file follows an interrupt through a whole run, with any
programs in memory, any other interrupts in between and any actions of the host.

* `Machine.Run` — ticks without a fault and actions of the host, from the wiring on;
* `Machine.Run.LastPut`, `Machine.Run.Held` — what is in the vector table, and since when;
* `Machine.Run.held_of_answer?` — what a search reads was in the table after the search had begun;
* `Machine.Run.Acquires` — how far a search has come, and what it has found;
* `Machine.Run.Acquires.step` — and how it goes on;
* **`Machine.Run.serviced`** — an interrupt signals the boot core until a search begins, which reads
  the id of this interrupt or of one that has replaced it, and then enters the handler for that id;
* `Machine.Run.coalesced` — an interrupt that is replaced in time is never looked up.
-/

namespace PipelinedMachine

open Interconnect

/-- The address that a search waits for an answer from. -/
def HandlerSearch.awaits? : HandlerSearch → Option Word
  | .awaitId => some AddressMap.lastInterrupt
  | .awaitHandler id => some (AddressMap.vectorStart + id)
  | .askId | .askHandler _ => none

namespace Machine

open Traffic

/-! ## Runs -/

/-- The machine after so many actions. -/
def after (machine : Machine) (action : Nat → MachineAction) : Nat → Machine
  | 0 => machine
  | n + 1 => (machine.after action n).act (action n)

/-- Ticks and actions of the host in any order.  No tick ends in a fault. -/
structure Run where
  config : MachineConfig
  image : DiskImage
  action : Nat → MachineAction
  /-- Number of actions. -/
  length : Nat
  live : ∀ k < length, ((wire config image).after action k).Survives (action k)

namespace Run

variable (run : Run)

/-- The machine after the first `k` actions. -/
def state (k : Nat) : Machine := (wire run.config run.image).after run.action k

/-- The interrupt that the controller accepts in step `k`, the first step being number 0. -/
def accepted? (k : Nat) : Option Word := (run.state k).accepted? (run.action k)

/-- What step `k` puts into the slot of the latest interrupt. -/
def put? (k : Nat) : Option Word := (run.state k).put? (run.action k)

/-- A search for a handler begins in step `k`. -/
def Begins (k : Nat) : Prop := (run.state k).Begins (run.action k)

/-- The slot of the vector table at `address`, in state `k`. -/
def vector (k : Nat) (address : Word) : Word :=
  (run.state k).processor.controller.vector address

/-- The id that is in the slot of the latest interrupt in state `m` was put there in step `p`. -/
structure LastPut (p m : Nat) (id : Word) : Prop where
  before : p < m
  puts : run.put? p = some id
  last : ∀ q, p < q → q < m → run.put? q = none

/-- The slot at `address` held the word in a state after step `i`, and no later than state `k`. -/
def Held (i k : Nat) (address word : Word) : Prop :=
  ∃ m, i < m ∧ m ≤ k ∧ run.vector m address = word

/-! ## Searches -/

/-- From step `i` up to state `k` the boot core is after the id of the latest interrupt. -/
def AsksId (i k : Nat) : Prop := ∀ m, i < m → m ≤ k →
  (run.state m).searching = some .askId ∨ (run.state m).searching = some .awaitId

/-- From step `j` up to state `k` the boot core is after the handler of interrupt `id`. -/
def AsksHandler (id : Word) (j k : Nat) : Prop := ∀ m, j < m → m ≤ k →
  (run.state m).searching = some (.askHandler id)
    ∨ (run.state m).searching = some (.awaitHandler id)

/-- The search that began in step `i` reads the id of an interrupt in step `j`.  With 32 cores at
most, that id was put into the slot in step `n` or later, and it was the latest one at a moment
since the search began.  So it is the one of step `n` unless that has been replaced by then. -/
structure ReadsId (n i j : Nat) (id : Word) : Prop where
  order : i < j
  asks : run.AsksId i j
  reads : (run.state (j + 1)).searching = some (.askHandler id)
  latest : run.config.cores ≤ 32 → ∃ p m, n ≤ p ∧ i < m ∧ m ≤ j ∧ run.LastPut p m id
  own : run.config.cores ≤ 32 → (∀ q, n < q → q < j → run.put? q = none) → run.put? n = some id

/-- The search that has read `id` in step `j` ends in step `l` with the dispatch of the jump to
`handler`, and the next tick enters the handler.  With 32 cores at most, the slot of `id` in the
vector table held it at a moment since `id` was read. -/
structure Enters (j l : Nat) (id handler : Word) : Prop where
  order : j < l
  asks : run.AsksHandler id j l
  ends : (run.state (l + 1)).searching = none
  jump : (run.state (l + 1)).processor.boot.pipeline.branch = some
    ⟨⟨(run.state l).processor.boot.registers.ip, (Assembler.jump handler).encode⟩, .jump handler⟩
  enters : ∀ m, l < m → m < run.length → run.action m = .tick →
    (∀ q, l < q → q < m → run.action q ≠ .tick) →
      (run.state (m + 1)).processor.boot.registers.ip = handler
  installed : run.config.cores ≤ 32 →
    Router.targetOf (AddressMap.vectorStart + id) = .controller →
      run.Held j l (AddressMap.vectorStart + id) handler

/-- How far the search that began in step `i` has come in state `k`. -/
inductive Acquires (n i k : Nat) : Prop where
  | asksId (asks : run.AsksId i k)
  | asksHandler (j : Nat) (id : Word) (inside : j < k) (reads : run.ReadsId n i j id)
      (asks : run.AsksHandler id j k)
  | entered (j l : Nat) (id handler : Word) (inside : l < k) (reads : run.ReadsId n i j id)
      (enters : run.Enters j l id handler)

/-- The first search to begin after step `n` begins in step `i`. -/
structure FirstSearch (n i : Nat) : Prop where
  order : n < i
  begins : run.Begins i
  first : ∀ j, n < j → j < i → ¬ run.Begins j

/-! ## What holds throughout a run -/

section States

variable {run : Run} {i j k l m n p : Nat} {id address : Word}

lemma reachable (inside : k ≤ run.length) : (run.state k).Reachable := by
  induction k with
  | zero => exact .wire _ _
  | succ k ih => exact (ih (by omega)).act _ (run.live k inside)

lemma config_state (run : Run) (k : Nat) : (run.state k).config = run.config := by
  induction k with
  | zero => rfl
  | succ k ih => exact (config_act _ _).trans ih

lemma sound (few : run.config.cores ≤ 32) (inside : k ≤ run.length) :
    (run.state k).traffic.Sound :=
  (reachable inside).sound (by rwa [run.config_state])

lemma attached (inside : k ≤ run.length) : (run.state k).Attached := by
  induction k with
  | zero => exact attached_wire _ _
  | succ k ih => exact (ih (by omega)).act (run.live k inside)

/-- A step is a tick, or it leaves the boot core as it is. -/
lemma step_cases (inside : k < run.length) :
    run.action k = .tick ∧ (run.state k).Turns (run.state (k + 1))
      ∨ run.action k ≠ .tick ∧ (run.state (k + 1)).processor.boot = (run.state k).processor.boot := by
  by_cases ticks : run.action k = .tick
  · obtain ⟨outcome, live⟩ := run.live k inside ticks
    have turns : (run.state k).Turns ((run.state k).act .tick) := turns_tick live
    rw [← ticks] at turns
    exact Or.inl ⟨ticks, turns⟩
  · exact Or.inr ⟨ticks, boot_act ticks⟩

/-- The boot core stays as it is until the next tick. -/
lemma boot_eq (order : l < m) (inside : m ≤ run.length)
    (idle : ∀ q, l < q → q < m → run.action q ≠ .tick) :
    (run.state m).processor.boot = (run.state (l + 1)).processor.boot := by
  induction m, order using Nat.le_induction with
  | base => rfl
  | succ m order ih =>
    exact (boot_act (idle m order (by omega))).trans
      (ih (by omega) fun q above below => idle q above (by omega))

/-! ### The slot of the latest interrupt -/

lemma slot_succ (inside : k < run.length) : run.vector (k + 1) AddressMap.lastInterrupt
    = (run.put? k).getD (run.vector k AddressMap.lastInterrupt) :=
  lastInterrupt_act (run.live k inside)

/-- Once something has been put into the slot, what it holds was put there by then or later. -/
lemma exists_lastPut (puts : run.put? n = some id) (order : n < m) (inside : m ≤ run.length) :
    ∃ p, n ≤ p ∧ run.LastPut p m (run.vector m AddressMap.lastInterrupt) := by
  induction m, order using Nat.le_induction with
  | base =>
    refine ⟨n, Nat.le_refl n, Nat.lt_succ_self n, ?_, fun q above below => by omega⟩
    rw [slot_succ inside, puts, Option.getD_some]
  | succ m order ih =>
    rw [slot_succ inside]
    cases later : run.put? m with
    | some other =>
      exact ⟨m, by omega, Nat.lt_succ_self m, later, fun q above below => by omega⟩
    | none =>
      obtain ⟨p, since, before, puts, last⟩ := ih (by omega)
      refine ⟨p, since, by omega, puts, fun q above below => ?_⟩
      by_cases here : q = m
      · rwa [here]
      · exact last q above (by omega)

/-- An interrupt that nothing replaces is the latest one. -/
lemma LastPut.eq_of_alone (lastPut : run.LastPut p m id) (since : n ≤ p)
    (alone : ∀ q, n < q → q < m → run.put? q = none) : run.put? n = some id := by
  by_cases same : p = n
  · rw [← same]
    exact lastPut.puts
  · have none := alone p (by omega) lastPut.before
    rw [lastPut.puts] at none
    contradiction

/-! ### What a search reads -/

lemma Held.succ {word : Word} (held : run.Held i k address word) :
    run.Held i (k + 1) address word := by
  obtain ⟨m, after, before, same⟩ := held
  exact ⟨m, after, by omega, same⟩

lemma awaiting?_eq (machine : Machine) :
    machine.processor.boot.awaiting? = machine.searching.bind HandlerSearch.awaits? := by
  rw [Core.awaiting?, Fetch.vectorRead, searching]
  cases machine.processor.boot.pipeline.fetch.searching with
  | none => rfl
  | some phase => cases phase <;> rfl

/-- Nothing but a tick changes what is on its way to a core. -/
lemma replies_act {machine : Machine} {action : MachineAction} (host : action ≠ .tick)
    (near : Terminal) (address : Word) :
    (machine.act action).traffic.replies near address = machine.traffic.replies near address := by
  cases action with
  | tick => contradiction
  | load | press => rfl
  | raiseInterrupt id =>
    have promises := (Peripheral.controller machine.processor.controller
      machine.processor.lines).promises_host (.raise id) machine.bus
    exact congrArg (fun promises => arriving machine.bus near address
      ++ Router.claims machine.traffic.questions promises near.peer address) promises

/-- While the boot core waits for a word of the table, every answer that it has yet to get was, or
will be, looked up after the search had come this far. -/
lemma fresh_of_awaits (few : run.config.cores ≤ 32)
    (goes : Router.targetOf address = .controller)
    (asks : (run.state (i + 1)).processor.boot.awaiting? ≠ some address)
    (order : i < k) (inside : k ≤ run.length)
    (awaits : (run.state k).processor.boot.awaiting? = some address) :
    Fresh (run.Held i k address) address (run.state k).processor.boot (run.state k).traffic := by
  induction k, order using Nat.le_induction with
  | base => exact absurd awaits asks
  | succ k order ih =>
    have now (m : Nat) (above : i < m) : run.Held i m address (run.vector m address) :=
      ⟨m, above, Nat.le_refl m, rfl⟩
    have started : k < run.length := by omega
    rcases step_cases started with ⟨-, turns⟩ | ⟨host, boot⟩
    · refine fresh_tick turns (sound few (by omega)) goes awaits (now k order).succ
        (now (k + 1) (by omega)) fun same => ?_
      have waited : (run.state k).processor.boot.awaiting? = some address := by
        rw [← awaits, Core.awaiting?, Core.awaiting?, Fetch.vectorRead, Fetch.vectorRead, same]
      exact (ih (by omega) waited).mono fun _ => Held.succ
    · rw [boot] at awaits ⊢
      intro value member
      have queue : (run.state (k + 1)).traffic.replies (run.state k).processor.boot.terminal address
          = (run.state k).traffic.replies (run.state k).processor.boot.terminal address :=
        replies_act host _ _
      rw [queue] at member
      exact (ih (by omega) awaits value member).succ

/-- The word that a search takes was in the table after the search had come this far. -/
lemma held_of_answer? (few : run.config.cores ≤ 32)
    (goes : Router.targetOf address = .controller)
    (asks : (run.state (i + 1)).processor.boot.awaiting? ≠ some address)
    (order : i < k) (inside : k ≤ run.length)
    (awaits : (run.state k).processor.boot.awaiting? = some address) {answer : Message}
    (came : (run.state k).bus.answer? (run.state k).processor.boot.terminal address = some answer)
    (new : (run.state k).processor.boot.pipeline.fetch.outstanding ≠ some address) :
    run.Held i k address answer.value :=
  (fresh_of_awaits few goes asks order inside awaits).value_of_answer? came new

end States

/-! ## Searches, step by step -/

section Steps

variable {run : Run} {i j k l n : Nat} {id handler x : Word}

lemma AsksId.succ (asks : run.AsksId i k)
    (next : (run.state (k + 1)).searching = some .askId
      ∨ (run.state (k + 1)).searching = some .awaitId) : run.AsksId i (k + 1) := by
  intro m above below
  by_cases last : m = k + 1
  · rwa [last]
  · exact asks m above (by omega)

lemma AsksHandler.succ (asks : run.AsksHandler id j k)
    (next : (run.state (k + 1)).searching = some (.askHandler id)
      ∨ (run.state (k + 1)).searching = some (.awaitHandler id)) :
    run.AsksHandler id j (k + 1) := by
  intro m above below
  by_cases last : m = k + 1
  · rwa [last]
  · exact asks m above (by omega)

/-- The tick after the dispatch of a jump enters the handler. -/
lemma ip_of_jump {entry : Fetched}
    (jump : (run.state (l + 1)).processor.boot.pipeline.branch = some ⟨entry, .jump handler⟩)
    (m : Nat) (order : l < m) (inside : m < run.length) (ticks : run.action m = .tick)
    (idle : ∀ q, l < q → q < m → run.action q ≠ .tick) :
    (run.state (m + 1)).processor.boot.registers.ip = handler := by
  rcases step_cases inside with ⟨-, turns⟩ | ⟨host, -⟩
  · obtain ⟨rest, breakpoint, turn⟩ := turns.boot
    rw [← boot_eq order (by omega) idle] at jump
    exact (attached (by omega)).steady.ip_of_jump turn jump
  · contradiction

/-- A search that is after the id of the latest interrupt goes on, or reads it. -/
lemma acquires_of_asksId (puts : run.put? n = some x) (since : n < i) (begins : run.Begins i)
    (order : i < k) (inside : k < run.length) (asks : run.AsksId i k) :
    run.Acquires n i (k + 1) := by
  have phase := asks k order (Nat.le_refl k)
  rcases step_cases inside with ⟨-, turns⟩ | ⟨-, boot⟩
  · obtain ⟨rest, breakpoint, turn⟩ := turns.boot
    have step {phase : HandlerSearch} (here : (run.state k).searching = some phase) :=
      (attached inside.le).steady.searched turn here
    rcases phase with asking | awaiting
    · cases step asking with
      | waits _ same => exact .asksId (asks.succ (Or.inl same))
      | asksId next => exact .asksId (asks.succ (Or.inr next))
    · cases step awaiting with
      | waits _ same => exact .asksId (asks.succ (Or.inr same))
      | getsId answer came fresh next =>
        have latest (few : run.config.cores ≤ 32) :
            ∃ p m, n ≤ p ∧ i < m ∧ m ≤ k ∧ run.LastPut p m answer.value := by
          have begun : (run.state (i + 1)).processor.boot.awaiting?
              ≠ some AddressMap.lastInterrupt := by
            rw [awaiting?_eq, show (run.state (i + 1)).searching = _ from begins.2]
            simp [HandlerSearch.awaits?]
          obtain ⟨m, above, below, slot⟩ := held_of_answer? few rfl begun order (by omega)
            (by rw [awaiting?_eq, awaiting]; rfl) came fresh
          obtain ⟨p, later, lastPut⟩ := exists_lastPut puts (by omega : n < m) (by omega)
          exact ⟨p, m, later, above, below, slot ▸ lastPut⟩
        refine .asksHandler k answer.value (Nat.lt_succ_self k)
          ⟨order, asks, next, latest, fun few alone => ?_⟩ fun m above below => ?_
        · obtain ⟨p, m, later, -, below, lastPut⟩ := latest few
          exact lastPut.eq_of_alone later fun q above before => alone q above (by omega)
        · obtain rfl : m = k + 1 := by omega
          exact Or.inl next
  · refine .asksId (asks.succ ?_)
    rw [searching, boot]
    exact phase

/-- A search that is after a handler goes on, or ends with the jump to it. -/
lemma acquires_of_asksHandler (reads : run.ReadsId n i j id) (order : j < k)
    (inside : k < run.length) (asks : run.AsksHandler id j k) : run.Acquires n i (k + 1) := by
  have phase := asks k order (Nat.le_refl k)
  rcases step_cases inside with ⟨-, turns⟩ | ⟨-, boot⟩
  · obtain ⟨rest, breakpoint, turn⟩ := turns.boot
    have step {phase : HandlerSearch} (here : (run.state k).searching = some phase) :=
      (attached inside.le).steady.searched turn here
    rcases phase with asking | awaiting
    · cases step asking with
      | waits _ same => exact .asksHandler j id (by omega) reads (asks.succ (Or.inl same))
      | asksHandler _ next => exact .asksHandler j id (by omega) reads (asks.succ (Or.inr next))
    · cases step awaiting with
      | waits _ same => exact .asksHandler j id (by omega) reads (asks.succ (Or.inr same))
      | getsHandler _ answer came fresh next dispatched =>
        refine .entered j k id answer.value (Nat.lt_succ_self k) reads
          ⟨order, asks, next, dispatched, ip_of_jump dispatched, fun few goes => ?_⟩
        have begun : (run.state (j + 1)).processor.boot.awaiting?
            ≠ some (AddressMap.vectorStart + id) := by
          rw [awaiting?_eq, reads.reads]
          simp [HandlerSearch.awaits?]
        exact held_of_answer? few goes begun order (by omega)
          (by rw [awaiting?_eq, awaiting]; rfl) came fresh
  · refine .asksHandler j id (by omega) reads (asks.succ ?_)
    rw [searching, boot]
    exact phase

/-- A search goes on. -/
theorem Acquires.step (acquires : run.Acquires n i k) (puts : run.put? n = some x) (since : n < i)
    (begins : run.Begins i) (order : i < k) (inside : k < run.length) :
    run.Acquires n i (k + 1) := by
  cases acquires with
  | asksId asks => exact acquires_of_asksId puts since begins order inside asks
  | asksHandler j id before reads asks => exact acquires_of_asksHandler reads before inside asks
  | entered j l id handler before reads enters =>
    exact .entered j l id handler (by omega) reads enters

end Steps

/-! ## Interrupts -/

section Interrupts

variable {run : Run} {n k : Nat} {x : Word}

/-- No signal is lost.  Once the controller has accepted an interrupt, the boot core is signalled
until a search begins.  The search reads the id of the interrupt, or of one that has replaced it
before it could be looked up, and enters the handler for that id. -/
theorem serviced (accepts : run.accepted? n = some x) (order : n < k) (inside : k ≤ run.length) :
    (∀ m, n < m → m ≤ k → (run.state m).Signalled) ∧ (∀ m, n < m → m < k → ¬ run.Begins m)
      ∨ ∃ i < k, run.FirstSearch n i ∧ (∀ m, n < m → m ≤ i → (run.state m).Signalled)
        ∧ run.Acquires n i k := by
  have puts : run.put? n = some x := put?_of_accepted? accepts
  induction k, order using Nat.le_induction with
  | base =>
    refine Or.inl ⟨fun m above below => ?_, fun m above below => by omega⟩
    obtain rfl : m = n + 1 := by omega
    exact signalled_of_accepted? (attached (by omega)) (run.live n inside) accepts
  | succ k order ih =>
    rcases ih (by omega) with ⟨signalled, none⟩ | ⟨i, before, first, signalled, acquires⟩
    · by_cases begins : run.Begins k
      · refine Or.inr ⟨k, Nat.lt_succ_self k, ⟨order, begins, none⟩, signalled, .asksId ?_⟩
        intro m above below
        obtain rfl : m = k + 1 := by omega
        exact Or.inl begins.2
      · refine Or.inl ⟨fun m above below => ?_, fun m above below => ?_⟩
        · by_cases last : m = k + 1
          · subst last
            exact (signalled_act (attached (by omega)) (run.live k inside)
              (signalled k order (Nat.le_refl k))).resolve_right begins
          · exact signalled m above (by omega)
        · by_cases last : m = k
          · rwa [last]
          · exact none m above (by omega)
    · exact Or.inr ⟨i, by omega, first, signalled,
        acquires.step puts first.order first.begins before inside⟩

end Interrupts

/-! ## Interrupts that come together -/

/-- Whether a test passes in every state from state `k` on, for so many actions. -/
def passes (test : Nat → Machine → Bool) (action : Nat → MachineAction) :
    (count k : Nat) → Machine → Bool
  | 0, k, machine => test k machine
  | count + 1, k, machine =>
    test k machine && passes test action count (k + 1) (machine.act (action k))

lemma test_of_passes {test : Nat → Machine → Bool} {action : Nat → MachineAction}
    {machine : Machine} {count k : Nat}
    (passed : passes test action count k (machine.after action k) = true) {m : Nat} (from_ : k ≤ m)
    (upTo : m ≤ k + count) : test m (machine.after action m) = true := by
  induction count generalizing k with
  | zero =>
    obtain rfl : m = k := by omega
    exact passed
  | succ count ih =>
    rw [passes, Bool.and_eq_true] at passed
    by_cases here : m = k
    · rw [here]
      exact passed.1
    · exact ih passed.2 (by omega) (by omega)

/-- A machine that has not been stopped has survived. -/
lemma survives_of_fault?_eq_none {machine : Machine} {action : MachineAction}
    (running : (machine.act action).fault? = none) : machine.Survives action := by
  rintro rfl
  obtain ⟨config, bus, processor, ram, hub, rom, display, disk, keyboard, counters, fault?,
    ticks⟩ := machine
  cases fault? with
  | some fault => simp [act, tick] at running
  | none =>
    simp only [act, tick] at running ⊢
    split at running
    · simp at running
    · exact ⟨_, rfl⟩

/-- A program that installs handlers for the interrupts 40 and 41 and then goes round in a loop. -/
def twoHandlers : Array Word :=
  let register := Assembler.register
  assemble [Assembler.setLiteral (register 0) 3599, Assembler.setInterrupt 40 (register 0),
    Assembler.setLiteral (register 0) 3603, Assembler.setInterrupt 41 (register 0),
    Assembler.jump 3597,
    Assembler.setLiteral (register 10) 1, Assembler.interruptReturn,
    Assembler.setLiteral (register 11) 1, Assembler.interruptReturn]

/-- The host raises both interrupts while the program goes round. -/
def bothRaised : Nat → MachineAction
  | 0 => .load AddressMap.ramStart twoHandlers
  | 51 => .raiseInterrupt 40
  | 52 => .raiseInterrupt 41
  | _ => .tick

/-- Only interrupt 41 is looked up, and in the end neither is pending. -/
def OnlySecond (k : Nat) (machine : Machine) : Prop :=
  let core := machine.processor.boot
  let controller := machine.processor.controller
  machine.fault? = none
    ∧ machine.searching ∈ [none, some .askId, some .awaitId, some (.askHandler 41),
      some (.awaitHandler 41)]
    ∧ core.registers.ip ≠ 3599
    ∧ (k = 51 → controller.vector (AddressMap.vectorStart + 40) = 3599
      ∧ controller.vector (AddressMap.vectorStart + 41) = 3603)
    ∧ (k = 125 → ¬ machine.Signalled ∧ core.pipeline.inInterrupt = false
      ∧ machine.searching = none)

instance (k : Nat) (machine : Machine) : Decidable (OnlySecond k machine) := by
  unfold OnlySecond Signalled
  infer_instance

lemma passes_onlySecond :
    passes (fun k machine => decide (OnlySecond k machine)) bothRaised 125 0
      (wire { MachineConfig.fast with entry := AddressMap.ramStart } (DiskImage.blank 1)) = true := by
  decide +kernel

lemma onlySecond_after {k : Nat} (inside : k ≤ 125) :
    OnlySecond k ((wire { MachineConfig.fast with entry := AddressMap.ramStart }
      (DiskImage.blank 1)).after bothRaised k) :=
  of_decide_eq_true (test_of_passes passes_onlySecond (Nat.zero_le k) (by omega))

/-- A run in which one interrupt replaces another. -/
def coalescing : Run where
  config := { MachineConfig.fast with entry := AddressMap.ramStart }
  image := DiskImage.blank 1
  action := bothRaised
  length := 125
  live := fun k inside => survives_of_fault?_eq_none (onlySecond_after (k := k + 1) inside).1

lemma onlySecond {k : Nat} (inside : k ≤ coalescing.length) : OnlySecond k (coalescing.state k) :=
  onlySecond_after inside

/-- In that run the second interrupt is looked up, and its handler entered. -/
theorem serviced_coalescing :
    coalescing.accepted? 52 = some 41
      ∧ ∃ i j l handler, coalescing.FirstSearch 52 i ∧ coalescing.ReadsId 52 i j 41
        ∧ coalescing.Enters j l 41 handler := by
  refine ⟨rfl, ?_⟩
  obtain ⟨-, -, -, -, rest⟩ := onlySecond (Nat.le_refl coalescing.length)
  obtain ⟨quiet, -, idle⟩ := rest rfl
  have after : 52 < coalescing.length := by decide
  rcases coalescing.serviced (n := 52) (x := 41) rfl after (Nat.le_refl _) with
    ⟨signalled, -⟩ | ⟨i, before, first, -, acquires⟩
  · exact absurd (signalled _ after (Nat.le_refl _)) quiet
  · cases acquires with
    | asksId asks =>
      have asking := asks _ before (Nat.le_refl _)
      simp [idle] at asking
    | asksHandler j id inside reads asks =>
      have asking := asks _ inside (Nat.le_refl _)
      simp [idle] at asking
    | entered j l id handler inside reads enters =>
      have known := (onlySecond (k := j + 1) (by have := enters.order; omega)).2.1
      rw [reads.reads] at known
      obtain rfl : id = 41 := by simpa using known
      exact ⟨i, j, l, handler, first, reads, enters⟩

/-- The first one is accepted just before, and its handler is installed, but it is never looked up,
nor is its handler entered, and in the end it is not pending either. -/
theorem coalesced :
    coalescing.accepted? 51 = some 40 ∧ coalescing.accepted? 52 = some 41
      ∧ coalescing.vector 51 (AddressMap.vectorStart + 40) = 3599
      ∧ coalescing.vector 51 (AddressMap.vectorStart + 41) = 3603
      ∧ (∀ k ≤ coalescing.length, (coalescing.state k).searching ≠ some (.askHandler 40)
        ∧ (coalescing.state k).searching ≠ some (.awaitHandler 40)
        ∧ (coalescing.state k).processor.boot.registers.ip ≠ 3599)
      ∧ ¬ (coalescing.state coalescing.length).Signalled
      ∧ (coalescing.state coalescing.length).searching = none
      ∧ (coalescing.state coalescing.length).processor.boot.pipeline.inInterrupt = false := by
  obtain ⟨-, -, -, installed, -⟩ := onlySecond (k := 51) (by decide)
  obtain ⟨-, -, -, -, rest⟩ := onlySecond (Nat.le_refl coalescing.length)
  obtain ⟨first, second⟩ := installed rfl
  obtain ⟨quiet, free, idle⟩ := rest rfl
  refine ⟨rfl, rfl, first, second, fun k inside => ?_, quiet, idle, free⟩
  obtain ⟨-, known, away, -⟩ := onlySecond inside
  refine ⟨fun asking => ?_, fun awaiting => ?_, away⟩
  · rw [asking] at known
    simp at known
  · rw [awaiting] at known
    simp at known

end Run

end Machine

end PipelinedMachine
