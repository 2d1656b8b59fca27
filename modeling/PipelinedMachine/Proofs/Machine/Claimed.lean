import PipelinedMachine.Proofs.Machine.Wiring

/-!
# No message goes unclaimed

A message that nobody takes would block its link, and with it all later answers to its core.  This
does not happen: whatever comes to a core answers one of its open reads, and the core takes it in
its next tick.  Behind this is that the router never forgets a read, since no core has more than two
reads open.

* `Traffic.Sound.message?_tickCores` — after the turns of the cores nothing waits for any of them;
* `Traffic.Sound.prefix_requests` — the turns of the links to the cores forget nothing;
* `Machine.NeverWedges` — what holds of a machine between two ticks;
* **`Machine.Reachable.neverWedges`** — it holds in every state that a machine with 32 cores at most
  can reach.
-/

namespace PipelinedMachine

open Interconnect

namespace Traffic

namespace Sound

variable {traffic : Traffic}

/-! ## The turns of the cores -/

/-- A core takes what waits for it. -/
lemma message?_tick (sound : traffic.Sound) {core later : Core} {counters : Counters}
    {rest : Environment} {breakpoint : Option Word} (member : core ∈ traffic.cores)
    (ticked : core.tick ⟨traffic.bus, traffic.lines, counters⟩ = (later, rest, .ok breakpoint)) :
    rest.bus.message? core.terminal = none := by
  have lane := sound.lanes core member
  cases waiting : traffic.bus.message? core.terminal with
  | none =>
    obtain ⟨-, -, taken, sent, talk⟩ := lane.steady.talk ticked
    exact talk.message?_eq_none waiting
  | some message =>
    obtain ⟨address, asked, answered⟩ := lane.mem_asked waiting
    have gone : (core.tick ⟨traffic.bus, traffic.lines, counters⟩).2.1.bus.message? core.terminal
        = none := lane.steady.takes waiting answered asked
    rwa [ticked] at gone

/-- After the turns of the cores nothing waits for any of them. -/
lemma message?_tickCores {cores later : List Core} {counters : Counters} {rest : Environment}
    {breakpoint : Option Word} (sound : traffic.Sound) (left : List Core)
    (place : traffic.cores = left ++ cores)
    (ticked : Processor.tickCores cores ⟨traffic.bus, traffic.lines, counters⟩
      = (later, rest, .ok breakpoint))
    (gone : ∀ core ∈ left, traffic.bus.message? core.terminal = none) :
    ∀ core ∈ traffic.cores, rest.bus.message? core.terminal = none := by
  induction cores generalizing traffic left later counters rest breakpoint with
  | nil =>
    obtain ⟨-, rfl, -⟩ := by simpa only [Processor.tickCores, Prod.mk.injEq] using ticked
    rw [place, List.append_nil]
    exact gone
  | cons core cores ih =>
    obtain ⟨core', between, _, cores', _, turn, turns, rfl⟩ := exists_of_tickCores_cons ticked
    have member : core ∈ traffic.cores := by simp [place]
    have terminal : core'.terminal = core.terminal := by
      rw [← core.terminal_tick ⟨traffic.bus, traffic.lines, counters⟩, turn]
    obtain ⟨-, -, taken, sent, talk⟩ := (sound.lanes core member).steady.talk turn
    have after := ih (sound.core_turn place turn) (left ++ [core']) (by simp) turns
      fun other inside => by
        rcases List.mem_append.mp inside with before | new
        · have apart := sound.wired.core_link_ne place (List.mem_append_left cores before)
          rw [talk.handled.message?_apart (Terminal.ne_of_link apart)
            (Terminal.ne_peer_of_link apart)]
          exact gone other before
        · rw [List.mem_singleton.mp new, terminal]
          exact sound.message?_tick member turn
    intro other inside
    rw [place, List.mem_append, List.mem_cons] at inside
    rcases inside with before | rfl | behind
    · exact after other (by simp [before])
    · rw [← terminal]
      exact after core' (by simp)
    · exact after other (by simp [behind])

/-! ## The turns of the links to the cores -/

/-- Reads are added to those remembered, and none is forgotten. -/
lemma prefix_request (sound : traffic.Sound) {terminal : Terminal}
    (attached : terminal ∈ traffic.router.cores) :
    traffic.router.pending <+: (traffic.router.request traffic.bus terminal).1.pending := by
  obtain ⟨core, member, rfl⟩ := sound.wired.exists_core attached
  rcases sound.request_cases member with same | ⟨target, message, after, -, -, result⟩
  · rw [same]
  · rw [result]
    exact List.prefix_append _ _

lemma prefix_requests (sound : traffic.Sound) (cores : List Terminal)
    (attached : ∀ core ∈ cores, core ∈ traffic.router.cores) :
    traffic.router.pending <+: (cores.foldl (fun state core => state.1.request state.2 core)
      (traffic.router, traffic.bus)).1.pending := by
  induction cores generalizing traffic with
  | nil => exact List.prefix_rfl
  | cons core cores ih =>
    have here : core ∈ traffic.router.cores := attached core (by simp)
    refine (sound.prefix_request here).trans (ih (sound.request_turn here) fun other member => ?_)
    simp only [Router.cores_request]
    exact attached other (by simp [member])

end Sound

end Traffic

/-! ## Machines -/

/-- The message is the response to a block, a load or a word of the vector table that the core has
asked for. -/
def Core.Claims (core : Core) (message : Message) : Prop :=
  message.kind? = some .response ∧ ∃ address, message.address? = some address
    ∧ (core.pipeline.fetch.outstanding = some address
      ∨ LoadUnit.outstanding? core.pipeline.load = some address
      ∨ core.pipeline.fetch.vectorRead.map Question.address = some address)

lemma Core.claims_of_mem_asked {core : Core} {message : Message} {address : Word}
    (asked : address ∈ core.asked) (answered : message.answered? = some address) :
    core.Claims message := by
  rw [Message.answered?] at answered
  split_ifs at answered with response
  exact ⟨by simpa [Message.isResponse] using response, address, answered, mem_asked_iff.mp asked⟩

namespace Machine

/-- No link to a core is blocked, and the router has room for every read. -/
structure NeverWedges (machine : Machine) : Prop where
  /-- What waits for a core answers one of its open reads. -/
  claimed : ∀ core ∈ machine.processor.cores, ∀ message,
    machine.bus.message? core.terminal = some message → core.Claims message
  /-- The core takes it in its next tick, whatever happens before. -/
  consumed : ∀ core ∈ machine.processor.cores, ∀ message,
    machine.bus.message? core.terminal = some message →
    ∀ env : Environment, env.bus.message? core.terminal = some message →
      (core.tick env).2.1.bus.message? core.terminal = none
  /-- In the machine's next tick nothing waits for a core after the turns of the cores, and the
  router forgets nothing when it takes in new reads. -/
  ticked : ∀ boot others rest breakpoint,
    Processor.tickAll machine.processor.boot machine.processor.others
        ⟨machine.bus, machine.processor.lines, machine.counters⟩
      = (boot, others, rest, .ok breakpoint) →
    (∀ core ∈ machine.processor.cores, rest.bus.message? core.terminal = none)
      ∧ machine.processor.router.pending
        <+: (machine.processor.router.requests rest.bus).1.pending
  /-- The router remembers two reads at most for each core. -/
  few : ∀ core ∈ machine.processor.cores,
    (machine.processor.router.pending.filter fun read =>
      read.core = core.terminal.peer).length ≤ 2
  limit : machine.processor.router.pending.length ≤ 2 * machine.processor.cores.length

/-- In every state that a machine with 32 cores at most can reach, no link to a core is blocked. -/
theorem Reachable.neverWedges {machine : Machine} (reachable : machine.Reachable)
    (few : machine.config.cores ≤ 32) : machine.NeverWedges := by
  have sound := reachable.sound few
  have owed (core : Core) (member : core ∈ machine.processor.cores) :
      (Router.owedTo machine.processor.router.pending core.terminal.peer).length ≤ 2 :=
    Nat.le_trans (Nat.le_add_left _ _) (sound.lanes core member).length_le
  exact {
    claimed := fun core member message waiting => by
      obtain ⟨address, asked, answered⟩ := (sound.lanes core member).mem_asked waiting
      exact Core.claims_of_mem_asked asked answered
    consumed := fun core member message waiting env still => by
      obtain ⟨address, asked, answered⟩ := (sound.lanes core member).mem_asked waiting
      exact (sound.lanes core member).steady.takes still answered asked
    ticked := fun boot others rest breakpoint ticked => by
      have cores := Traffic.tickCores_of_tickAll ticked
      have later := sound.moves (Traffic.moves_tickCores machine.traffic [] rfl cores)
      exact ⟨sound.message?_tickCores [] rfl cores (by simp),
        later.prefix_requests machine.processor.router.cores fun _ => id⟩
    few := fun core member => by
      have owed := owed core member
      rwa [Router.owedTo, List.length_map] at owed
    limit := by
      have cores : machine.processor.router.cores.length = machine.processor.cores.length := by
        rw [show machine.processor.router.cores = _ from sound.wired.cores]
        simp [traffic]
      rw [← cores]
      refine Router.length_le_of_owedTo _ _ 2 (fun read inside => (sound.entries read inside).1)
        fun terminal attached => ?_
      obtain ⟨core, member, rfl⟩ := sound.wired.exists_core attached
      exact owed core member }

/-- A machine that starts in the vector table. -/
def fromVectors : Machine :=
  wire { MachineConfig.fast with entry := AddressMap.vectorStart } (DiskImage.blank 1)

/-- The same after twelve ticks. -/
def early : Machine := (fromVectors.run 12 .tickLimit).1

lemma reachable_early : early.Reachable := by
  have live : (fromVectors.run 12 .tickLimit).2 = .ok ⟨12, .running⟩ := by decide +kernel
  exact (Reachable.wire _ _).run live

/-- The answer to its first block of instructions waits for the core of that machine. -/
theorem neverWedges_early :
    early.NeverWedges
      ∧ early.bus.message? early.processor.boot.terminal = some (Message.response 0 [0])
      ∧ early.processor.boot.Claims (Message.response 0 [0]) := by
  have never := reachable_early.neverWedges (by decide +kernel)
  have waits : early.bus.message? early.processor.boot.terminal
      = some (Message.response 0 [0]) := by decide +kernel
  exact ⟨never, waits, never.claimed _ List.mem_cons_self _ waits⟩

end Machine

end PipelinedMachine
