import PipelinedMachine.Proofs.Machine.Replies

/-!
# What a search reads is new

The boot core looks an interrupt up with two reads of the vector table.  While it waits for the
answer, the answers under way to it at that address are those to this read and, in front of it, at
most one to a block of instructions that it asked for before and drops.  So the word that it takes
was looked up in the table after the question had been asked.

* `Core.awaiting?` — the address that a core awaits an answer from in a search;
* `Traffic.Fresh` — all that comes from there, but for the stale block, has a given property;
* `Traffic.Sound.fresh_asked` — a question finds no earlier answers on the way;
* `Traffic.Sound.fresh_waits`, **`Traffic.Sound.fresh_asides`** — what is looked up from then on is
  looked up in the table as it stands;
* `Traffic.Fresh.value_of_answer?` — so the answer that the core takes has the property.
-/

namespace PipelinedMachine

open Interconnect

/-! ## What a core awaits -/

namespace Core

/-- The address in the vector table whose word a search waits for. -/
def awaiting? (core : Core) : Option Word := core.pipeline.fetch.vectorRead.map Question.address

/-- How many of the answers to come from an address are to a block of instructions. -/
def stale (core : Core) (address : Word) : Nat :=
  core.pipeline.fetch.outstanding.toList.count address

variable {core later : Core} {address : Word}

/-- While a search goes on no word is being loaded. -/
lemma Steady.count_asked (steady : core.Steady)
    (searching : core.pipeline.fetch.searching ≠ none) (address : Word) :
    core.asked.count address
      = core.stale address + core.awaiting?.toList.count address := by
  obtain ⟨standing, stands, -⟩ := steady
  have own : core.pipeline.fetch = standing.fetch := by
    rw [stands.pipeline, Standing.pipeline_fetch]
  have none : standing.occupancy.asked = [] := by
    rw [Occupancy.asked, Occupancy.wordRead_eq_none]
    · rfl
    · rw [own] at searching
      simp [stands.sound.searching searching]
  rw [stands.asked_eq, Standing.asked, none, List.append_nil, ← own, Fetch.count_asked, stale,
    awaiting?, Option.toList_map]

/-- A search that has come to wait has just asked. -/
lemma Steady.carried?_of_asks {env rest : Environment} {breakpoint : Option Word}
    (steady : core.Steady) (ticked : core.tick env = (later, rest, .ok breakpoint))
    (searching : core.pipeline.fetch.searching ≠ none)
    (apart : later.pipeline.fetch.searching ≠ core.pipeline.fetch.searching)
    (awaits : later.awaiting? = some address) :
    rest.bus.carried? core.terminal = some (Message.read address 1) := by
  obtain ⟨-, path, between, -, -, bus, supply, -⟩ := steady.exists_supply ticked searching
  rw [← bus]
  rw [awaiting?] at awaits
  generalize later.pipeline.fetch = fetch at supply apart awaits
  have asked {path : Datapath} {fetch' : Fetch} {phase : HandlerSearch}
      (step : Fetch.SearchTurn core.terminal path fetch' phase fetch between)
      (same : fetch'.searching = some phase) (apart : fetch.searching ≠ some phase) :
      between.bus.carried? core.terminal = some (Message.read address 1) := by
    cases step with
    | askedId _ sent | askedHandler _ _ sent =>
      obtain rfl := Option.some.inj awaits
      exact (carried?_of_send? sent)
    | gotId | gotHandler => contradiction
    | waited => exact absurd same apart
  cases supply with
  | received _ _ reading | awaited _ reading | asked _ _ reading | refused _ reading
  | satisfied reading => exact absurd reading searching
  | searched _ _ _ same _ step => exact asked step same (by rwa [← same])
  | dropped _ _ _ _ _ same _ _ step => exact asked step same (by rwa [← same])

/-- A search that goes on waiting does nothing but drop the stale block. -/
lemma Steady.waits_cases {env rest : Environment} {breakpoint : Option Word}
    (steady : core.Steady) (ticked : core.tick env = (later, rest, .ok breakpoint))
    (awaits : core.awaiting? = some address)
    (same : later.pipeline.fetch.searching = core.pipeline.fetch.searching) :
    rest.bus = env.bus ∧ later.pipeline.fetch.outstanding = core.pipeline.fetch.outstanding
      ∨ ∃ block answer, core.pipeline.fetch.outstanding = some block
        ∧ env.bus.answer? core.terminal block = some answer
        ∧ rest.bus = env.bus.clear core.terminal ∧ later.pipeline.fetch.outstanding = none := by
  have searching : core.pipeline.fetch.searching ≠ none := fun none => by
    simp [awaiting?, Fetch.vectorRead, none] at awaits
  obtain ⟨-, path, between, before, -, bus, supply, -⟩ := steady.exists_supply ticked searching
  rw [← bus, ← before]
  generalize later.pipeline.fetch = fetch at supply same
  have waited {path : Datapath} {fetch' : Fetch} {phase : HandlerSearch}
      (step : Fetch.SearchTurn core.terminal path fetch' phase fetch between)
      (phase_eq : core.pipeline.fetch.searching = some phase) :
      between.bus = path.bus ∧ fetch = fetch' := by
    rw [phase_eq] at same
    cases step with
    | waited => exact ⟨rfl, rfl⟩
    | askedId | gotId | askedHandler | gotHandler => simp at same
  cases supply with
  | received _ _ reading | awaited _ reading | asked _ _ reading | refused _ reading
  | satisfied reading => exact absurd reading searching
  | searched _ _ _ phase_eq _ step =>
    obtain ⟨left, rfl⟩ := waited step phase_eq
    exact Or.inl ⟨left, rfl⟩
  | dropped _ block answer _ _ phase_eq outstanding came step =>
    obtain ⟨left, rfl⟩ := waited step phase_eq
    exact Or.inr ⟨block, answer, outstanding, came, left, rfl⟩

end Core

/-! ## Queues of new answers -/

namespace Traffic

/-- Every answer to come from the controller at an address, but for the one to a block of
instructions, has a property if it has been given. -/
def Fresh (holds : Word → Prop) (address : Word) (core : Core) (traffic : Traffic) : Prop :=
  ∀ value, some value ∈ (traffic.replies core.terminal address).drop (core.stale address) →
    holds value

variable {traffic after : Traffic} {core later : Core} {others : List Core} {address : Word}
  {holds wider : Word → Prop}

lemma Fresh.mono (fresh : Fresh holds address core traffic)
    (wider' : ∀ value, holds value → wider value) : Fresh wider address core traffic :=
  fun value member => wider' value (fresh value member)

/-- As a queue grows, the answers in it are the old ones and the one that is given. -/
lemma Grown.mem_drop {value other : Word} {replies later : List (Option Word)}
    (grown : Grown value replies later) {n : Nat} (member : some other ∈ later.drop n) :
    other = value ∨ some other ∈ replies.drop n := by
  cases grown with
  | same => exact Or.inr member
  | asked =>
    rw [List.drop_append, List.mem_append] at member
    exact Or.inr (member.resolve_right fun last => by simpa using List.mem_of_mem_drop last)
  | answered kept waiting =>
    rw [List.drop_append, List.mem_append] at member
    rcases member with before | last
    · rw [waiting, List.drop_append]
      exact Or.inr (List.mem_append_left _ before)
    · exact Or.inl (by simpa using List.mem_of_mem_drop last)

lemma Fresh.of_grown {value : Word} (fresh : Fresh holds address core traffic)
    (grown : Grown value (traffic.replies core.terminal address)
      (after.replies core.terminal address)) (new : holds value) :
    Fresh holds address core after := fun other member => by
  rcases grown.mem_drop member with rfl | before
  · exact new
  · exact fresh other before

/-- The answer that the core takes is the first in its queue. -/
lemma Fresh.value_of_answer? (fresh : Fresh holds address core traffic) {answer : Message}
    (came : traffic.bus.answer? core.terminal address = some answer)
    (new : core.pipeline.fetch.outstanding ≠ some address) : holds answer.value := by
  obtain ⟨waiting, answered⟩ := answer?_eq_some_iff.mp came
  refine fresh answer.value ?_
  have none : core.stale address = 0 := by
    rw [Core.stale, List.count_eq_zero, Option.mem_toList]
    exact new
  rw [none, List.drop_zero, replies, arriving, carried?_of_message? waiting, Option.filter_some,
    if_pos (by simpa using answered)]
  exact List.mem_cons_self

lemma length_arriving (bus : Interconnect) (near : Terminal) (address : Word) :
    (arriving bus near address).length
      = (Message.answeredBy (bus.carried? near.peer)).count address := by
  rw [arriving, Message.answeredBy]
  cases bus.carried? near.peer with
  | none => rfl
  | some message =>
    rw [Option.filter_some, Option.bind_some]
    by_cases same : message.answered? = some address
    · simp [same]
    · rw [if_neg (by simpa using same)]
      cases answered : message.answered? with
      | none => rfl
      | some other =>
        have apart : other ≠ address := fun equal => same (by rw [answered, equal])
        simp [apart]

namespace Sound

/-- There are no more answers to come at an address than the core has reads open there, apart from
one that is still on its way to the router. -/
lemma length_replies_le (sound : traffic.Sound) (member : core ∈ traffic.cores) (address : Word) :
    (Message.askedBy (traffic.bus.carried? core.terminal)).count address
      + (traffic.replies core.terminal address).length ≤ core.asked.count address := by
  have balance := (sound.lanes core member).balance address
  have claims := Router.length_claims_le traffic.questions traffic.promises core.terminal.peer
    address
  have sub : (Router.owedTo traffic.questions core.terminal.peer).count address
      ≤ (Router.owedTo traffic.router.pending core.terminal.peer).count address :=
    ((List.filter_sublist.filter _).map _).count_le address
  rw [replies, List.length_append, length_arriving]
  omega

/-- When a question has just been sent, all that may come from its address is to a block. -/
lemma fresh_asked (sound : traffic.Sound) (member : core ∈ traffic.cores)
    (awaits : core.awaiting? = some address) {count : Word}
    (sent : traffic.bus.carried? core.terminal = some (Message.read address count)) :
    Fresh holds address core traffic := by
  have searching : core.pipeline.fetch.searching ≠ none := fun none => by
    simp [Core.awaiting?, Fetch.vectorRead, none] at awaits
  have few := sound.length_replies_le member address
  rw [(sound.lanes core member).steady.count_asked searching, sent, awaits] at few
  have short : (traffic.replies core.terminal address).length ≤ core.stale address := by
    simpa [Message.askedBy, Nat.add_comm] using few
  intro value inside
  rw [List.drop_eq_nil_of_le short] at inside
  contradiction

/-- While the core waits, its own turns do nothing but drop the stale block. -/
lemma fresh_waits (sound : traffic.Sound) (place : traffic.cores = core :: others)
    {counters : Counters} {rest : Environment} {breakpoint : Option Word}
    (ticked : core.tick ⟨traffic.bus, traffic.lines, counters⟩ = (later, rest, .ok breakpoint))
    (awaits : core.awaiting? = some address)
    (same : later.pipeline.fetch.searching = core.pipeline.fetch.searching)
    (fresh : Fresh holds address core traffic) :
    Fresh holds address later
      { traffic with cores := later :: others, bus := rest.bus, lines := rest.lines } := by
  have member : core ∈ traffic.cores := by simp [place]
  obtain ⟨-, taken, sent, handled⟩ := (sound.lanes core member).tick ticked
  have terminal : later.terminal = core.terminal := by
    rw [← core.terminal_tick ⟨traffic.bus, traffic.lines, counters⟩, ticked]
  have promises : (Peripheral.controller traffic.controller rest.lines).promises rest.bus
      = traffic.promises := by
    refine Peripheral.promises_of_still (handled.still ?_)
    change traffic.controller.terminal.link ≠ core.terminal.link
    rw [sound.wired.controller_link]
    exact (sound.wired.core_link_ne_target member .controller).symm
  have queue : replies { traffic with cores := later :: others, bus := rest.bus, lines := rest.lines }
        core.terminal address
      = arriving rest.bus core.terminal address
        ++ Router.claims traffic.questions traffic.promises core.terminal.peer address :=
    congrArg (fun promises => arriving rest.bus core.terminal address
      ++ Router.claims traffic.questions promises core.terminal.peer address) promises
  intro value inside
  refine fresh value ?_
  rw [terminal, queue] at inside
  rw [replies]
  rcases (sound.lanes core member).steady.waits_cases ticked awaits same with
    ⟨bus, outstanding⟩ | ⟨block, answer, block_eq, came, bus, outstanding⟩
  · rwa [bus, Core.stale, outstanding] at inside
  · obtain ⟨waiting, answered⟩ := answer?_eq_some_iff.mp came
    have gone : arriving rest.bus core.terminal address = [] := by
      rw [arriving, bus, carried?_clear_of_message? waiting]
      rfl
    rw [gone, Core.stale, outstanding] at inside
    rw [arriving, carried?_of_message? waiting, Option.filter_some, answered, Core.stale, block_eq]
    by_cases here : block = address <;> simpa [here] using inside

/-- The moves of the others look up words in the table as it stands. -/
theorem fresh_asides (sound : traffic.Sound) (asides : Asides 1 traffic after)
    (head : traffic.cores.head? = some core) (awaits : core.awaiting? = some address)
    (goes : Router.targetOf address = .controller)
    (new : holds (traffic.controller.vector address))
    (fresh : Fresh holds address core traffic) : Fresh holds address core after := by
  induction asides with
  | refl => exact fresh
  | @tail before after asides aside previous =>
    have sound := sound.moves (moves_of_asides asides)
    have first : before.cores.head? = some core := (head?_of_asides asides).trans head
    obtain ⟨others, place⟩ := List.head?_eq_some_iff.mp first
    rcases sound.replies_move place goes aside.move with
      ⟨later, counters, rest, breakpoint, ticked, rfl⟩ | ⟨-, grown⟩
    · -- the core's own turn, after which it is as it was
      obtain rfl : later = core := Option.some.inj (aside.head?_eq.trans first)
      exact sound.fresh_waits place ticked awaits rfl previous
    · rw [controller_of_asides asides] at grown
      exact previous.of_grown grown new

end Sound

end Traffic

/-! ## Ticks of a machine -/

namespace Machine

open Traffic

variable {machine later : Machine} {address : Word} {holds : Word → Prop}

lemma Turns.controller (turns : machine.Turns later) :
    later.processor.controller = machine.routed.controlled.controller :=
  controller_of_asides turns.controlled

lemma head?_routed (turns : machine.Turns later) :
    machine.routed.cores.head? = some later.processor.boot := by
  obtain ⟨rest, breakpoint, turn⟩ := turns.boot
  rw [head?_of_asides turns.routed, booted, turn]
  rfl

/-- **While the boot core waits for a word of the table, every word looked up for it is as it stood
in the table between two ticks since the question.** -/
theorem fresh_tick (turns : machine.Turns later) (sound : machine.traffic.Sound)
    (goes : Router.targetOf address = .controller)
    (awaits : later.processor.boot.awaiting? = some address)
    (before : holds (machine.processor.controller.vector address))
    (after : holds (later.processor.controller.vector address))
    (fresh : machine.processor.boot.pipeline.fetch.searching
        = later.processor.boot.pipeline.fetch.searching →
      Fresh holds address machine.processor.boot machine.traffic) :
    Fresh holds address later.processor.boot later.traffic := by
  obtain ⟨rest, breakpoint, turn⟩ := turns.boot
  have place : machine.traffic.cores = [] ++ machine.processor.boot :: machine.processor.others :=
    rfl
  have booted : machine.booted = { machine.traffic with
      cores := later.processor.boot :: machine.processor.others, bus := rest.bus
      lines := rest.lines } := by
    rw [Machine.booted, turn]
  have lane := sound.lanes machine.processor.boot (by simp [place])
  have after_boot : machine.booted.Sound := by
    rw [booted]
    exact sound.core_turn place turn
  -- the boot core's own turn: it asks, or it goes on waiting
  have first : Fresh holds address later.processor.boot machine.booted := by
    rw [booted]
    by_cases same : machine.processor.boot.pipeline.fetch.searching
        = later.processor.boot.pipeline.fetch.searching
    · have awaits' : machine.processor.boot.awaiting? = some address := by
        rw [← awaits, Core.awaiting?, Core.awaiting?, Fetch.vectorRead, Fetch.vectorRead, same]
      exact sound.fresh_waits rfl turn awaits' same.symm (fresh same)
    · have searching : machine.processor.boot.pipeline.fetch.searching ≠ none := fun none => by
        rcases lane.steady.begins turn none with reading | asking
        · exact same (none.trans reading.symm)
        · simp [Core.awaiting?, Fetch.vectorRead, asking] at awaits
      have sent := lane.steady.carried?_of_asks turn searching (Ne.symm same) awaits
      have terminal : later.processor.boot.terminal = machine.processor.boot.terminal := by
        rw [← machine.processor.boot.terminal_tick machine.environment, turn]
      rw [← terminal] at sent
      rw [booted] at after_boot
      exact after_boot.fresh_asked (by simp) awaits sent
  -- then the turns up to the controller's, the controller's, and the others
  have still : machine.booted.controller = machine.processor.controller := by rw [booted]; rfl
  have routed := after_boot.fresh_asides turns.routed (by rw [booted]; rfl) awaits goes
    (by rwa [still]) first
  have after_router := after_boot.moves (moves_of_asides turns.routed)
  have head := head?_routed turns
  have controlled : Fresh holds address later.processor.boot machine.routed.controlled :=
    routed.of_grown (after_router.replies_controller (List.mem_of_head? head) address)
      (by rwa [controller_of_asides turns.routed, still])
  have after_controller : machine.routed.controlled.Sound := after_router.move .controller
  exact after_controller.fresh_asides turns.controlled head awaits goes
    (by rwa [← turns.controller]) controlled

end Machine

end PipelinedMachine
