import PipelinedMachine.Proofs.Link.Passing
import PipelinedMachine.Proofs.Served.Conversation

/-!
# What a core asks and takes

A core reads over its link for three purposes, and each answer that comes is to one of its reads.
This file says what a turn of a core does to its link and to the addresses of its open reads,
without any assumption about what is at the other end.

* `Core.asked` — the addresses of the open reads;
* `Talk` — what a turn takes and sends, and how the open reads change with it;
* `Fetch.Turn.talk`, `Occupancy.Work.talk`, `Standing.Turn.talk` — the turns of the units;
* `Pipeline.kept_tick` — what no turn at the end of a link changes, a tick of the units keeps;
* **`Core.Steady.talk`** — a tick of a core is one talk;
* **`Core.Steady.takes`** — a message that answers an open read is taken in the next tick.
-/

namespace PipelinedMachine

open Interconnect

/-! ## Messages of a core -/

namespace Message

/-- What a core sends: a read, a write or an interrupt, with its address or id. -/
structure Request (message : Message) : Prop where
  kind : message.kind? = some .read ∨ message.kind? = some .write
    ∨ message.kind? = some .interrupt
  address : message.address? ≠ none

lemma request_read (address count : Word) : (read address count).Request :=
  ⟨Or.inl rfl, by simp [read, address?]⟩

lemma request_write (address value : Word) : (write address value).Request :=
  ⟨Or.inr (Or.inl rfl), by simp [write, address?]⟩

lemma request_interrupt (id : Word) : (interrupt id).Request :=
  ⟨Or.inr (Or.inr rfl), by simp [interrupt, address?]⟩

lemma answers_iff {message : Message} {address : Word} :
    message.answers address = true ↔ message.answered? = some address := by
  rw [answers, answered?, isResponse]
  by_cases response : message.kind? = some .response <;> simp [response]

end Message

namespace Interconnect

variable {bus : Interconnect} {near : Terminal} {address : Word} {message : Message}

lemma answer?_eq_some_iff :
    bus.answer? near address = some message
      ↔ bus.message? near = some message ∧ message.answered? = some address := by
  rw [answer?]
  cases waiting : bus.message? near with
  | none => simp
  | some other =>
    simp only [Option.some.injEq]
    by_cases answers : other.answers address = true
    · rw [if_pos answers, Option.some.injEq]
      constructor
      · rintro rfl
        exact ⟨rfl, Message.answers_iff.mp answers⟩
      · exact fun both => both.1
    · rw [if_neg answers]
      constructor
      · intro none
        contradiction
      · rintro ⟨rfl, answered⟩
        exact absurd (Message.answers_iff.mpr answered) answers

end Interconnect

/-! ## Talks -/

/-- What a turn does on the link `near`, and to the addresses of the reads that are open: a read
that is sent opens one, and an answer that is taken closes one. -/
structure Talk (near : Terminal) (bus after : Interconnect) (before later : List Word)
    (taken sent : Option Message) : Prop where
  handled : Handled near bus after taken sent
  request : ∀ message, sent = some message → message.Request
  balance : ∀ address, before.count address + (Message.askedBy sent).count address
    = (Message.answeredBy taken).count address + later.count address

namespace Talk

variable {near : Terminal} {bus between after : Interconnect} {before middle later : List Word}
  {taken taken' sent sent' : Option Message} {message : Message} {address : Word}

lemma silent (near : Terminal) (bus : Interconnect) (before : List Word) :
    Talk near bus bus before before none none where
  handled := .nothing near bus
  request := by simp
  balance := fun _ => by simp [Message.askedBy, Message.answeredBy]

/-- A read is sent. -/
lemma asks {count : Word} (sends : bus.send? near (Message.read address count) = some after)
    (opened : ∀ a, later.count a = before.count a + [address].count a) :
    Talk near bus after before later none (some (Message.read address count)) where
  handled := .of_send? sends
  request := by
    rintro _ ⟨rfl⟩
    exact Message.request_read address count
  balance := fun a => by simp [Message.askedBy, Message.answeredBy, opened a]

/-- Something else is sent. -/
lemma tells (sends : bus.send? near message = some after) (request : message.Request)
    (other : message.asked? = none) : Talk near bus after before before none (some message) where
  handled := .of_send? sends
  request := by
    rintro _ ⟨rfl⟩
    exact request
  balance := fun a => by simp [Message.askedBy, Message.answeredBy, other]

/-- An answer is taken. -/
lemma takes (came : bus.answer? near address = some message)
    (closed : ∀ a, before.count a = [address].count a + later.count a) :
    Talk near bus (bus.clear near) before later (some message) none where
  handled := .of_clear (answer?_eq_some_iff.mp came).1
  request := by simp
  balance := fun a => by
    simp [Message.askedBy, Message.answeredBy, (answer?_eq_some_iff.mp came).2, closed a]

/-- One part of a turn after the other. -/
lemma trans (first : Talk near bus between before middle taken sent)
    (second : Talk near between after middle later taken' sent') :
    Talk near bus after before later (taken.or taken') (sent.or sent') where
  handled := first.handled.trans second.handled
  request := fun message speaks => by
    rcases Option.or_eq_some_iff.mp speaks with speaks | ⟨-, speaks⟩
    · exact first.request message speaks
    · exact second.request message speaks
  balance := fun a => by
    have one := first.balance a
    have two := second.balance a
    have asked : (Message.askedBy (sent.or sent')).count a
        = (Message.askedBy sent).count a + (Message.askedBy sent').count a := by
      rcases first.handled.sent_once second.handled with none | none <;>
        simp [none, Message.askedBy]
    have answered : (Message.answeredBy (taken.or taken')).count a
        = (Message.answeredBy taken).count a + (Message.answeredBy taken').count a := by
      rcases first.handled.taken_once second.handled with none | none <;>
        simp [none, Message.answeredBy]
    omega

/-- The reads of others stay as they are. -/
lemma beside (talk : Talk near bus after before later taken sent) (rest : List Word)
    {before' later' : List Word}
    (count : ∀ a, before'.count a = before.count a + rest.count a)
    (count' : ∀ a, later'.count a = later.count a + rest.count a) :
    Talk near bus after before' later' taken sent where
  handled := talk.handled
  request := talk.request
  balance := fun a => by
    have := talk.balance a
    rw [count a, count' a]
    omega

/-- What waits is gone afterwards, if it was gone before. -/
lemma message?_eq_none (talk : Talk near bus after before later taken sent)
    (gone : bus.message? near = none) : after.message? near = none := by
  rw [talk.handled.message?_eq, gone, ite_self]

end Talk

/-! ## Fetch -/

namespace Fetch

variable {near : Terminal} {path after : Datapath} {fetch later : Fetch}

/-- The addresses of the open reads of fetch. -/
def asked (fetch : Fetch) : List Word := (fetch.reads []).map Question.address

lemma count_asked (fetch : Fetch) (a : Word) :
    fetch.asked.count a = fetch.outstanding.toList.count a
      + (fetch.vectorRead.toList.map Question.address).count a := by
  have block : fetch.blockRead.toList.map Question.address = fetch.outstanding.toList := by
    rw [blockRead]
    cases fetch.outstanding <;> rfl
  rw [asked, reads, List.nil_append, List.map_append, List.count_append, block]

@[simp] lemma asked_pass (fetch : Fetch) (ip : Word) : (fetch.pass ip).asked = fetch.asked := by
  rw [asked, asked, reads_pass]

lemma SearchTurn.talk {phase : HandlerSearch}
    (step : SearchTurn near path fetch phase later after)
    (searching : fetch.searching = some phase) :
    ∃ taken sent, Talk near path.bus after.bus fetch.asked later.asked taken sent := by
  cases step with
  | askedId bus sent =>
    exact ⟨_, _, .asks sent fun a => by simp [count_asked, vectorRead, searching]⟩
  | askedHandler id bus sent =>
    exact ⟨_, _, .asks sent fun a => by simp [count_asked, vectorRead, searching]⟩
  | gotId answer came =>
    exact ⟨_, _, .takes came fun a => by simp [count_asked, vectorRead, searching, Nat.add_comm]⟩
  | gotHandler id answer came =>
    exact ⟨_, _, .takes came fun a => by simp [count_asked, vectorRead, searching, Nat.add_comm]⟩
  | waited => exact ⟨_, _, .silent near path.bus _⟩

lemma Turn.talk (turn : Turn near path fetch later after) :
    ∃ taken sent, Talk near path.bus after.bus fetch.asked later.asked taken sent := by
  cases turn with
  | received address answer reading asked came =>
    exact ⟨_, _, .takes came fun a => by simp [count_asked, vectorRead, asked]⟩
  | awaited | refused | satisfied =>
    rw [asked_pass]
    exact ⟨_, _, .silent near path.bus _⟩
  | asked address bus reading free wanted sent =>
    exact ⟨_, _, .asks sent fun a => by simp [count_asked, vectorRead, free, reading]⟩
  | searched phase _ _ searching fresh step => exact step.talk searching
  | dropped phase address answer _ _ searching asked came step =>
    have drops : Talk near path.bus (path.clear near).bus fetch.asked
        ({ fetch with outstanding := none } : Fetch).asked (some answer) none :=
      .takes came fun a => by simp [count_asked, vectorRead, asked]
    obtain ⟨taken, sent, goes⟩ := step.talk searching
    exact ⟨_, _, drops.trans goes⟩

/-- An answer to an open read of fetch is taken in the next turn: a block that came late is dropped
before the search goes on. -/
lemma message?_tick_of_answered {message : Message} {address : Word}
    (waiting : path.bus.message? near = some message)
    (answered : message.answered? = some address) (asked : address ∈ fetch.asked) :
    (fetch.tick near path).2.bus.message? near = none := by
  have came : path.bus.answer? near address = some message :=
    answer?_eq_some_iff.mpr ⟨waiting, answered⟩
  have other {address' : Word} (apart : address' ≠ address) :
      path.bus.answer? near address' = none := by
    by_contra some
    obtain ⟨message', some⟩ := Option.ne_none_iff_exists'.mp some
    obtain ⟨waiting', answered'⟩ := answer?_eq_some_iff.mp some
    rw [waiting, Option.some.injEq] at waiting'
    rw [← waiting', answered, Option.some.injEq] at answered'
    exact apart answered'.symm
  have open' : fetch.outstanding = some address
      ∨ ∃ question, fetch.vectorRead = some question ∧ question.address = address := by
    rw [← List.count_pos_iff, count_asked] at asked
    rcases Nat.add_pos_iff_pos_or_pos.mp asked with block | vector
    · exact Or.inl (by simpa using List.count_pos_iff.mp block)
    · exact Or.inr (by simpa using List.count_pos_iff.mp vector)
  cases searching : fetch.searching with
  | none =>
    have block : fetch.outstanding = some address :=
      open'.resolve_right (by simp [vectorRead, searching])
    simp only [tick, searching, readAhead, outstanding_pass, block, receive, came]
    exact message?_clear
  | some phase =>
    simp only [tick, searching]
    by_cases stale : fetch.outstanding = some address
    · have drops : fetch.dropStale near path
          = ({ fetch with outstanding := none }, path.clear near) := by
        simp only [dropStale, stale, came]
      rw [drops]
      obtain ⟨taken, sent, goes⟩ := (searchTurn_search { fetch with outstanding := none } near phase
        (path.clear near)).talk searching
      exact goes.message?_eq_none message?_clear
    · have keeps : fetch.dropStale near path = (fetch, path) := by
        cases block : fetch.outstanding with
        | none => simp only [dropStale, block]
        | some address' =>
          simp only [dropStale, block, other fun same => stale (same ▸ block)]
      obtain ⟨question, vector, rfl⟩ := open'.resolve_left stale
      rw [keeps]
      rw [vectorRead, searching] at vector
      cases phase with
      | askId | askHandler => contradiction
      | awaitId | awaitHandler =>
        obtain rfl := Option.some.inj vector
        simp only [search, came]
        exact message?_clear

end Fetch

/-! ## The units -/

namespace Occupancy

variable {near : Terminal} {path after : Datapath} {occupancy later : Occupancy}

/-- The addresses of the open reads of the units. -/
def asked (occupancy : Occupancy) : List Word := occupancy.wordRead.toList.map Question.address

lemma InterruptRequest.request_message (request : InterruptRequest) (registers : RegisterFile) :
    (request.message registers).Request ∧ (request.message registers).asked? = none := by
  cases request with
  | install id source => exact ⟨Message.request_write _ _, rfl⟩
  | raise id => exact ⟨Message.request_interrupt id, rfl⟩

lemma Work.talk (work : Work near path occupancy later after) (requesting : occupancy.Requesting) :
    ∃ taken sent, Talk near path.bus after.bus occupancy.asked later.asked taken sent := by
  cases work with
  | computed | computedNothing | loadWaits | storeWaits | pushed | popped | pushing | popping
  | requestWaits => exact ⟨_, _, .silent near path.bus _⟩
  | loadedNothing pending form =>
    have nothing : (load pending).asked = done.asked := by
      simp [Occupancy.asked, wordRead, LoadUnit.wordRead, LoadUnit.outstanding?, load?,
        requesting pending rfl form]
    rw [nothing]
    exact ⟨_, _, .silent near path.bus _⟩
  | asked pending target operand bus form fresh sent =>
    exact ⟨_, _, .asks sent fun a => by
      simp [Occupancy.asked, wordRead, LoadUnit.wordRead, LoadUnit.outstanding?, load?, fresh]⟩
  | loaded pending target operand address answer form waiting came =>
    exact ⟨_, _, .takes came fun a => by
      simp [Occupancy.asked, wordRead, LoadUnit.wordRead, LoadUnit.outstanding?, load?, waiting]⟩
  | stored held bus sent => exact ⟨_, _, .tells sent (Message.request_write _ _) rfl⟩
  | requested held bus sent =>
    obtain ⟨request, other⟩ := InterruptRequest.request_message held.instruction path.registers
    exact ⟨_, _, .tells sent request other⟩

end Occupancy

/-! ## Cores -/

namespace Standing

variable {near : Terminal} {path after : Datapath} {standing later : Standing}
  {issue : Option Dispatch} {outcome : CoreOutcome}

/-- The addresses of the open reads. -/
def asked (standing : Standing) : List Word := standing.fetch.asked ++ standing.occupancy.asked

/-- Every tick, with a fault or without, is one talk. -/
theorem Turn.talk (turn : Turn near path standing later after issue outcome)
    (sound : standing.Sound path.registers path.stages)
    (requesting : standing.occupancy.Requesting) :
    ∃ taken sent, Talk near path.bus after.bus standing.asked later.asked taken sent := by
  have count (s : Standing) (a : Word) :
      s.asked.count a = s.fetch.asked.count a + s.occupancy.asked.count a := List.count_append
  -- only fetch has something to say, and the units have nothing open, before or after
  have only {fetch : Fetch} {start between final : Datapath} {later : Standing}
      (supply : Fetch.Turn near start standing.fetch fetch between)
      (idle : standing.occupancy.asked = []) (idle' : later.occupancy.asked = [])
      (same : later.fetch.asked = fetch.asked) (untouched : final.bus = between.bus) :
      ∃ taken sent, Talk near start.bus final.bus standing.asked later.asked taken sent := by
    obtain ⟨taken, sent, talk⟩ := supply.talk
    rw [untouched]
    exact ⟨taken, sent, talk.beside [] (fun a => by simp [count, idle])
      fun a => by simp [count, idle', same]⟩
  have vacant (elsewhere : standing.occupancy.stage ≠ .execution) :
      standing.occupancy.asked = [] := by
    rw [Occupancy.asked, Occupancy.wordRead_eq_none elsewhere]
    rfl
  cases turn with
  | stalled fetch between here supply | returned fetch between entry here supply
  | undecodable fetch between entry cause here supply | stray fetch between entry here supply =>
    have idle := vacant (by simp [here, Occupancy.stage])
    exact only supply idle idle rfl rfl
  | issued fetch between entry instruction occupancy here supply found decoded taken =>
    refine only supply (vacant (by simp [here, Occupancy.stage])) ?_ rfl rfl
    rw [Occupancy.asked, Occupancy.wordRead_of_ofInstruction? taken]
    rfl
  | resolved fetch between here supply =>
    have reading : standing.fetch.searching = none := by
      by_contra searching
      simp [sound.searching searching] at here
    have still := supply.searching_eq_none reading
    rw [← standing.occupancy.resolve_bus path]
    refine only supply (vacant (by simp [here])) ?_ ?_ rfl
    · rw [enter]
      split <;> rfl
    · rw [enter]
      split
      · simp [Fetch.asked, Fetch.reads, Fetch.blockRead, Fetch.vectorRead, Fetch.beginSearch,
          Fetch.flush, still]
      · rfl
  | trapped fetch between held cause here supply =>
    exact only supply (by rw [here]; rfl) rfl rfl rfl
  | worked fetch between final occupancy here supply work =>
    obtain ⟨taken, sent, reads⟩ := supply.talk
    obtain ⟨taken', sent', works⟩ := work.talk requesting
    -- the units' reads stay open while fetch has its turn, and those of fetch after it
    exact ⟨_, _, (reads.beside standing.occupancy.asked (fun a => count _ a)
        fun a => by rw [List.count_append]).trans
      (works.beside fetch.asked
        (fun a => by rw [List.count_append, Nat.add_comm])
        fun a => by rw [count, Nat.add_comm])⟩

end Standing

/-! ## What the turns keep -/

namespace Interconnect

/-- What has been taken does not come back before the next tick of the links. -/
lemma kept_message?_eq_none (a : Terminal) : Kept fun bus => bus.message? a = none := by
  intro near bus after taken sent handled gone
  by_cases here : a = near
  · subst here
    rw [handled.message?_eq, gone, ite_self]
  · by_cases there : a = near.peer
    · subst there
      rw [message?_eq, Terminal.peer_peer] at gone ⊢
      cases sent with
      | none => rwa [handled.silent rfl]
      | some message =>
        obtain ⟨channel, accepted, -, taken, now⟩ := handled.spoken message rfl
        rw [now, Option.bind_some]
        exact Channel.waiting?_of_inTransit? (Channel.send?_eq_some taken).2.1
    · rwa [handled.message?_apart here there]

lemma Kept.answer {P : Interconnect → Prop} (kept : Kept P) {bus : Interconnect} {near : Terminal}
    {address : Word} {message : Message} (came : bus.answer? near address = some message)
    (before : P bus) : P (bus.clear near) :=
  kept.clear (answer?_eq_some_iff.mp came).1 before

end Interconnect

section Units

variable (near : Terminal) {path : Datapath} {P : Interconnect → Prop} (kept : Kept P)
include kept

lemma Fetch.kept_tick (fetch : Fetch) (before : P path.bus) : P (fetch.tick near path).2.bus := by
  obtain ⟨taken, sent, talk⟩ := (turn_tick fetch near path).talk
  exact kept talk.handled before

lemma LoadUnit.kept_tick (slot : Option PendingLoad) (before : P path.bus) :
    P (tick slot near path).2.bus := by
  unfold tick
  split
  · exact before
  · split
    · split
      · exact before
      · split
        · simp only
          split
          · next sent => exact kept.send sent before
          · exact before
        · split
          · next came => exact kept.answer came before
          · exact before
    · exact before

lemma StoreUnit.kept_tick (slot : Slot StoreInstruction) (before : P path.bus) :
    P (tick slot near path).2.bus := by
  unfold tick
  split
  · exact before
  · split
    · simp only
      split
      · next sent => exact kept.send sent before
      · exact before
    · exact before

lemma RequestUnit.kept_tick (slot : Slot InterruptRequest) (before : P path.bus) :
    P (tick slot near path).2.bus := by
  unfold tick
  split
  · exact before
  · split
    · split
      · next sent => exact kept.send sent before
      · exact before
    · exact before

omit kept in
lemma StackUnit.bus_tick (slot : Slot StackInstruction) (path : Datapath) :
    (tick slot path).2.1.bus = path.bus := by
  unfold tick
  split
  · rfl
  · split
    · simp only
      split <;> rfl
    · rfl

end Units

namespace Pipeline

variable {pipeline : Pipeline} {near : Terminal} {path : Datapath} {P : Interconnect → Prop}

lemma bus_resolveBranch (pipeline : Pipeline) (path : Datapath) :
    (pipeline.resolveBranch path).2.1.bus = path.bus := by
  simp only [resolveBranch, BranchUnit.tick]
  split
  · split <;> rfl
  · rfl

lemma bus_dispatch (pipeline : Pipeline) (path : Datapath) :
    (pipeline.dispatch path).2.1.bus = path.bus := by
  have found : (pipeline.fetch.dispatch path).2.bus = path.bus := by
    rw [Fetch.dispatch]
    split
    · split <;> rfl
    · rfl
  simp only [dispatch]
  generalize pipeline.fetch.dispatch path = result at found
  obtain ⟨found?, after⟩ := result
  cases found? with
  | none => exact found
  | some entry =>
    simp only
    split
    · next instruction decoded =>
      unfold route leaveInterrupt
      split <;> try exact found
      simp only
      split <;> exact found
    · exact found

lemma bus_compute (pipeline : Pipeline) (path : Datapath) :
    (pipeline.compute path).2.1.bus = path.bus := by
  simp only [compute, AluUnit.tick]
  split
  · rfl
  · split
    · split <;> rfl
    · rfl

lemma bus_stack (slot : Slot StackInstruction) (path : Datapath) :
    (StackUnit.tick slot path.retire).2.1.bus = path.bus := by
  rw [StackUnit.bus_tick, Datapath.retire]
  split <;> rfl

lemma kept_access (kept : Kept P) (pipeline : Pipeline) (before : P path.bus) :
    P (pipeline.access near path).2.bus := by
  have loaded := LoadUnit.kept_tick near kept pipeline.load before
  have stored := StoreUnit.kept_tick near kept pipeline.store loaded
  rw [← bus_stack pipeline.stack] at stored
  exact RequestUnit.kept_tick near kept _ stored

/-- What holds of the links after fetch's turn holds of them after the tick. -/
lemma kept_tick_of_supply (kept : Kept P) {resolved supplied : Pipeline} {moved after : Datapath}
    {breakpoint : Option Word}
    (resolve : pipeline.resolveBranch path = (resolved, moved, breakpoint))
    (supply : resolved.supply near moved = (supplied, after)) (before : P after.bus) :
    P (pipeline.tick near path).2.1.bus := by
  rw [tick]
  simp only [resolve, supply]
  have dispatched := supplied.bus_dispatch after
  split
  · next ended =>
    rw [ended] at dispatched
    rwa [dispatched]
  · next routed between ended =>
    rw [ended] at dispatched
    have computed := routed.bus_compute between
    split
    · next ended' =>
      rw [ended'] at computed
      rwa [computed, dispatched]
    · next ended' =>
      rw [ended'] at computed
      refine kept_access kept _ ?_
      rwa [computed, dispatched]

lemma kept_tick (kept : Kept P) (pipeline : Pipeline) (before : P path.bus) :
    P (pipeline.tick near path).2.1.bus := by
  rw [← pipeline.bus_resolveBranch path] at before
  exact kept_tick_of_supply kept rfl rfl (Fetch.kept_tick near kept _ before)

end Pipeline

/-! ## What comes is taken -/

namespace Standing

variable {near : Terminal} {path : Datapath} {standing : Standing} {message : Message}
  {address : Word}

/-- A load takes the word that it has asked for, unless fetch has taken it before. -/
lemma message?_tick_of_load (sound : standing.Sound path.registers path.stages)
    {pending : PendingLoad} {target : Register} {operand : MemoryOperand}
    (here : standing.occupancy = .load pending)
    (form : pending.instruction = .load target operand)
    (waits : pending.requested = some address)
    (waiting : path.bus.message? near = some message)
    (answered : message.answered? = some address) :
    (standing.pipeline.tick near path).2.1.bus.message? near = none := by
  have stages := sound.stages
  rw [here] at stages
  have current : path.stages.current = .execution := by rw [stages]; rfl
  have reading : standing.fetch.searching = none := by
    by_contra searching
    have idle := sound.searching searching
    rw [here] at idle
    contradiction
  have supply := Fetch.turn_tick standing.fetch near path
  have supplied := supply_pipeline standing near path
  have kept := supply.stages_eq (Or.inl reading)
  generalize (standing.fetch.tick near path).1 = fetch at *
  generalize (standing.fetch.tick near path).2 = after at *
  have still : after.stages.current = .execution := by rw [kept, current]
  have computed := compute_of_not_alu { standing with fetch := fetch } after (by rw [here]; rfl)
  rw [tick_of_execution current supplied still computed]
  simp only [Datapath.advance]
  obtain ⟨taken, sent, talk⟩ := supply.talk
  have left := talk.handled.message?_eq
  cases taken with
  | some other => exact Pipeline.kept_access (kept_message?_eq_none near) _ left
  | none =>
    rw [waiting] at left
    have came : after.bus.answer? near address = some message :=
      answer?_eq_some_iff.mpr ⟨left, answered⟩
    have ticked : LoadUnit.tick (some pending) near after
        = (none, ((after.clear near).write target message.value).complete) := by
      simp only [LoadUnit.tick, Datapath.isIn, still, decide_true, if_true, form, waits, came]
    rw [access_load { standing with fetch := fetch } here ticked (by
      change after.stages.current ≠ .retirement
      simp [still])]
    exact message?_clear

/-- The answer to an open read is taken in the next tick. -/
lemma message?_tick (sound : standing.Sound path.registers path.stages)
    (requesting : standing.occupancy.Requesting)
    (waiting : path.bus.message? near = some message)
    (answered : message.answered? = some address) (asked : address ∈ standing.asked) :
    (standing.pipeline.tick near path).2.1.bus.message? near = none := by
  rcases List.mem_append.mp asked with block | word
  · have untouched := standing.pipeline.bus_resolveBranch path
    rw [← untouched] at waiting
    exact Pipeline.kept_tick_of_supply (kept_message?_eq_none near) rfl rfl
      (Fetch.message?_tick_of_answered waiting answered block)
  · cases here : standing.occupancy with
    | load pending =>
      have waits : pending.requested = some address := by
        simpa [here, Occupancy.asked, Occupancy.wordRead, LoadUnit.wordRead,
          LoadUnit.outstanding?, Occupancy.load?] using word
      cases form : pending.instruction with
      | nop =>
        have unasked := requesting pending here form
        rw [waits] at unasked
        contradiction
      | load target operand => exact message?_tick_of_load sound here form waits waiting answered
    | idle | done | branch | alu | store | stack | request =>
      simp [here, Occupancy.asked, Occupancy.wordRead, LoadUnit.wordRead,
        LoadUnit.outstanding?, Occupancy.load?] at word

/-- A load and a search for a handler are never under way at the same time. -/
lemma length_asked {registers : RegisterFile} {stages : StageControl}
    (sound : standing.Sound registers stages) :
    standing.asked.length ≤ 2 := by
  have alone : standing.occupancy.wordRead = none ∨ standing.fetch.searching = none := by
    by_cases searching : standing.fetch.searching = none
    · exact Or.inr searching
    · exact Or.inl (Occupancy.wordRead_eq_none (by simp [sound.searching searching]))
  have paired : standing.pipeline.Paired := Pipeline.paired alone
  have length : standing.asked.length = standing.pipeline.reads.length := by
    rw [asked, Fetch.asked, Occupancy.asked, reads_pipeline, Fetch.reads, Fetch.reads]
    simp only [List.length_append, List.length_map, List.length_nil]
    omega
  rw [length, ← List.length_map Question.reader]
  exact paired.elim (fun sub => sub.length_le) fun sub => sub.length_le

end Standing

/-! ## Whole cores -/

namespace Core

variable {core later : Core} {env rest : Environment} {breakpoint : Option Word}
  {message : Message} {address : Word}

/-- The addresses of the open reads of a core. -/
def asked (core : Core) : List Word :=
  core.pipeline.fetch.asked ++ (LoadUnit.wordRead core.pipeline.load).toList.map Question.address

/-- A core between two ticks: its units are in one of the situations of `Occupancy`, and a load that
reads nothing has not asked for anything. -/
def Steady (core : Core) : Prop :=
  ∃ standing, core.StandsAs standing ∧ standing.occupancy.Requesting

/-- A core with nothing at hand waits for nothing. -/
lemma steady_of_vacant {savedIp : Word} (pipeline : core.pipeline = { savedIp := savedIp })
    (stages : core.stages = {}) : core.Steady ∧ core.asked = [] := by
  refine ⟨⟨_, standsAs_of_vacant pipeline stages, by simp [Occupancy.Requesting]⟩, ?_⟩
  rw [asked, pipeline]
  rfl

lemma steady_reset (id : Nat) (terminal : Terminal) (entry : Word) :
    (reset id terminal entry).Steady :=
  (steady_of_vacant rfl rfl).1

lemma StandsAs.asked_eq {standing : Standing} (stands : core.StandsAs standing) :
    core.asked = standing.asked := by
  rw [asked, stands.pipeline]
  rfl

/-- An open read is for a block, for a load, or for a word of the vector table. -/
lemma mem_asked_iff : address ∈ core.asked
    ↔ core.pipeline.fetch.outstanding = some address
      ∨ LoadUnit.outstanding? core.pipeline.load = some address
      ∨ core.pipeline.fetch.vectorRead.map Question.address = some address := by
  rw [asked, ← List.count_pos_iff, List.count_append, Fetch.count_asked, LoadUnit.wordRead]
  simp only [List.count_pos_iff, Nat.add_pos_iff_pos_or_pos]
  simp [or_comm, or_left_comm]

/-- A core has two reads open at most. -/
lemma Steady.length_asked (steady : core.Steady) : core.asked.length ≤ 2 := by
  obtain ⟨standing, stands, -⟩ := steady
  rw [stands.asked_eq]
  exact Standing.length_asked stands.sound

/-- A tick of a core is one talk. -/
theorem Steady.talk (steady : core.Steady)
    (ticked : core.tick env = (later, rest, .ok breakpoint)) :
    later.Steady ∧ later.terminal = core.terminal
      ∧ ∃ taken sent, Talk core.terminal env.bus rest.bus core.asked later.asked taken sent := by
  obtain ⟨standing, stands, requesting⟩ := steady
  obtain ⟨standing', after, outcome, equal, turn⟩ := exists_turn stands env
  rw [ticked] at equal
  obtain ⟨rfl, rfl, rfl⟩ := by simpa only [Prod.mk.injEq] using equal
  have requesting' : (standing.signal (env.lines.take core.id).1).occupancy.Requesting := by
    rwa [Standing.signal_occupancy]
  have sound : (standing.signal (env.lines.take core.id).1).Sound (core.path env).registers
      (core.path env).stages := stands.sound.signal _
  obtain ⟨taken, sent, talk⟩ := turn.talk sound requesting'
  have stands' : StandsAs
      ⟨core.id, core.terminal, after.registers, after.stages, standing'.pipeline⟩ standing' :=
    ⟨rfl, turn.sound sound⟩
  refine ⟨⟨standing', stands', turn.requesting requesting'⟩, rfl, taken, sent, ?_⟩
  rw [stands.asked_eq, stands'.asked_eq]
  have unsignalled : (standing.signal (env.lines.take core.id).1).asked = standing.asked := by
    rw [Standing.asked, Standing.asked, Standing.signal_occupancy, Standing.signal_fetch]
  rwa [unsignalled] at talk

/-- A message that answers an open read is taken in the next tick. -/
theorem Steady.takes (steady : core.Steady)
    (waiting : env.bus.message? core.terminal = some message)
    (answered : message.answered? = some address) (asked : address ∈ core.asked) :
    (core.tick env).2.1.bus.message? core.terminal = none := by
  obtain ⟨standing, stands, requesting⟩ := steady
  have sound : (standing.signal (env.lines.take core.id).1).Sound (core.path env).registers
      (core.path env).stages := stands.sound.signal _
  have gone : ((standing.signal (env.lines.take core.id).1).pipeline.tick core.terminal
      (core.path env)).2.1.bus.message? core.terminal = none := by
    refine Standing.message?_tick sound (by rwa [Standing.signal_occupancy]) waiting answered ?_
    rw [stands.asked_eq] at asked
    rwa [Standing.asked, Standing.signal_occupancy, Standing.signal_fetch]
  rw [tick_eq core env stands.pipeline (Prod.ext rfl (Prod.ext rfl rfl))]
  exact gone

end Core

end PipelinedMachine
