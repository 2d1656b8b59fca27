import PipelinedMachine.Proofs.Boot.Calls
import PipelinedMachine.Proofs.Boot.Code

/-!
# The machine as the boot loader sees it

Requests are on their way for a while, and so are answers.  Main memory, the disk and the interrupt
controller take their requests in the order in which the core has sent them, so to the core it is as
if they had been served already.

* `Machine.world` — what the boot loader works on, in a machine, and `Machine.world_relay`, **which
  no turn behind the core changes**;
* `Machine.RomServesLoader` — the ROM holds the boot loader and is asked for blocks only;
* `Machine.InOrder.outlook`, `Machine.tells` — the core's end of its link.
-/

namespace PipelinedMachine

open AddressMap Interconnect Boot

/-! ## Requests that are none of the disk's -/

/-- A read or a write without an address is taken as one of address zero. -/
lemma Message.address_of_plain {message : Message} (plain : message.access? = none)
    (kind : message.kind? = some .read ∨ message.kind? = some .write) : message.address = 0 := by
  rw [Message.access?, if_pos kind] at plain
  rw [Message.address, plain]
  rfl

namespace CursorDisk

variable {disk : CursorDisk} {message answer : Message}

lemma after_of_plain (plain : message.access? = none) : disk.after message = disk := by
  have seek : (0 : Word) ≠ diskSeek := by decide
  have data : (0 : Word) ≠ diskData := by decide
  rw [after]
  split
  · next writes => rw [Message.address_of_plain plain (Or.inr writes), if_neg seek, if_neg data]
  · next reads => rw [Message.address_of_plain plain (Or.inl reads), if_neg data]
  all_goals rfl

lemma answer?_of_plain (plain : message.access? = none) : disk.answer? message = none := by
  have seek : (0 : Word) ≠ diskSeek := by decide
  have data : (0 : Word) ≠ diskData := by decide
  rw [answer?]
  split
  · next reads => rw [Message.address_of_plain plain (Or.inl reads), if_neg data, if_neg seek]
  all_goals rfl

/-- What the disk answers, it answers in its own name. -/
lemma tells_of_answer? (answers : disk.answer? message = some answer) :
    answer.tells .disk = true := by
  rw [answer?] at answers
  split at answers
  · split_ifs at answers
    · obtain rfl := Option.some.inj answers
      exact Message.tells_eq_true.mpr ⟨diskData, rfl, by decide⟩
    · obtain rfl := Option.some.inj answers
      exact Message.tells_eq_true.mpr ⟨diskSeek, rfl, by decide⟩
  all_goals contradiction

end CursorDisk

namespace Machine

variable {machine later : Machine} {actor : Option Component} {bus after : Interconnect}
  {installed called : Prop}

/-! ## What the boot loader works on -/

/-- What the boot loader works on, with other links in place of the machine's.  Main memory has
taken some requests already. -/
def world (machine : Machine) (taken : List Message) (bus : Interconnect) : World where
  stores := taken ++ bus.along (Message.asks .ram) (machine.outward .ram)
  drive := machine.disk.cursor.afterAll (bus.along (Message.asks .disk) (machine.outward .disk))
  reading := bus.along (Message.tells .disk) (machine.homeward .disk)
    ++ machine.disk.owed.filter (Message.tells .disk)
    ++ machine.disk.cursor.answers (bus.along (Message.asks .disk) (machine.outward .disk))
  installed := machine.Installed bus

/-- The core sends to the world and hears from it. -/
theorem InOrder.outlook (inOrder : machine.InOrder) (taken : List Message) :
    Outlook machine.processor.boot.terminal (machine.world taken) where
  sends {bus after message} sent := by
    have requests (component : Component) := inOrder.requests_send component sent
    rw [World.after, world, world, World.mk.injEq]
    refine ⟨?_, ?_, ?_, ?_⟩
    · rw [requests, List.append_assoc]
    · rw [requests, CursorDisk.afterAll_append]
      split_ifs <;> rfl
    · rw [requests, inOrder.answers_send .disk sent, CursorDisk.answers_append,
        ← List.append_assoc]
      split_ifs <;> simp [CursorDisk.answers]
    · rw [Installed, Installed, mail_send inOrder sent, List.mem_append, ← or_assoc]
      refine propext (or_congr_right ?_)
      split_ifs with asks
      · rw [List.mem_singleton, eq_comm]
      · refine iff_of_false (by simp) ?_
        rintro rfl
        exact asks (by decide)
  takes {bus message} waiting kept := by
    have answers := inOrder.answers_message? .disk waiting
    rw [if_pos kept] at answers
    refine ⟨_, by rw [world, answers, List.singleton_append, List.cons_append,
      List.cons_append], ?_⟩
    rw [world, world, World.mk.injEq, Installed, Installed, mail_clear inOrder,
      inOrder.requests_clear .ram, inOrder.requests_clear .disk]
    exact ⟨rfl, rfl, rfl, rfl⟩
  skips {bus message} waiting kept := by
    have answers := inOrder.answers_message? .disk waiting
    rw [kept] at answers
    rw [world, world, World.mk.injEq, Installed, Installed, mail_clear inOrder,
      inOrder.requests_clear .ram, inOrder.requests_clear .disk, answers]
    exact ⟨rfl, rfl, rfl, rfl⟩

/-- What main memory takes in its turn. -/
def taking (machine : Machine) : List Message :=
  ((machine.ram.taken? machine.bus).filter (Message.asks .ram)).toList

/-- What main memory takes, it has been asked for. -/
lemma InOrder.stores_relay (inOrder : machine.InOrder) (relay : Relay machine actor later)
    (taken : List Message) :
    (later.world (taken ++ if actor = some .ram then machine.taking else []) later.bus).stores
      = (machine.world taken machine.bus).stores := by
  by_cases own : actor = some .ram
  · subst own
    obtain ⟨answered, visit⟩ := machine.ram.visit_taken? machine.bus
    rw [← show later.bus = (machine.ram.tick machine.bus).2 from relay.own.2] at visit
    have requests := inOrder.requests_own .ram relay visit.handled
    change _ ++ later.requests .ram = taken ++ machine.requests .ram
    rw [requests, if_pos rfl, List.append_assoc]
    rfl
  · rw [if_neg own, List.append_nil]
    exact congrArg (taken ++ ·) (inOrder.requests_around relay own)

/-- The disk serves its requests as the disk it looks like. -/
lemma InOrder.drive_relay (inOrder : machine.InOrder) (seated : machine.disk.Seated)
    (relay : Relay machine actor later) (taken taken' : List Message) :
    later.disk.Seated
      ∧ (later.world taken' later.bus).drive = (machine.world taken machine.bus).drive
      ∧ (later.world taken' later.bus).reading = (machine.world taken machine.bus).reading := by
  by_cases own : actor = some .disk
  · subst own
    obtain ⟨message?, announced, answered, visit, round⟩ := machine.disk.visit_round machine.bus
    have turn : later.disk = (machine.disk.tick machine.bus).1 := Peripheral.disk.inj relay.own.1
    rw [← turn] at round visit
    rw [← show later.bus = (machine.disk.tick machine.bus).2 from relay.own.2] at visit
    obtain ⟨seated', moved⟩ := seated.cursor_round round
    have requests := inOrder.requests_own .disk relay visit.handled
    have answers := inOrder.answers_own .disk relay visit
    -- what is taken is a request of the disk's, or nothing to a disk
    have serves : machine.disk.cursor.afterAll message?.toList
          = machine.disk.cursor.afterAll (message?.filter (Message.asks .disk)).toList
        ∧ ((message?.bind machine.disk.answer?).filter (Message.tells .disk)).toList
          = machine.disk.cursor.answers (message?.filter (Message.asks .disk)).toList := by
      rw [seated.answer?_eq]
      cases message? with
      | none => exact ⟨rfl, rfl⟩
      | some message =>
        cases access : message.access? with
        | none =>
          have unasked := Message.asks_of_plain access .disk
          refine ⟨?_, ?_⟩
          · simpa [CursorDisk.afterAll, Option.filter, unasked] using
              CursorDisk.after_of_plain access
          · simp [CursorDisk.answer?_of_plain access, Option.filter, unasked, CursorDisk.answers]
        | some address =>
          have here := inOrder.arrives .disk (visit.handled.waiting message rfl) access
          have asks := Message.asks_eq_true.mpr ⟨address, access, here⟩
          refine ⟨by simp [Option.filter, asks], ?_⟩
          rw [Option.filter_some, if_pos asks, Option.bind_some]
          cases answer : machine.disk.cursor.answer? message with
          | none => simp [CursorDisk.answers, answer]
          | some told =>
            simp [CursorDisk.answers, answer, Option.filter, CursorDisk.tells_of_answer? answer]
    obtain ⟨after, answers'⟩ := serves
    rw [after] at moved
    refine ⟨seated', ?_, ?_⟩
    · change later.disk.cursor.afterAll (later.requests .disk)
        = machine.disk.cursor.afterAll (machine.requests .disk)
      rw [requests, CursorDisk.afterAll_append, moved]
    · change later.answers .disk ++ later.disk.cursor.answers (later.requests .disk)
        = machine.answers .disk ++ machine.disk.cursor.answers (machine.requests .disk)
      rw [answers, requests, CursorDisk.answers_append, moved, ← answers', List.append_assoc]
  · have same : later.disk = machine.disk := Peripheral.disk.inj (relay.part_eq own)
    refine ⟨by rw [same]; exact seated, ?_, ?_⟩
    · change later.disk.cursor.afterAll (later.requests .disk) = _
      rw [inOrder.requests_around relay own, same]
      rfl
    · change later.answers .disk ++ later.disk.cursor.answers (later.requests .disk) = _
      rw [inOrder.answers_around relay own, inOrder.requests_around relay own, same]
      rfl

/-- **No turn behind the core changes the world.** -/
theorem world_relay (inOrder : machine.InOrder) (seated : machine.disk.Seated)
    (exchange : machine.ControllerExchange machine.bus) (plain : machine.bus.All Plain)
    (relay : Relay machine actor later) (taken : List Message) :
    later.world (taken ++ if actor = some .ram then machine.taking else []) later.bus
      = machine.world taken machine.bus := by
  have stores := inOrder.stores_relay relay taken
  obtain ⟨-, drive, reading⟩ := inOrder.drive_relay seated relay taken
    (taken ++ if actor = some .ram then machine.taking else [])
  have installed := propext (exchange.installed_relay inOrder plain relay)
  rw [world, world, World.mk.injEq]
  exact ⟨stores, drive, reading, installed⟩

end Machine

/-! ## The ROM -/

lemma Rom.readWord_tick (rom : Rom) (bus : Interconnect) :
    (rom.tick bus).1.readWord = rom.readWord := by
  have accepted : (rom.accept bus).1.base = rom.base ∧ (rom.accept bus).1.image = rom.image := by
    rw [accept]
    split
    · exact ⟨rfl, rfl⟩
    · split
      · split <;> exact ⟨rfl, rfl⟩
      · exact ⟨rfl, rfl⟩
  funext address
  rw [readWord, readWord, tick]
  simp only [accepted]

namespace Boot

lemma exists_block_of_sends {installed called : Prop} {message : Message}
    (sends : Sends installed called message) (asks : message.asks .rom = true) :
    ∃ address, message = Message.read address Fetch.blockWords := by
  cases sends with
  | code address inside => exact ⟨address, rfl⟩
  | latest | handler | data | keyboard | disk => exact absurd asks (by decide)
  | seek block | acknowledge block =>
    rw [Message.asks_write] at asks
    exact absurd asks (by decide)
  | store address value inside =>
    rw [Message.asks_write, Component.ofAddress_eq_ram_iff.mpr inside] at asks
    contradiction

end Boot

namespace Machine

variable {machine later : Machine} {actor : Option Component} {bus after : Interconnect}
  {installed called : Prop}

/-- The ROM holds the boot loader, is asked for blocks of it, and answers with them. -/
structure RomServesLoader (machine : Machine) (bus : Interconnect) : Prop where
  word : machine.rom.readWord = Boot.word
  wide : bus.capacity machine.rom.terminal = messageCapacity
  asked : ∀ message ∈ bus.along (Message.asks .rom) (machine.outward .rom),
    ∃ address, message = Message.read address Fetch.blockWords
  told : ∀ message ∈ bus.along (Message.tells .rom) (machine.homeward .rom)
    ++ machine.rom.owed.filter (Message.tells .rom), ∃ address, message = block address

theorem RomServesLoader.deals (loader : machine.RomServesLoader bus) (inOrder : machine.InOrder)
    (deals : Deals machine.processor.boot.terminal (Sends installed called) bus after) :
    machine.RomServesLoader after where
  word := loader.word
  wide := (capacity_deals deals _).trans loader.wide
  asked := fun message member => by
    rcases inOrder.requests_deals deals message member with old | ⟨sends, asks⟩
    · exact loader.asked message old
    · exact exists_block_of_sends sends asks
  told := fun message member => by
    rw [List.mem_append] at member
    exact loader.told message (List.mem_append.mpr
      (member.imp (inOrder.answers_deals deals message) id))

/-- **Whatever the ROM is asked for, it answers with the code of the boot loader.** -/
theorem RomServesLoader.relay (loader : machine.RomServesLoader machine.bus)
    (inOrder : machine.InOrder)
    (plain : machine.bus.All Plain) (relay : Relay machine actor later) :
    later.RomServesLoader later.bus := by
  by_cases own : actor = some .rom
  · subst own
    obtain ⟨taken, answered, visit⟩ := machine.rom.visit machine.bus
    have turn : later.rom = (machine.rom.tick machine.bus).1 := Peripheral.rom.inj relay.own.1
    rw [← turn, ← show later.bus = (machine.rom.tick machine.bus).2 from relay.own.2] at visit
    have requests := inOrder.requests_own .rom relay visit.handled
    refine ⟨by rw [turn, Rom.readWord_tick, loader.word], ?_, fun message member => ?_,
      fun message member => ?_⟩
    · rw [relay.capacity_eq, turn, Rom.terminal_tick]
      exact loader.wide
    · refine loader.asked message ?_
      change message ∈ machine.requests .rom
      rw [requests]
      exact List.mem_append_right _ member
    · change message ∈ later.answers .rom at member
      rw [inOrder.answers_own .rom relay visit, List.mem_append] at member
      rcases member with old | new
      · exact loader.told message old
      · rw [Option.mem_toList, Option.filter_eq_some_iff, Option.bind_eq_some_iff] at new
        obtain ⟨⟨read, rfl, answers⟩, -⟩ := new
        rw [Rom.answer?] at answers
        split_ifs at answers with reads
        obtain rfl := Option.some.inj answers
        have waits := visit.handled.waiting read rfl
        obtain ⟨address, access⟩ := Option.ne_none_iff_exists'.mp
          ((plain.of_message? waits).access? (Or.inl reads))
        have asks := Message.asks_eq_true.mpr
          ⟨address, access, inOrder.arrives .rom waits access⟩
        obtain ⟨place, rfl⟩ := loader.asked read (by
          change read ∈ machine.requests .rom
          rw [requests]
          simp [Option.filter, asks])
        have count : replyCount machine.bus machine.rom.terminal Fetch.blockWords = 8 := by
          rw [replyCount, loader.wide]
          decide
        refine ⟨place, ?_⟩
        change replyFrom machine.rom.readWord place
          (replyCount machine.bus machine.rom.terminal Fetch.blockWords) = _
        rw [count, loader.word, block]
  · have same : later.rom = machine.rom := Peripheral.rom.inj (relay.part_eq own)
    refine ⟨by rw [same]; exact loader.word, by rw [relay.capacity_eq, same]; exact loader.wide, ?_,
      ?_⟩
    · change ∀ message ∈ later.requests .rom, _
      rw [inOrder.requests_around relay own]
      exact loader.asked
    · change ∀ message ∈ later.answers .rom, _
      rw [inOrder.answers_around relay own]
      exact loader.told

/-- What comes to the core is what is in the ROM, and where the disk's handler is. -/
theorem tells (inOrder : machine.InOrder) (loader : machine.RomServesLoader machine.bus)
    (exchange : machine.ControllerExchange machine.bus) :
    Tells machine.processor.boot.terminal machine.bus := by
  have among {address : Word} {answer : Message}
      (came : machine.bus.answer? machine.processor.boot.terminal address = some answer) :
      answer ∈ machine.bus.along (Message.tells (Component.ofAddress address))
          (machine.homeward (Component.ofAddress address))
        ∧ answer.answers address = true := by
    obtain ⟨waiting, answers⟩ := Interconnect.answer?_eq_some came
    have tells := (Message.tells_of_answers answers (Component.ofAddress address)).trans
      (decide_eq_true rfl)
    rw [inOrder.answers_message? _ waiting, if_pos tells]
    exact ⟨List.mem_cons_self, answers⟩
  refine ⟨fun address answer came rom => ?_, fun answer came => ?_, fun answer came => ?_⟩
  · obtain ⟨member, answers⟩ := among came
    rw [rom] at member
    obtain ⟨other, rfl⟩ := loader.told answer (List.mem_append_left _ member)
    rw [Message.answers_response.mp answers]
  · obtain ⟨member, answers⟩ := among came
    rcases exchange.told answer (List.mem_append_left _ member) with rfl | rfl
    · exact absurd (Message.answers_response.mp answers) (by decide)
    · rfl
  · obtain ⟨member, answers⟩ := among came
    rcases exchange.told answer (List.mem_append_left _ member) with rfl | rfl
    · rfl
    · exact absurd (Message.answers_response.mp answers) (by decide)

end Machine

end PipelinedMachine
