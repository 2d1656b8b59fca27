import PipelinedMachine.Proofs.Machine.Vectors
import PipelinedMachine.Proofs.Timing.Pursuit

/-!
# A machine that keeps to main memory

As long as its only core reads and otherwise writes main memory alone, a machine stays as simple as
its core needs it: main memory serves requests in order, the vector table holds nothing but zeros
and the disk's interrupt, and whatever answers under an address behind main memory is the disk.

* `Message.Harmless` — what such a core sends;
* `Machine.InOrder.requests_deals` and others — what its turn does to the lanes;
* `Machine.Confined` — the machine is so, which **the core's turn** (`Machine.Confined.cored`) and
  **the turns behind it** (`Machine.Confined.relay`) keep, and a new machine is
  (`Machine.confined_wire`).
-/

namespace PipelinedMachine

open Interconnect

/-! ## What the core's turn does -/

section Deals

variable {near : Terminal} {fine P : Message → Prop} {bus after : Interconnect}

lemma Interconnect.All.deals (all : bus.All P) (deals : Deals near fine bus after)
    (allowed : ∀ message, fine message → P message) : after.All P := by
  induction deals with
  | refl => exact all
  | tail _ deal before =>
    cases deal with
    | sends sound sent => exact before.send? sent (allowed _ sound)
    | takes waiting => exact before.clear near

namespace Machine.InOrder

variable {machine : Machine} {component : Component}

/-- Only what the core sends is new among the requests. -/
lemma requests_deals (inOrder : machine.InOrder)
    (deals : Deals machine.processor.boot.terminal fine bus after) :
    ∀ message ∈ after.along (Message.asks component) (machine.outward component),
      message ∈ bus.along (Message.asks component) (machine.outward component)
        ∨ fine message ∧ message.asks component = true := by
  induction deals with
  | refl => exact fun message => Or.inl
  | tail _ deal before =>
    intro message member
    cases deal with
    | takes waiting =>
      rw [inOrder.requests_clear component] at member
      exact before message member
    | sends sound sent =>
      rw [inOrder.requests_send component sent, List.mem_append] at member
      rcases member with old | new
      · exact before message old
      · split_ifs at new with asks
        · obtain rfl := List.mem_singleton.mp new
          exact Or.inr ⟨sound, asks⟩
        · contradiction

/-- Nothing is new among the answers. -/
lemma answers_deals (inOrder : machine.InOrder)
    (deals : Deals machine.processor.boot.terminal fine bus after) :
    ∀ message ∈ after.along (Message.tells component) (machine.homeward component),
      message ∈ bus.along (Message.tells component) (machine.homeward component) := by
  induction deals with
  | refl => exact fun _ => id
  | tail _ deal before =>
    intro message member
    cases deal with
    | takes waiting =>
      refine before message ?_
      rw [inOrder.answers_message? _ waiting]
      exact List.mem_append_right _ member
    | sends sound sent =>
      rw [inOrder.answers_send component sent] at member
      exact before message member

end Machine.InOrder

end Deals

/-! ## What comes to the core -/

namespace Machine

variable {machine later : Machine} {actor : Option Component} {address : Word} {message : Message}

/-- What comes to the core under an address behind the hub is an answer that the component gives
there. -/
lemma InOrder.due (inOrder : machine.InOrder)
    (waiting : machine.bus.message? machine.processor.boot.terminal = some message)
    (answered : message.answered? = some address)
    (goes : Router.targetOf address = .devices) :
    (machine.part (Component.ofAddress address)).dueFor? address = some address := by
  have carried := carried?_of_message? waiting
  obtain ⟨seat, member, owns⟩ := inOrder.homeward.cores _ (InOrder.boot_mem machine) message carried
    address answered goes
  have here := inOrder.seated.deviceFor?_eq goes
  rw [owns.here, Option.some.injEq, Terminal.peer_inj] at here
  obtain ⟨device, inside, rfl⟩ := List.mem_map.mp member
  obtain ⟨component, rfl⟩ : ∃ component, device = machine.part component := by
    simp only [traffic, List.mem_cons, List.not_mem_nil, or_false] at inside
    rcases inside with rfl | rfl | rfl | rfl
    exacts [⟨.rom, rfl⟩, ⟨.display, rfl⟩, ⟨.keyboard, rfl⟩, ⟨.disk, rfl⟩]
  change (machine.part component).terminal = _ at here
  rw [part_terminal] at here
  obtain rfl := inOrder.seated.seat_inj inOrder.sound.wired here
  exact owns.due

/-- Behind main memory, only the disk's registers are answered. -/
lemma InOrder.answered (inOrder : machine.InOrder) :
    Fetch.Answered machine.processor.boot.terminal machine.bus := by
  intro address near outside came
  obtain ⟨answer, came⟩ := Option.ne_none_iff_exists'.mp came
  obtain ⟨waiting, answers⟩ := answer?_eq_some_iff.mp came
  obtain ⟨distance, limit, rfl⟩ := near
  have place := toInt_ramStart_add (show distance ≤ AddressMap.ramWords + 100 by omega)
  rw [Bool.eq_false_iff, ne_eq, isRam_ramStart_add (by omega), AddressMap.ramWords] at outside
  have disk : Component.ofAddress (AddressMap.ramStart + Int32.ofNat distance) = .disk := by
    rw [Component.ofAddress_eq, place]
    split_ifs <;> first | rfl | omega
  have due := inOrder.due waiting answers (by rw [Component.targetOf_eq, disk]; rfl)
  rw [disk, part, Peripheral.dueFor?] at due
  split_ifs at due with register
  have registers : AddressMap.diskData.toInt = 134221318 ∧ AddressMap.diskSeek.toInt = 134221317 := by
    decide
  refine ⟨distance, ?_, rfl⟩
  rw [AddressMap.ramWords]
  rcases register with same | same <;> rw [same] at place <;> omega

/-- What the interrupt controller answers is what it has in its table. -/
lemma Tabled.told (tabled : machine.Tabled fun _ value => Mild value) (inOrder : machine.InOrder) :
    Told machine.processor.boot.terminal machine.bus := by
  intro address answer came here
  obtain ⟨waiting, answers⟩ := answer?_eq_some_iff.mp came
  have tells : answer.tells .controller = true := Message.tells_eq_true.mpr ⟨address, answers, here⟩
  have first := inOrder.answers_message? .controller waiting
  rw [if_pos tells] at first
  obtain ⟨slot, value, rfl, mild⟩ := tabled.answers answer (by
    rw [Machine.answers, first]
    simp)
  exact mild

/-- With one core, a core's turn without a fault leaves the machine in order. -/
lemma InOrder.cored (inOrder : machine.InOrder) {core : Core} {rest : Environment}
    {breakpoint : Option Word}
    (ticked : machine.processor.boot.tick machine.environment = (core, rest, .ok breakpoint)) :
    machine.cored.InOrder := by
  have same := machine.cored_of_alone inOrder.alone
  rw [ticked] at same
  have move : Traffic.Move machine.traffic machine.cored.traffic := by
    have turn : Traffic.Move machine.traffic _ := .core [] machine.processor.others
      machine.processor.boot core machine.counters rest breakpoint rfl ticked
    rw [same]
    exact turn
  exact inOrder.of_move move (by rw [same]; exact inOrder.alone)

end Machine

/-! ## Confined machines -/

/-- A read of no more than a block, or a write of main memory. -/
def Message.Harmless (message : Message) : Prop :=
  message.Inquiry ∨ ∃ address value, message = Message.write address value ∧ isRam address = true

lemma Message.kind?_read (address count : Word) : (read address count).kind? = some .read := rfl

lemma Message.kind?_write (address value : Word) : (write address value).kind? = some .write := rfl

lemma Message.Harmless.proper {message : Message} (harmless : message.Harmless) :
    message.Proper := by
  rcases harmless with ⟨address, count, rfl, -⟩ | ⟨address, value, rfl, -⟩
  · exact ⟨by simp [kind?_read], by simp [kind?_read]⟩
  · exact ⟨by simp [kind?_write], by simp [write, address?]⟩

/-- The address and the value that a message writes. -/
def Message.stored? (message : Message) : Option (Word × Word) :=
  if message.kind? = some .write then message.address?.map fun address => (address, message.value)
  else none

lemma Message.stored?_of_plain {message : Message} (plain : message.access? = none) :
    message.stored? = none := by
  rw [stored?]
  split_ifs with writes
  · rw [access?, if_pos (Or.inr writes)] at plain
    rw [plain]
    rfl
  · rfl

namespace Machine

/-- What main memory takes asks for it, or stores nothing anywhere. -/
lemma InOrder.stored?_taken {machine : Machine} (inOrder : machine.InOrder) :
    ((machine.ram.taken? machine.bus).filter (Message.asks .ram)).bind Message.stored?
      = (machine.ram.taken? machine.bus).bind Message.stored? := by
  cases taken : machine.ram.taken? machine.bus with
  | none => rfl
  | some message =>
    obtain ⟨answered, visit⟩ := machine.ram.visit_taken? machine.bus
    have waiting := visit.handled.waiting message taken
    cases access : message.access? with
    | none => simp [Option.filter, Message.asks_of_plain access, Message.stored?_of_plain access]
    | some address =>
      have asks := Message.asks_eq_true.mpr ⟨address, access, inOrder.arrives .ram waiting access⟩
      rw [Option.filter_some, if_pos asks]

/-- Main memory can be relied on, and nothing but the disk drive interrupts. -/
structure Confined (machine : Machine) : Prop where
  inOrder : machine.InOrder
  remembers : machine.Remembers
  tabled : machine.Tabled fun _ value => Mild value

namespace Confined

variable {machine later : Machine} {actor : Option Component}

/-- The turns behind the core keep it so. -/
theorem relay (confined : machine.Confined) (relay : Relay machine actor later) :
    later.Confined where
  inOrder := confined.inOrder.relay relay
  remembers := by
    by_cases own : actor = some .ram
    · subst own
      exact confined.inOrder.remembers_own confined.remembers relay
    · exact confined.inOrder.remembers_around relay own confined.remembers
  tabled := confined.tabled.relay confined.inOrder (Or.inr rfl) relay

/-- So does the turn of a core that sends nothing but harmless messages. -/
theorem cored (confined : machine.Confined) {later : Core} {rest : Environment}
    {breakpoint : Option Word}
    (ticked : machine.processor.boot.tick machine.environment = (later, rest, .ok breakpoint))
    (deals : Deals machine.processor.boot.terminal Message.Harmless machine.bus rest.bus) :
    machine.cored.Confined ∧ machine.cored.processor.boot = later
      ∧ ∀ log, machine.cored.memoryView log machine.cored.bus
        = machine.memoryView log rest.bus := by
  have inOrder := confined.inOrder
  have same := machine.cored_of_alone inOrder.alone
  rw [ticked] at same
  have terminal : later.terminal = machine.processor.boot.terminal := by
    have := machine.processor.boot.terminal_tick machine.environment
    rwa [ticked] at this
  have outward (component : Component) :
      machine.cored.outward component = machine.outward component := by
    rw [same]
    simp only [Machine.outward, terminal]
    cases component <;> rfl
  have homeward (component : Component) :
      machine.cored.homeward component = machine.homeward component := by
    rw [Machine.homeward, outward, ← Machine.homeward]
  have ways : machine.cored.bus = rest.bus := by rw [same]
  have memory : machine.cored.ram = machine.ram := by rw [same]
  refine ⟨⟨?_, ?_, ?_⟩, by rw [same], fun log => ?_⟩
  · exact inOrder.cored ticked
  · have remembers := confined.remembers
    refine ⟨by rw [memory]; exact remembers.whole, ?_, fun message member reads => ?_⟩
    · rw [ways, memory, capacity_deals deals]
      exact remembers.wide
    · rw [Machine.requests, outward, ways] at member
      rcases inOrder.requests_deals deals message member with old | ⟨harmless, -⟩
      · exact remembers.brief message old reads
      · rcases harmless with ⟨address, count, rfl, few⟩ | ⟨address, value, rfl, -⟩
        · exact few
        · simp [Message.kind?_write] at reads
  · have tabled := confined.tabled
    refine ⟨by rw [same]; exact tabled.silent, ?_, by rw [same]; exact tabled.slots, ?_, ?_⟩
    · rw [ways]
      exact tabled.proper.deals deals fun _ harmless => harmless.proper
    · intro message member writes
      rw [Machine.requests, outward, ways] at member
      rcases inOrder.requests_deals deals message member with old | ⟨harmless, asks⟩
      · exact tabled.stores message old writes
      · rcases harmless with ⟨address, count, rfl, -⟩ | ⟨address, value, rfl, inside⟩
        · simp [Message.kind?_read] at writes
        · rw [Message.asks_write, decide_eq_true_eq] at asks
          rw [← Component.ofAddress_eq_ram_iff, asks] at inside
          contradiction
    · intro message member
      rw [Machine.answers, homeward, ways, List.mem_append] at member
      refine tabled.answers message (List.mem_append.mpr (member.imp ?_ ?_))
      · exact inOrder.answers_deals deals message
      · rw [same]
        exact id
  · rw [memoryView, memoryView, ways, memory, outward, homeward]

lemma around (confined : machine.Confined) (log : List Access)
    (around : Relation.ReflTransGen (Around .ram) machine later) :
    later.Confined ∧ later.memoryView log later.bus = machine.memoryView log machine.bus
      ∧ later.processor.boot = machine.processor.boot := by
  induction around with
  | refl => exact ⟨confined, rfl, rfl⟩
  | tail _ step before =>
    obtain ⟨actor, away, turn⟩ := step
    obtain ⟨before, view, boot⟩ := before
    exact ⟨before.relay turn, (before.inOrder.memoryView_around turn away log).trans view,
      turn.cores.1.trans boot⟩

/-- What main memory notes in its turn are the writes among what it takes. -/
lemma writes_noted (confined : machine.Confined) (log : List Access) :
    (machine.noted log).filterMap Access.stored?
      = log.filterMap Access.stored?
        ++ ((machine.ram.taken? machine.bus).bind Message.stored?).toList := by
  rw [noted, ← confined.inOrder.stored?_taken]
  cases taken : (machine.ram.taken? machine.bus).filter (Message.asks .ram) with
  | none => simp
  | some message =>
    have asks := (Option.filter_eq_some_iff.mp taken).2
    obtain ⟨address, access, -⟩ := Message.asks_eq_true.mp asks
    obtain rfl := Message.address_of_access access
    have named := message.address?_of_access access
    simp only [Option.bind_some, Message.stored?]
    rcases Message.kind_of_access access with reads | writes
    · simp only [Memory.serve, reads]
      split <;> simp [Ram.memory, Memory.load, Access.stored?]
    · simp [Memory.serve, writes, named, Ram.memory, Memory.store, Access.stored?]

/-- The rest of a tick keeps the core's view of main memory. -/
theorem tick (confined : machine.cored.Confined) {outcome : TickOutcome}
    (live : machine.tick.2 = .ok outcome) (log : List Access) :
    machine.tick.1.Confined ∧ machine.tick.1.processor.boot = machine.cored.processor.boot
      ∧ ∃ later, machine.tick.1.memoryView later machine.tick.1.bus
          = machine.cored.memoryView log machine.cored.bus
        ∧ later.filterMap Access.stored? = log.filterMap Access.stored?
          ++ ((machine.ram.taken? machine.beforeRam).bind Message.stored?).toList := by
  obtain ⟨before, first, bus, ram, rest⟩ := exists_relays_tick live
  obtain ⟨confined, view, boot⟩ := confined.around log first
  have own : Relay before (some .ram) _ := .ram
  have served := confined.inOrder.memoryView_own confined.remembers own log
  obtain ⟨later, kept, boot'⟩ := (confined.relay own).around (before.noted log) rest
  refine ⟨later, boot'.trans boot, before.noted log, kept.trans (served.trans view), ?_⟩
  rw [confined.writes_noted, ram, bus]

end Confined

end Machine

end PipelinedMachine
