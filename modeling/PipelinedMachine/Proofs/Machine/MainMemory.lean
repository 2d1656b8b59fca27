import PipelinedMachine.Proofs.Device.FlatMemory
import PipelinedMachine.Proofs.Machine.Lanes
import PipelinedMachine.Proofs.Served.System

/-!
# Main memory in a machine

With one core, main memory takes the requests for it in the order in which the core has sent them,
and its answers come back in that order, whatever else moves on the links.  So the core has a view
of it, as it has of a memory at the other end of a single link: what the words will be once every
request on its way has been served, and every answer still to come.

* `Ram.Whole` — the memory of a machine: where it begins, and how long it is;
* `Ram.memory` — its words, with a record of the accesses served so far;
* `Machine.memoryView` — **the core's view of main memory**;
* `Machine.memoryView_around`, `Machine.memoryView_own` — no turn changes it, main memory's own
  turn included;
* `Window`, `Machine.InOrder.window` — what the core sends and takes does, as it must.
-/

namespace PipelinedMachine

open Interconnect

namespace Message

variable {message : Message} {address : Word}

lemma kind_of_access (access : message.access? = some address) :
    message.kind? = some .read ∨ message.kind? = some .write := by
  rw [access?] at access
  split_ifs at access with kind
  exact kind

lemma address_of_access (access : message.access? = some address) : message.address = address := by
  rw [Message.address, message.address?_of_access access]
  rfl

end Message

/-! ## Words -/

namespace Ram

/-- Main memory begins where the address map says, and is as long. -/
structure Whole (ram : Ram) : Prop where
  base : ram.base = AddressMap.ramStart
  size : ram.words.size = AddressMap.ramWords

/-- The words, with the accesses served so far. -/
def memory (ram : Ram) (log : List Access) : Memory := ⟨ram.readWord, log⟩

variable {ram : Ram} {address value : Word} {message : Message} {bus : Interconnect}

/-- How far an address of main memory is from its beginning. -/
lemma offset?_of_isRam (inside : isRam address = true) :
    ∃ offset < AddressMap.ramWords, Word.offset? AddressMap.ramStart address = some offset := by
  obtain ⟨low, high⟩ := Component.isRam_iff.mp inside
  have start : AddressMap.ramStart.toInt = 3589 := by decide
  have distance : (address - AddressMap.ramStart).toInt = address.toInt - 3589 := by
    rw [Int32.toInt_sub, start]
    exact Int.bmod_eq_of_le (by omega) (by omega)
  have above : ¬address - AddressMap.ramStart < 0 := by
    rw [Int32.lt_iff_toInt_lt, distance, Int32.toInt_zero]
    omega
  refine ⟨(address - AddressMap.ramStart).toNatClampNeg, ?_, by rw [Word.offset?]; simp [above]⟩
  rw [← Int32.toNat_toInt, distance, AddressMap.ramWords]
  omega

/-- A write changes the word at its address and no other. -/
lemma readWord_writeWord (whole : ram.Whole) (inside : isRam address = true) (value : Word) :
    (ram.writeWord address value).readWord = Function.update ram.readWord address value := by
  obtain ⟨offset, covered, place⟩ := offset?_of_isRam inside
  funext other
  have written : ram.writeWord address value
      = { ram with words := ram.words.write offset value } := by
    simp only [writeWord, whole.base, place]
  rw [written, Function.update_apply]
  simp only [readWord, whole.base]
  cases found : Word.offset? AddressMap.ramStart other with
  | none =>
    have apart : other ≠ address := fun same => by simp [same, place] at found
    simp [apart]
  | some distance =>
    simp only [SparseMemory.read_write, whole.size, covered, and_true]
    refine if_congr ⟨?_, ?_⟩ rfl rfl
    · rintro rfl
      exact Word.eq_of_offset? found place
    · rintro rfl
      exact Option.some.inj (place.symm.trans found)

lemma Whole.writeWord (whole : ram.Whole) (address value : Word) :
    (ram.writeWord address value).Whole := by
  rw [Ram.writeWord]
  split
  · exact ⟨whole.base, (SparseMemory.size_write _ _ _).trans whole.size⟩
  · exact whole

lemma Whole.take (whole : ram.Whole) (message : Message) (bus : Interconnect) :
    (ram.take message bus).Whole := by
  rw [Ram.take]
  split
  · exact ⟨whole.base, whole.size⟩
  · have written := whole.writeWord message.address message.value
    exact ⟨written.base, written.size⟩
  all_goals exact whole

lemma Whole.tick (whole : ram.Whole) (bus : Interconnect) : (ram.tick bus).1.Whole := by
  obtain ⟨base, words⟩ := ram.tick_words bus
  have kept : ((ram.taken? bus).elim ram (ram.take · bus)).Whole := by
    cases ram.taken? bus with
    | none => exact whole
    | some message => exact whole.take message bus
  exact ⟨base.trans kept.base, by rw [words]; exact kept.size⟩

lemma readWord_tick (ram : Ram) (bus : Interconnect) :
    (ram.tick bus).1.readWord = ((ram.taken? bus).elim ram (ram.take · bus)).readWord := by
  obtain ⟨base, words⟩ := ram.tick_words bus
  funext address
  rw [readWord, readWord, base, words]

/-! ## Requests -/

/-- A message that is no access leaves the words alone, because address zero is not in main
memory. -/
lemma readWord_take_of_plain (whole : ram.Whole) (plain : message.access? = none) :
    (ram.take message bus).readWord = ram.readWord := by
  rw [take]
  split
  · rfl
  · next writes =>
    have nowhere : message.address? = none := by simpa [Message.access?, writes] using plain
    have below : Word.offset? AddressMap.ramStart 0 = none := by decide
    have same : ram.writeWord message.address message.value = ram := by
      simp [writeWord, Message.address, nowhere, whole.base, below]
    simp only [same]
    rfl
  all_goals rfl

/-- Nor is it answered under an address of main memory. -/
lemma tells_of_plain (ram : Ram) (bus : Interconnect) (plain : message.access? = none) :
    ((ram.answer? bus message).filter (Message.tells .ram)).toList = [] := by
  rw [answer?]
  split_ifs with reads
  · have nowhere : message.address? = none := by simpa [Message.access?, reads] using plain
    have outside : Message.tells .ram (replyFrom ram.readWord message.address
        (replyCount bus ram.terminal message.count)) = false := by
      rw [Message.address, nowhere]
      rfl
    simp [Option.filter, outside]
  · rfl

/-- What is asked of main memory is answered under the address that is asked. -/
lemma tells_of_asks (asks : message.asks .ram = true) :
    (ram.answer? bus message).filter (Message.tells .ram) = ram.answer? bus message := by
  obtain ⟨address, access, inside⟩ := Message.asks_eq_true.mp asks
  rw [answer?]
  split_ifs
  · have told : Message.tells .ram (replyFrom ram.readWord message.address
        (replyCount bus ram.terminal message.count)) = true :=
      Message.tells_eq_true.mpr ⟨address, by rw [Message.address_of_access access]; rfl, inside⟩
    simp [Option.filter, told]
  · rfl

/-- A request that main memory takes is served as a memory serves it, if it is for main memory and
reads no more words than fit into an answer. -/
lemma take_eq_serve (bus : Interconnect) (whole : ram.Whole) (log : List Access)
    (wide : bus.capacity ram.terminal = messageCapacity)
    (asks : message.asks .ram = true)
    (brief : message.kind? = some .read → message.count.toNatClampNeg ≤ 8) :
    (ram.take message bus).memory ((ram.memory log).serve message).1.accesses
        = ((ram.memory log).serve message).1
      ∧ (ram.answer? bus message).toList = ((ram.memory log).serve message).2 := by
  obtain ⟨address, access, inside⟩ := Message.asks_eq_true.mp asks
  rw [Component.ofAddress_eq_ram_iff] at inside
  obtain rfl := Message.address_of_access access
  rcases Message.kind_of_access access with reads | writes
  · have count : replyCount bus ram.terminal message.count = message.count.toNatClampNeg := by
      rw [replyCount, wide, messageCapacity]
      exact Nat.min_eq_left (brief reads)
    have answer : ram.answer? bus message
        = some (Message.response message.address
          ((ram.memory log).wordsFrom message.address message.count.toNatClampNeg)) := by
      rw [answer?, if_pos reads, count]
      rfl
    have kept : (ram.take message bus).readWord = ram.readWord := by
      simp only [take, reads]
      rfl
    rw [answer, memory, kept]
    simp only [Memory.serve, reads]
    refine ⟨?_, rfl⟩
    split <;> rfl
  · have written : (ram.take message bus).readWord
        = Function.update ram.readWord message.address message.value := by
      rw [← readWord_writeWord whole inside]
      simp only [take, writes]
      rfl
    rw [memory, written, answer?, if_neg (by simp [writes])]
    simp only [Memory.serve, writes]
    exact ⟨rfl, rfl⟩

end Ram

/-! ## What a core sees through its link -/

/-- What a core does at its end of its link, as it shows in its view of main memory. -/
structure Window (near : Terminal) (see : Interconnect → View) : Prop where
  sends : ∀ {bus after : Interconnect} {message : Message},
    bus.send? near message = some after →
      see after = if message.asks .ram then (see bus).send message else see bus
  takes : ∀ {bus : Interconnect} {message : Message}, bus.message? near = some message →
    message.tells .ram = true → ∃ rest, (see bus).incoming = message :: rest
      ∧ see (bus.clear near) = ⟨(see bus).memory, rest⟩
  skips : ∀ {bus : Interconnect} {message : Message}, bus.message? near = some message →
    message.tells .ram = false → see (bus.clear near) = see bus

namespace Machine

variable {machine later : Machine} {actor : Option Component} {log : List Access}

lemma Relay.capacity_eq (relay : Relay machine actor later) (a : Terminal) :
    later.bus.capacity a = machine.bus.capacity a := by
  have kept := kept_capacity a (machine.bus.capacity a)
  cases relay with
  | request core attached => exact Router.kept_request kept _ core rfl
  | reply target =>
    cases target with
    | memory | controller => exact Router.kept_reply kept _ _ rfl
    | devices => exact Router.kept_replyDevices kept _ rfl
  | hubRequest => exact DeviceHub.kept_request kept _ rfl
  | hubReply => exact DeviceHub.kept_reply kept _ rfl
  | links => exact capacity_of_tick _ a
  | controller => exact Peripheral.kept_tick kept (machine.part .controller) rfl
  | ram => exact Peripheral.kept_tick kept (machine.part .ram) rfl
  | rom => exact Peripheral.kept_tick kept (machine.part .rom) rfl
  | display => exact Peripheral.kept_tick kept (machine.part .display) rfl
  | keyboard => exact Peripheral.kept_tick kept (machine.part .keyboard) rfl
  | disk => exact Peripheral.kept_tick kept (machine.part .disk) rfl

/-! ## The view -/

/-- The core's view of main memory, with other links in place of the machine's. -/
def memoryView (machine : Machine) (log : List Access) (bus : Interconnect) : View where
  memory := ((machine.ram.memory log).serveAll
    (bus.along (Message.asks .ram) (machine.outward .ram))).1
  incoming := bus.along (Message.tells .ram) (machine.homeward .ram)
    ++ machine.ram.owed.filter (Message.tells .ram)
    ++ ((machine.ram.memory log).serveAll
      (bus.along (Message.asks .ram) (machine.outward .ram))).2

/-- Main memory serves what is on its way as a memory serves it. -/
structure Remembers (machine : Machine) : Prop where
  whole : machine.ram.Whole
  wide : machine.bus.capacity machine.ram.terminal = messageCapacity
  brief : ∀ message ∈ machine.requests .ram, message.kind? = some .read →
    message.count.toNatClampNeg ≤ 8

/-- The accesses served once main memory has had its turn. -/
def noted (machine : Machine) (log : List Access) : List Access :=
  match (machine.ram.taken? machine.bus).filter (Message.asks .ram) with
  | some message => ((machine.ram.memory log).serve message).1.accesses
  | none => log

namespace InOrder

/-- No other turn changes the view. -/
theorem memoryView_around (inOrder : machine.InOrder) (relay : Relay machine actor later)
    (away : actor ≠ some .ram) (log : List Access) :
    later.memoryView log later.bus = machine.memoryView log machine.bus := by
  have requests := inOrder.requests_around relay away
  have answers := inOrder.answers_around relay away
  have same : later.ram = machine.ram := Peripheral.ram.inj (relay.part_eq away)
  change later.bus.along _ _ = machine.bus.along _ _ at requests
  change later.bus.along _ _ ++ later.ram.owed.filter _
    = machine.bus.along _ _ ++ machine.ram.owed.filter _ at answers
  rw [memoryView, memoryView, requests, answers, same]

lemma remembers_around (inOrder : machine.InOrder) (relay : Relay machine actor later)
    (away : actor ≠ some .ram) (remembers : machine.Remembers) : later.Remembers := by
  have same : later.ram = machine.ram := Peripheral.ram.inj (relay.part_eq away)
  exact ⟨by rw [same]; exact remembers.whole,
    by rw [same, relay.capacity_eq]; exact remembers.wide,
    by rw [inOrder.requests_around relay away]; exact remembers.brief⟩

/-- What main memory does in its turn, as a memory that serves the request taken. -/
lemma ram_turn (inOrder : machine.InOrder) (remembers : machine.Remembers)
    (relay : Relay machine (some .ram) later) (log : List Access) :
    ∃ answered,
      Visit machine.ram.terminal machine.bus later.bus (machine.ram.answer? machine.bus)
          machine.ram.owed later.ram.owed (machine.ram.taken? machine.bus) none answered
        ∧ (later.ram.memory (machine.noted log),
            (((machine.ram.taken? machine.bus).bind (machine.ram.answer? machine.bus)).filter
              (Message.tells .ram)).toList)
          = (machine.ram.memory log).serveAll
            ((machine.ram.taken? machine.bus).filter (Message.asks .ram)).toList := by
  obtain ⟨answered, visit⟩ := machine.ram.visit_taken? machine.bus
  have own : later.ram = (machine.ram.tick machine.bus).1 := Peripheral.ram.inj relay.own.1
  have bus : later.bus = (machine.ram.tick machine.bus).2 := relay.own.2
  rw [← bus, ← own] at visit
  refine ⟨answered, visit, ?_⟩
  have words : later.ram.readWord = _ := own ▸ machine.ram.readWord_tick machine.bus
  have waits := visit.handled.waiting
  rw [noted]
  cases taken : machine.ram.taken? machine.bus with
  | none =>
    rw [taken] at words
    simp [Ram.memory, words, Memory.serveAll]
  | some message =>
    rw [taken] at words waits
    change later.ram.readWord = (machine.ram.take message machine.bus).readWord at words
    cases kept : message.asks .ram with
    | true =>
      have first : message ∈ machine.requests .ram := by
        rw [inOrder.requests_own .ram relay visit.handled, taken]
        simp [Option.filter, kept]
      obtain ⟨serves, answers⟩ := Ram.take_eq_serve machine.bus remembers.whole log
        remembers.wide kept (remembers.brief message first)
      rw [Ram.memory, ← words] at serves
      rw [Option.filter_some, if_pos kept, Option.bind_some, Ram.tells_of_asks kept, answers]
      simp only [Option.toList_some, Memory.serveAll, List.append_nil]
      exact Prod.ext serves rfl
    | false =>
      have plain : message.access? = none := by
        by_contra access
        obtain ⟨address, access⟩ := Option.ne_none_iff_exists'.mp access
        have here := inOrder.arrives .ram (waits message rfl) access
        rw [Message.asks_eq_true.mpr ⟨address, access, here⟩] at kept
        contradiction
      rw [Ram.readWord_take_of_plain remembers.whole plain] at words
      have silent := machine.ram.tells_of_plain machine.bus plain
      simp [Ram.memory, words, Memory.serveAll, Option.filter, kept] at silent ⊢
      exact silent

/-- **Nor does main memory's own turn**: what it serves is noted. -/
theorem memoryView_own (inOrder : machine.InOrder) (remembers : machine.Remembers)
    (relay : Relay machine (some .ram) later) (log : List Access) :
    later.memoryView (machine.noted log) later.bus = machine.memoryView log machine.bus := by
  obtain ⟨answered, visit, serves⟩ := inOrder.ram_turn remembers relay log
  have requests := inOrder.requests_own .ram relay visit.handled
  have answers := inOrder.answers_own .ram relay visit
  rw [Machine.requests, Machine.requests] at requests
  change later.bus.along _ _ ++ later.ram.owed.filter _
    = machine.bus.along _ _ ++ machine.ram.owed.filter _ ++ _ at answers
  rw [memoryView, memoryView, requests, Memory.serveAll_append, ← serves, answers,
    List.append_assoc]

lemma remembers_own (inOrder : machine.InOrder) (remembers : machine.Remembers)
    (relay : Relay machine (some .ram) later) : later.Remembers := by
  obtain ⟨answered, visit, -⟩ := inOrder.ram_turn remembers relay []
  have own : later.ram = (machine.ram.tick machine.bus).1 := Peripheral.ram.inj relay.own.1
  refine ⟨?_, ?_, fun message member => remembers.brief message ?_⟩
  · rw [own]
    exact remembers.whole.tick machine.bus
  · rw [relay.capacity_eq, own, Ram.terminal_tick]
    exact remembers.wide
  · rw [inOrder.requests_own .ram relay visit.handled]
    exact List.mem_append_right _ member

/-- What the core sends is served in the view, if it is for main memory, and what it takes is the
next answer, if it is one of main memory's. -/
theorem window (inOrder : machine.InOrder) (log : List Access) :
    Window machine.processor.boot.terminal (machine.memoryView log) where
  sends {bus after message} sent := by
    have requests := inOrder.requests_send .ram sent
    have answers := inOrder.answers_send .ram sent
    rw [memoryView, requests, answers]
    split_ifs with kept
    · simp [memoryView, View.send, Memory.serveAll_append, Memory.serveAll]
    · rw [List.append_nil, memoryView]
  takes {bus message} waiting kept := by
    have answers := inOrder.answers_message? .ram waiting
    rw [if_pos kept] at answers
    refine ⟨_, by rw [memoryView, answers, List.singleton_append, List.cons_append,
      List.cons_append], ?_⟩
    rw [memoryView, inOrder.requests_clear .ram]
    rfl
  skips {bus message} waiting kept := by
    have answers := inOrder.answers_message? .ram waiting
    rw [kept] at answers
    rw [memoryView, memoryView, answers, inOrder.requests_clear .ram]
    rfl

end InOrder

end Machine

end PipelinedMachine
