import PipelinedMachine.Proofs.Machine.Lanes
import PipelinedMachine.Proofs.Machine.Signals

/-!
# What is in the vector table

As long as no key is pressed and no program raises an interrupt, the disk drive is the only one to
interrupt.  Then the vector table changes only by the disk's interrupts and by the stores of the
program, and the core learns nothing else from it.

* `Interconnect.All` — every message on the links has a property, which the turns keep if what is
  new has it (`Machine.InOrder.all_relay`);
* `Message.Proper` — interrupts are the disk's, and a write says where;
* `Machine.Tabled` — **slots, stores and answers satisfy what the program promises of its stores**;
* `Machine.Tabled.relay` — every turn keeps it so.
-/

namespace PipelinedMachine

open Interconnect

/-! ## Every message -/

namespace Interconnect

variable {P : Message → Prop} {bus after : Interconnect} {near source target : Terminal}
  {message : Message}

/-- Every message on the links has a property. -/
def All (P : Message → Prop) (bus : Interconnect) : Prop :=
  ∀ way message, bus.carried? way = some message → P message

lemma All.send? (all : bus.All P) (sent : bus.send? near message = some after) (fine : P message) :
    after.All P := by
  intro way other carried
  by_cases here : way = near
  · rw [here, carried?_of_send? sent] at carried
    exact Option.some.inj carried ▸ fine
  · exact all way other (carried?_of_send?_of_ne sent here ▸ carried)

lemma All.clear (all : bus.All P) (near : Terminal) : (bus.clear near).All P := by
  intro way other carried
  refine all way other ?_
  by_cases here : way = near.peer
  · rw [carried?, outgoing?_clear, if_pos here] at carried
    rw [carried?]
    cases found : bus.outgoing? way with
    | none => simp [found] at carried
    | some channel =>
      rw [found, Option.map_some, Option.bind_some, Channel.carried?_clear] at carried
      exact Channel.carried?_of_inTransit? carried
  · rwa [carried?_clear_of_ne here] at carried

lemma All.tick (all : bus.All P) : bus.tick.All P := by
  intro way other carried
  rw [carried?_tick] at carried
  exact all way other carried

lemma All.of_message? (all : bus.All P) (waiting : bus.message? near = some message) : P message :=
  all _ message (carried?_of_message? waiting)

lemma All.forward? (all : bus.All P) (forwarded : bus.forward? source target = some after) :
    after.All P := by
  rw [Interconnect.forward?] at forwarded
  split at forwarded
  · next message waiting =>
    obtain ⟨between, sent, rfl⟩ := Option.map_eq_some_iff.mp forwarded
    exact (all.send? sent (all.of_message? waiting)).clear source
  · contradiction

lemma All.getD_forward? (all : bus.All P) (source target : Terminal) :
    ((bus.forward? source target).getD bus).All P := by
  cases forwarded : bus.forward? source target with
  | none => exact all
  | some after => exact all.forward? forwarded

lemma All.of_handled {taken sent : Option Message} (all : bus.All P)
    (handled : Handled near bus after taken sent) (fine : ∀ message, sent = some message → P message) :
    after.All P := by
  intro way other carried
  by_cases here : way = near
  · rw [here, handled.carried?_near, Option.or_eq_some_iff] at carried
    rcases carried with new | ⟨-, before⟩
    · exact fine other new
    · exact all near other before
  · by_cases there : way = near.peer
    · rw [there, handled.carried?_peer] at carried
      split_ifs at carried
      exact all near.peer other carried
    · exact all way other (handled.carried?_apart here there ▸ carried)

end Interconnect

variable {P : Message → Prop} {bus after : Interconnect} {near : Terminal} {message : Message}

lemma Router.all_request (router : Router) (all : bus.All P) (core : Terminal) :
    (router.request bus core).2.All P := by
  rw [request]
  split
  · exact all
  · split
    · exact all.clear core
    · split
      · next forwarded => exact all.forward? forwarded
      · exact all

lemma Router.all_replyFrom (router : Router) (all : bus.All P) (target : Target) :
    (router.replyFrom bus target).2.All P := by
  have reply (source : Terminal) : (router.reply bus source).2.All P := by
    rw [Router.reply]
    split
    · exact all
    · split
      · exact all
      · split
        · next forwarded => exact all.forward? forwarded
        · exact all
  cases target with
  | memory | controller => exact reply _
  | devices =>
    rw [replyFrom, replyDevices]
    split
    · split
      · next forwarded => exact all.forward? forwarded
      · exact all
    · exact reply _

lemma DeviceHub.all_request (hub : DeviceHub) (all : bus.All P) : (hub.request bus).All P := by
  rw [request]
  split
  · exact all
  · split
    · exact all.getD_forward? _ _
    · exact all.clear _

lemma DeviceHub.all_reply (hub : DeviceHub) (all : bus.All P) : (hub.reply bus).All P := by
  rw [reply]
  split
  · exact all.getD_forward? _ _
  · exact all

/-! ## Who interrupts -/

namespace Message

/-- An interrupt is the disk's, and a write says where. -/
structure Proper (message : Message) : Prop where
  interrupt : message.kind? = some .interrupt →
    message = Message.interrupt AddressMap.diskInterrupt
  write : message.kind? = some .write → message.address? ≠ none

lemma proper_of_answered (answers : message.answered? ≠ none) : message.Proper := by
  have response : message.kind? = some .response := by
    by_contra other
    simp [answered?, isResponse, other] at answers
  exact ⟨by simp [response], by simp [response]⟩

end Message

/-- No key has been pressed. -/
structure Keyboard.Silent (keyboard : Keyboard) : Prop where
  queue : keyboard.queue = []
  announcing : keyboard.announcing = none

/-- A keyboard without keys sends nothing but answers. -/
lemma Keyboard.Silent.tick {keyboard : Keyboard} (silent : keyboard.Silent)
    (answers : ∀ message : Message, message.answered? ≠ none → P message) (all : bus.All P) :
    (keyboard.tick bus).1 = keyboard ∧ (keyboard.tick bus).2.All P := by
  have up : keyboard.takeUp = keyboard := by
    simp [takeUp, silent.announcing, silent.queue]
  have quiet (bus : Interconnect) : keyboard.announce bus = (keyboard, bus) := by
    simp [announce, silent.announcing]
  rw [Keyboard.tick]
  simp only [up]
  split
  · rw [quiet]
    exact ⟨rfl, all⟩
  · split_ifs
    · refine ⟨rfl, ?_⟩
      simp only [answer]
      split
      · next sent => exact (all.send? sent (answers _ (by simp))).clear _
      · exact all
    · rw [quiet]
      exact ⟨rfl, all.clear _⟩

namespace DiskDrive

/-- The drive announces nothing but its own interrupt. -/
lemma all_announce (drive : DiskDrive)
    (interrupts : drive.interrupting ≠ none → P (Message.interrupt AddressMap.diskInterrupt))
    (all : bus.All P) : (drive.announce bus).2.All P := by
  rw [announce]
  split
  · exact all
  · next remaining due =>
    simp only
    split
    · split
      · next sent => exact all.send? sent (interrupts (by simp [due]))
      · exact all
    · exact all

lemma all_sendReply (drive : DiskDrive) (owed : ∀ message ∈ drive.owed, message.answered? ≠ none)
    (answers : ∀ message : Message, message.answered? ≠ none → P message) (all : bus.All P) :
    (drive.sendReply bus).2.All P := by
  obtain ⟨answered, reply, visit, -⟩ := drive.visit_sendReply bus fun _ => none
  refine all.of_handled visit.handled fun message sent => answers message (owed message ?_)
  have settled := visit.settled
  rw [Option.none_or] at sent
  rw [sent] at settled
  simp_all

lemma all_tick (drive : DiskDrive) (owed : ∀ message ∈ drive.owed, message.answered? ≠ none)
    (answers : ∀ message : Message, message.answered? ≠ none → P message)
    (interrupts : drive.countDown.interrupting ≠ none →
      P (Message.interrupt AddressMap.diskInterrupt)) (all : bus.All P) :
    (drive.tick bus).2.All P := by
  rw [tick]
  split
  · exact all
  · obtain ⟨interrupting, -, -, -, same⟩ := drive.countDown.handled_announce bus
    have announced := drive.countDown.all_announce interrupts all
    generalize drive.countDown.announce bus = announcing at same announced
    obtain ⟨announcer, between⟩ := announcing
    obtain rfl : announcer = _ := same
    simp only at announced ⊢
    rcases accept_cases _ between with kept | ⟨message, free, waiting, accepts⟩
    · rw [kept]
      exact all_sendReply _ owed answers announced
    · rw [accepts]
      refine all_sendReply _ (fun answer member => ?_) answers (announced.clear _)
      rw [owed_handle free, Option.mem_toList] at member
      exact Peripheral.answered?_ne_none
        (show (Peripheral.disk _).answer? bus message = some answer from member)

end DiskDrive

/-- A device sends nothing but answers and the disk's interrupt, if it is not a keyboard with keys
to announce. -/
lemma Peripheral.all_tick {device : Peripheral} (orderly : device.Orderly bus)
    (silent : ∀ keyboard, device = .keyboard keyboard → keyboard.Silent)
    (answers : ∀ message : Message, message.answered? ≠ none → P message)
    (interrupts : ∀ drive, device = .disk drive → drive.countDown.interrupting ≠ none →
      P (Message.interrupt AddressMap.diskInterrupt))
    (all : bus.All P) : (device.tick bus).2.All P := by
  by_cases plain : device.Plain
  · obtain ⟨taken, announced, answered, visit, quiet⟩ := device.exists_visit bus
    refine all.of_handled visit.handled fun message sent => ?_
    have carried : (device.tick bus).2.carried? (device.tick bus).1.terminal = some message := by
      rw [terminal_tick, visit.handled.carried?_near, sent, Option.some_or]
    exact answers message ((orderly.tick.sent message carried).resolve_right
      fun both => both.2 (by rw [plain_tick]; exact plain))
  · cases device with
    | ram | rom | display | controller => exact absurd trivial plain
    | keyboard keyboard => exact ((silent keyboard rfl).tick answers all).2
    | disk drive => exact drive.all_tick orderly.owed answers (interrupts drive rfl) all

namespace Machine

variable {machine later : Machine} {actor : Option Component} {T : Word → Word → Prop}
  {P : Message → Prop}

/-- What a component has on its hands is in order. -/
lemma InOrder.orderly (inOrder : machine.InOrder) (component : Component) :
    (machine.part component).Orderly machine.bus := by
  cases component with
  | controller => exact inOrder.sound.controller.orderly
  | ram => exact inOrder.sound.ram.orderly
  | rom | display | keyboard | disk =>
    exact inOrder.sound.hub.orderly _ (by simp [part, traffic])

/-- A turn behind the core sends nothing but answers and the disk's interrupt. -/
lemma InOrder.all_relay (inOrder : machine.InOrder) (relay : Relay machine actor later)
    (silent : machine.keyboard.Silent)
    (answers : ∀ message : Message, message.answered? ≠ none → P message)
    (interrupts : machine.disk.countDown.interrupting ≠ none →
      P (Message.interrupt AddressMap.diskInterrupt))
    (all : machine.bus.All P) : later.bus.All P := by
  have own (component : Component) : ((machine.part component).tick machine.bus).2.All P :=
    Peripheral.all_tick (inOrder.orderly component)
      (fun keyboard same => by
        cases component <;> first | contradiction | exact Peripheral.keyboard.inj same ▸ silent)
      answers
      (fun drive same => by
        cases component <;> first | contradiction | exact Peripheral.disk.inj same ▸ interrupts)
      all
  cases relay with
  | request core attached => exact Router.all_request _ all _
  | reply target => exact Router.all_replyFrom _ all _
  | hubRequest => exact DeviceHub.all_request _ all
  | hubReply => exact DeviceHub.all_reply _ all
  | links => exact all.tick
  | controller => exact own .controller
  | ram => exact own .ram
  | rom => exact own .rom
  | display => exact own .display
  | keyboard => exact own .keyboard
  | disk => exact own .disk

/-- A turn behind the core sends nothing improper. -/
lemma InOrder.all_proper (inOrder : machine.InOrder) (relay : Relay machine actor later)
    (silent : machine.keyboard.Silent) (all : machine.bus.All Message.Proper) :
    later.bus.All Message.Proper :=
  inOrder.all_relay relay silent (fun _ => Message.proper_of_answered)
    (fun _ => ⟨fun _ => rfl, fun _ => by simp [Message.interrupt, Message.address?]⟩) all

lemma Relay.silent (relay : Relay machine actor later) (silent : machine.keyboard.Silent) :
    later.keyboard.Silent := by
  cases relay with
  | keyboard =>
    change (machine.keyboard.tick machine.bus).1.Silent
    rw [(silent.tick (P := fun _ => True) (fun _ _ => trivial) fun _ _ _ => trivial).1]
    exact silent
  | request | reply | hubRequest | hubReply | links | controller | ram | rom | display | disk =>
    exact silent

/-- What the slots hold, what is stored into them and what is read from them. -/
structure Tabled (T : Word → Word → Prop) (machine : Machine) : Prop where
  silent : machine.keyboard.Silent
  proper : machine.bus.All Message.Proper
  slots : ∀ address, T address (machine.processor.controller.vector address)
  stores : ∀ message ∈ machine.requests .controller, message.kind? = some .write →
    T message.address message.value
  answers : ∀ message ∈ machine.answers .controller,
    ∃ address value, message = Message.response address [value] ∧ T address value

/-- In its turn the controller puts into its slots what is stored there, and the interrupt. -/
lemma Tabled.slots_tick (tabled : machine.Tabled T) (inOrder : machine.InOrder)
    (latest : T AddressMap.lastInterrupt AddressMap.diskInterrupt) (address : Word) :
    T address ((machine.processor.controller.tick machine.processor.lines
      machine.bus).1.vector address) := by
  have vectors := machine.processor.controller.vectors_tick machine.processor.lines machine.bus
  have same (first second : InterruptController) (equal : first.vectors = second.vectors) :
      first.vector address = second.vector address := by
    rw [InterruptController.vector, equal]
    rfl
  rw [same _ _ vectors]
  have replaced {slot value : Word} (allowed : T slot value) :
      T address ((machine.processor.controller.setVector slot value).vector address) := by
    rcases machine.processor.controller.vector_setVector slot value address with
      ⟨new, rfl⟩ | old
    · rwa [new]
    · rw [old]
      exact tabled.slots address
  cases waiting : machine.bus.message? machine.processor.controller.terminal with
  | none => exact tabled.slots address
  | some message =>
    have proper := tabled.proper.of_message? waiting
    simp only [InterruptController.heeding]
    split
    · next writes =>
      refine replaced (tabled.stores message ?_ writes)
      obtain ⟨slot, named⟩ := Option.ne_none_iff_exists'.mp (proper.write writes)
      have access : message.access? = some slot := by simp [Message.access?, writes, named]
      have here := inOrder.arrives .controller waiting access
      exact mem_along.mpr ⟨_, List.mem_cons_self, carried?_of_message? waiting,
        Message.asks_eq_true.mpr ⟨slot, access, here⟩⟩
    · next interrupt =>
      rw [proper.interrupt interrupt]
      exact replaced latest
    all_goals exact tabled.slots address

/-- **Every turn behind the core keeps the table.** -/
theorem Tabled.relay (tabled : machine.Tabled T) (inOrder : machine.InOrder)
    (latest : T AddressMap.lastInterrupt AddressMap.diskInterrupt)
    (relay : Relay machine actor later) : later.Tabled T := by
  have proper := inOrder.all_proper relay tabled.silent tabled.proper
  have silent := relay.silent tabled.silent
  by_cases own : actor = some .controller
  · subst own
    have slots := tabled.slots_tick inOrder latest
    obtain ⟨taken, answered, visit⟩ :=
      machine.processor.controller.visit machine.processor.lines machine.bus
    have turn := (Peripheral.controller.inj relay.own.1).1
    rw [← turn] at slots
    rw [← turn, ← show later.bus = (machine.processor.controller.tick machine.processor.lines
      machine.bus).2.2 from relay.own.2] at visit
    refine ⟨silent, proper, slots, fun message member => tabled.stores message ?_, ?_⟩
    · rw [inOrder.requests_own .controller relay visit.handled]
      exact List.mem_append_right _ member
    · intro message member
      rw [inOrder.answers_own .controller relay visit, List.mem_append] at member
      rcases member with before | new
      · exact tabled.answers message before
      · rw [Option.mem_toList, Option.filter_eq_some_iff, Option.bind_eq_some_iff] at new
        obtain ⟨⟨read, -, answers⟩, -⟩ := new
        rw [InterruptController.answer?] at answers
        split_ifs at answers
        exact ⟨_, _, (Option.some.inj answers).symm, tabled.slots _⟩
  · have same := relay.part_eq own
    refine ⟨silent, proper, ?_, ?_, ?_⟩
    · rw [(Peripheral.controller.inj same).1]
      exact tabled.slots
    · rw [inOrder.requests_around relay own]
      exact tabled.stores
    · rw [inOrder.answers_around relay own]
      exact tabled.answers

end Machine

end PipelinedMachine
