import PipelinedMachine.Proofs.Device.Visits

/-!
# Answers of a device

Any of the six devices on its link, with all that its host can do to it.  Each read that a device
takes and heeds is answered by one response, responses leave in the order of the reads, and the
device sends nothing else but interrupts.  Which reads it heeds, and under which address it answers
them, depends on the device alone: the drive heeds reads of two registers, and the keyboard answers
every read as one of its register.

* `Peripheral` — a device of any kind; `HostAction` — what its host can do;
* `Peripheral.due?` — the address under which a message is to be answered, if it is;
* `Peripheral.visit` — the account of a turn;
* **`Attended.account_run`** — the account of a run: the answers sent and the one still owed are
  those due for the messages taken.
-/

namespace PipelinedMachine

open Interconnect

/-! ## Devices of any kind -/

/-- A device of any kind.  The interrupt controller comes with the lines that it raises. -/
inductive Peripheral where
  | ram (ram : Ram)
  | rom (rom : Rom)
  | display (display : Display)
  | keyboard (keyboard : Keyboard)
  | disk (drive : DiskDrive)
  | controller (controller : InterruptController) (lines : InterruptLines)

/-- What the host can do to a device. -/
inductive HostAction where
  /-- Puts words into main memory. -/
  | load (address : Word) (words : Array Word)
  /-- Presses a key. -/
  | press (code : Word)
  /-- Asks for the disk image, for which the current block is written back. -/
  | flush
  /-- Raises an interrupt at the controller. -/
  | raise (id : Word)
  /-- A core takes its line. -/
  | take (core : Nat)
deriving DecidableEq, Repr

namespace Peripheral

/-- The device's end of its link. -/
def terminal : Peripheral → Terminal
  | ram device => device.terminal
  | rom device => device.terminal
  | display device => device.terminal
  | keyboard device => device.terminal
  | disk drive => drive.terminal
  | controller device _ => device.terminal

/-- One tick of the device. -/
def tick (device : Peripheral) (bus : Interconnect) : Peripheral × Interconnect :=
  match device with
  | ram device => (ram (device.tick bus).1, (device.tick bus).2)
  | rom device => (rom (device.tick bus).1, (device.tick bus).2)
  | display device => (display (device.tick bus).1, (device.tick bus).2)
  | keyboard device => (keyboard (device.tick bus).1, (device.tick bus).2)
  | disk drive => (disk (drive.tick bus).1, (drive.tick bus).2)
  | controller device lines =>
    (controller (device.tick lines bus).1 (device.tick lines bus).2.1,
      (device.tick lines bus).2.2)

/-- The device after an action of its host.  One that is not meant for it changes nothing. -/
def host (device : Peripheral) (action : HostAction) : Peripheral :=
  match device, action with
  | ram device, .load address words => ram (device.load address words)
  | keyboard device, .press code => keyboard (device.press code)
  | disk drive, .flush => disk drive.flush
  | controller device lines, .raise id =>
    controller (device.raise id lines).1 (device.raise id lines).2
  | controller device lines, .take core => controller device (lines.take core).2
  | device, _ => device

/-- The answer that has not been sent. -/
def owed : Peripheral → List Message
  | ram device => device.owed
  | rom device => device.owed
  | display _ | keyboard _ => []
  | disk drive => drive.owed
  | controller device _ => device.owed

/-- The answer to a message. -/
def answer? (device : Peripheral) (bus : Interconnect) : Message → Option Message :=
  match device with
  | ram device => device.answer? bus
  | rom device => device.answer? bus
  | display device => device.answer?
  | keyboard device => device.answer?
  | disk drive => drive.answer?
  | controller device _ => device.answer?

/-- The address under which a read of `address` is answered.  Every read is answered under its own
address, but for two devices: a drive answers reads of its data and seek registers only, and a
keyboard answers all reads under the address of its one register. -/
def dueFor? (device : Peripheral) (address : Word) : Option Word :=
  match device with
  | ram _ | rom _ | display _ | controller _ _ => some address
  | keyboard _ => some AddressMap.keyboardRegister
  | disk _ =>
    if address = AddressMap.diskData ∨ address = AddressMap.diskSeek then some address else none

/-- The address under which a message is to be answered, if it is. -/
def due? (device : Peripheral) (message : Message) : Option Word :=
  if message.kind? = some .read then device.dueFor? message.address else none

/-! ## Turns -/

/-- The account of a turn. -/
theorem visit (device : Peripheral) (bus : Interconnect) :
    ∃ taken announced answered, Visit device.terminal bus (device.tick bus).2 (device.answer? bus)
      device.owed (device.tick bus).1.owed taken announced answered := by
  cases device with
  | ram device =>
    obtain ⟨taken, answered, visit⟩ := device.visit bus
    exact ⟨taken, none, answered, visit⟩
  | rom device =>
    obtain ⟨taken, answered, visit⟩ := device.visit bus
    exact ⟨taken, none, answered, visit⟩
  | display device =>
    obtain ⟨taken, answered, visit⟩ := device.visit bus
    exact ⟨taken, none, answered, visit⟩
  | keyboard device => exact device.visit bus
  | disk drive =>
    obtain ⟨taken, announced, answered, visit, -⟩ := drive.visit_round bus
    exact ⟨taken, announced, answered, visit⟩
  | controller device lines =>
    obtain ⟨taken, answered, visit⟩ := device.visit lines bus
    exact ⟨taken, none, answered, visit⟩

lemma terminal_tick (device : Peripheral) (bus : Interconnect) :
    (device.tick bus).1.terminal = device.terminal := by
  cases device with
  | ram device => exact device.terminal_tick bus
  | rom device => exact device.terminal_tick bus
  | display device => exact device.terminal_tick bus
  | keyboard device => exact device.terminal_tick bus
  | disk drive => exact drive.terminal_tick bus
  | controller device lines => exact device.terminal_tick lines bus

/-- What the host does to a device, the device's link is left out of it. -/
lemma host_eq (device : Peripheral) (action : HostAction) :
    (device.host action).terminal = device.terminal
      ∧ (device.host action).owed = device.owed
      ∧ (device.host action).due? = device.due? := by
  cases device <;> cases action <;> try exact ⟨rfl, rfl, rfl⟩
  case ram.load device address words =>
    simp only [host, Ram.load]
    split <;> exact ⟨rfl, rfl, rfl⟩
  case disk.flush drive =>
    exact ⟨drive.terminal_flush, congrArg PendingReply.owed drive.reply_flush, rfl⟩

/-- Which messages are to be answered does not change in a turn. -/
lemma due?_tick (device : Peripheral) (bus : Interconnect) :
    (device.tick bus).1.due? = device.due? := by
  cases device <;> rfl

/-! ## Answers -/

end Peripheral

/-- A response, with its address, that a channel of the given capacity takes. -/
structure Message.Answer (capacity : Nat) (message : Message) : Prop where
  response : message.isResponse = true
  address : message.address? ≠ none
  fits : message.length ≤ capacity

lemma Message.answer_response {capacity : Nat} (address : Word) {values : List Word}
    (fits : values.length + 2 ≤ capacity) : (Message.response address values).Answer capacity where
  response := rfl
  address := by simp [Message.address?, Message.response]
  fits := fits

lemma answer_replyFrom {bus : Interconnect} {terminal : Terminal} {word : Word → Word}
    {address requested : Word} (wide : 2 ≤ bus.capacity terminal) :
    (replyFrom word address (replyCount bus terminal requested)).Answer
      (bus.capacity terminal) := by
  refine Message.answer_response address ?_
  have short : replyCount bus terminal requested ≤ bus.capacity terminal - 2 :=
    Nat.min_le_right _ _
  simp only [List.length_map, List.length_range]
  omega

namespace Peripheral

/-- An answer is a response under the address that is due, and the link takes it. -/
lemma answer_of_answer? {device : Peripheral} {bus : Interconnect}
    (wide : 3 ≤ bus.capacity device.terminal) {message answer : Message}
    (answers : device.answer? bus message = some answer) :
    answer.Answer (bus.capacity device.terminal) := by
  have short (address value : Word) :
      (Message.response address [value]).Answer (bus.capacity device.terminal) :=
    Message.answer_response address wide
  cases device with
  | ram device =>
    simp only [answer?, Ram.answer?] at answers
    split_ifs at answers
    obtain rfl := Option.some.inj answers
    exact answer_replyFrom (Nat.le_of_succ_le wide)
  | rom device =>
    simp only [answer?, Rom.answer?] at answers
    split_ifs at answers
    obtain rfl := Option.some.inj answers
    exact answer_replyFrom (Nat.le_of_succ_le wide)
  | display device =>
    simp only [answer?, Display.answer?] at answers
    split_ifs at answers
    obtain rfl := Option.some.inj answers
    exact short _ _
  | keyboard device =>
    simp only [answer?, Keyboard.answer?] at answers
    split_ifs at answers
    obtain rfl := Option.some.inj answers
    exact short _ _
  | disk drive =>
    simp only [answer?, DiskDrive.answer?] at answers
    split_ifs at answers <;> obtain rfl := Option.some.inj answers <;> exact short _ _
  | controller device lines =>
    simp only [answer?, InterruptController.answer?] at answers
    split_ifs at answers
    obtain rfl := Option.some.inj answers
    exact short _ _

/-- Messages are answered under the addresses that are due, and no others are. -/
lemma answered?_answer? (device : Peripheral) (bus : Interconnect) (message : Message) :
    (device.answer? bus message).bind Message.answered? = device.due? message := by
  rw [due?]
  cases device with
  | ram device => simp only [answer?, Ram.answer?, dueFor?]; split <;> rfl
  | rom device => simp only [answer?, Rom.answer?, dueFor?]; split <;> rfl
  | display device => simp only [answer?, Display.answer?, dueFor?]; split <;> rfl
  | keyboard device => simp only [answer?, Keyboard.answer?, dueFor?]; split <;> rfl
  | controller device lines =>
    simp only [answer?, InterruptController.answer?, dueFor?]
    split <;> rfl
  | disk drive =>
    simp only [answer?, DiskDrive.answer?, dueFor?]
    split_ifs <;> simp_all

end Peripheral

/-! ## Runs -/

/-- A device on its link. -/
instance : Endpoint Peripheral HostAction where
  terminal := Peripheral.terminal
  turn := Peripheral.tick
  host := Peripheral.host
  handled device bus := by
    obtain ⟨taken, announced, answered, visit⟩ := device.visit bus
    exact ⟨taken, _, visit.handled⟩
  terminal_turn := Peripheral.terminal_tick
  terminal_host device action := (device.host_eq action).1

namespace Peripheral

/-- The account of a run: what has been taken, what has been sent, and what is still owed. -/
structure Accounts (capacity : Nat) (due? : Message → Option Word) (device : Peripheral)
    (taken sent : List Message) : Prop where
  /-- The answers sent and the one still owed are those that are due, in the order of the reads. -/
  balance : taken.filterMap due?
    = sent.filterMap Message.answered? ++ device.owed.filterMap Message.answered?
  /-- What is sent is an answer or an interrupt. -/
  sent : ∀ message ∈ sent, message.Answer capacity ∨ message.kind? = some .interrupt
  owed : ∀ message ∈ device.owed, message.Answer capacity
  due : device.due? = due?

variable {capacity : Nat} {due? : Message → Option Word} {device : Peripheral}
  {taken sent : List Message}

lemma filterMap_bind_toList (message? : Option Message) (answer? : Message → Option Message) :
    (message?.bind answer?).toList.filterMap Message.answered?
      = message?.toList.filterMap fun message => (answer? message).bind Message.answered? := by
  cases message? with
  | none => rfl
  | some message => cases h : answer? message <;> simp [List.filterMap_cons, h]

/-- A turn keeps the account. -/
lemma Accounts.turn (accounts : device.Accounts capacity due? taken sent) {bus : Interconnect}
    (same : bus.capacity device.terminal = capacity) (wide : 3 ≤ capacity) :
    ∃ taken' sent', Handled device.terminal bus (device.tick bus).2 taken' sent'
      ∧ (device.tick bus).1.Accounts capacity due? (taken ++ taken'.toList)
          (sent ++ sent'.toList) := by
  obtain ⟨message?, announced, answered, visit⟩ := device.visit bus
  -- what is owed or answered in this turn was owed before or answers what is taken
  have answers (answer : Message)
      (member : answer ∈ answered.toList ++ (device.tick bus).1.owed) :
      answer.Answer capacity := by
    rw [← visit.settled, List.mem_append, Option.mem_toList, Option.bind_eq_some_iff] at member
    rcases member with before | ⟨message, -, now⟩
    · exact accounts.owed answer before
    · rw [← same] at wide ⊢
      exact answer_of_answer? wide now
  refine ⟨message?, _, visit.handled, ?_, ?_, ?_, (device.due?_tick bus).trans accounts.due⟩
  · have due : message?.toList.filterMap due?
        = (message?.bind (device.answer? bus)).toList.filterMap Message.answered? := by
      rw [filterMap_bind_toList, ← accounts.due]
      congr 1
      exact funext fun message => (device.answered?_answer? bus message).symm
    have out : (announced.or answered).toList.filterMap Message.answered?
        = answered.toList.filterMap Message.answered? := by
      cases announced with
      | none => rfl
      | some message =>
        have unanswered : answered = none := visit.single.resolve_left (by simp)
        simp [unanswered, Message.answered?_of_interrupt (visit.interrupt message rfl)]
    rw [List.filterMap_append, List.filterMap_append, accounts.balance, due, out,
      List.append_assoc, List.append_assoc, ← List.filterMap_append, visit.settled,
      List.filterMap_append]
  · intro message member
    rw [List.mem_append, Option.mem_toList, Option.or_eq_some_iff] at member
    rcases member with before | interrupt | ⟨-, answer⟩
    · exact accounts.sent message before
    · exact Or.inr (visit.interrupt message interrupt)
    · exact Or.inl (answers message (by simp [answer]))
  · exact fun message member => answers message (List.mem_append_right _ member)

end Peripheral

namespace Attended

variable {attended : Attended Peripheral}

/-- **Over every run, each read that a device heeds is answered once and in its turn.** -/
theorem account_run (fresh : attended.Fresh) (idle : attended.component.owed = [])
    (wide : 3 ≤ attended.bus.capacity attended.near)
    (actions : List (LinkAction HostAction)) :
    (attended.run actions).component.Accounts (attended.bus.capacity attended.near)
      attended.component.due? (attended.run actions).taken (attended.run actions).sent := by
  refine invariant_run (Peripheral.Accounts (attended.bus.capacity attended.near)
      attended.component.due?)
    (fun device bus taken sent same accounts => accounts.turn same wide) ?_ ?_ rfl actions
  · intro device action taken sent accounts
    obtain ⟨-, owed, due⟩ := device.host_eq action
    exact {
      balance := accounts.balance.trans (congrArg (fun owed =>
        sent.filterMap Message.answered? ++ owed.filterMap Message.answered?) owed.symm)
      sent := accounts.sent
      owed := fun message member => accounts.owed message (owed ▸ member)
      due := due.trans accounts.due }
  · rw [fresh.taken, fresh.sent]
    exact {
      balance := by rw [idle]; rfl
      sent := by simp
      owed := by simp [idle]
      due := rfl }

end Attended

end PipelinedMachine
