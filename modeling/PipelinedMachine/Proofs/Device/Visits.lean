import PipelinedMachine.Device.DiskDrive
import PipelinedMachine.Device.Display
import PipelinedMachine.Device.Keyboard
import PipelinedMachine.Device.Ram
import PipelinedMachine.Device.Rom
import PipelinedMachine.Interrupts
import PipelinedMachine.Proofs.Link.Endpoint

/-!
# Turns of devices

Six kinds of device sit at the end of a link, and each answers reads in its own way: after a delay,
or once the answer can be sent, or between interrupts of its own.  What they have in common is an
account of answers: those owed before a turn, and the answer to the message taken in it, are those
sent in it and those owed after it.

* `Visit` — the account of one turn;
* `PendingReply.visit` — the part that sends a delayed answer;
* `Ram.visit`, `Rom.visit`, `Display.visit`, `Keyboard.visit`, `InterruptController.visit` — the
  turns of five devices;
* `DiskDrive.Round`, `DiskDrive.round` — everything that a tick of the disk drive can do, and
  `DiskDrive.visit`.
-/

namespace PipelinedMachine

open Interconnect

/-- The account of a device's turn at the end `near` of a link.  `answer?` says how the device
answers a message that it takes, if at all. -/
structure Visit (near : Terminal) (bus after : Interconnect) (answer? : Message → Option Message)
    (owed later : List Message) (taken announced answered : Option Message) : Prop where
  handled : Handled near bus after taken (announced.or answered)
  /-- An interrupt and an answer are not sent in the same turn. -/
  single : announced = none ∨ answered = none
  interrupt : ∀ message, announced = some message → message.kind? = some .interrupt
  settled : owed ++ (taken.bind answer?).toList = answered.toList ++ later

namespace Visit

variable {near : Terminal} {bus after : Interconnect} {answer? : Message → Option Message}
  {owed later : List Message} {taken answered : Option Message} {message : Message}

/-- Of what a turn sends, the answer is the part that is a response. -/
lemma filter_sent {announced : Option Message}
    (visit : Visit near bus after answer? owed later taken announced answered)
    (response : ∀ message, answered = some message → message.isResponse = true) :
    (announced.or answered).toList.filter Message.isResponse = answered.toList := by
  cases announced with
  | none => cases answered <;> simp_all
  | some message =>
    have unanswered : answered = none := visit.single.resolve_left (by simp)
    have interrupt := visit.interrupt message rfl
    simp [unanswered, Message.isResponse, interrupt]

/-- Nothing happens. -/
lemma idle (near : Terminal) (bus : Interconnect) (answer? : Message → Option Message)
    (owed : List Message) : Visit near bus bus answer? owed owed none none none where
  handled := .nothing near bus
  single := Or.inl rfl
  interrupt := by simp
  settled := by simp

/-- A message that calls for no answer is taken. -/
lemma dropped (waiting : bus.message? near = some message) (unanswered : answer? message = none)
    (owed : List Message) :
    Visit near bus (bus.clear near) answer? owed owed (some message) none none where
  handled := .of_clear waiting
  single := Or.inl rfl
  interrupt := by simp
  settled := by simp [unanswered]

/-- A message is taken first, and then what is owed is seen to. -/
lemma of_taken {between : Interconnect} {owed' : List Message}
    (taking : Handled near bus between taken none)
    (due : owed ++ (taken.bind answer?).toList = owed')
    (sending : Visit near between after answer? owed' later none none answered) :
    Visit near bus after answer? owed later taken none answered where
  handled := by simpa using taking.trans sending.handled
  single := Or.inl rfl
  interrupt := by simp
  settled := by
    have settled := sending.settled
    rw [Option.bind_none, Option.toList_none, List.append_nil] at settled
    rw [due, settled]

/-- What is owed is seen to first, and then a message is taken. -/
lemma trans {between : Interconnect} {middle : List Message} {answered' : Option Message}
    (first : Visit near bus between answer? owed middle none none answered)
    (second : Visit near between after answer? middle later taken none answered') :
    Visit near bus after answer? owed later taken none (answered.or answered') where
  handled := by simpa using first.handled.trans second.handled
  single := Or.inl rfl
  interrupt := by simp
  settled := by
    have once := first.handled.sent_once second.handled
    have settled := first.settled
    rw [Option.bind_none, Option.toList_none, List.append_nil] at settled
    rw [settled, List.append_assoc, second.settled, ← List.append_assoc]
    rcases once with none | none <;> rw [Option.none_or] at none <;> simp [none]

/-- An interrupt is sent first, if at all. -/
lemma of_announced {between : Interconnect} {announced : Option Message}
    (announcing : Handled near bus between none announced)
    (interrupt : ∀ message, announced = some message → message.kind? = some .interrupt)
    (rest : Visit near between after answer? owed later taken none answered) :
    Visit near bus after answer? owed later taken announced answered where
  handled := by simpa using announcing.trans rest.handled
  single := by simpa using announcing.sent_once rest.handled
  interrupt := interrupt
  settled := rest.settled

end Visit

/-! ## Delayed answers -/

/-- The answer that waits to be sent. -/
def PendingReply.owed (reply? : Option PendingReply) : List Message :=
  reply?.toList.map PendingReply.message

/-- A delayed answer stays owed until it is sent. -/
lemma PendingReply.visit (reply? : Option PendingReply) (terminal : Terminal)
    (bus : Interconnect) (answer? : Message → Option Message) :
    ∃ answered, Visit terminal bus (PendingReply.tick reply? terminal bus).2 answer?
      (owed reply?) (owed (PendingReply.tick reply? terminal bus).1) none none answered := by
  cases reply? with
  | none => exact ⟨none, .idle _ _ _ _⟩
  | some reply =>
    simp only [PendingReply.tick]
    by_cases early : reply.delay > 0
    · rw [if_pos early]
      exact ⟨none, .idle _ _ _ _⟩
    · rw [if_neg early]
      cases sent : bus.send? terminal reply.message with
      | none => exact ⟨none, .idle _ _ _ _⟩
      | some after =>
        exact ⟨some reply.message, {
          handled := .of_send? sent
          single := Or.inl rfl
          interrupt := by simp
          settled := by simp [owed] }⟩

/-- A countdown that is not over goes down by one. -/
lemma toNat_sub_one {count : UInt32} (early : 0 < count) :
    (count - 1).toNat = count.toNat - 1 := by
  have positive : 0 < count.toNat := UInt32.lt_iff_toNat_lt.mp early
  exact UInt32.toNat_sub_of_le count 1 (UInt32.le_iff_toNat_le.mpr positive)

/-- The time that an answer has still to wait does not grow. -/
lemma PendingReply.delay_tick_le {reply? : Option PendingReply} {terminal : Terminal}
    {bus : Interconnect} {held : PendingReply}
    (still : (PendingReply.tick reply? terminal bus).1 = some held) :
    ∃ earlier, reply? = some earlier ∧ held.delay ≤ earlier.delay := by
  cases reply? with
  | none => simp [PendingReply.tick] at still
  | some reply =>
    refine ⟨reply, rfl, ?_⟩
    simp only [PendingReply.tick] at still
    split at still
    · next early =>
      obtain rfl := Option.some.inj still
      rw [UInt32.le_iff_toNat_le, toNat_sub_one early]
      exact Nat.sub_le _ _
    · split at still
      · contradiction
      · obtain rfl := Option.some.inj still
        exact UInt32.le_refl _

/-! ## Main memory -/

namespace Ram

/-- The answer that has not been sent. -/
def owed (ram : Ram) : List Message :=
  match ram.service with
  | .answering reply => [reply.message]
  | .idle | .storing _ => []

/-- The answer to a message. -/
def answer? (ram : Ram) (bus : Interconnect) (message : Message) : Option Message :=
  if message.kind? = some .read then
    some (replyFrom ram.readWord message.address (replyCount bus ram.terminal message.count))
  else none

lemma visit_serve (ram : Ram) (bus : Interconnect) (answer? : Message → Option Message) :
    ∃ answered, Visit ram.terminal bus (ram.serve bus).2 answer? ram.owed
      (ram.serve bus).1.owed none none answered := by
  unfold serve
  split
  · exact ⟨none, .idle _ _ _ _⟩
  · next delay storing =>
    refine ⟨none, ?_⟩
    have before : ram.owed = [] := by simp [owed, storing]
    have later : ({ ram with
        service := if delay = 0 then .idle else .storing (delay - 1) } : Ram).owed = [] := by
      rw [owed]
      split_ifs <;> rfl
    rw [before, later]
    exact .idle _ _ _ _
  · next reply answering =>
    obtain ⟨answered, visit⟩ := PendingReply.visit (some reply) ram.terminal bus answer?
    have before : ram.owed = PendingReply.owed (some reply) := by
      simp [owed, answering, PendingReply.owed]
    refine ⟨answered, ?_⟩
    rw [before]
    generalize PendingReply.tick (some reply) ram.terminal bus = ticked at visit
    obtain ⟨_ | reply, bus⟩ := ticked <;> exact visit

lemma terminal_take (ram : Ram) (message : Message) (bus : Interconnect) :
    (ram.take message bus).terminal = ram.terminal := by
  rw [take]
  split
  · rfl
  · simp only [writeWord]
    split <;> rfl
  · rfl
  all_goals rfl

lemma owed_take (ram : Ram) (idle : ram.isBusy = false) (message : Message)
    (bus : Interconnect) :
    (ram.take message bus).owed = (ram.answer? bus message).toList := by
  have resting : ram.owed = [] := by
    rw [isBusy] at idle
    rw [owed]
    split at idle <;> simp_all
  rw [take, answer?]
  split
  · next reads => rw [if_pos reads]; rfl
  · next writes => rw [if_neg (by simp [writes])]; rfl
  all_goals next other => rw [if_neg (by simp [other])]; exact resting

/-- The message that is taken in a turn: the one that waits, while none is being served. -/
def taken? (ram : Ram) (bus : Interconnect) : Option Message :=
  if ram.isBusy then none else bus.message? ram.terminal

/-- A turn of main memory. -/
lemma visit_taken? (ram : Ram) (bus : Interconnect) :
    ∃ answered, Visit ram.terminal bus (ram.tick bus).2 (ram.answer? bus) ram.owed
      (ram.tick bus).1.owed (ram.taken? bus) none answered := by
  rw [tick, accept, taken?]
  cases busy : ram.isBusy with
  | true => exact ram.visit_serve bus (ram.answer? bus)
  | false =>
    simp only [Bool.false_eq_true, if_false]
    cases waiting : bus.message? ram.terminal with
    | none => exact ram.visit_serve bus (ram.answer? bus)
    | some message =>
      obtain ⟨answered, visit⟩ :=
        (ram.take message bus).visit_serve (bus.clear ram.terminal) (ram.answer? bus)
      rw [terminal_take] at visit
      have resting : ram.owed = [] := by
        rw [isBusy] at busy
        rw [owed]
        split at busy <;> simp_all
      refine ⟨answered, .of_taken (.of_clear waiting) ?_ visit⟩
      rw [resting, owed_take ram busy]
      rfl

lemma visit (ram : Ram) (bus : Interconnect) :
    ∃ taken answered, Visit ram.terminal bus (ram.tick bus).2 (ram.answer? bus) ram.owed
      (ram.tick bus).1.owed taken none answered :=
  ⟨_, ram.visit_taken? bus⟩

lemma terminal_tick (ram : Ram) (bus : Interconnect) :
    (ram.tick bus).1.terminal = ram.terminal := by
  have served (ram : Ram) (bus : Interconnect) : (ram.serve bus).1.terminal = ram.terminal := by
    unfold serve
    split
    · rfl
    · rfl
    · split <;> rfl
  rw [tick, served, accept]
  split
  · rfl
  · split
    · exact terminal_take ram _ bus
    · rfl

end Ram

/-! ## The ROM -/

namespace Rom

/-- The answer that has not been sent. -/
def owed (rom : Rom) : List Message := PendingReply.owed rom.reply

/-- The answer to a message. -/
def answer? (rom : Rom) (bus : Interconnect) (message : Message) : Option Message :=
  if message.kind? = some .read then
    some (replyFrom rom.readWord message.address (replyCount bus rom.terminal message.count))
  else none

/-- A turn of the ROM: a read is left waiting while an earlier one is being answered. -/
lemma visit (rom : Rom) (bus : Interconnect) :
    ∃ taken answered, Visit rom.terminal bus (rom.tick bus).2 (rom.answer? bus) rom.owed
      (rom.tick bus).1.owed taken none answered := by
  have sending (rom : Rom) (bus : Interconnect) (answer? : Message → Option Message) :=
    PendingReply.visit rom.reply rom.terminal bus answer?
  rw [tick, accept]
  cases waiting : bus.message? rom.terminal with
  | none =>
    obtain ⟨answered, visit⟩ := sending rom bus (rom.answer? bus)
    exact ⟨none, answered, visit⟩
  | some message =>
    by_cases reads : message.kind? = some .read
    · simp only [reads, if_true]
      cases busy : rom.reply with
      | some reply =>
        obtain ⟨answered, visit⟩ := sending rom bus (rom.answer? bus)
        exact ⟨none, answered, visit⟩
      | none =>
        obtain ⟨answered, visit⟩ := PendingReply.visit
          (some ⟨rom.latency, replyFrom rom.readWord message.address
            (replyCount bus rom.terminal message.count)⟩)
          rom.terminal (bus.clear rom.terminal) (rom.answer? bus)
        refine ⟨some message, answered, .of_taken (.of_clear waiting) ?_ visit⟩
        simp [owed, busy, PendingReply.owed, answer?, reads]
    · simp only [reads, if_false]
      obtain ⟨answered, visit⟩ := sending rom (bus.clear rom.terminal) (rom.answer? bus)
      refine ⟨some message, answered, .of_taken (.of_clear waiting) ?_ visit⟩
      simp [owed, answer?, reads]

lemma terminal_tick (rom : Rom) (bus : Interconnect) :
    (rom.tick bus).1.terminal = rom.terminal := by
  have accepted : (rom.accept bus).1.terminal = rom.terminal := by
    rw [accept]
    split
    · rfl
    · split
      · split <;> rfl
      · rfl
  rw [tick]
  exact accepted

end Rom

/-! ## The display -/

namespace Display

/-- The answer to a message. -/
def answer? (display : Display) (message : Message) : Option Message :=
  if message.kind? = some .read then
    some (Message.response message.address [display.read message.address])
  else none

/-- A turn of the display: a read is taken in the turn that answers it, so nothing is ever owed. -/
lemma visit (display : Display) (bus : Interconnect) :
    ∃ taken answered, Visit display.terminal bus (display.tick bus).2 display.answer? [] [] taken
      none answered := by
  rw [tick]
  cases waiting : bus.message? display.terminal with
  | none => exact ⟨none, none, .idle _ _ _ _⟩
  | some message =>
    simp only
    split
    · next writes =>
      exact ⟨some message, none, .dropped waiting (by simp [answer?, writes]) _⟩
    · next reads =>
      cases sent : bus.send? display.terminal
        (Message.response message.address [display.read message.address]) with
      | none => exact ⟨none, none, .idle _ _ _ _⟩
      | some after =>
        have waits := (message?_of_send? sent).trans waiting
        refine ⟨some message,
          some (Message.response message.address [display.read message.address]), {
            handled := by simpa using (Handled.of_send? sent).trans (.of_clear waits)
            single := Or.inl rfl
            interrupt := by simp
            settled := by simp [answer?, reads] }⟩
    all_goals
      next other =>
      exact ⟨some message, none, .dropped waiting (by simp [answer?, other]) _⟩

lemma terminal_write (display : Display) (address value : Word) :
    (display.write address value).terminal = display.terminal := by
  rw [write]
  split
  · rw [command]
    split <;> rfl
  · split
    · rfl
    · split
      · rfl
      · split <;> rfl

lemma terminal_tick (display : Display) (bus : Interconnect) :
    (display.tick bus).1.terminal = display.terminal := by
  rw [tick]
  split
  · rfl
  · split
    · exact terminal_write display _ _
    · simp only
      split <;> rfl
    all_goals rfl

end Display

/-! ## The keyboard -/

namespace Keyboard

/-- The answer to a message.  It names the keyboard's register, whatever address was read. -/
def answer? (keyboard : Keyboard) (message : Message) : Option Message :=
  if message.kind? = some .read then
    some (Message.response AddressMap.keyboardRegister [keyboard.current])
  else none

lemma handled_announce (keyboard : Keyboard) (bus : Interconnect) :
    ∃ announced, Handled keyboard.terminal bus (keyboard.announce bus).2 none announced
      ∧ ∀ message, announced = some message → message.kind? = some .interrupt := by
  rw [announce]
  split
  · exact ⟨none, .nothing _ _, by simp⟩
  · cases sent : bus.send? keyboard.terminal (Message.interrupt AddressMap.keyboardInterrupt) with
    | none => exact ⟨none, .nothing _ _, by simp⟩
    | some after =>
      refine ⟨_, .of_send? sent, ?_⟩
      rintro _ ⟨rfl⟩
      rfl

@[simp] lemma terminal_takeUp (keyboard : Keyboard) :
    keyboard.takeUp.terminal = keyboard.terminal := by
  rw [takeUp]
  split <;> rfl

@[simp] lemma current_takeUp (keyboard : Keyboard) :
    keyboard.takeUp.current = keyboard.current := by
  rw [takeUp]
  split <;> rfl

/-- A turn of the keyboard: a read is taken in the turn that answers it, and no key is announced in
that turn. -/
lemma visit (keyboard : Keyboard) (bus : Interconnect) :
    ∃ taken announced answered, Visit keyboard.terminal bus (keyboard.tick bus).2
      keyboard.answer? [] [] taken announced answered := by
  rw [tick]
  simp only [terminal_takeUp]
  cases waiting : bus.message? keyboard.terminal with
  | none =>
    obtain ⟨announced, handled, interrupt⟩ := keyboard.takeUp.handled_announce bus
    rw [terminal_takeUp] at handled
    exact ⟨none, announced, none, .of_announced handled interrupt (.idle _ _ _ _)⟩
  | some message =>
    by_cases reads : message.kind? = some .read
    · simp only [reads, if_true, answer, terminal_takeUp, current_takeUp]
      cases sent : bus.send? keyboard.terminal
        (Message.response AddressMap.keyboardRegister [keyboard.current]) with
      | none => exact ⟨none, none, none, .idle _ _ _ _⟩
      | some after =>
        have waits := (message?_of_send? sent).trans waiting
        refine ⟨some message, none,
          some (Message.response AddressMap.keyboardRegister [keyboard.current]), {
            handled := by simpa using (Handled.of_send? sent).trans (.of_clear waits)
            single := Or.inl rfl
            interrupt := by simp
            settled := by simp [answer?, reads] }⟩
    · simp only [reads, if_false]
      obtain ⟨announced, handled, interrupt⟩ :=
        keyboard.takeUp.handled_announce (bus.clear keyboard.terminal)
      rw [terminal_takeUp] at handled
      refine ⟨some message, announced, none, {
        handled := by simpa using (Handled.of_clear waiting).trans handled
        single := Or.inr rfl
        interrupt := interrupt
        settled := by simp [answer?, reads] }⟩

lemma terminal_tick (keyboard : Keyboard) (bus : Interconnect) :
    (keyboard.tick bus).1.terminal = keyboard.terminal := by
  have announced (keyboard : Keyboard) (bus : Interconnect) :
      (keyboard.announce bus).1.terminal = keyboard.terminal := by
    rw [announce]
    split
    · rfl
    · split <;> rfl
  rw [tick]
  split
  · rw [announced, terminal_takeUp]
  · split
    · exact terminal_takeUp keyboard
    · rw [announced, terminal_takeUp]

end Keyboard

/-! ## The interrupt controller -/

namespace InterruptController

/-- The answer that has not been sent. -/
def owed (controller : InterruptController) : List Message := controller.unsent.toList

/-- The answer to a message. -/
def answer? (controller : InterruptController) (message : Message) : Option Message :=
  if message.kind? = some .read then
    some (Message.response message.address [controller.vector message.address])
  else none

/-- A message is sent or kept, and so stays owed until it is sent. -/
lemma visit_sendOrKeep (controller : InterruptController) (message : Message)
    (bus : Interconnect) (answer? : Message → Option Message) :
    ∃ answered, Visit controller.terminal bus (controller.sendOrKeep message bus).2 answer?
      [message] (controller.sendOrKeep message bus).1.owed none none answered := by
  rw [sendOrKeep]
  cases sent : bus.send? controller.terminal message with
  | none => exact ⟨none, .idle _ _ _ _⟩
  | some after =>
    exact ⟨some message, {
      handled := .of_send? sent
      single := Or.inl rfl
      interrupt := by simp
      settled := by simp [owed] }⟩

/-- Sending keeps everything but the answer itself. -/
lemma sendOrKeep_eq (controller : InterruptController) (message : Message) (bus : Interconnect) :
    ∃ unsent, (controller.sendOrKeep message bus).1 = { controller with unsent := unsent } := by
  rw [sendOrKeep]
  split
  · exact ⟨none, rfl⟩
  · exact ⟨some message, rfl⟩

lemma sendUnsent_eq (controller : InterruptController) (bus : Interconnect) :
    ∃ unsent, (controller.sendUnsent bus).1 = { controller with unsent := unsent } := by
  rw [sendUnsent]
  split
  · exact controller.sendOrKeep_eq _ bus
  · exact ⟨controller.unsent, rfl⟩

lemma visit_sendUnsent (controller : InterruptController) (bus : Interconnect)
    (answer? : Message → Option Message) :
    ∃ answered, Visit controller.terminal bus (controller.sendUnsent bus).2 answer?
      controller.owed (controller.sendUnsent bus).1.owed none none answered := by
  rw [sendUnsent]
  cases kept : controller.unsent with
  | none => exact ⟨none, .idle _ _ _ _⟩
  | some message =>
    obtain ⟨answered, visit⟩ := controller.visit_sendOrKeep message bus answer?
    refine ⟨answered, ?_⟩
    rw [owed, kept]
    exact visit

/-- A change of the table leaves the answer that waits to be sent. -/
lemma setVector_eq (controller : InterruptController) (address value : Word) :
    ∃ vectors, controller.setVector address value = { controller with vectors := vectors } := by
  rw [setVector]
  split
  · exact ⟨_, rfl⟩
  · exact ⟨controller.vectors, rfl⟩

lemma owed_setVector (controller : InterruptController) (address value : Word) :
    (controller.setVector address value).owed = controller.owed := by
  obtain ⟨vectors, same⟩ := controller.setVector_eq address value
  rw [same]
  rfl

lemma visit_serve (controller : InterruptController) (lines : InterruptLines)
    (bus : Interconnect) :
    ∃ taken answered, Visit controller.terminal bus (controller.serve lines bus).2.2
      controller.answer? controller.owed (controller.serve lines bus).1.owed taken none
      answered := by
  rw [serve]
  cases waiting : bus.message? controller.terminal with
  | none => exact ⟨none, none, .idle _ _ _ _⟩
  | some message =>
    simp only
    split
    · next reads =>
      cases busy : controller.unsent with
      | some kept => exact ⟨none, none, .idle _ _ _ _⟩
      | none =>
        obtain ⟨answered, visit⟩ := controller.visit_sendOrKeep
          (Message.response message.address [controller.vector message.address])
          (bus.clear controller.terminal) controller.answer?
        refine ⟨some message, answered, .of_taken (.of_clear waiting) ?_ visit⟩
        simp [owed, busy, answer?, reads]
    · next writes =>
      refine ⟨some message, none, ?_⟩
      rw [owed_setVector]
      exact .dropped waiting (by simp [answer?, writes]) _
    · next interrupts =>
      refine ⟨some message, none, ?_⟩
      simp only [raise, owed_setVector]
      exact .dropped waiting (by simp [answer?, interrupts]) _
    all_goals
      next other =>
      exact ⟨some message, none, .dropped waiting (by simp [answer?, other]) _⟩

/-- A turn of the controller: the answer that was kept goes first, and a read that is taken then may
have its own answer kept. -/
lemma visit (controller : InterruptController) (lines : InterruptLines) (bus : Interconnect) :
    ∃ taken answered, Visit controller.terminal bus (controller.tick lines bus).2.2
      controller.answer? controller.owed (controller.tick lines bus).1.owed taken none
      answered := by
  obtain ⟨answered, first⟩ := controller.visit_sendUnsent bus controller.answer?
  obtain ⟨unsent, same⟩ := controller.sendUnsent_eq bus
  rw [tick]
  simp only
  generalize controller.sendUnsent bus = sending at first same
  obtain ⟨sender, between⟩ := sending
  simp only at first same
  obtain ⟨taken, answered', second⟩ := sender.visit_serve lines between
  have terminal : sender.terminal = controller.terminal := by rw [same]
  have answers : sender.answer? = controller.answer? := by rw [same]; rfl
  rw [terminal, answers] at second
  exact ⟨taken, answered.or answered', first.trans second⟩

lemma terminal_tick (controller : InterruptController) (lines : InterruptLines)
    (bus : Interconnect) : (controller.tick lines bus).1.terminal = controller.terminal := by
  have set (controller : InterruptController) (address value : Word) :
      (controller.setVector address value).terminal = controller.terminal := by
    obtain ⟨vectors, same⟩ := controller.setVector_eq address value
    rw [same]
  have served (controller : InterruptController) (bus : Interconnect) :
      (controller.serve lines bus).1.terminal = controller.terminal := by
    rw [serve]
    split
    · rfl
    · split
      · split
        · rfl
        · obtain ⟨unsent, same⟩ := controller.sendOrKeep_eq _ (bus.clear controller.terminal)
          exact (congrArg terminal same).trans rfl
      · exact set controller _ _
      · exact set controller _ _
      all_goals rfl
  obtain ⟨unsent, same⟩ := controller.sendUnsent_eq bus
  rw [tick]
  simp only
  rw [served, same]

end InterruptController

/-! ## The disk drive -/

namespace DiskDrive

variable {drive : DiskDrive}

/-- The answer that has not been sent. -/
def owed (drive : DiskDrive) : List Message := PendingReply.owed drive.reply

/-- The answer to a message.  A drive answers reads of two of its registers and no others. -/
def answer? (drive : DiskDrive) (message : Message) : Option Message :=
  if message.kind? = some .read then
    if message.address = AddressMap.diskData then
      some (Message.response AddressMap.diskData [drive.block.get drive.position])
    else if message.address = AddressMap.diskSeek then
      some (Message.response AddressMap.diskSeek [drive.currentWord])
    else none
  else none

/-- A message that is neither a read nor a write is of no use to a drive. -/
lemma handle_of_other {message : Message} (reads : message.kind? ≠ some .read)
    (writes : message.kind? ≠ some .write) : drive.handle message = drive := by
  rw [handle]
  split <;> first | rfl | contradiction

lemma reply_flush (drive : DiskDrive) : drive.flush.reply = drive.reply := by
  rw [flush]
  split <;> rfl

lemma terminal_flush (drive : DiskDrive) : drive.flush.terminal = drive.terminal := by
  rw [flush]
  split <;> rfl

lemma reply_seek (drive : DiskDrive) (number : Word) : (drive.seek number).reply = drive.reply := by
  rw [seek]
  split
  · rfl
  · split
    · exact drive.reply_flush
    · rfl

lemma terminal_handle (drive : DiskDrive) (message : Message) :
    (drive.handle message).terminal = drive.terminal := by
  have sought (number : Word) : (drive.seek number).terminal = drive.terminal := by
    rw [seek]
    split
    · rfl
    · split
      · exact drive.terminal_flush
      · rfl
  rw [handle]
  split
  · rw [handleWrite]
    split_ifs <;> first | exact sought _ | rfl
  · rw [handleRead]
    split_ifs <;> rfl
  all_goals rfl

/-- A drive owes the answer to the request that it has just handled. -/
lemma owed_handle (free : drive.reply = none) (message : Message) :
    (drive.handle message).owed = (drive.answer? message).toList := by
  have nothing : drive.owed = [] := by rw [owed, free]; rfl
  rw [handle, answer?]
  split
  · next writes =>
    rw [if_neg (by simp [writes]), handleWrite, owed]
    split_ifs
    · rw [reply_seek]
      exact nothing
    all_goals exact nothing
  · next reads =>
    rw [if_pos reads, handleRead]
    split_ifs with data register
    · rw [data]; rfl
    · rw [register]; rfl
    · exact nothing
  all_goals
    next other =>
    rw [if_neg (by simp [other])]
    exact nothing

/-- The answer of a drive need not wait for anything but the access: a seek is not answered. -/
lemma delay_handle (free : drive.reply = none) {message : Message} {held : PendingReply}
    (answers : (drive.handle message).reply = some held) :
    held.delay = 0 ∧ (drive.handle message).seeking = drive.seeking := by
  rw [handle] at answers ⊢
  split at answers
  · rw [handleWrite] at answers
    split_ifs at answers
    · rw [reply_seek, free] at answers
      contradiction
    all_goals
      have still : drive.reply = some held := answers
      rw [free] at still
      contradiction
  · rw [handleRead] at answers ⊢
    split_ifs at answers ⊢
    · obtain rfl := Option.some.inj answers
      exact ⟨rfl, rfl⟩
    · obtain rfl := Option.some.inj answers
      exact ⟨rfl, rfl⟩
    · rw [free] at answers
      contradiction
  all_goals
    rw [free] at answers
    contradiction

/-- Everything that a tick can do to a drive.  The message is the one that it takes. -/
inductive Round (drive : DiskDrive) : Option Message → DiskDrive → Prop where
  /-- A seek or an access goes on. -/
  | passed (going : drive.countDown.seeking ≠ 0 ∨ drive.countDown.accessing ≠ 0) :
      Round drive none drive.countDown
  /-- Nothing is taken. -/
  | rested (interrupting : Option UInt32) (reply : Option PendingReply)
      (rest : drive.countDown.seeking = 0 ∧ drive.countDown.accessing = 0)
      (kept : ∀ held, reply = some held →
        ∃ earlier, drive.reply = some earlier ∧ held.delay ≤ earlier.delay) :
      Round drive none { drive.countDown with interrupting := interrupting, reply := reply }
  /-- A request is taken and handled. -/
  | served (message : Message) (interrupting : Option UInt32) (reply : Option PendingReply)
      (rest : drive.countDown.seeking = 0 ∧ drive.countDown.accessing = 0)
      (free : drive.reply = none)
      (prompt : ∀ held, reply = some held → held.delay = 0
        ∧ (({ drive.countDown with interrupting := interrupting } : DiskDrive).handle
          message).seeking = 0) :
      Round drive (some message)
        { ({ drive.countDown with interrupting := interrupting } : DiskDrive).handle message with
          reply := reply }

lemma handled_announce (drive : DiskDrive) (bus : Interconnect) :
    ∃ interrupting announced,
      Handled drive.terminal bus (drive.announce bus).2 none announced
      ∧ (∀ message, announced = some message → message.kind? = some .interrupt)
      ∧ (drive.announce bus).1 = { drive with interrupting := interrupting } := by
  rw [announce]
  split
  · exact ⟨drive.interrupting, none, .nothing _ _, by simp, rfl⟩
  · next remaining _ =>
    simp only
    split
    · cases sent : bus.send? drive.terminal (Message.interrupt AddressMap.diskInterrupt) with
      | none => exact ⟨drive.interrupting, none, .nothing _ _, by simp, rfl⟩
      | some after =>
        refine ⟨some (remaining - 1), _, .of_send? sent, ?_, rfl⟩
        rintro _ ⟨rfl⟩
        rfl
    · exact ⟨_, none, .nothing _ _, by simp, rfl⟩

lemma visit_sendReply (drive : DiskDrive) (bus : Interconnect)
    (answer? : Message → Option Message) :
    ∃ answered reply,
      Visit drive.terminal bus (drive.sendReply bus).2 answer? drive.owed
        (drive.sendReply bus).1.owed none none answered
      ∧ (drive.sendReply bus).1 = { drive with reply := reply }
      ∧ ∀ held, reply = some held →
          ∃ earlier, drive.reply = some earlier ∧ held.delay ≤ earlier.delay := by
  rw [sendReply]
  split
  · obtain ⟨answered, visit⟩ := PendingReply.visit drive.reply drive.terminal bus answer?
    exact ⟨answered, _, visit, rfl, fun held => PendingReply.delay_tick_le⟩
  · exact ⟨none, drive.reply, .idle _ _ _ _, rfl, fun held same => ⟨held, same, UInt32.le_refl _⟩⟩

lemma accept_cases (drive : DiskDrive) (bus : Interconnect) :
    drive.accept bus = (drive, bus)
      ∨ ∃ message, drive.reply = none ∧ bus.message? drive.terminal = some message
        ∧ drive.accept bus = (drive.handle message, bus.clear drive.terminal) := by
  rw [accept]
  split
  · next message free waiting => exact Or.inr ⟨message, free, waiting, rfl⟩
  · exact Or.inl rfl

/-- While a seek or an access goes on, a tick counts down and does nothing else. -/
lemma tick_of_going (going : drive.countDown.seeking ≠ 0 ∨ drive.countDown.accessing ≠ 0)
    (bus : Interconnect) : drive.tick bus = (drive.countDown, bus) := by
  rw [tick]
  refine if_pos ?_
  simpa [UInt32.pos_iff_ne_zero] using going

/-- Otherwise it is the interrupt's turn, then that of a request and last that of the answer. -/
lemma tick_of_rest (rest : drive.countDown.seeking = 0 ∧ drive.countDown.accessing = 0)
    (bus : Interconnect) :
    drive.tick bus
      = (((drive.countDown.announce bus).1.accept (drive.countDown.announce bus).2).1.sendReply
          ((drive.countDown.announce bus).1.accept (drive.countDown.announce bus).2).2) := by
  rw [tick]
  refine if_neg ?_
  simp [rest.1, rest.2]

/-- The part of a turn after the interrupt: a request is taken only while no answer is owed. -/
lemma visit_respond (ready : DiskDrive) (bus : Interconnect) :
    ∃ taken answered reply,
      Visit ready.terminal bus ((ready.accept bus).1.sendReply (ready.accept bus).2).2
        ready.answer? ready.owed ((ready.accept bus).1.sendReply (ready.accept bus).2).1.owed
        taken none answered
      ∧ ((ready.accept bus).1.sendReply (ready.accept bus).2).1
        = { taken.elim ready ready.handle with reply := reply }
      ∧ (taken ≠ none → ready.reply = none)
      ∧ ∀ held, reply = some held →
          ∃ earlier, (taken.elim ready ready.handle).reply = some earlier
            ∧ held.delay ≤ earlier.delay := by
  rcases ready.accept_cases bus with left | ⟨message, free, waiting, taken⟩
  · rw [left]
    obtain ⟨answered, reply, visit, later, kept⟩ := ready.visit_sendReply bus ready.answer?
    exact ⟨none, answered, reply, visit, later, fun taken => absurd rfl taken, kept⟩
  · rw [taken]
    obtain ⟨answered, reply, visit, later, kept⟩ :=
      (ready.handle message).visit_sendReply (bus.clear ready.terminal) ready.answer?
    have nothing : ready.owed = [] := by rw [owed, free]; rfl
    rw [terminal_handle] at visit
    refine ⟨some message, answered, reply, .of_taken (.of_clear waiting) ?_ visit, later,
      fun _ => free, kept⟩
    rw [nothing, owed_handle free]
    rfl

/-- A turn of the drive: the interrupt goes first, and a request is taken only while no answer is
owed. -/
lemma visit_round (drive : DiskDrive) (bus : Interconnect) :
    ∃ taken announced answered,
      Visit drive.terminal bus (drive.tick bus).2 drive.answer? drive.owed (drive.tick bus).1.owed
        taken announced answered
      ∧ drive.Round taken (drive.tick bus).1 := by
  by_cases going : drive.countDown.seeking ≠ 0 ∨ drive.countDown.accessing ≠ 0
  · rw [tick_of_going going]
    exact ⟨none, none, none, .idle _ _ _ _, .passed going⟩
  · have rest : drive.countDown.seeking = 0 ∧ drive.countDown.accessing = 0 := by
      simpa [not_or] using going
    obtain ⟨interrupting, announced, announcing, interrupt, same⟩ :=
      drive.countDown.handled_announce bus
    rw [tick_of_rest rest]
    generalize drive.countDown.announce bus = announcement at announcing same
    obtain ⟨ready, between⟩ := announcement
    simp only at announcing same ⊢
    subst same
    obtain ⟨taken, answered, reply, visit, later, free, kept⟩ := visit_respond
      ({ drive.countDown with interrupting := interrupting } : DiskDrive) between
    refine ⟨taken, announced, answered, .of_announced announcing interrupt visit, ?_⟩
    rw [later]
    cases taken with
    | none => exact .rested interrupting reply rest kept
    | some message =>
      refine .served message interrupting reply rest (free (by simp)) fun held still => ?_
      obtain ⟨earlier, answers, sooner⟩ := kept held still
      obtain ⟨prompt, seeking⟩ := delay_handle (free (by simp)) answers
      rw [prompt] at sooner
      exact ⟨UInt32.le_zero_iff.mp sooner, seeking.trans rest.1⟩

lemma terminal_tick (drive : DiskDrive) (bus : Interconnect) :
    (drive.tick bus).1.terminal = drive.terminal := by
  obtain ⟨taken, _, _, _, round⟩ := drive.visit_round bus
  generalize (drive.tick bus).1 = later at round
  cases round with
  | passed | rested => rfl
  | served message => exact terminal_handle _ message

end DiskDrive

end PipelinedMachine
