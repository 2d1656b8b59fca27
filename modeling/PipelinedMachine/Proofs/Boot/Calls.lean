import PipelinedMachine.Proofs.Boot.Course
import PipelinedMachine.Proofs.Timing.Confinement

/-!
# Calls for the disk's handler

While the boot loader runs, the disk's handler is put into the vector table, and the disk interrupts
only once it has been sought.  So whenever the boot core's line is raised, the interrupt controller
has the disk as the latest to interrupt, and its handler is in the table before it is asked for.

* `Machine.Installed` — the disk's handler is in the table, or on its way there;
* `Machine.ControllerExchange` — **what the core asks of the controller, and what it is told**;
* `Machine.Quiet` — nothing has been sought, and nothing interrupts;
* `Machine.Called`, `Machine.OnlyDiskInterrupts` — the line is raised for the disk only;
* `Machine.ControllerExchange.relay`, `Machine.OnlyDiskInterrupts.relay` and
  `Machine.ControllerExchange.deals`, `Machine.OnlyDiskInterrupts.deals` —
  every turn keeps it so.
-/

namespace PipelinedMachine

open AddressMap Interconnect Boot

namespace Boot

/-- What the core asks of the interrupt controller. -/
inductive Posts : Message → Prop
  | keyboard : Posts (Message.write keyboardInterrupt (label 5))
  | disk : Posts (Message.write diskInterrupt (label 7))
  | latest : Posts (Message.read lastInterrupt 1)
  | handler : Posts (Message.read (vectorStart + diskInterrupt) 1)

lemma Sends.posts {installed called : Prop} {message : Message}
    (sends : Sends installed called message) (asks : message.asks .controller = true) :
    Posts message := by
  cases sends with
  | code address inside =>
    rw [Message.asks_read, inside] at asks
    contradiction
  | latest => exact .latest
  | handler => exact .handler
  | keyboard => exact .keyboard
  | disk => exact .disk
  | data => exact absurd asks (by decide)
  | seek block | acknowledge block =>
    rw [Message.asks_write] at asks
    exact absurd asks (by decide)
  | store address value inside =>
    rw [Message.asks_write, Component.ofAddress_eq_ram_iff.mpr inside] at asks
    contradiction

/-- A read says where, as a write does, and the disk is the only one to interrupt. -/
structure Plain (message : Message) : Prop extends message.Proper where
  read : message.kind? = some .read → message.address? ≠ none

lemma plain_of_answered {message : Message} (answers : message.answered? ≠ none) :
    Plain message := by
  have response : message.kind? = some .response := by
    by_contra other
    simp [Message.answered?, Message.isResponse, other] at answers
  exact ⟨Message.proper_of_answered answers, by simp [response]⟩

lemma plain_interrupt : Plain (Message.interrupt diskInterrupt) :=
  ⟨⟨fun _ => rfl, fun _ => by simp [Message.interrupt, Message.address?]⟩,
    fun _ => by simp [Message.interrupt, Message.address?]⟩

lemma Sends.plain {installed called : Prop} {message : Message}
    (sends : Sends installed called message) : Plain message := by
  cases sends <;> first
    | exact ⟨⟨by simp [Message.kind?_read], by simp [Message.kind?_read]⟩,
        by simp [Message.read, Message.address?]⟩
    | exact ⟨⟨by simp [Message.kind?_write], by simp [Message.write, Message.address?]⟩,
        by simp [Message.kind?_write]⟩

lemma Plain.access? {message : Message} (plain : Plain message)
    (kind : message.kind? = some .read ∨ message.kind? = some .write) :
    message.access? ≠ none := by
  rw [Message.access?, if_pos kind]
  exact kind.elim plain.read plain.write

/-- What the controller takes while the boot loader runs. -/
inductive Heeded : Option Message → Prop
  | post (message : Message) (posts : Posts message) : Heeded (some message)
  | call : Heeded (some (Message.interrupt diskInterrupt))
  | other (taken : Option Message) (reads : ∀ message ∈ taken, message.kind? ≠ some .read)
      (writes : ∀ message ∈ taken, message.kind? ≠ some .write)
      (calls : ∀ message ∈ taken, message.kind? ≠ some .interrupt) : Heeded taken

end Boot

namespace InterruptController

variable (controller : InterruptController) {taken : Option Message}

lemma heeding_of_other (writes : ∀ message ∈ taken, message.kind? ≠ some .write)
    (calls : ∀ message ∈ taken, message.kind? ≠ some .interrupt) :
    controller.heeding taken = controller := by
  cases taken with
  | none => rfl
  | some message =>
    simp only [heeding]
    split
    · next kind => exact absurd kind (writes message rfl)
    · next kind => exact absurd kind (calls message rfl)
    all_goals rfl

/-- Only the core puts a handler of the disk into the table. -/
lemma vector_disk_heeding (heeded : Heeded taken) :
    (controller.heeding taken).vector diskInterrupt
      = if taken = some (Message.write diskInterrupt (label 7)) then label 7
        else controller.vector diskInterrupt := by
  cases heeded with
  | post message posts =>
    cases posts with
    | keyboard =>
      exact controller.vector_setVector_eq
        (show Word.offset? vectorStart keyboardInterrupt = some 32
        by decide) (by decide) (label 5) diskInterrupt
    | disk =>
      exact controller.vector_setVector_eq (show Word.offset? vectorStart diskInterrupt = some 33
        by decide) (by decide) (label 7) diskInterrupt
    | latest | handler => rfl
  | call =>
    exact controller.vector_setVector_eq (show Word.offset? vectorStart
      AddressMap.lastInterrupt = some 256 by decide) (by decide) diskInterrupt diskInterrupt
  | other _ _ writes calls =>
    rw [controller.heeding_of_other writes calls, if_neg]
    rintro rfl
    exact writes _ rfl rfl

/-- The disk is the only one to interrupt. -/
lemma lastInterrupt_heeding (heeded : Heeded taken) :
    (controller.heeding taken).lastInterrupt
      = if (taken.bind Message.accepted?).isSome then diskInterrupt
        else controller.lastInterrupt := by
  cases heeded with
  | post message posts =>
    cases posts with
    | keyboard => exact controller.lastInterrupt_setVector keyboardInterrupt (label 5)
    | disk => exact controller.lastInterrupt_setVector diskInterrupt (label 7)
    | latest | handler => rfl
  | call => exact controller.lastInterrupt_setVector AddressMap.lastInterrupt diskInterrupt
  | other _ _ writes calls =>
    rw [controller.heeding_of_other writes calls, if_neg]
    cases taken with
    | none => simp
    | some message => simp [Message.accepted?, calls message rfl]

end InterruptController

/-! ## The requests and the answers of the controller -/

namespace Machine

section Mail

variable (machine : Machine) (bus : Interconnect)

/-- What is on its way to the controller, with other links in place of the machine's. -/
def mail : List Message := bus.along (Message.asks .controller) (machine.outward .controller)

/-- The disk's handler is in the vector table, or on its way there. -/
def Installed : Prop :=
  machine.processor.controller.vector diskInterrupt = label 7
    ∨ Message.write diskInterrupt (label 7) ∈ machine.mail bus

/-- The core asks where the disk's handler is only behind its installation, and which interrupt came
last only once the disk's has come. -/
structure ControllerExchange : Prop where
  posts : ∀ message ∈ machine.mail bus, Posts message
  handler : ∀ before rest,
    machine.mail bus = before ++ Message.read (vectorStart + diskInterrupt) 1 :: rest →
      machine.processor.controller.vector diskInterrupt = label 7
        ∨ Message.write diskInterrupt (label 7) ∈ before
  latest : Message.read lastInterrupt 1 ∈ machine.mail bus →
    machine.processor.controller.lastInterrupt = diskInterrupt
  told : ∀ message ∈ bus.along (Message.tells .controller) (machine.homeward .controller)
      ++ machine.processor.controller.owed.filter (Message.tells .controller),
    message = Message.response (vectorStart + diskInterrupt) [label 7]
      ∨ message = Message.response lastInterrupt [diskInterrupt]

/-- The disk has interrupted. -/
structure Called : Prop where
  latest : machine.processor.controller.lastInterrupt = diskInterrupt
  installed : machine.Installed bus

end Mail

variable {machine later : Machine} {actor : Option Component} {bus after : Interconnect}
  {installed called : Prop}

/-! ### The core's turn -/

lemma mail_send (inOrder : machine.InOrder) {message : Message}
    (sent : bus.send? machine.processor.boot.terminal message = some after) :
    machine.mail after
      = machine.mail bus ++ if message.asks .controller then [message] else [] :=
  inOrder.requests_send .controller sent

lemma mail_clear (inOrder : machine.InOrder) (bus : Interconnect) :
    machine.mail (bus.clear machine.processor.boot.terminal) = machine.mail bus :=
  inOrder.requests_clear .controller bus

lemma Installed.deals (stands : machine.Installed bus) (inOrder : machine.InOrder)
    {fine : Message → Prop} (deals : Deals machine.processor.boot.terminal fine bus after) :
    machine.Installed after := by
  induction deals with
  | refl => exact stands
  | tail _ deal before =>
    cases deal with
    | sends allowed sent =>
      refine before.imp id fun member => ?_
      rw [mail_send inOrder sent]
      exact List.mem_append_left _ member
    | takes waiting =>
      rw [Installed, mail_clear inOrder]
      exact before

lemma Called.deals (stands : machine.Called bus) (inOrder : machine.InOrder)
    {fine : Message → Prop} (deals : Deals machine.processor.boot.terminal fine bus after) :
    machine.Called after :=
  ⟨stands.latest, stands.installed.deals inOrder deals⟩

/-- A core that boots asks the controller for nothing too early. -/
theorem ControllerExchange.deals (exchange : machine.ControllerExchange bus)
    (inOrder : machine.InOrder)
    (ready : called → machine.Called bus)
    (deals : Deals machine.processor.boot.terminal (Sends installed called) bus after) :
    machine.ControllerExchange after := by
  induction deals with
  | refl => exact exchange
  | @tail between after first deal before =>
    cases deal with
    | takes waiting =>
      have same := mail_clear inOrder between
      refine ⟨fun message => ?_, fun start rest => ?_, ?_, fun message member => ?_⟩
      · rw [same]
        exact before.posts message
      · rw [same]
        exact before.handler start rest
      · rw [same]
        exact before.latest
      · refine before.told message ?_
        rw [inOrder.answers_message? .controller waiting, List.append_assoc]
        exact List.mem_append_right _ member
    | @sends message _ sound sent =>
      have next := mail_send inOrder sent
      refine ⟨fun other member => ?_, fun start rest split => ?_, fun member => ?_, ?_⟩
      · rw [next, List.mem_append] at member
        rcases member with old | new
        · exact before.posts other old
        · split_ifs at new with asks
          · exact List.mem_singleton.mp new ▸ sound.posts asks
          · contradiction
      · rw [next] at split
        split_ifs at split with asks
        · rcases List.eq_nil_or_concat rest with rfl | ⟨front, last, rfl⟩
          · -- the question is the one that has just been sent
            obtain ⟨rfl, same⟩ := List.append_inj' split rfl
            obtain rfl : message = _ := List.cons.inj same |>.1
            cases sound with
            | handler stands => exact ((ready stands).installed.deals inOrder first)
          · rw [List.concat_eq_append, ← List.cons_append, ← List.append_assoc] at split
            exact before.handler start front (List.append_inj' split rfl).1
        · rw [List.append_nil] at split
          exact before.handler start rest split
      · rw [next, List.mem_append] at member
        rcases member with old | new
        · exact before.latest old
        · split_ifs at new with asks
          · obtain rfl := List.mem_singleton.mp new
            cases sound with
            | latest stands => exact (ready stands).latest
          · contradiction
      · rw [inOrder.answers_send .controller sent]
        exact before.told

/-! ### The controller's turn -/

lemma heeded_of_waiting (inOrder : machine.InOrder) (plain : machine.bus.All Plain)
    (exchange : machine.ControllerExchange machine.bus) {taken : Option Message}
    (waiting : ∀ message, taken = some message →
      machine.bus.message? machine.processor.controller.terminal = some message) :
    Heeded taken := by
  cases taken with
  | none => exact .other none (by simp) (by simp) (by simp)
  | some message =>
    have waits := waiting message rfl
    cases access : message.access? with
    | some address =>
      have here := inOrder.arrives .controller waits access
      exact .post message (exchange.posts message (mem_along.mpr ⟨_, List.mem_cons_self,
        carried?_of_message? waits, Message.asks_eq_true.mpr ⟨address, access, here⟩⟩))
    | none =>
      have fine := plain.of_message? waits
      by_cases calls : message.kind? = some .interrupt
      · rw [fine.interrupt calls]
        exact .call
      · refine .other _ ?_ ?_ (by simpa using calls)
        · rintro _ ⟨⟩ reads
          exact fine.access? (Or.inl reads) access
        · rintro _ ⟨⟩ writes
          exact fine.access? (Or.inr writes) access

/-- What the controller does in its turn. -/
structure ControllerTurn (machine later : Machine) (taken : Option Message) : Prop where
  heeded : Heeded taken
  waiting : ∀ message ∈ taken,
    machine.bus.message? machine.processor.controller.terminal = some message
  mail : machine.mail machine.bus
    = (taken.filter (Message.asks .controller)).toList ++ later.mail later.bus
  told : later.answers .controller = machine.answers .controller
    ++ ((taken.bind machine.processor.controller.answer?).filter
      (Message.tells .controller)).toList
  handler : later.processor.controller.vector diskInterrupt
    = if taken = some (Message.write diskInterrupt (label 7)) then label 7
      else machine.processor.controller.vector diskInterrupt
  latest : later.processor.controller.lastInterrupt
    = if (taken.bind Message.accepted?).isSome then diskInterrupt
      else machine.processor.controller.lastInterrupt
  lines : later.processor.lines = if (taken.bind Message.accepted?).isSome
    then machine.processor.lines.raise machine.processor.controller.bootCore
    else machine.processor.lines

lemma ControllerExchange.controllerTurn (exchange : machine.ControllerExchange machine.bus)
    (inOrder : machine.InOrder)
    (plain : machine.bus.All Plain) (relay : Relay machine (some .controller) later) :
    ∃ taken, machine.ControllerTurn later taken := by
  obtain ⟨taken, answered, visit, vectors, lines⟩ :=
    machine.processor.controller.visit_heeding machine.processor.lines machine.bus
  obtain ⟨turn, lines'⟩ := Peripheral.controller.inj relay.own.1
  rw [← turn, ← show later.bus = (machine.processor.controller.tick machine.processor.lines
    machine.bus).2.2 from relay.own.2] at visit
  rw [← turn] at vectors
  rw [← lines'] at lines
  have heeded := heeded_of_waiting inOrder plain exchange visit.handled.waiting
  have same (address : Word) : later.processor.controller.vector address
      = (machine.processor.controller.heeding taken).vector address := by
    rw [InterruptController.vector, vectors]
    rfl
  exact ⟨taken, heeded, fun message inside => visit.handled.waiting message inside,
    inOrder.requests_own .controller relay visit.handled,
    inOrder.answers_own .controller relay visit,
    (same _).trans (machine.processor.controller.vector_disk_heeding heeded),
    (same _).trans (machine.processor.controller.lastInterrupt_heeding heeded), lines⟩

/-- Every turn but its own leaves the controller as it is. -/
lemma Relay.controller_eq (relay : Relay machine actor later) (away : actor ≠ some .controller) :
    later.processor.controller = machine.processor.controller
      ∧ later.processor.lines = machine.processor.lines :=
  Peripheral.controller.inj (relay.part_eq away)

lemma Relay.mail_eq (relay : Relay machine actor later) (inOrder : machine.InOrder)
    (away : actor ≠ some .controller) : later.mail later.bus = machine.mail machine.bus :=
  inOrder.requests_around relay away

/-- The installation is as good as done as soon as it has been sent. -/
lemma ControllerExchange.installed_relay (exchange : machine.ControllerExchange machine.bus)
    (inOrder : machine.InOrder)
    (plain : machine.bus.All Plain) (relay : Relay machine actor later) :
    later.Installed later.bus ↔ machine.Installed machine.bus := by
  by_cases own : actor = some .controller
  · subst own
    obtain ⟨taken, turn⟩ := exchange.controllerTurn inOrder plain relay
    rw [Installed, Installed, turn.handler, turn.mail, List.mem_append, Option.mem_toList]
    split_ifs with installs
    · have asks : (Message.write diskInterrupt (label 7)).asks .controller = true := by decide
      simp [installs, Option.filter, asks]
    · simp [installs]
  · rw [Installed, Installed, (relay.controller_eq own).1, relay.mail_eq inOrder own]

/-- **What is asked of the controller, it answers as the boot loader needs it.** -/
theorem ControllerExchange.relay (exchange : machine.ControllerExchange machine.bus)
    (inOrder : machine.InOrder)
    (plain : machine.bus.All Plain) (relay : Relay machine actor later) :
    later.ControllerExchange later.bus := by
  by_cases own : actor = some .controller
  · subst own
    obtain ⟨taken, turn⟩ := exchange.controllerTurn inOrder plain relay
    have later_mail {message : Message} (member : message ∈ later.mail later.bus) :
        message ∈ machine.mail machine.bus := by
      rw [turn.mail]
      exact List.mem_append_right _ member
    have first {message : Message} (taken_eq : taken = some message)
        (asks : message.asks .controller = true) :
        machine.mail machine.bus = message :: later.mail later.bus := by
      rw [turn.mail, taken_eq]
      simp [Option.filter, asks]
    refine ⟨fun message member => exchange.posts message (later_mail member),
      fun before rest split => ?_, fun member => ?_, fun message member => ?_⟩
    · rw [turn.handler]
      split_ifs with installs
      · exact Or.inl rfl
      · have earlier := exchange.handler
          ((taken.filter (Message.asks .controller)).toList ++ before) rest
          (by rw [turn.mail, split, List.append_assoc])
        refine earlier.imp id fun member => ?_
        rw [List.mem_append, Option.mem_toList] at member
        exact member.resolve_left fun inside => installs (Option.filter_eq_some_iff.mp inside).1
    · rw [turn.latest]
      split_ifs
      · rfl
      · exact exchange.latest (later_mail member)
    · change message ∈ later.answers .controller at member
      rw [turn.told, List.mem_append] at member
      rcases member with old | new
      · exact exchange.told message old
      · rw [Option.mem_toList, Option.filter_eq_some_iff, Option.bind_eq_some_iff] at new
        obtain ⟨⟨read, rfl, answers⟩, -⟩ := new
        rw [InterruptController.answer?] at answers
        split_ifs at answers with reads
        obtain rfl := Option.some.inj answers
        cases turn.heeded with
        | post _ posts =>
          cases posts with
          | keyboard | disk => simp [Message.kind?_write] at reads
          | latest =>
            have latest := exchange.latest (by rw [first rfl (by decide)]; exact List.mem_cons_self)
            exact Or.inr (congrArg (fun word => Message.response lastInterrupt [word]) latest)
          | handler =>
            have handler := (exchange.handler [] _ (first rfl (by decide))).resolve_right (by simp)
            exact Or.inl (congrArg
              (fun word => Message.response (vectorStart + diskInterrupt) [word]) handler)
        | call => simp [Message.interrupt, Message.kind?] at reads
        | other _ others => exact absurd reads (others read rfl)
  · obtain ⟨same, -⟩ := relay.controller_eq own
    have answers := inOrder.answers_around relay own
    have mail := relay.mail_eq inOrder own
    refine ⟨by rw [mail]; exact exchange.posts, by rw [mail, same]; exact exchange.handler,
      by rw [mail, same]; exact exchange.latest, ?_⟩
    change ∀ message ∈ later.answers .controller, _
    rw [answers]
    exact exchange.told

end Machine

/-! ## Who interrupts -/

/-- The message neither interrupts nor seeks. -/
structure Boot.Calm (message : Message) : Prop where
  interrupt : message.kind? ≠ some .interrupt
  seek : message.kind? = some .write → message.address ≠ diskSeek

lemma Boot.calm_of_answered {message : Message} (answers : message.answered? ≠ none) :
    Calm message := by
  have response : message.kind? = some .response := by
    by_contra other
    simp [Message.answered?, Message.isResponse, other] at answers
  exact ⟨by simp [response], by simp [response]⟩

lemma Boot.Sends.calm {installed called : Prop} {message : Message}
    (sends : Sends installed called message) (uninstalled : ¬installed) : Calm message := by
  have writes (address value : Word) (away : address ≠ diskSeek) :
      Calm (Message.write address value) :=
    ⟨by simp [Message.kind?_write], fun _ => away⟩
  cases sends with
  | code | latest | handler | data =>
    exact ⟨by simp [Message.kind?_read], by simp [Message.kind?_read]⟩
  | keyboard | disk | acknowledge => exact writes _ _ (by decide)
  | seek block ready => exact absurd ready uninstalled
  | store address value inside =>
    refine writes _ _ ?_
    rintro rfl
    exact absurd inside (by decide)

namespace DiskDrive

variable {drive : DiskDrive} {bus : Interconnect}

/-- The drive is not seeking, and has no interrupt to announce. -/
structure Resting (drive : DiskDrive) : Prop where
  seeking : drive.seeking = 0
  interrupting : drive.interrupting = none

lemma Resting.countDown (resting : drive.Resting) : drive.countDown.Resting := by
  have idle : (0 : UInt32) ≠ 1 := by decide
  constructor <;> simp [DiskDrive.countDown, resting.seeking, resting.interrupting, idle]

lemma Resting.handle (resting : drive.Resting) {message : Message} (calm : Calm message) :
    (drive.handle message).Resting := by
  rw [DiskDrive.handle]
  split
  · next writes =>
    rw [handleWrite, if_neg (calm.seek writes)]
    split_ifs
    · exact ⟨resting.seeking, rfl⟩
    · exact ⟨resting.seeking, resting.interrupting⟩
    · exact resting
  · rw [handleRead]
    split_ifs
    · exact ⟨resting.seeking, resting.interrupting⟩
    · exact ⟨resting.seeking, resting.interrupting⟩
    · exact resting
  all_goals exact resting

/-- A drive at rest is woken by a seek only. -/
lemma Resting.tick (resting : drive.Resting) (calm : bus.All Calm) :
    (drive.tick bus).1.Resting := by
  have rested := resting.countDown
  rw [DiskDrive.tick]
  simp only
  split
  · exact rested
  · have nothing : drive.countDown.announce bus = (drive.countDown, bus) := by
      simp only [announce, rested.interrupting]
    rw [nothing]
    obtain ⟨answered, reply, -, same, -⟩ := (drive.countDown.accept bus).1.visit_sendReply
      (drive.countDown.accept bus).2 fun _ => none
    simp only [same]
    rcases accept_cases drive.countDown bus with kept | ⟨message, free, waiting, accepts⟩
    · rw [kept]
      exact ⟨rested.seeking, rested.interrupting⟩
    · rw [accepts]
      have handled := rested.handle (calm.of_message? waiting)
      exact ⟨handled.seeking, handled.interrupting⟩

end DiskDrive

namespace Machine

variable {machine later : Machine} {actor : Option Component} {bus after : Interconnect}
  {installed called : Prop}

/-- Nothing has been sought on the disk, and nothing interrupts. -/
structure Quiet (machine : Machine) (bus : Interconnect) : Prop where
  calm : bus.All Calm
  resting : machine.disk.Resting

/-- The boot core's line is raised for the disk only, and the disk interrupts only when its handler
has been installed. -/
structure OnlyDiskInterrupts (machine : Machine) (bus : Interconnect) : Prop where
  silent : machine.keyboard.Silent
  plain : bus.All Plain
  quiet : machine.Quiet bus ∨ machine.Installed bus
  raised : machine.processor.lines.isRaised machine.processor.boot.id = true → machine.Called bus

/-- A core that boots seeks nothing before the handler has been installed. -/
theorem OnlyDiskInterrupts.deals (interrupts : machine.OnlyDiskInterrupts bus)
    (inOrder : machine.InOrder)
    (ready : installed → machine.Installed bus)
    (deals : Deals machine.processor.boot.terminal (Sends installed called) bus after) :
    machine.OnlyDiskInterrupts after where
  silent := interrupts.silent
  plain := interrupts.plain.deals deals fun _ sends => sends.plain
  quiet := by
    by_cases stands : machine.Installed bus
    · exact Or.inr (stands.deals inOrder deals)
    · have quiet := interrupts.quiet.resolve_right stands
      exact Or.inl ⟨quiet.calm.deals deals fun _ sends => sends.calm (mt ready stands),
        quiet.resting⟩
  raised := fun raised => (interrupts.raised raised).deals inOrder deals

lemma Quiet.relay (quiet : machine.Quiet machine.bus) (inOrder : machine.InOrder)
    (silent : machine.keyboard.Silent) (relay : Relay machine actor later) :
    later.Quiet later.bus where
  calm := inOrder.all_relay relay silent (fun _ => calm_of_answered)
    (fun due => absurd quiet.resting.countDown.interrupting due) quiet.calm
  resting := by
    by_cases own : actor = some .disk
    · subst own
      have turn : later.disk = (machine.disk.tick machine.bus).1 := Peripheral.disk.inj relay.own.1
      rw [turn]
      exact quiet.resting.tick quiet.calm
    · rw [show later.disk = machine.disk from Peripheral.disk.inj (relay.part_eq own)]
      exact quiet.resting

/-- What has once been called, stays called. -/
lemma Called.relay (stands : machine.Called machine.bus)
    (exchange : machine.ControllerExchange machine.bus)
    (inOrder : machine.InOrder) (plain : machine.bus.All Plain)
    (relay : Relay machine actor later) : later.Called later.bus where
  latest := by
    by_cases own : actor = some .controller
    · subst own
      obtain ⟨taken, turn⟩ := exchange.controllerTurn inOrder plain relay
      rw [turn.latest, stands.latest, ite_self]
    · rw [(relay.controller_eq own).1, stands.latest]
  installed := (exchange.installed_relay inOrder plain relay).mpr stands.installed

/-- **Every turn behind the core keeps it so.** -/
theorem OnlyDiskInterrupts.relay (interrupts : machine.OnlyDiskInterrupts machine.bus)
    (exchange : machine.ControllerExchange machine.bus) (inOrder : machine.InOrder)
    (relay : Relay machine actor later) : later.OnlyDiskInterrupts later.bus where
  silent := relay.silent interrupts.silent
  plain := inOrder.all_relay relay interrupts.silent (fun _ => plain_of_answered)
    (fun _ => plain_interrupt) interrupts.plain
  quiet := interrupts.quiet.imp (fun quiet => quiet.relay inOrder interrupts.silent relay)
    (exchange.installed_relay inOrder interrupts.plain relay).mpr
  raised raised := by
    have stays (before : machine.processor.lines.isRaised machine.processor.boot.id = true) :
        later.Called later.bus :=
      (interrupts.raised before).relay exchange inOrder interrupts.plain relay
    rw [relay.cores.1] at raised
    by_cases own : actor = some .controller
    · subst own
      obtain ⟨taken, turn⟩ := exchange.controllerTurn inOrder interrupts.plain relay
      rw [turn.lines] at raised
      split_ifs at raised with accepted
      · -- an interrupt has been accepted, so the disk has been sought
        refine ⟨by rw [turn.latest, if_pos accepted],
          (exchange.installed_relay inOrder interrupts.plain relay).mpr
            (interrupts.quiet.resolve_left ?_)⟩
        intro quiet
        obtain ⟨id, accepts⟩ := Option.isSome_iff_exists.mp accepted
        obtain ⟨message, taken_eq, accepts⟩ := Option.bind_eq_some_iff.mp accepts
        have interrupt : message.kind? = some .interrupt := by
          rw [Message.accepted?] at accepts
          split_ifs at accepts with kind
          exact kind
        exact (quiet.calm.of_message? (turn.waiting message taken_eq)).interrupt interrupt
      · exact stays raised
    · rw [(relay.controller_eq own).2] at raised
      exact stays raised

end Machine

end PipelinedMachine
