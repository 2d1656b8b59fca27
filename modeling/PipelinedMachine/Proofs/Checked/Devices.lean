import PipelinedMachine.Proofs.Checked.Memory

/-!
# Devices with checked accesses

The display, the keyboard, the interrupt controller and the disk drive.  A screen cell or a slot of
the vector table is looked up only if there is one, the position in a block wraps at its end, and a
countdown is lowered only above zero; so on sturdy links a checked turn is the turn.  Frames of the
display are counted without an end, which takes a condition.

* `Display.tickChecked_eq`, `Keyboard.tickChecked_eq`, `InterruptController.tickChecked_eq`,
  `DiskDrive.tickChecked_eq` — no check fails in a turn;
* `InterruptController.raiseChecked_eq`, `DiskDrive.flushChecked_eq` — nor when the host raises an
  interrupt or asks for the image.
-/

namespace PipelinedMachine

open Interconnect

variable {bus : Interconnect} {terminals : Nat}

/-! ## The display -/

namespace Display

open AddressMap

/-- The word at an address. -/
def readChecked (display : Display) (address : Word) : Checked Word := do
  if address = displayCommand then pure display.lastCommand
  else if address = displayForeground then pure display.foreground
  else if address = displayBackground then pure display.background
  else
    match Word.offset? displayStart address with
    | some index =>
      if index < cellCount then
        let cell ← Checked.element display.cells.toArray index
        pure cell.character
      else pure 0
    | none => pure 0

/-- Carries out a command.  The frames are counted. -/
def commandChecked (display : Display) (number : Word) : Checked Display := do
  match DisplayCommand.ofNumber? number with
  | some .refresh =>
    let frames ← Checked.add display.frames 1
    pure { display with lastCommand := number, frames := frames }
  | some .clear =>
    let frames ← Checked.add display.frames 1
    pure { display with
      lastCommand := number
      frames := frames
      cells := Vector.replicate cellCount (blank display.foreground display.background) }
  | none => pure { display with lastCommand := number }

/-- The display after a value has been written to an address. -/
def writeChecked (display : Display) (address value : Word) : Checked Display := do
  if address = displayCommand then display.commandChecked value
  else if address = displayForeground then pure { display with foreground := value }
  else if address = displayBackground then pure { display with background := value }
  else
    match Word.offset? displayStart address with
    | some index =>
      if index < cellCount then
        Checked.place display.cells.toArray.size index
        let cell : Cell := ⟨value, display.foreground, display.background⟩
        pure { display with cells := display.cells.setIfInBounds index cell }
      else pure display
    | none => pure display

/-- One tick. -/
def tickChecked (display : Display) (bus : Interconnect) : Checked (Display × Interconnect) := do
  match ← bus.messageChecked display.terminal with
  | none => pure (display, bus)
  | some message =>
    match message.kind? with
    | some .write =>
      let cleared ← bus.clearChecked display.terminal
      let display ← display.writeChecked message.address message.value
      pure (display, cleared)
    | some .read =>
      let value ← display.readChecked message.address
      match ← bus.sendChecked display.terminal (Message.response message.address [value]) with
      | some sent =>
        let cleared ← sent.clearChecked display.terminal
        pure (display, cleared)
      | none => pure (display, bus)
    | some .response | some .command | some .interrupt | none =>
      let cleared ← bus.clearChecked display.terminal
      pure (display, cleared)

lemma readChecked_eq (display : Display) (address : Word) :
    display.readChecked address = pure (display.read address) := by
  rw [readChecked, read, cellAt?]
  split_ifs
  · rfl
  · rfl
  · rfl
  · cases Word.offset? displayStart address with
    | none => rfl
    | some index =>
      by_cases inside : index < cellCount
      · have within : index < display.cells.toArray.size := by rwa [Vector.size_toArray]
        simp [inside, Checked.element_eq (Array.getElem?_eq_getElem within)]
      · simp [inside]

variable {display : Display} (few : display.frames + 1 < UInt64.size)
include few

lemma commandChecked_eq (number : Word) :
    display.commandChecked number = pure (display.command number) := by
  rw [commandChecked, command]
  cases DisplayCommand.ofNumber? number with
  | none => rfl
  | some command => cases command <;> simp only [Checked.add_eq few, pure_bind]

lemma writeChecked_eq (address value : Word) :
    display.writeChecked address value = pure (display.write address value) := by
  rw [writeChecked, write]
  split_ifs
  · exact commandChecked_eq few value
  · rfl
  · rfl
  · cases Word.offset? displayStart address with
    | none => rfl
    | some index =>
      by_cases inside : index < cellCount
      · have within : index < display.cells.toArray.size := by rwa [Vector.size_toArray]
        simp only [if_pos inside, Checked.place_eq within, pure_bind]
      · have unchanged (cell : Cell) : display.cells.setIfInBounds index cell = display.cells := by
          rw [Vector.setIfInBounds_eq_of_size_le (Nat.le_of_not_lt inside)]
        simp only [if_neg inside, unchanged]

/-- No check fails in a turn of the display, if it can count one more frame. -/
lemma tickChecked_eq (sturdy : bus.Sturdy terminals) (inside : display.terminal.index < terminals) :
    display.tickChecked bus = pure (display.tick bus) := by
  have cleared := sturdy.clearChecked_eq inside
  rw [tickChecked, tick, sturdy.messageChecked_eq inside, pure_bind]
  cases bus.message? display.terminal with
  | none => rfl
  | some message =>
    cases kind : message.kind? with
    | none => simp only [kind, cleared, pure_bind]
    | some other =>
      cases other with
      | write => simp only [kind, cleared, writeChecked_eq few, pure_bind]
      | read =>
        simp only [kind, readChecked_eq, sturdy.sendChecked_eq inside, pure_bind]
        cases sent : bus.send? display.terminal
            (Message.response message.address [display.read message.address]) with
        | none => rfl
        | some after =>
          simp only [((Sturdy.kept terminals).send sent sturdy).clearChecked_eq inside, pure_bind]
      | response | command | interrupt => simp only [kind, cleared, pure_bind]

end Display

/-! ## The keyboard -/

namespace Keyboard

/-- Tries to announce the key that has been taken up. -/
def announceChecked (keyboard : Keyboard) (bus : Interconnect) :
    Checked (Keyboard × Interconnect) := do
  match keyboard.announcing with
  | none => pure (keyboard, bus)
  | some code =>
    match ← bus.sendChecked keyboard.terminal (Message.interrupt AddressMap.keyboardInterrupt) with
    | some bus => pure ({ keyboard with current := code, announcing := none }, bus)
    | none => pure (keyboard, bus)

/-- Answers a read with the current key. -/
def answerChecked (keyboard : Keyboard) (bus : Interconnect) : Checked Interconnect := do
  let message := Message.response AddressMap.keyboardRegister [keyboard.current]
  match ← bus.sendChecked keyboard.terminal message with
  | some bus => bus.clearChecked keyboard.terminal
  | none => pure bus

/-- One tick. -/
def tickChecked (keyboard : Keyboard) (bus : Interconnect) :
    Checked (Keyboard × Interconnect) := do
  let keyboard := keyboard.takeUp
  match ← bus.messageChecked keyboard.terminal with
  | none => keyboard.announceChecked bus
  | some message =>
    if message.kind? = some .read then
      let bus ← keyboard.answerChecked bus
      pure (keyboard, bus)
    else
      let bus ← bus.clearChecked keyboard.terminal
      keyboard.announceChecked bus

variable {keyboard : Keyboard} (sturdy : bus.Sturdy terminals)
  (inside : keyboard.terminal.index < terminals)
include sturdy inside

lemma announceChecked_eq : keyboard.announceChecked bus = pure (keyboard.announce bus) := by
  rw [announceChecked, announce]
  cases keyboard.announcing with
  | none => rfl
  | some code =>
    simp only [sturdy.sendChecked_eq inside, pure_bind]
    cases bus.send? keyboard.terminal (Message.interrupt AddressMap.keyboardInterrupt) <;> rfl

lemma answerChecked_eq : keyboard.answerChecked bus = pure (keyboard.answer bus) := by
  rw [answerChecked, answer]
  simp only [sturdy.sendChecked_eq inside, pure_bind]
  cases sent : bus.send? keyboard.terminal
      (Message.response AddressMap.keyboardRegister [keyboard.current]) with
  | none => rfl
  | some after => exact ((Sturdy.kept terminals).send sent sturdy).clearChecked_eq inside

/-- No check fails in a turn of the keyboard. -/
lemma tickChecked_eq : keyboard.tickChecked bus = pure (keyboard.tick bus) := by
  have inside : keyboard.takeUp.terminal.index < terminals := by rwa [terminal_takeUp]
  rw [tickChecked, tick]
  simp only [sturdy.messageChecked_eq inside, pure_bind]
  cases waiting : bus.message? keyboard.takeUp.terminal with
  | none => exact announceChecked_eq sturdy inside
  | some message =>
    have cleared := (Sturdy.kept terminals).clear waiting sturdy
    by_cases read : message.kind? = some .read
    · simp only [if_pos read, answerChecked_eq sturdy inside, pure_bind]
    · simp only [if_neg read, sturdy.clearChecked_eq inside, announceChecked_eq cleared inside,
        pure_bind]

end Keyboard

/-! ## The interrupt controller -/

namespace InterruptController

/-- The slot at an address. -/
def vectorChecked (controller : InterruptController) (address : Word) : Checked Word :=
  match Word.offset? AddressMap.vectorStart address with
  | some slot =>
    if slot < AddressMap.vectorSlots then Checked.element controller.vectors.toArray slot
    else pure 0
  | none => pure 0

/-- Replaces the slot at an address. -/
def setVectorChecked (controller : InterruptController) (address value : Word) :
    Checked InterruptController := do
  match Word.offset? AddressMap.vectorStart address with
  | some slot =>
    if slot < AddressMap.vectorSlots then
      Checked.place controller.vectors.toArray.size slot
      pure { controller with vectors := controller.vectors.setIfInBounds slot value }
    else pure controller
  | none => pure controller

/-- Raises an interrupt. -/
def raiseChecked (controller : InterruptController) (id : Word) (lines : InterruptLines) :
    Checked (InterruptController × InterruptLines) := do
  let raised ← controller.setVectorChecked AddressMap.lastInterrupt id
  pure (raised, lines.raise controller.bootCore)

/-- Sends a message, or keeps it until the link takes it. -/
def sendOrKeepChecked (controller : InterruptController) (message : Message)
    (bus : Interconnect) : Checked (InterruptController × Interconnect) := do
  match ← bus.sendChecked controller.terminal message with
  | some bus => pure ({ controller with unsent := none }, bus)
  | none => pure ({ controller with unsent := some message }, bus)

/-- Tries again to send an answer that was kept. -/
def sendUnsentChecked (controller : InterruptController) (bus : Interconnect) :
    Checked (InterruptController × Interconnect) :=
  match controller.unsent with
  | some message => controller.sendOrKeepChecked message bus
  | none => pure (controller, bus)

/-- Takes the waiting message. -/
def serveChecked (controller : InterruptController) (lines : InterruptLines)
    (bus : Interconnect) : Checked (InterruptController × InterruptLines × Interconnect) := do
  match ← bus.messageChecked controller.terminal with
  | none => pure (controller, lines, bus)
  | some message =>
    match message.kind? with
    | some .read =>
      match controller.unsent with
      | some _ => pure (controller, lines, bus)
      | none =>
        let cleared ← bus.clearChecked controller.terminal
        let value ← controller.vectorChecked message.address
        let (controller, bus) ← controller.sendOrKeepChecked
          (Message.response message.address [value]) cleared
        pure (controller, lines, bus)
    | some .write =>
      let cleared ← bus.clearChecked controller.terminal
      let controller ← controller.setVectorChecked message.address message.value
      pure (controller, lines, cleared)
    | some .interrupt =>
      let cleared ← bus.clearChecked controller.terminal
      let (controller, lines) ← controller.raiseChecked message.address lines
      pure (controller, lines, cleared)
    | some .response | some .command | none =>
      let cleared ← bus.clearChecked controller.terminal
      pure (controller, lines, cleared)

/-- One tick. -/
def tickChecked (controller : InterruptController) (lines : InterruptLines)
    (bus : Interconnect) : Checked (InterruptController × InterruptLines × Interconnect) := do
  let (controller, bus) ← controller.sendUnsentChecked bus
  controller.serveChecked lines bus

variable (controller : InterruptController)

lemma vectorChecked_eq (address : Word) :
    controller.vectorChecked address = pure (controller.vector address) := by
  rw [vectorChecked, vector]
  cases Word.offset? AddressMap.vectorStart address with
  | none => rfl
  | some slot =>
    by_cases inside : slot < AddressMap.vectorSlots
    · have within : slot < controller.vectors.toArray.size := by rwa [Vector.size_toArray]
      simp [inside, Checked.element_eq (Array.getElem?_eq_getElem within)]
    · simp [inside]

lemma setVectorChecked_eq (address value : Word) :
    controller.setVectorChecked address value = pure (controller.setVector address value) := by
  rw [setVectorChecked, setVector]
  cases Word.offset? AddressMap.vectorStart address with
  | none => rfl
  | some slot =>
    by_cases inside : slot < AddressMap.vectorSlots
    · have within : slot < controller.vectors.toArray.size := by rwa [Vector.size_toArray]
      simp only [if_pos inside, Checked.place_eq within, pure_bind]
    · have unchanged : controller.vectors.setIfInBounds slot value = controller.vectors := by
        rw [Vector.setIfInBounds_eq_of_size_le (Nat.le_of_not_lt inside)]
      simp only [if_neg inside, unchanged]

lemma raiseChecked_eq (id : Word) (lines : InterruptLines) :
    controller.raiseChecked id lines = pure (controller.raise id lines) := by
  rw [raiseChecked, setVectorChecked_eq, pure_bind, raise]

variable {controller} (sturdy : bus.Sturdy terminals)
  (inside : controller.terminal.index < terminals)
include sturdy inside

lemma sendOrKeepChecked_eq (message : Message) :
    controller.sendOrKeepChecked message bus = pure (controller.sendOrKeep message bus) := by
  rw [sendOrKeepChecked, sendOrKeep, sturdy.sendChecked_eq inside, pure_bind]
  cases bus.send? controller.terminal message <;> rfl

lemma sendUnsentChecked_eq :
    controller.sendUnsentChecked bus = pure (controller.sendUnsent bus) := by
  rw [sendUnsentChecked, sendUnsent]
  cases controller.unsent with
  | none => rfl
  | some message => exact sendOrKeepChecked_eq sturdy inside message

omit inside in
lemma sendUnsent_frame : (controller.sendUnsent bus).1.terminal = controller.terminal
    ∧ (controller.sendUnsent bus).2.Sturdy terminals := by
  rw [sendUnsent]
  cases controller.unsent with
  | none => exact ⟨rfl, sturdy⟩
  | some message =>
    simp only [sendOrKeep]
    cases sent : bus.send? controller.terminal message with
    | none => exact ⟨rfl, sturdy⟩
    | some after => exact ⟨rfl, (Sturdy.kept terminals).send sent sturdy⟩

lemma serveChecked_eq (lines : InterruptLines) :
    controller.serveChecked lines bus = pure (controller.serve lines bus) := by
  have checked := sturdy.clearChecked_eq inside
  rw [serveChecked, serve, sturdy.messageChecked_eq inside, pure_bind]
  cases waiting : bus.message? controller.terminal with
  | none => rfl
  | some message =>
    have cleared := (Sturdy.kept terminals).clear waiting sturdy
    cases kind : message.kind? with
    | none => simp only [kind, checked, pure_bind]
    | some other =>
      cases other with
      | read =>
        simp only [kind]
        cases controller.unsent with
        | some kept => rfl
        | none =>
          simp only [checked, vectorChecked_eq, sendOrKeepChecked_eq cleared inside, pure_bind]
      | write => simp only [kind, checked, setVectorChecked_eq, pure_bind]
      | interrupt => simp only [kind, checked, raiseChecked_eq, pure_bind]
      | response | command => simp only [kind, checked, pure_bind]

/-- No check fails in a turn of the interrupt controller. -/
lemma tickChecked_eq (lines : InterruptLines) :
    controller.tickChecked lines bus = pure (controller.tick lines bus) := by
  obtain ⟨same, between⟩ := sendUnsent_frame sturdy
  have inside' : (controller.sendUnsent bus).1.terminal.index < terminals := by rwa [same]
  rw [tickChecked, sendUnsentChecked_eq sturdy inside, pure_bind, tick]
  exact serveChecked_eq between inside' lines

end InterruptController

/-! ## The disk drive -/

namespace DiskDrive

/-- Writes the current block back to the image: as many words of it as a block has are copied. -/
def flushChecked (drive : DiskDrive) : Checked DiskDrive := do
  if drive.current < drive.image.capacity then
    let length := min drive.block.toArray.size blockWords
    Checked.slice blockWords length
    Checked.slice drive.block.toArray.size length
    pure drive.flush
  else pure drive

/-- Selects a block; the one before is written back first. -/
def seekChecked (drive : DiskDrive) (number : Word) : Checked DiskDrive := do
  match Word.offset? 0 number with
  | none => pure drive
  | some index =>
    if index < drive.image.capacity then
      let _ ← drive.flushChecked
      pure (drive.seek number)
    else pure drive

/-- Moves to the next word of the block.  The position is counted up before it wraps. -/
def stepChecked (drive : DiskDrive) : Checked DiskDrive := do
  let _ ← Checked.add drive.position 1
  pure drive.step

/-- Carries out a write.  A word of the block has its place before the position moves on. -/
def handleWriteChecked (drive : DiskDrive) (address value : Word) : Checked DiskDrive := do
  if address = AddressMap.diskSeek then drive.seekChecked value
  else if address = AddressMap.diskAcknowledge then pure { drive with interrupting := none }
  else if address = AddressMap.diskData then
    Checked.place drive.block.toArray.size drive.position
    let _ ← drive.stepChecked
    pure (drive.handleWrite address value)
  else pure drive

/-- Carries out a read. -/
def handleReadChecked (drive : DiskDrive) (address : Word) : Checked DiskDrive := do
  if address = AddressMap.diskData then
    let stepped ← drive.stepChecked
    let value ← Checked.element drive.block.toArray drive.position
    pure (stepped.answer address value)
  else if address = AddressMap.diskSeek then pure (drive.answer address drive.currentWord)
  else pure drive

/-- Carries out a request. -/
def handleChecked (drive : DiskDrive) (message : Message) : Checked DiskDrive :=
  match message.kind? with
  | some .write => drive.handleWriteChecked message.address message.value
  | some .read => drive.handleReadChecked message.address
  | some .response | some .command | some .interrupt | none => pure drive

/-- Counts a seek and an access down.  The countdown of an access ends at zero by itself. -/
def countDownChecked (drive : DiskDrive) : Checked DiskDrive := do
  let interrupting := if drive.seeking = 1 then some drive.interval else drive.interrupting
  let seeking ← if drive.seeking > 0 then Checked.sub drive.seeking 1 else pure 0
  pure { drive with
    interrupting := interrupting
    seeking := seeking
    accessing := if drive.accessing = 0 then 0 else drive.accessing - 1 }

/-- Sends the interrupt if it is due, and counts down to the next one. -/
def announceChecked (drive : DiskDrive) (bus : Interconnect) :
    Checked (DiskDrive × Interconnect) := do
  match drive.interrupting with
  | none => pure (drive, bus)
  | some remaining =>
    if remaining = drive.interval then
      match ← bus.sendChecked drive.terminal (Message.interrupt AddressMap.diskInterrupt) with
      | some bus =>
        let next ← Checked.sub remaining 1
        pure ({ drive with interrupting := some next }, bus)
      | none => pure (drive, bus)
    else
      let next ← if remaining ≤ 1 then pure drive.interval else Checked.sub remaining 1
      pure ({ drive with interrupting := some next }, bus)

/-- Takes the waiting message, unless an answer has still to be sent. -/
def acceptChecked (drive : DiskDrive) (bus : Interconnect) :
    Checked (DiskDrive × Interconnect) := do
  match drive.reply with
  | some _ => pure (drive, bus)
  | none =>
    match ← bus.messageChecked drive.terminal with
    | some message =>
      let cleared ← bus.clearChecked drive.terminal
      let drive ← drive.handleChecked message
      pure (drive, cleared)
    | none => pure (drive, bus)

/-- Sends the answer, unless an access is still going on. -/
def sendReplyChecked (drive : DiskDrive) (bus : Interconnect) :
    Checked (DiskDrive × Interconnect) := do
  if drive.accessing = 0 then
    let (reply, bus) ← PendingReply.tickChecked drive.reply drive.terminal bus
    pure ({ drive with reply := reply }, bus)
  else pure (drive, bus)

/-- One tick. -/
def tickChecked (drive : DiskDrive) (bus : Interconnect) : Checked (DiskDrive × Interconnect) := do
  let drive ← drive.countDownChecked
  if drive.seeking > 0 || drive.accessing > 0 then pure (drive, bus)
  else
    let (drive, bus) ← drive.announceChecked bus
    let (drive, bus) ← drive.acceptChecked bus
    drive.sendReplyChecked bus

variable (drive : DiskDrive)

lemma flushChecked_eq : drive.flushChecked = pure drive.flush := by
  rw [flushChecked, flush, DiskImage.write?]
  split_ifs
  · simp only [Checked.slice_eq (Nat.min_le_right _ _), Checked.slice_eq (Nat.min_le_left _ _),
      pure_bind]
  · rfl

lemma seekChecked_eq (number : Word) : drive.seekChecked number = pure (drive.seek number) := by
  rw [seekChecked]
  cases offset : Word.offset? 0 number with
  | none => rw [seek, offset]
  | some index =>
    by_cases within : index < drive.image.capacity
    · simp only [if_pos within, flushChecked_eq, pure_bind]
    · simp only [seek, offset, if_neg within]

lemma stepChecked_eq : drive.stepChecked = pure drive.step := by
  have inside : drive.position.val + 1 < UInt64.size := by
    have within : drive.position.val < 4096 := drive.position.isLt
    rw [UInt64.size]
    omega
  rw [stepChecked, Checked.add_eq inside, pure_bind]

lemma handleWriteChecked_eq (address value : Word) :
    drive.handleWriteChecked address value = pure (drive.handleWrite address value) := by
  have inside : drive.position.val < drive.block.toArray.size := by
    rw [Vector.size_toArray]
    exact drive.position.isLt
  rw [handleWriteChecked]
  split_ifs with seek acknowledge data
  · rw [seekChecked_eq, handleWrite, if_pos seek]
  · rw [handleWrite, if_neg seek, if_pos acknowledge]
  · rw [Checked.place_eq inside, pure_bind, stepChecked_eq, pure_bind]
  · rw [handleWrite, if_neg seek, if_neg acknowledge, if_neg data]

lemma handleReadChecked_eq (address : Word) :
    drive.handleReadChecked address = pure (drive.handleRead address) := by
  have inside : drive.position.val < drive.block.toArray.size := by
    rw [Vector.size_toArray]
    exact drive.position.isLt
  rw [handleReadChecked, handleRead]
  split_ifs
  · rw [stepChecked_eq, pure_bind, Checked.element_eq (Array.getElem?_eq_getElem inside), pure_bind]
    rfl
  · rfl
  · rfl

lemma handleChecked_eq (message : Message) :
    drive.handleChecked message = pure (drive.handle message) := by
  rw [handleChecked, handle]
  cases message.kind? with
  | none => rfl
  | some kind =>
    cases kind with
    | write => exact drive.handleWriteChecked_eq _ _
    | read => exact drive.handleReadChecked_eq _
    | response | command | interrupt => rfl

lemma countDownChecked_eq : drive.countDownChecked = pure drive.countDown := by
  rw [countDownChecked, countDown]
  by_cases positive : drive.seeking > 0
  · have nonzero : drive.seeking ≠ 0 := fun zero => by simp [zero] at positive
    simp only [if_pos positive, Checked.sub_one_eq positive, pure_bind, if_neg nonzero]
  · have zero : drive.seeking = 0 := by
      simpa [gt_iff_lt, UInt32.lt_iff_toNat_lt, ← UInt32.toNat_inj] using positive
    simp only [if_neg positive, pure_bind, if_pos zero]

lemma one_le_interval : 1 ≤ drive.interval := by
  change 1 ≤ if drive.timings.interruptRepeat ≤ 1 then 1 else drive.timings.interruptRepeat
  split
  · exact UInt32.le_refl 1
  · next above => exact (UInt32.le_total _ _).resolve_left above

variable {drive} (sturdy : bus.Sturdy terminals)
include sturdy

lemma announceChecked_eq (inside : drive.terminal.index < terminals) :
    drive.announceChecked bus = pure (drive.announce bus) := by
  rw [announceChecked, announce]
  cases drive.interrupting with
  | none => rfl
  | some remaining =>
    by_cases due : remaining = drive.interval
    · have positive : 1 ≤ remaining := due ▸ drive.one_le_interval
      simp only [if_pos due, sturdy.sendChecked_eq inside, pure_bind]
      cases bus.send? drive.terminal (Message.interrupt AddressMap.diskInterrupt) with
      | none => rfl
      | some after => simp only [Checked.sub_eq positive, pure_bind]
    · simp only [if_neg due]
      by_cases last : remaining ≤ 1
      · simp only [if_pos last, pure_bind]
      · have positive : 1 ≤ remaining := (UInt32.le_total _ _).resolve_left last
        simp only [if_neg last, Checked.sub_eq positive, pure_bind]

variable (drive) in
lemma announce_frame : (drive.announce bus).1.terminal = drive.terminal
    ∧ (drive.announce bus).2.Sturdy terminals := by
  rw [announce]
  cases drive.interrupting with
  | none => exact ⟨rfl, sturdy⟩
  | some remaining =>
    by_cases due : remaining = drive.interval
    · simp only [if_pos due]
      cases sent : bus.send? drive.terminal (Message.interrupt AddressMap.diskInterrupt) with
      | none => exact ⟨rfl, sturdy⟩
      | some after => exact ⟨rfl, (Sturdy.kept terminals).send sent sturdy⟩
    · simp only [if_neg due]
      exact ⟨trivial, sturdy⟩

lemma acceptChecked_eq (inside : drive.terminal.index < terminals) :
    drive.acceptChecked bus = pure (drive.accept bus) := by
  rw [acceptChecked, accept]
  cases drive.reply with
  | some reply => rfl
  | none =>
    simp only [sturdy.messageChecked_eq inside, pure_bind]
    cases bus.message? drive.terminal with
    | none => rfl
    | some message =>
      simp only [sturdy.clearChecked_eq inside, handleChecked_eq, pure_bind]

variable (drive) in
lemma accept_frame : (drive.accept bus).1.terminal = drive.terminal
    ∧ (drive.accept bus).2.Sturdy terminals := by
  rw [accept]
  cases drive.reply with
  | some reply => exact ⟨rfl, sturdy⟩
  | none =>
    cases waiting : bus.message? drive.terminal with
    | none => exact ⟨rfl, sturdy⟩
    | some message =>
      exact ⟨drive.terminal_handle message, (Sturdy.kept terminals).clear waiting sturdy⟩

lemma sendReplyChecked_eq (inside : drive.terminal.index < terminals) :
    drive.sendReplyChecked bus = pure (drive.sendReply bus) := by
  rw [sendReplyChecked, sendReply]
  by_cases ready : drive.accessing = 0
  · simp only [if_pos ready, PendingReply.tickChecked_eq sturdy inside, pure_bind]
  · simp only [if_neg ready]

/-- No check fails in a turn of the drive. -/
lemma tickChecked_eq (inside : drive.terminal.index < terminals) :
    drive.tickChecked bus = pure (drive.tick bus) := by
  rw [tickChecked, countDownChecked_eq, pure_bind, tick]
  by_cases busy : (drive.countDown.seeking > 0 || drive.countDown.accessing > 0) = true
  · rw [if_pos busy, if_pos busy]
  · have counted : drive.countDown.terminal.index < terminals := inside
    obtain ⟨same, sturdy'⟩ := announce_frame drive.countDown sturdy
    have announced : (drive.countDown.announce bus).1.terminal.index < terminals := by rwa [same]
    obtain ⟨same', sturdy''⟩ := accept_frame (drive.countDown.announce bus).1 sturdy'
    rw [if_neg busy, if_neg busy, announceChecked_eq sturdy counted, pure_bind]
    simp only [acceptChecked_eq sturdy' announced, pure_bind]
    exact sendReplyChecked_eq sturdy'' (by rwa [same'])

end DiskDrive

end PipelinedMachine
