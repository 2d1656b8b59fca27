import PipelinedMachine.Proofs.Device.Visits
import PipelinedMachine.Proofs.Disk.Running

/-!
# The disk drive as a disk with a cursor

To its link a drive looks like a row of blocks with a position in one of them.  The block under the
cursor is kept apart from the image and written back at odd moments, timers hold requests up, and
interrupts go out over the same link; none of this shows in what is read and written.

* `CursorDisk` — the disk as it looks: the blocks, the current one, the position in it;
* `CursorDisk.after`, `CursorDisk.answer?` — what a request does to it, and the answer;
* `DiskDrive.cursor` — how a drive looks;
* `DiskDrive.cursor_handle` — a request does to a drive what it does to the disk it looks like;
* `DiskDrive.Visit` — everything that a tick of a drive can do;
* **`DiskDrive.followsCursor_run`** — over every run a drive gives the answers of the disk that it
  looks like, takes requests only when it is at rest, and has that disk's contents.
-/

namespace PipelinedMachine

/-! ## The disk as it looks -/

/-- A row of blocks with a position in one of them. -/
structure CursorDisk where
  capacity : Nat
  blocks : Nat → Block
  current : Nat
  position : Fin blockWords

namespace CursorDisk

/-- The disk of an image, with the cursor at its start. -/
def ofImage (image : DiskImage) : CursorDisk where
  capacity := image.capacity
  blocks := image.read
  current := 0
  position := ⟨0, Nat.succ_pos 4095⟩

/-- The word under the cursor. -/
def word (disk : CursorDisk) : Word := (disk.blocks disk.current)[disk.position]

/-- The cursor moves on by a word, and from the last word of a block to its first. -/
def advance (disk : CursorDisk) : CursorDisk :=
  { disk with
    position := ⟨(disk.position + 1) % blockWords, Nat.mod_lt _ (Nat.succ_pos 4095)⟩ }

/-- The word under the cursor is replaced. -/
def put (disk : CursorDisk) (value : Word) : CursorDisk :=
  { disk with
    blocks := Function.update disk.blocks disk.current
      ((disk.blocks disk.current).set disk.position value) }

/-- The cursor moves to the start of a block; a number that is not that of a block, a negative one
among them, changes nothing. -/
def select (disk : CursorDisk) (number : Word) : CursorDisk :=
  if 0 ≤ number.toInt ∧ number.toInt < disk.capacity then
    { disk with current := number.toInt.toNat, position := ⟨0, Nat.succ_pos 4095⟩ }
  else disk

/-- The disk after a request. -/
def after (disk : CursorDisk) (message : Message) : CursorDisk :=
  match message.kind? with
  | some .write =>
    if message.address = AddressMap.diskSeek then disk.select message.value
    else if message.address = AddressMap.diskData then (disk.put message.value).advance
    else disk
  | some .read => if message.address = AddressMap.diskData then disk.advance else disk
  | some .response | some .command | some .interrupt | none => disk

/-- The answer to a request. -/
def answer? (disk : CursorDisk) (message : Message) : Option Message :=
  match message.kind? with
  | some .read =>
    if message.address = AddressMap.diskData then
      some (Message.response AddressMap.diskData [disk.word])
    else if message.address = AddressMap.diskSeek then
      some (Message.response AddressMap.diskSeek [Int32.ofNat disk.current])
    else none
  | some .write | some .response | some .command | some .interrupt | none => none

/-- The disk after some requests. -/
def afterAll (disk : CursorDisk) (messages : List Message) : CursorDisk :=
  messages.foldl after disk

/-- The answers to some requests. -/
def answers (disk : CursorDisk) : List Message → List Message
  | [] => []
  | message :: messages => (disk.answer? message).toList ++ (disk.after message).answers messages

lemma afterAll_append (disk : CursorDisk) (first second : List Message) :
    disk.afterAll (first ++ second) = (disk.afterAll first).afterAll second :=
  List.foldl_append

lemma answers_append (disk : CursorDisk) (first second : List Message) :
    disk.answers (first ++ second)
      = disk.answers first ++ (disk.afterAll first).answers second := by
  induction first generalizing disk with
  | nil => rfl
  | cons message first ih =>
    rw [List.cons_append, answers, answers, ih, List.append_assoc]
    rfl

end CursorDisk

namespace DiskDrive

/-! ## How a drive looks -/

/-- The disk that a drive looks like: the current block is the one in the drive, and not what the
image has under its number. -/
def cursor (drive : DiskDrive) : CursorDisk where
  capacity := drive.image.capacity
  blocks := fun index => if index = drive.current then drive.block else drive.image.read index
  current := drive.current
  position := drive.position

/-- The current block is one of the image's, and its number is a word. -/
structure Seated (drive : DiskDrive) : Prop where
  below : drive.current < drive.image.capacity
  word : drive.current ≤ Int32.maxValue.toNatClampNeg

variable {drive : DiskDrive}

lemma Seated.write? (seated : drive.Seated) :
    drive.image.write? drive.current drive.block
      = .ok (drive.image.store drive.current drive.block) := by
  rw [DiskImage.write?, if_pos seated.below]

lemma Seated.flush_eq (seated : drive.Seated) :
    drive.flush = { drive with image := drive.image.store drive.current drive.block } := by
  rw [flush, seated.write?]

/-- Writing the current block back does not show. -/
lemma Seated.cursor_flush (seated : drive.Seated) : drive.flush.cursor = drive.cursor := by
  rw [seated.flush_eq, cursor, cursor]
  simp only [DiskImage.capacity_store, CursorDisk.mk.injEq, true_and, and_true]
  funext index
  by_cases here : index = drive.current
  · rw [if_pos here, if_pos here]
  · rw [if_neg here, if_neg here, DiskImage.read_store, if_neg (Ne.symm here)]

lemma Seated.flush (seated : drive.Seated) : drive.flush.Seated := by
  rw [seated.flush_eq]
  exact ⟨seated.below, seated.word⟩

/-- What the host is given is what the drive looks like. -/
lemma Seated.read_contents (seated : drive.Seated) (index : Nat) :
    drive.contents.read index = drive.cursor.blocks index := by
  rw [contents, seated.flush_eq, cursor]
  simp only [DiskImage.read_store]
  by_cases here : index = drive.current
  · rw [if_pos here, if_pos here.symm]
  · rw [if_neg here, if_neg (Ne.symm here)]

lemma Seated.capacity_contents (seated : drive.Seated) :
    drive.contents.capacity = drive.cursor.capacity := by
  rw [contents, seated.flush_eq]
  rfl

/-! ## Requests -/

lemma toNat_toInt_le (number : Word) : number.toInt.toNat ≤ Int32.maxValue.toNatClampNeg := by
  have bound := number.toInt_le
  have largest : Int32.maxValue.toNatClampNeg = 2147483647 := rfl
  have largest' : Int32.maxValue.toInt = 2147483647 := rfl
  omega

/-- A seek changes nothing, or it moves to the start of a block after the old one has been written
back. -/
lemma seek_cases (drive : DiskDrive) (number : Word) :
    (0 ≤ number.toInt ∧ number.toInt < drive.image.capacity
        ∧ drive.seek number
          = { drive.flush with
              current := number.toInt.toNat
              block := drive.flush.image.read number.toInt.toNat
              position := 0
              seeking := max drive.flush.timings.seek 1 })
      ∨ (¬(0 ≤ number.toInt ∧ number.toInt < drive.image.capacity)
        ∧ drive.seek number = drive) := by
  rw [seek, Word.offset?_zero]
  by_cases positive : 0 ≤ number.toInt
  · rw [if_pos positive]
    simp only
    by_cases below : number.toInt.toNat < drive.image.capacity
    · exact Or.inl ⟨positive, by omega, if_pos below⟩
    · exact Or.inr ⟨fun inside => below (by omega), if_neg below⟩
  · rw [if_neg positive]
    exact Or.inr ⟨fun inside => positive inside.1, rfl⟩

/-- A seek shows as one.  The block that it moves to may be the current one, whose latest words are
then read back from the image. -/
lemma Seated.cursor_seek (seated : drive.Seated) (number : Word) :
    (drive.seek number).cursor = drive.cursor.select number := by
  rcases drive.seek_cases number with ⟨positive, below, moved⟩ | ⟨outside, same⟩
  · rw [moved, CursorDisk.select, if_pos ⟨positive, below⟩, cursor, cursor, seated.flush_eq]
    simp only [DiskImage.capacity_store, CursorDisk.mk.injEq, true_and]
    refine ⟨funext fun index => ?_, rfl⟩
    by_cases here : index = number.toInt.toNat
    · rw [if_pos here, ← here, DiskImage.read_store]
      by_cases current : index = drive.current
      · rw [if_pos current, if_pos current.symm]
      · rw [if_neg current, if_neg (Ne.symm current)]
    · rw [if_neg here, DiskImage.read_store]
      by_cases current : index = drive.current
      · rw [if_pos current, if_pos current.symm]
      · rw [if_neg current, if_neg (Ne.symm current)]
  · rw [same, CursorDisk.select]
    exact (if_neg outside).symm

lemma Seated.seek (seated : drive.Seated) (number : Word) : (drive.seek number).Seated := by
  rcases drive.seek_cases number with ⟨positive, below, moved⟩ | ⟨outside, same⟩
  · rw [moved, seated.flush_eq]
    refine ⟨?_, toNat_toInt_le number⟩
    simp only [DiskImage.capacity_store]
    omega
  · rwa [same]

/-- A write to the data register shows as one. -/
lemma cursor_putData (drive : DiskDrive) (value : Word) :
    (drive.handleWrite AddressMap.diskData value).cursor
      = (drive.cursor.put value).advance := by
  have seeks : AddressMap.diskData ≠ AddressMap.diskSeek := by decide
  have silences : AddressMap.diskData ≠ AddressMap.diskAcknowledge := by decide
  rw [handleWrite, if_neg seeks, if_neg silences, if_pos rfl]
  simp only [step, cursor, CursorDisk.put, CursorDisk.advance, CursorDisk.mk.injEq, true_and]
  refine ⟨funext fun index => ?_, rfl⟩
  by_cases here : index = drive.current
  · simp [here]
  · simp [here]

lemma cursor_handleWrite (seated : drive.Seated) (address value : Word) :
    (drive.handleWrite address value).cursor
      = if address = AddressMap.diskSeek then drive.cursor.select value
        else if address = AddressMap.diskData then (drive.cursor.put value).advance
        else drive.cursor := by
  by_cases seeks : address = AddressMap.diskSeek
  · rw [handleWrite, if_pos seeks, if_pos seeks, seated.cursor_seek]
  · rw [if_neg seeks]
    by_cases writes : address = AddressMap.diskData
    · rw [if_pos writes, writes]
      exact cursor_putData drive value
    · rw [if_neg writes, handleWrite, if_neg seeks, if_neg writes]
      split <;> rfl

lemma cursor_handleRead (drive : DiskDrive) (address : Word) :
    (drive.handleRead address).cursor
      = if address = AddressMap.diskData then drive.cursor.advance else drive.cursor := by
  rw [handleRead]
  by_cases reads : address = AddressMap.diskData
  · rw [if_pos reads, if_pos reads]
    rfl
  · rw [if_neg reads, if_neg reads]
    split <;> rfl

/-- **A request does to a drive what it does to the disk that the drive looks like.** -/
lemma Seated.cursor_handle (seated : drive.Seated) (message : Message) :
    (drive.handle message).cursor = drive.cursor.after message := by
  rw [CursorDisk.after]
  split
  · next writes =>
    rw [← cursor_handleWrite seated, handle, writes]
  · next reads =>
    rw [← cursor_handleRead, handle, reads]
  all_goals next other => rw [handle_of_other (by simp [other]) (by simp [other])]

lemma Seated.handle (seated : drive.Seated) (message : Message) :
    (drive.handle message).Seated := by
  rw [DiskDrive.handle]
  split
  · rw [handleWrite]
    split_ifs
    · exact seated.seek _
    · exact ⟨seated.below, seated.word⟩
    · exact ⟨seated.below, seated.word⟩
    · exact seated
  · rw [handleRead]
    split_ifs
    · exact ⟨seated.below, seated.word⟩
    · exact ⟨seated.below, seated.word⟩
    · exact seated
  all_goals exact seated

/-- The answer of a drive is that of the disk it looks like. -/
lemma Seated.answer?_eq (seated : drive.Seated) :
    drive.answer? = drive.cursor.answer? := by
  funext message
  rw [answer?, CursorDisk.answer?]
  split
  · next reads =>
    rw [reads]
    split_ifs
    · simp only [CursorDisk.word, cursor, if_true]
      rfl
    · simp [currentWord, seated.word, cursor]
    · rfl
  · next other =>
    split <;> first | rfl | contradiction

/-! ## Turns -/

/-- A turn does to what the drive looks like what the request does that it takes, and nothing
else. -/
lemma Seated.cursor_round (seated : drive.Seated) {taken : Option Message} {later : DiskDrive}
    (round : drive.Round taken later) :
    later.Seated ∧ later.cursor = drive.cursor.afterAll taken.toList := by
  cases round with
  | passed | rested => exact ⟨⟨seated.below, seated.word⟩, rfl⟩
  | served message interrupting reply =>
    have ready : ({ drive.countDown with interrupting := interrupting } : DiskDrive).Seated :=
      ⟨seated.below, seated.word⟩
    have handled := ready.handle message
    exact ⟨⟨handled.below, handled.word⟩, ready.cursor_handle message⟩

/-- A request is taken only by a drive that is at rest and owes no answer. -/
lemma Round.rested_of_taken {later : DiskDrive} {message : Message}
    (round : drive.Round (some message) later) :
    drive.reply = none ∧ drive.countDown.seeking = 0 ∧ drive.countDown.accessing = 0 := by
  cases round with
  | served _ _ _ rest free => exact ⟨free, rest⟩

/-! ## Runs -/

/-- A drive on its link.  All that the host does is ask for the image, for which the current block
is written back. -/
instance : Endpoint DiskDrive Unit where
  terminal := terminal
  turn := tick
  host drive _ := drive.flush
  handled drive bus := by
    obtain ⟨taken, announced, answered, visit, -⟩ := drive.visit_round bus
    exact ⟨taken, _, visit.handled⟩
  terminal_turn := terminal_tick
  terminal_host drive _ := drive.terminal_flush

/-- A drive on its link behaves like a disk that started as `start`. -/
structure FollowsCursor (start : CursorDisk) (attended : Attended DiskDrive) : Prop where
  /-- It looks like that disk after the requests that it has taken. -/
  cursor : attended.component.cursor = start.afterAll attended.taken
  /-- It has sent that disk's answers, in order and word for word, but for the one that it still
  owes. -/
  answers : attended.sent.filter Message.isResponse ++ attended.component.owed
    = start.answers attended.taken
  /-- It has taken the requests in the order in which they were sent. -/
  link : attended.Conserved
  /-- It takes one request in a turn at most, and none while it seeks, while an access goes on or
  while it owes an answer. -/
  rested : (attended.step .turn).taken = attended.taken
    ∨ ∃ message, (attended.step .turn).taken = attended.taken ++ [message]
      ∧ attended.bus.message? attended.near = some message
      ∧ attended.component.reply = none ∧ attended.component.countDown.seeking = 0
      ∧ attended.component.countDown.accessing = 0
  /-- The image that the host is given has that disk's size. -/
  capacity : attended.component.contents.capacity = start.capacity
  /-- It has that disk's blocks. -/
  blocks : ∀ index, attended.component.contents.read index
    = (start.afterAll attended.taken).blocks index
  /-- It keeps those that are not all zeros, and no others. -/
  stored : ∀ index, index ∈ attended.component.contents.stored
    ↔ (start.afterAll attended.taken).blocks index ≠ Block.zeros

end DiskDrive

/-! ### The disk's side -/

namespace CursorDisk

lemma capacity_after (disk : CursorDisk) (message : Message) :
    (disk.after message).capacity = disk.capacity := by
  rw [after]
  split
  · split_ifs
    · rw [select]
      split <;> rfl
    all_goals rfl
  · split_ifs <;> rfl
  all_goals rfl

lemma capacity_afterAll (disk : CursorDisk) (messages : List Message) :
    (disk.afterAll messages).capacity = disk.capacity := by
  induction messages generalizing disk with
  | nil => rfl
  | cons message messages ih => exact (ih (disk.after message)).trans (disk.capacity_after message)

lemma isResponse_of_answer? {disk : CursorDisk} {message answer : Message}
    (answers : disk.answer? message = some answer) : answer.isResponse = true := by
  rw [answer?] at answers
  split at answers
  · split_ifs at answers
    · obtain rfl := Option.some.inj answers
      rfl
    · obtain rfl := Option.some.inj answers
      rfl
  all_goals contradiction

lemma isResponse_of_mem_answers {disk : CursorDisk} {messages : List Message} :
    ∀ answer ∈ disk.answers messages, answer.isResponse = true := by
  induction messages generalizing disk with
  | nil => simp [answers]
  | cons message messages ih =>
    intro answer member
    rw [answers, List.mem_append, Option.mem_toList] at member
    rcases member with here | later
    · exact isResponse_of_answer? here
    · exact ih answer later

end CursorDisk

namespace DiskDrive

variable {drive : DiskDrive}

/-- What a run keeps true of a drive and the record of its turns. -/
structure Follows (start : CursorDisk) (drive : DiskDrive) (taken sent : List Message) :
    Prop where
  seated : drive.Seated
  serves : drive.Serves start.capacity
  cursor : drive.cursor = start.afterAll taken
  answers : sent.filter Message.isResponse ++ drive.owed = start.answers taken

variable {start : CursorDisk} {taken sent : List Message}

/-- A turn sends the answers of the disk, in order. -/
lemma Follows.turn (follows : drive.Follows start taken sent) (bus : Interconnect) :
    ∃ taken' sent', Interconnect.Handled drive.terminal bus (drive.tick bus).2 taken' sent'
      ∧ (drive.tick bus).1.Follows start (taken ++ taken'.toList) (sent ++ sent'.toList) := by
  obtain ⟨message?, announced, answered, visit, round⟩ := drive.visit_round bus
  obtain ⟨seated, moved⟩ := follows.seated.cursor_round round
  refine ⟨message?, _, visit.handled, seated, follows.serves.tick bus, ?_, ?_⟩
  · rw [moved, follows.cursor, ← CursorDisk.afterAll_append]
  · have due : (message?.bind drive.answer?).toList
        = (start.afterAll taken).answers message?.toList := by
      rw [follows.seated.answer?_eq, follows.cursor]
      cases message? <;> simp [CursorDisk.answers]
    have account : sent.filter Message.isResponse ++ (answered.toList ++ (drive.tick bus).1.owed)
        = start.answers (taken ++ message?.toList) := by
      rw [← visit.settled, ← List.append_assoc, follows.answers, due, ← CursorDisk.answers_append]
    have response (answer : Message) (said : answered = some answer) :
        answer.isResponse = true := by
      have among : answer ∈ start.answers (taken ++ message?.toList) := by
        rw [← account, said]
        simp
      exact CursorDisk.isResponse_of_mem_answers answer among
    rw [List.filter_append, visit.filter_sent response, List.append_assoc, account]

lemma Follows.followsCursor {attended : Attended DiskDrive}
    (follows : attended.component.Follows start attended.taken attended.sent)
    (conserved : attended.Conserved) : FollowsCursor start attended where
  cursor := follows.cursor
  answers := follows.answers
  link := conserved
  rested := by
    obtain ⟨message?, announced, answered, visit, round⟩ :=
      attended.component.visit_round attended.bus
    rw [attended.step_turn visit.handled]
    cases message? with
    | none => exact Or.inl (List.append_nil _)
    | some message =>
      exact Or.inr ⟨message, rfl, visit.handled.waiting message rfl, round.rested_of_taken⟩
  capacity := by
    rw [follows.seated.capacity_contents, follows.cursor, CursorDisk.capacity_afterAll]
  blocks := fun index => by rw [follows.seated.read_contents, follows.cursor]
  stored := fun index => by
    rw [← follows.cursor, ← follows.seated.read_contents, ne_eq,
      follows.serves.contents.1.tidy.read_eq_zeros_iff, not_not]

/-- A new drive looks like the disk that its image holds. -/
lemma cursor_reset (terminal : Terminal) (image : DiskImage) (timings : DiskTimings) :
    (reset terminal image timings).cursor = .ofImage image := by
  simp only [cursor, reset, CursorDisk.ofImage, CursorDisk.mk.injEq, true_and]
  exact ⟨funext fun index => ite_eq_right_iff.mpr fun first => by rw [first], rfl⟩

/-- **Over every run, a drive on its link is a disk with a cursor.** -/
theorem followsCursor_run {image : DiskImage} (reachable : image.Reachable)
    (blocks : 0 < image.capacity) (terminal : Terminal) (timings : DiskTimings)
    {attended : Attended DiskDrive} (reset : attended.component = reset terminal image timings)
    (fresh : attended.Fresh) (actions : List (LinkAction Unit)) :
    FollowsCursor (.ofImage image) (attended.run actions) := by
  have start : attended.component.Follows (.ofImage image) attended.taken attended.sent := by
    rw [fresh.taken, fresh.sent, reset]
    exact {
      seated := ⟨blocks, Nat.zero_le _⟩
      serves := ⟨reachable, rfl⟩
      cursor := cursor_reset terminal image timings
      answers := rfl }
  have follows : (attended.run actions).component.Follows (.ofImage image)
      (attended.run actions).taken (attended.run actions).sent :=
    Attended.invariant_run (Follows (.ofImage image))
      (fun drive bus taken sent _ kept => kept.turn bus)
      (fun drive _ taken sent kept => ⟨kept.seated.flush, kept.serves.flush,
        kept.seated.cursor_flush.trans kept.cursor, by
          rw [← kept.answers]
          show _ ++ drive.flush.owed = _
          rw [owed, reply_flush]
          rfl⟩)
      start rfl actions
  exact follows.followsCursor (fresh.conserved.run actions)

/-- A new drive with two blocks of zeros, on a new link. -/
def blankDrive : Attended DiskDrive where
  component := reset ⟨1⟩ (.blank 2) ⟨3, 1, 5⟩
  bus := (Interconnect.empty.link 1 10).1

/-- A word is written just before a seek away from its block.  Then the drive is asked which block
it has come to. -/
def seeks : List (LinkAction Unit) :=
  [.offer (Message.write AddressMap.diskData 7), .tick, .tick, .tick, .turn,
    .offer (Message.write AddressMap.diskSeek 1), .tick, .tick, .tick, .turn, .host (),
    .offer (Message.read AddressMap.diskSeek 1), .tick, .tick, .tick, .turn, .turn, .turn, .turn,
    .tick, .tick, .receive, .turn]

/-- It is in the second block, and the word is in the first one. -/
theorem followsCursor_of_seeks :
    FollowsCursor (.ofImage (.blank 2)) (blankDrive.run seeks)
      ∧ (blankDrive.run seeks).sent.filter Message.isResponse
        = [Message.response AddressMap.diskSeek [1]]
      ∧ (blankDrive.run seeks).component.contents.read 0 = Block.zeros.set 0 7
      ∧ (blankDrive.run seeks).component.contents.read 1 = Block.zeros := by
  have follows : FollowsCursor (.ofImage (.blank 2)) (blankDrive.run seeks) :=
    followsCursor_run (.blank 2) (by decide) ⟨1⟩ ⟨3, 1, 5⟩ rfl ⟨rfl, rfl, rfl, rfl, rfl, rfl⟩ _
  have taken : (blankDrive.run seeks).taken
      = [Message.write AddressMap.diskData 7, Message.write AddressMap.diskSeek 1,
        Message.read AddressMap.diskSeek 1] := by
    decide +kernel
  refine ⟨follows, by decide +kernel, ?_, ?_⟩ <;> rw [follows.blocks, taken] <;> rfl

end DiskDrive

end PipelinedMachine
