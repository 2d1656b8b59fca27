import PipelinedMachine.Proofs.Device.Answers
import PipelinedMachine.Proofs.Device.Cursor
import PipelinedMachine.Proofs.Link.History

/-!
# The countdowns of the drive

Three countdowns decide what a drive does in a turn: that of a seek, that of an access, and the one
to the next interrupt.  While a seek or an access goes on, nothing else moves.  The third says with
one number whether the interrupt is due and how long it is not.

* `DiskDrive.Completes`, `DiskDrive.Active` — what the countdowns of the seek and the access mean
  for a turn;
* `DiskDrive.Rings`, `DiskDrive.Acknowledges`, `DiskDrive.Selects` — what shows of a turn;
* `DiskDrive.Heeding` — what a request does to the countdowns;
* `DiskDrive.Passing`, `DiskDrive.passing_step` — everything that a turn does to them.
-/

namespace PipelinedMachine

open Interconnect

namespace DiskDrive

/-! ## What happens in a turn -/

/-- A seek is completed. -/
def Completes (turn : Attended DiskDrive) : Prop := turn.component.seeking = 1

/-- No seek and no access goes on. -/
def Active (turn : Attended DiskDrive) : Prop :=
  turn.component.countDown.seeking = 0 ∧ turn.component.countDown.accessing = 0

instance : DecidablePred Active := fun _ => inferInstanceAs (Decidable (_ ∧ _))

/-- How many of the turns are active ones. -/
def activeTurns (turns : List (Attended DiskDrive)) : Nat :=
  turns.countP fun turn => decide (Active turn)

/-- The link accepts the interrupt. -/
def Rings (turn : Attended DiskDrive) : Prop :=
  turn.sends? = some (Message.interrupt AddressMap.diskInterrupt)

/-- The link would accept the interrupt. -/
def Accepts (turn : Attended DiskDrive) : Prop :=
  (turn.bus.send? turn.near (Message.interrupt AddressMap.diskInterrupt)).isSome = true

/-- The message acknowledges the interrupt. -/
def Acknowledgement (message : Message) : Prop :=
  message.kind? = some .write ∧ message.address = AddressMap.diskAcknowledge

/-- The message selects one of the blocks of a disk. -/
def Selection (capacity : Nat) (message : Message) : Prop :=
  message.kind? = some .write ∧ message.address = AddressMap.diskSeek
    ∧ 0 ≤ message.value.toInt ∧ message.value.toInt < capacity

/-- An acknowledgement is taken. -/
def Acknowledges (turn : Attended DiskDrive) : Prop :=
  ∃ message, turn.takes? = some message ∧ Acknowledgement message

/-- A selection is taken. -/
def Selects (capacity : Nat) (turn : Attended DiskDrive) : Prop :=
  ∃ message, turn.takes? = some message ∧ Selection capacity message

/-- Nothing shows of the turn. -/
structure Idle (turn : Attended DiskDrive) : Prop where
  takes : turn.takes? = none
  sends : turn.sends? = none
  completes : ¬Completes turn

/-! ## What a turn does to the countdowns -/

section
variable {drive : DiskDrive} {bus : Interconnect}

/-- The countdown to the next interrupt after an active turn that does not send it. -/
def recount (drive : DiskDrive) (remaining : UInt32) : UInt32 :=
  if remaining = drive.interval ∨ remaining ≤ 1 then drive.interval else remaining - 1

lemma announce_spec (drive : DiskDrive) (bus : Interconnect) :
    ∃ interrupting announced,
      Handled drive.terminal bus (drive.announce bus).2 none announced
      ∧ (drive.announce bus).1 = { drive with interrupting := interrupting }
      ∧ (announced = some (Message.interrupt AddressMap.diskInterrupt)
          ∧ interrupting = some (drive.interval - 1)
          ∧ drive.interrupting = some drive.interval
          ∧ (bus.send? drive.terminal (Message.interrupt AddressMap.diskInterrupt)).isSome
        ∨ announced = none ∧ interrupting = drive.interrupting.map drive.recount
          ∧ ¬(drive.interrupting = some drive.interval
            ∧ (bus.send? drive.terminal (Message.interrupt AddressMap.diskInterrupt)).isSome)) := by
  rcases drive.announce_cases bus with
    ⟨quiet, same⟩ | ⟨due, ⟨after, sent, same⟩ | ⟨refused, same⟩⟩ |
      ⟨remaining, counting, early, same⟩ <;> rw [same]
  · exact ⟨none, none, .nothing _ _, by rw [← quiet],
      Or.inr ⟨rfl, by simp [quiet], by simp [quiet]⟩⟩
  · exact ⟨_, _, .of_send? sent, rfl, Or.inl ⟨rfl, rfl, due, by simp [sent]⟩⟩
  · exact ⟨some drive.interval, none, .nothing _ _, by rw [← due],
      Or.inr ⟨rfl, by simp [due, recount], by simp [refused]⟩⟩
  · refine ⟨_, none, .nothing _ _, rfl, Or.inr ⟨rfl, ?_, by simp [counting, early]⟩⟩
    simp [counting, recount, early]

lemma flush_eq (drive : DiskDrive) :
    ∃ image, drive.flush = { drive with image := image }
      ∧ image.capacity = drive.image.capacity := by
  rw [flush, DiskImage.write?]
  split_ifs
  · exact ⟨_, rfl, rfl⟩
  · exact ⟨drive.image, rfl, rfl⟩

/-- What a request does to the countdowns. -/
structure Heeding (drive : DiskDrive) (message : Message) (later : DiskDrive) : Prop where
  timings : later.timings = drive.timings
  capacity : later.image.capacity = drive.image.capacity
  acknowledged : Acknowledgement message → later.interrupting = none
  unacknowledged : ¬Acknowledgement message → later.interrupting = drive.interrupting
  selected : Selection drive.image.capacity message → later.seeking = max drive.timings.seek 1
  unselected : ¬Selection drive.image.capacity message → later.seeking = drive.seeking

/-- A request that is neither an acknowledgement nor a selection leaves them alone. -/
lemma Heeding.of_other {message : Message} {later : DiskDrive}
    (acknowledgement : ¬Acknowledgement message)
    (selection : ¬Selection drive.image.capacity message)
    (timings : later.timings = drive.timings)
    (capacity : later.image.capacity = drive.image.capacity)
    (interrupting : later.interrupting = drive.interrupting)
    (seeking : later.seeking = drive.seeking) : Heeding drive message later where
  timings := timings
  capacity := capacity
  acknowledged := fun acknowledges => absurd acknowledges acknowledgement
  unacknowledged := fun _ => interrupting
  selected := fun selects => absurd selects selection
  unselected := fun _ => seeking

lemma heeding_seek {message : Message} (writes : message.kind? = some .write)
    (address : message.address = AddressMap.diskSeek) :
    Heeding drive message (drive.seek message.value) := by
  have other : ¬Acknowledgement message := fun acknowledges =>
    absurd (address.symm.trans acknowledges.2) (by decide)
  obtain ⟨image, same, capacity⟩ := drive.flush_eq
  rcases drive.seek_cases message.value with ⟨positive, below, moved⟩ | ⟨outside, same⟩
  · rw [moved, same]
    exact {
      timings := rfl
      capacity := capacity
      acknowledged := fun acknowledges => absurd acknowledges other
      unacknowledged := fun _ => rfl
      selected := fun _ => rfl
      unselected := fun unselected => absurd ⟨writes, address, positive, below⟩ unselected }
  · rw [same]
    exact .of_other other (fun selects => outside selects.2.2) rfl rfl rfl rfl

lemma heeding_handle (drive : DiskDrive) (message : Message) :
    Heeding drive message (drive.handle message) := by
  have unwritten (other : message.kind? ≠ some .write) :
      ¬Acknowledgement message ∧ ¬Selection drive.image.capacity message :=
    ⟨fun acknowledges => other acknowledges.1, fun selects => other selects.1⟩
  rw [handle]
  split
  · next writes =>
    rw [handleWrite]
    split_ifs with seeks silences stores
    · exact heeding_seek writes seeks
    · exact {
        timings := rfl
        capacity := rfl
        acknowledged := fun _ => rfl
        unacknowledged := fun other => absurd ⟨writes, silences⟩ other
        selected := fun selects => absurd selects.2.1 seeks
        unselected := fun _ => rfl }
    all_goals
      exact .of_other (fun acknowledges => silences acknowledges.2)
        (fun selects => seeks selects.2.1) rfl rfl rfl rfl
  · next reads =>
    obtain ⟨acknowledgement, selection⟩ := unwritten (by simp [reads])
    rw [handleRead]
    split_ifs <;> exact .of_other acknowledgement selection rfl rfl rfl rfl
  all_goals
    next other =>
    obtain ⟨acknowledgement, selection⟩ := unwritten (by simp [other])
    exact .of_other acknowledgement selection rfl rfl rfl rfl

lemma isResponse_of_answer? {message answer : Message}
    (answers : drive.answer? message = some answer) : answer.isResponse = true := by
  rw [answer?] at answers
  split_ifs at answers <;> obtain rfl := Option.some.inj answers <;> rfl

/-- What the drive holds back are answers. -/
def OwesAnswers (drive : DiskDrive) : Prop :=
  ∀ message ∈ drive.owed, message.isResponse = true

/-- What a turn does to the countdowns. -/
structure Passing (here : Attended DiskDrive) (later : DiskDrive) : Prop where
  timings : later.timings = here.component.timings
  capacity : later.image.capacity = here.component.image.capacity
  answers : later.OwesAnswers
  takes : ¬Active here → here.takes? = none
  sends : ¬Active here → here.sends? = none
  rings_iff : Rings here
    ↔ Active here ∧ here.component.countDown.interrupting = some here.component.interval
      ∧ Accepts here
  acknowledged : Acknowledges here → later.interrupting = none
  rung : ¬Acknowledges here → Rings here →
    later.interrupting = some (here.component.interval - 1)
  counted : ¬Acknowledges here → ¬Rings here → Active here →
    later.interrupting
      = here.component.countDown.interrupting.map here.component.recount
  paused : ¬Active here → later.interrupting = here.component.countDown.interrupting
  selected : Selects here.component.image.capacity here →
    later.seeking = max here.component.timings.seek 1
  unselected : ¬Selects here.component.image.capacity here →
    later.seeking = here.component.countDown.seeking

variable {here : Attended DiskDrive}

/-- A turn of a seek or an access. -/
lemma passing_of_going (answers : here.component.OwesAnswers) (going : ¬Active here) :
    Passing here (here.step .turn).component := by
  have same : here.component.tick here.bus = (here.component.countDown, here.bus) :=
    tick_of_going (by rwa [Active, not_and_or] at going) here.bus
  have handled : Handled here.near here.bus (here.component.tick here.bus).2 none none := by
    rw [same]
    exact .nothing _ _
  have takes : here.takes? = none := Attended.takes?_eq handled
  have sends : here.sends? = none := Attended.sends?_eq handled
  have later : (here.step .turn).component = here.component.countDown := congrArg Prod.fst same
  have silent : ¬Rings here := by simp [Rings, sends]
  rw [later]
  exact {
    timings := rfl
    capacity := rfl
    answers := answers
    takes := fun _ => takes
    sends := fun _ => sends
    rings_iff := ⟨fun rings => absurd rings silent, fun active => absurd active.1 going⟩
    acknowledged := by simp [Acknowledges, takes]
    rung := fun _ rings => absurd rings silent
    counted := fun _ _ active => absurd active going
    paused := fun _ => rfl
    selected := by simp [Selects, takes]
    unselected := fun _ => rfl }

/-- What becomes of the countdowns once the interrupt has had its turn. -/
lemma passing_of_heeding {ready later : DiskDrive} {interrupting : Option UInt32}
    {taken : Option Message} {reply : Option PendingReply}
    (moved : ready = { here.component.countDown with interrupting := interrupting })
    (same : later = { taken.elim ready ready.handle with reply := reply })
    (takes : here.takes? = taken) :
    later.timings = here.component.timings
      ∧ later.image.capacity = here.component.image.capacity
      ∧ (Acknowledges here → later.interrupting = none)
      ∧ (¬Acknowledges here → later.interrupting = interrupting)
      ∧ (Selects here.component.image.capacity here →
          later.seeking = max here.component.timings.seek 1)
      ∧ (¬Selects here.component.image.capacity here →
          later.seeking = here.component.countDown.seeking) := by
  subst same
  cases taken with
  | none =>
    subst moved
    exact ⟨rfl, rfl, by simp [Acknowledges, takes], fun _ => rfl, by simp [Selects, takes],
      fun _ => rfl⟩
  | some message =>
    have heeding := ready.heeding_handle message
    have acknowledges : Acknowledges here ↔ Acknowledgement message := by
      simp [Acknowledges, takes]
    have selects : Selects here.component.image.capacity here
        ↔ Selection ready.image.capacity message := by
      rw [moved]
      simp [Selects, takes, countDown]
    rw [acknowledges, selects]
    refine ⟨heeding.timings.trans (by rw [moved]; rfl), heeding.capacity.trans (by rw [moved]; rfl),
      heeding.acknowledged, fun other => (heeding.unacknowledged other).trans (by rw [moved]),
      fun selection => (heeding.selected selection).trans (by rw [moved]; rfl),
      fun other => (heeding.unselected other).trans (by rw [moved])⟩

/-- A turn in which nothing keeps the drive from its link. -/
lemma passing_of_active (answers : here.component.OwesAnswers) (active : Active here) :
    Passing here (here.step .turn).component := by
  have same := tick_of_rest active here.bus
  obtain ⟨interrupting, announced, announcing, moved, outcome⟩ :=
    here.component.countDown.announce_spec here.bus
  generalize here.component.countDown.announce here.bus = announcement at same announcing moved
  obtain ⟨ready, between⟩ := announcement
  simp only at same announcing moved
  obtain ⟨taken, answered, reply, visit, later, -, -⟩ := ready.visit_respond between
  rw [← same] at visit later
  have near : ready.terminal = here.near := by rw [moved]; rfl
  have owes : ready.owed = here.component.owed := by rw [moved]; rfl
  rw [near, owes] at visit
  have handled : Handled here.near here.bus (here.component.tick here.bus).2 taken
      (announced.or answered) := by
    have both := announcing.trans visit.handled
    rwa [Option.none_or, Option.none_or] at both
  have takes : here.takes? = taken := Attended.takes?_eq handled
  have sends : here.sends? = announced.or answered := Attended.sends?_eq handled
  have response (message : Message)
      (member : message ∈ answered.toList ++ (here.step .turn).component.owed) :
      message.isResponse = true := by
    rw [show (here.step .turn).component.owed = (here.component.tick here.bus).1.owed from rfl,
      ← visit.settled, List.mem_append, Option.mem_toList, Option.bind_eq_some_iff] at member
    rcases member with before | ⟨request, -, answer⟩
    · exact answers message before
    · exact isResponse_of_answer? answer
  have rings_iff : Rings here
      ↔ Active here ∧ here.component.countDown.interrupting = some here.component.interval
        ∧ Accepts here := by
    rw [Rings, sends]
    rcases outcome with ⟨rfl, -, due, accepts⟩ | ⟨rfl, -, undue⟩
    · exact ⟨fun _ => ⟨active, due, accepts⟩, fun _ => rfl⟩
    · refine ⟨fun said => ?_, fun all => absurd all.2 undue⟩
      rw [Option.none_or] at said
      have impossible := response _ (by rw [said]; exact List.mem_cons_self)
      contradiction
  obtain ⟨timings, capacity, acknowledged, unacknowledged, selected, unselected⟩ :=
    passing_of_heeding moved later takes
  exact {
    timings := timings
    capacity := capacity
    answers := fun message member => response message (List.mem_append_right _ member)
    takes := fun going => absurd active going
    sends := fun going => absurd active going
    rings_iff := rings_iff
    acknowledged := acknowledged
    rung := fun other rings => by
      rcases outcome with ⟨-, sent, -, -⟩ | ⟨-, -, undue⟩
      · exact (unacknowledged other).trans sent
      · exact absurd (rings_iff.mp rings).2 undue
    counted := fun other silent _ => by
      rcases outcome with ⟨-, -, due, accepts⟩ | ⟨-, unsent, -⟩
      · exact absurd (rings_iff.mpr ⟨active, due, accepts⟩) silent
      · exact (unacknowledged other).trans unsent
    paused := fun going => absurd active going
    selected := selected
    unselected := unselected }

/-- **Everything that a turn does to the countdowns.** -/
lemma passing_step (answers : here.component.OwesAnswers) :
    Passing here (here.step .turn).component := by
  by_cases active : Active here
  · exact passing_of_active answers active
  · exact passing_of_going answers active

lemma toNat_seeking_countDown (drive : DiskDrive) :
    drive.countDown.seeking.toNat = drive.seeking.toNat - 1 := by
  change (if drive.seeking = 0 then 0 else drive.seeking - 1).toNat = _
  split_ifs with still
  · simp [still]
  · exact toNat_sub_one (UInt32.pos_iff_ne_zero.mpr still)

/-- While a seek goes on, nothing shows of a turn. -/
lemma Passing.idle_of_seeking {later : DiskDrive} (passing : Passing here later)
    (seeking : 1 < here.component.seeking.toNat) :
    Idle here ∧ later.seeking.toNat + 1 = here.component.seeking.toNat := by
  have counted := toNat_seeking_countDown here.component
  have going : ¬Active here := by
    rintro ⟨still, -⟩
    rw [still, UInt32.toNat_zero] at counted
    omega
  have takes := passing.takes going
  refine ⟨⟨takes, passing.sends going, fun completes => ?_⟩, ?_⟩
  · rw [show here.component.seeking = 1 from completes, UInt32.toNat_one] at seeking
    omega
  · rw [passing.unselected (by simp [Selects, takes]), counted]
    omega

lemma interrupting_countDown_of_completes (completes : Completes here) :
    here.component.countDown.interrupting = some here.component.interval :=
  if_pos completes

lemma interrupting_countDown (goes : ¬Completes here) :
    here.component.countDown.interrupting = here.component.interrupting :=
  if_neg goes

end

end DiskDrive

end PipelinedMachine
