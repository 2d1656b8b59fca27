import PipelinedMachine.Proofs.Device.Peripheral
import PipelinedMachine.Proofs.Link.Rounds

/-!
# Every heeded read is answered

The account of `Peripheral` says that answers are sent in the order of the reads, each at most once.
This file adds that they are sent: as long as the other end takes what arrives, an answer that a
device owes leaves after finitely many rounds.  For the drive there is one condition.  Its interrupt
goes before its answers, so an interrupt that is not acknowledged must have crossed the link before
the next one is due.

* `Peripheral.Waits` — how far a device is from sending the answer that it owes;
* `DiskDrive.waits_busy`, `DiskDrive.waits_free` — one round of the drive;
* **`Attended.answersReads_run`** — every device answers each read that it heeds exactly once, in
  order, and nothing else;
* `Attended.acknowledgeRead_unanswered` — the drive takes a read of its acknowledge register and
  never answers it.
-/

namespace PipelinedMachine

open Interconnect

/-! ## Sending -/

namespace Interconnect

variable {bus : Interconnect} {a : Terminal}

lemma send?_eq_none_of_carried (message : Message) (busy : bus.carried? a ≠ none) :
    bus.send? a message = none := by
  rw [← Option.not_isSome_iff_eq_none, isSome_send?_iff]
  exact fun sendable => busy sendable.2.1

/-- What fits is sent as soon as the way is free. -/
lemma exists_send? (message : Message) (linked : (bus.outgoing? a).isSome)
    (free : bus.carried? a = none) (words : message ≠ []) (fits : message.length ≤ bus.capacity a) :
    ∃ after, bus.send? a message = some after := by
  rw [← Option.isSome_iff_exists, isSome_send?_iff]
  exact ⟨isSome_outgoing?_iff.mp linked, free, words, fits⟩

lemma ticksLeft_of_carried? (free : bus.carried? a = none) : bus.ticksLeft a = 0 := by
  rw [carried?_eq, Option.or_eq_none_iff] at free
  exact ticksLeft_eq_zero_iff.mpr free.1

lemma carried?_of_ticksLeft (busy : 0 < bus.ticksLeft a) : bus.carried? a ≠ none :=
  fun free => Nat.ne_of_gt busy (ticksLeft_of_carried? free)

end Interconnect

namespace PendingReply

variable {reply : PendingReply} {terminal : Terminal} {bus after : Interconnect}

lemma tick_of_early (early : 0 < reply.delay) :
    tick (some reply) terminal bus = (some { reply with delay := reply.delay - 1 }, bus) := by
  simp [tick, early]

lemma tick_of_refused (due : reply.delay = 0) (refused : bus.send? terminal reply.message = none) :
    tick (some reply) terminal bus = (some reply, bus) := by
  simp [tick, due, refused]

lemma tick_of_sent (due : reply.delay = 0) (sent : bus.send? terminal reply.message = some after) :
    tick (some reply) terminal bus = (none, after) := by
  simp [tick, due, sent]

end PendingReply

/-! ## The drive -/

namespace DiskDrive

variable {drive : DiskDrive} {bus : Interconnect} {message : Message} {speed left rank : Nat}

lemma countDown_eq (still : drive.seeking = 0) :
    drive.countDown
      = { drive with
          accessing := if drive.accessing = 0 then 0 else drive.accessing - 1 } := by
  simp [countDown, still]

lemma tick_of_accessing (still : drive.seeking = 0) (more : 1 < drive.accessing.toNat) :
    drive.tick bus = ({ drive with accessing := drive.accessing - 1 }, bus) := by
  have going : drive.accessing ≠ 0 := by
    intro ended
    simp [ended] at more
  have goes : 0 < drive.accessing - 1 := by
    rw [UInt32.lt_iff_toNat_lt, toNat_sub_one (UInt32.pos_iff_ne_zero.mpr going)]
    simp only [UInt32.toNat_zero]
    omega
  rw [tick]
  simp only [countDown_eq still, if_neg going]
  rw [if_pos (by simp [goes])]

/-- While an answer is owed and no access goes on, a tick is the interrupt's turn and then the
answer's. -/
lemma tick_of_owing {reply : PendingReply} (owes : drive.reply = some reply)
    (still : drive.seeking = 0) (rest : drive.accessing.toNat ≤ 1) :
    drive.tick bus
      = (({ drive with accessing := 0 } : DiskDrive).announce bus).1.sendReply
          (({ drive with accessing := 0 } : DiskDrive).announce bus).2 := by
  have ended : (if drive.accessing = 0 then (0 : UInt32) else drive.accessing - 1) = 0 := by
    split
    · rfl
    · next going =>
      apply UInt32.toNat.inj
      rw [toNat_sub_one (UInt32.pos_iff_ne_zero.mpr going)]
      simp only [UInt32.toNat_zero]
      omega
  obtain ⟨interrupting, -, -, -, same⟩ :=
    ({ drive with accessing := 0 } : DiskDrive).handled_announce bus
  rw [tick]
  simp only [countDown_eq still, ended]
  rw [if_neg (by simp [still])]
  generalize ({ drive with accessing := 0 } : DiskDrive).announce bus = announcement at same
  obtain ⟨ready, between⟩ := announcement
  simp only at same ⊢
  rcases ready.accept_cases between with left | ⟨-, free, -, -⟩
  · rw [left]
  · rw [same] at free
    simp [owes] at free

/-- The interrupt will not be due before the way out is free. -/
structure Unhindered (drive : DiskDrive) (left : Nat) : Prop where
  accessing : drive.accessing.toNat ≤ 1
  interrupting : ∀ remaining, drive.interrupting = some remaining →
    left < remaining.toNat ∧ remaining < drive.interval

/-- How far a drive is from sending the answer that it owes.  Before the interrupt goes out once
more, the way that it will take is still to be counted. -/
structure Waits (message : Message) (speed : Nat) (drive : DiskDrive) (left rank : Nat) :
    Prop where
  owes : drive.reply = some ⟨0, message⟩
  still : drive.seeking = 0
  unhurried : 2 * speed < drive.interval.toNat
  rank : drive.Unhindered left ∧ rank = left
    ∨ rank = 2 * speed + 1 + left + (drive.accessing.toNat - 1)

/-- A round of an access. -/
lemma Waits.accessing (waits : drive.Waits message speed left rank)
    (more : 1 < drive.accessing.toNat) :
    ∃ less < rank, ({ drive with accessing := drive.accessing - 1 } : DiskDrive).Waits message
      speed (left - 1) less := by
  have going : 0 < drive.accessing := by
    rw [UInt32.lt_iff_toNat_lt, UInt32.toNat_zero]
    omega
  have rank : rank = 2 * speed + 1 + left + (drive.accessing.toNat - 1) :=
    waits.rank.resolve_left fun unhindered => by
      have := unhindered.1.accessing
      omega
  refine ⟨2 * speed + 1 + (left - 1) + (drive.accessing.toNat - 1 - 1), by omega, ?_⟩
  refine ⟨waits.owes, waits.still, waits.unhurried, Or.inr ?_⟩
  simp only [toNat_sub_one going]

lemma announce_cases (drive : DiskDrive) (bus : Interconnect) :
    drive.interrupting = none ∧ drive.announce bus = (drive, bus)
      ∨ drive.interrupting = some drive.interval
        ∧ ((∃ after,
            bus.send? drive.terminal (Message.interrupt AddressMap.diskInterrupt) = some after
            ∧ drive.announce bus
              = ({ drive with interrupting := some (drive.interval - 1) }, after))
          ∨ bus.send? drive.terminal (Message.interrupt AddressMap.diskInterrupt) = none
            ∧ drive.announce bus = (drive, bus))
      ∨ ∃ remaining, drive.interrupting = some remaining ∧ remaining ≠ drive.interval
        ∧ drive.announce bus
          = ({ drive with
              interrupting := some (if remaining ≤ 1 then drive.interval else remaining - 1) },
            bus) := by
  cases active : drive.interrupting with
  | none => exact Or.inl ⟨rfl, by simp [announce, active]⟩
  | some remaining =>
    by_cases due : remaining = drive.interval
    · subst due
      refine Or.inr (Or.inl ⟨rfl, ?_⟩)
      cases sent : bus.send? drive.terminal (Message.interrupt AddressMap.diskInterrupt) with
      | none => exact Or.inr ⟨rfl, by simp [announce, active, sent]⟩
      | some after => exact Or.inl ⟨after, rfl, by simp [announce, active, sent]⟩
    · exact Or.inr (Or.inr ⟨remaining, rfl, due, by simp [announce, active, due]⟩)

lemma sendReply_of_refused (drive : DiskDrive) (owes : drive.reply = some ⟨0, message⟩)
    (ended : drive.accessing = 0) (refused : bus.send? drive.terminal message = none) :
    drive.sendReply bus = (drive, bus) := by
  obtain ⟨terminal, image, timings, current, block, position, seeking, accessing, interrupting,
    reply⟩ := drive
  obtain rfl : accessing = 0 := ended
  obtain rfl : reply = some ⟨0, message⟩ := owes
  simp only [sendReply, if_true]
  rw [PendingReply.tick_of_refused rfl refused]

lemma sendReply_of_sent (drive : DiskDrive) {after : Interconnect}
    (owes : drive.reply = some ⟨0, message⟩) (ended : drive.accessing = 0)
    (sent : bus.send? drive.terminal message = some after) :
    (drive.sendReply bus).2 = after := by
  rw [sendReply, if_pos ended, owes, PendingReply.tick_of_sent rfl sent]

/-- A round in which the way out is busy: the interrupt only counts down, and the answer stays. -/
lemma Waits.busy (waits : drive.Waits message speed left rank) (positive : 0 < left)
    (busy : bus.carried? drive.terminal ≠ none) :
    ∃ less < rank, (drive.tick bus).1.Waits message speed (left - 1) less := by
  by_cases more : 1 < drive.accessing.toNat
  · rw [tick_of_accessing waits.still more]
    exact waits.accessing more
  have rest : drive.accessing.toNat ≤ 1 := by omega
  rw [tick_of_owing waits.owes waits.still rest]
  -- what the drive becomes, as long as its interrupt will not be in the way if it was not before
  have stays (interrupting : Option UInt32)
      (unhindered : drive.Unhindered left → ∀ remaining, interrupting = some remaining →
        left - 1 < remaining.toNat ∧ remaining < drive.interval) :
      ∃ less < rank, (({ drive with accessing := 0, interrupting := interrupting } :
        DiskDrive).sendReply bus).1.Waits message speed (left - 1) less := by
    rw [sendReply_of_refused { drive with accessing := 0, interrupting := interrupting }
      waits.owes rfl (send?_eq_none_of_carried _ busy)]
    rcases waits.rank with ⟨free, rank⟩ | rank
    · exact ⟨left - 1, by omega, waits.owes, waits.still, waits.unhurried,
        Or.inl ⟨⟨Nat.zero_le _, unhindered free⟩, rfl⟩⟩
    · exact ⟨2 * speed + 1 + (left - 1) + 0, by omega, waits.owes, waits.still, waits.unhurried,
        Or.inr rfl⟩
  rcases ({ drive with accessing := 0 } : DiskDrive).announce_cases bus with
    ⟨quiet, same⟩ | ⟨due, ⟨after, sent, -⟩ | ⟨-, same⟩⟩ | ⟨remaining, active, early, same⟩
  · rw [same]
    refine stays drive.interrupting fun _ remaining active => ?_
    rw [show drive.interrupting = none from quiet] at active
    contradiction
  · rw [send?_eq_none_of_carried _ busy] at sent
    contradiction
  · rw [same]
    refine stays drive.interrupting fun free remaining active => ?_
    have := free.interrupting remaining active
    exact ⟨by omega, this.2⟩
  · rw [same]
    refine stays _ fun free next active' => ?_
    obtain ⟨ahead, below⟩ := free.interrupting remaining active
    have ended : ¬remaining ≤ 1 := by
      rw [UInt32.le_iff_toNat_le]
      simp only [UInt32.toNat_one]
      omega
    rw [if_neg ended, Option.some.injEq] at active'
    have positive : 0 < remaining := by
      rw [UInt32.lt_iff_toNat_lt, UInt32.toNat_zero]
      omega
    rw [UInt32.lt_iff_toNat_lt] at below ⊢
    rw [← active', toNat_sub_one positive]
    exact ⟨by omega, by omega⟩

/-- A round in which the way out is free: the answer goes, unless an access goes on or the interrupt
goes first. -/
lemma Waits.free (waits : drive.Waits message speed 0 rank)
    (linked : (bus.outgoing? drive.terminal).isSome) (free : bus.carried? drive.terminal = none)
    (words : message ≠ []) (fits : message.length ≤ bus.capacity drive.terminal)
    (wide : 2 ≤ bus.capacity drive.terminal) (paced : bus.pace drive.terminal = speed) :
    (drive.tick bus).2.carried? drive.terminal = some message
      ∨ ∃ less < rank, (drive.tick bus).1.Waits message speed
          ((drive.tick bus).2.ticksLeft drive.terminal - 1) less := by
  by_cases more : 1 < drive.accessing.toNat
  · rw [tick_of_accessing waits.still more, ticksLeft_of_carried? free]
    exact Or.inr (waits.accessing more)
  have rest : drive.accessing.toNat ≤ 1 := by omega
  rw [tick_of_owing waits.owes waits.still rest]
  obtain ⟨gone, goes⟩ := exists_send? message linked free words fits
  have leaves (interrupting : Option UInt32) :
      (({ drive with accessing := 0, interrupting := interrupting } : DiskDrive).sendReply
        bus).2.carried? drive.terminal = some message := by
    rw [sendReply_of_sent { drive with accessing := 0, interrupting := interrupting }
      waits.owes rfl goes, carried?_of_send? goes]
  rcases ({ drive with accessing := 0 } : DiskDrive).announce_cases bus with
    ⟨-, same⟩ | ⟨due, ⟨after, sent, same⟩ | ⟨refused, -⟩⟩ | ⟨remaining, -, -, same⟩
  · rw [same]
    exact Or.inl (leaves drive.interrupting)
  · -- the interrupt takes the way out, and its next turn comes after it has crossed
    have first : Handled drive.terminal bus after none
        (some (Message.interrupt AddressMap.diskInterrupt)) := .of_send? sent
    have taken : after.carried? drive.terminal ≠ none := by simp [carried?_of_send? sent]
    have stays : (({ drive with accessing := 0 } : DiskDrive).announce bus).1.sendReply
          (({ drive with accessing := 0 } : DiskDrive).announce bus).2
        = ({ drive with accessing := 0, interrupting := some (drive.interval - 1) }, after) := by
      rw [same]
      exact sendReply_of_refused _ waits.owes rfl (send?_eq_none_of_carried _ taken)
    rw [stays]
    have crossing : after.ticksLeft drive.terminal ≤ 2 * speed :=
      paced ▸ first.ticksLeft_of_sent
    have hindered : rank = 2 * speed + 1 + 0 + (drive.accessing.toNat - 1) :=
      waits.rank.resolve_left fun unhindered => by
        have := (unhindered.1.interrupting _ due).2
        exact (UInt32.lt_irrefl _) this
    have positive : 0 < drive.interval := by
      have := waits.unhurried
      rw [UInt32.lt_iff_toNat_lt, UInt32.toNat_zero]
      omega
    refine Or.inr ⟨after.ticksLeft drive.terminal - 1, by omega, waits.owes, waits.still,
      waits.unhurried, Or.inl ⟨⟨Nat.zero_le _, ?_⟩, rfl⟩⟩
    have unhurried := waits.unhurried
    have pace := bus.pace_pos drive.terminal
    have ahead : after.ticksLeft drive.terminal - 1 < (drive.interval - 1).toNat := by
      rw [toNat_sub_one positive]
      omega
    have below : drive.interval - 1 < drive.interval := by
      rw [UInt32.lt_iff_toNat_lt, toNat_sub_one positive]
      omega
    rintro _ ⟨rfl⟩
    exact ⟨ahead, below⟩
  · obtain ⟨after, sent⟩ := exists_send? (Message.interrupt AddressMap.diskInterrupt)
      linked free (List.cons_ne_nil _ _) wide
    rw [show bus.send? drive.terminal _ = none from refused] at sent
    contradiction
  · rw [same]
    exact Or.inl (leaves _)

end DiskDrive

/-! ## The other devices -/

section Rounds

variable {bus : Interconnect} {terminal : Terminal} {message : Message} {delay : UInt32}
  {left : Nat}

/-- A round of a delayed answer in which the way out is busy. -/
lemma PendingReply.busy (positive : 0 < left) (busy : bus.carried? terminal ≠ none) :
    ∃ later : UInt32,
      PendingReply.tick (some ⟨delay, message⟩) terminal bus = (some ⟨later, message⟩, bus)
      ∧ left - 1 + later.toNat < left + delay.toNat := by
  by_cases early : 0 < delay
  · refine ⟨delay - 1, tick_of_early early, ?_⟩
    rw [toNat_sub_one early]
    omega
  · have due : delay = 0 := by simpa [UInt32.pos_iff_ne_zero] using early
    exact ⟨delay, tick_of_refused due (send?_eq_none_of_carried _ busy), by omega⟩

/-- A round of a delayed answer in which the way out is free. -/
lemma PendingReply.free (linked : (bus.outgoing? terminal).isSome)
    (free : bus.carried? terminal = none) (words : message ≠ [])
    (fits : message.length ≤ bus.capacity terminal) :
    (∃ after, PendingReply.tick (some ⟨delay, message⟩) terminal bus = (none, after)
        ∧ after.carried? terminal = some message)
      ∨ ∃ later : UInt32,
        PendingReply.tick (some ⟨delay, message⟩) terminal bus = (some ⟨later, message⟩, bus)
        ∧ later.toNat < delay.toNat := by
  by_cases early : 0 < delay
  · have positive : 0 < delay.toNat := UInt32.lt_iff_toNat_lt.mp early
    refine Or.inr ⟨delay - 1, tick_of_early early, ?_⟩
    rw [toNat_sub_one early]
    omega
  · have due : delay = 0 := by simpa [UInt32.pos_iff_ne_zero] using early
    obtain ⟨after, sent⟩ := exists_send? message linked free words fits
    exact Or.inl ⟨after, tick_of_sent due sent, carried?_of_send? sent⟩

end Rounds

namespace Ram

variable {ram : Ram} {bus : Interconnect} {message : Message} {left rank : Nat}

/-- While main memory owes an answer, it does nothing but see to that. -/
lemma tick_of_answering {reply : PendingReply} (answering : ram.service = .answering reply)
    (bus : Interconnect) :
    ram.tick bus
      = ({ ram with
            service := match (PendingReply.tick (some reply) ram.terminal bus).1 with
              | some later => .answering later
              | none => .idle },
        (PendingReply.tick (some reply) ram.terminal bus).2) := by
  have busy : ram.isBusy = true := by simp [isBusy, answering]
  simp only [tick, accept, busy, if_true, serve, answering]
  split
  · next later after same => rw [same]
  · next after same => rw [same]

/-- How far main memory is from sending the answer that it owes. -/
def Waits (message : Message) (ram : Ram) (left rank : Nat) : Prop :=
  ∃ delay, ram.service = .answering ⟨delay, message⟩ ∧ rank = left + delay.toNat

lemma Waits.busy (waits : ram.Waits message left rank) (positive : 0 < left)
    (busy : bus.carried? ram.terminal ≠ none) :
    ∃ less < rank, (ram.tick bus).1.Waits message (left - 1) less := by
  obtain ⟨delay, answering, rfl⟩ := waits
  obtain ⟨later, ticked, nearer⟩ := PendingReply.busy positive busy
  refine ⟨_, nearer, later, ?_, rfl⟩
  rw [tick_of_answering answering, ticked]

lemma Waits.free (waits : ram.Waits message 0 rank)
    (linked : (bus.outgoing? ram.terminal).isSome) (free : bus.carried? ram.terminal = none)
    (words : message ≠ []) (fits : message.length ≤ bus.capacity ram.terminal) :
    (ram.tick bus).2.carried? ram.terminal = some message
      ∨ ∃ less < rank,
        (ram.tick bus).1.Waits message ((ram.tick bus).2.ticksLeft ram.terminal - 1) less := by
  obtain ⟨delay, answering, rfl⟩ := waits
  rw [tick_of_answering answering]
  rcases PendingReply.free linked free words fits with
    ⟨after, ticked, gone⟩ | ⟨later, ticked, sooner⟩
  · rw [ticked]
    exact Or.inl gone
  · rw [ticked, ticksLeft_of_carried? free]
    exact Or.inr ⟨later.toNat, by omega, later, rfl, by omega⟩

end Ram

namespace Rom

variable {rom : Rom} {bus : Interconnect} {message : Message} {left rank : Nat}

/-- While the ROM owes an answer, it takes no read. -/
lemma tick_of_owing {reply : PendingReply} (owes : rom.reply = some reply)
    (bus : Interconnect) :
    ∃ between taken, Handled rom.terminal bus between taken none
      ∧ rom.tick bus
        = ({ rom with reply := (PendingReply.tick (some reply) rom.terminal between).1 },
          (PendingReply.tick (some reply) rom.terminal between).2) := by
  rw [tick, accept]
  cases waiting : bus.message? rom.terminal with
  | none => exact ⟨bus, none, .nothing _ _, by simp [owes]⟩
  | some message =>
    by_cases reads : message.kind? = some .read
    · exact ⟨bus, none, .nothing _ _, by simp [owes, reads]⟩
    · exact ⟨bus.clear rom.terminal, some message, .of_clear waiting, by simp [owes, reads]⟩

/-- How far the ROM is from sending the answer that it owes. -/
def Waits (message : Message) (rom : Rom) (left rank : Nat) : Prop :=
  ∃ delay, rom.reply = some ⟨delay, message⟩ ∧ rank = left + delay.toNat

lemma Waits.busy (waits : rom.Waits message left rank) (positive : 0 < left)
    (busy : bus.carried? rom.terminal ≠ none) :
    ∃ less < rank, (rom.tick bus).1.Waits message (left - 1) less := by
  obtain ⟨delay, owes, rfl⟩ := waits
  obtain ⟨between, taken, handled, same⟩ := tick_of_owing owes bus
  have still : between.carried? rom.terminal ≠ none := by
    rw [handled.carried?_near, Option.none_or]
    exact busy
  obtain ⟨later, ticked, nearer⟩ := PendingReply.busy positive still
  refine ⟨_, nearer, later, ?_, rfl⟩
  rw [same, ticked]

lemma Waits.free (waits : rom.Waits message 0 rank)
    (linked : (bus.outgoing? rom.terminal).isSome) (free : bus.carried? rom.terminal = none)
    (words : message ≠ []) (fits : message.length ≤ bus.capacity rom.terminal) :
    (rom.tick bus).2.carried? rom.terminal = some message
      ∨ ∃ less < rank,
        (rom.tick bus).1.Waits message ((rom.tick bus).2.ticksLeft rom.terminal - 1) less := by
  obtain ⟨delay, owes, rfl⟩ := waits
  obtain ⟨between, taken, handled, same⟩ := tick_of_owing owes bus
  have free' : between.carried? rom.terminal = none := by
    rw [handled.carried?_near, Option.none_or]
    exact free
  have fits' : message.length ≤ between.capacity rom.terminal :=
    le_of_le_of_eq fits (handled.capacity_eq rom.terminal).symm
  rw [same]
  rcases PendingReply.free ((handled.isSome_outgoing? _).trans linked) free' words fits' with
    ⟨after, ticked, gone⟩ | ⟨later, ticked, sooner⟩
  · rw [ticked]
    exact Or.inl gone
  · rw [ticked, ticksLeft_of_carried? free']
    exact Or.inr ⟨later.toNat, by omega, later, rfl, by omega⟩

end Rom

namespace InterruptController

variable {controller : InterruptController} {bus : Interconnect} {message : Message}
  {left rank : Nat}

/-- While the controller keeps an answer, it takes no read. -/
lemma unsent_serve (keeps : controller.unsent = some message) (lines : InterruptLines)
    (bus : Interconnect) : (controller.serve lines bus).1.unsent = some message := by
  have set (address value : Word) : (controller.setVector address value).unsent = some message := by
    obtain ⟨vectors, same⟩ := controller.setVector_eq address value
    rw [same, keeps]
  rw [serve]
  cases bus.message? controller.terminal with
  | none => exact keeps
  | some other =>
    simp only
    split
    · rw [keeps]
      exact keeps
    · exact set _ _
    · exact set _ _
    all_goals exact keeps

/-- How far the controller is from sending the answer that it keeps. -/
def Waits (message : Message) (controller : InterruptController) (left rank : Nat) : Prop :=
  controller.unsent = some message ∧ rank = left

lemma Waits.busy (waits : controller.Waits message left rank) (positive : 0 < left)
    (lines : InterruptLines) (busy : bus.carried? controller.terminal ≠ none) :
    ∃ less < rank, (controller.tick lines bus).1.Waits message (left - 1) less := by
  obtain ⟨keeps, rfl⟩ := waits
  have unsent : controller.sendUnsent bus = (controller, bus) := by
    simp only [sendUnsent, keeps, sendOrKeep]
    rw [send?_eq_none_of_carried _ busy, ← keeps]
  refine ⟨rank - 1, by omega, ?_, rfl⟩
  rw [tick, unsent]
  exact unsent_serve keeps lines bus

lemma Waits.free (waits : controller.Waits message 0 rank) (lines : InterruptLines)
    (linked : (bus.outgoing? controller.terminal).isSome)
    (free : bus.carried? controller.terminal = none) (words : message ≠ [])
    (fits : message.length ≤ bus.capacity controller.terminal) :
    (controller.tick lines bus).2.2.carried? controller.terminal = some message := by
  obtain ⟨keeps, -⟩ := waits
  obtain ⟨after, sent⟩ := exists_send? message linked free words fits
  have unsent : controller.sendUnsent bus = ({ controller with unsent := none }, after) := by
    simp only [sendUnsent, keeps, sendOrKeep, sent]
  obtain ⟨taken, answered, visit⟩ :=
    ({ controller with unsent := none } : InterruptController).visit_serve lines after
  rw [tick, unsent]
  exact visit.handled.carried?_of_carried? (carried?_of_send? sent)

end InterruptController

/-! ## All devices -/

namespace Peripheral

/-- How far a device is from sending the answer that it owes. -/
def Waits (message : Message) (speed : Nat) (device : Peripheral) (left rank : Nat) : Prop :=
  match device with
  | ram device => device.Waits message left rank
  | rom device => device.Waits message left rank
  | display _ | keyboard _ => False
  | disk drive => drive.Waits message speed left rank
  | controller device _ => device.Waits message left rank

variable {message : Message} {speed left rank : Nat} {device : Peripheral} {bus : Interconnect}

lemma Waits.host (waits : device.Waits message speed left rank) (action : HostAction) :
    (device.host action).Waits message speed left rank := by
  cases device <;> cases action <;> try exact waits
  case ram.load ram address words =>
    simp only [Peripheral.host, Ram.load]
    split <;> exact waits
  case disk.flush drive =>
    have same : ∃ image, drive.flush = { drive with image := image } := by
      rw [DiskDrive.flush]
      split
      · exact ⟨_, rfl⟩
      · exact ⟨drive.image, rfl⟩
    obtain ⟨image, same⟩ := same
    simp only [Peripheral.host, same]
    exact ⟨waits.owes, waits.still, waits.unhurried,
      waits.rank.imp (fun free => ⟨⟨free.1.accessing, free.1.interrupting⟩, free.2⟩) id⟩

/-- A round in which the way out is busy brings the answer nearer. -/
lemma Waits.busy (waits : device.Waits message speed left rank) (positive : 0 < left)
    (busy : bus.carried? device.terminal ≠ none) :
    ∃ less < rank, (device.tick bus).1.Waits message speed (left - 1) less := by
  cases device with
  | ram device => exact Ram.Waits.busy waits positive busy
  | rom device => exact Rom.Waits.busy waits positive busy
  | display | keyboard => exact waits.elim
  | disk drive => exact DiskDrive.Waits.busy waits positive busy
  | controller device lines => exact InterruptController.Waits.busy waits positive lines busy

/-- A round in which the way out is free sends the answer or brings it nearer. -/
lemma Waits.free (waits : device.Waits message speed 0 rank)
    (linked : (bus.outgoing? device.terminal).isSome)
    (free : bus.carried? device.terminal = none) (words : message ≠ [])
    (fits : message.length ≤ bus.capacity device.terminal)
    (wide : 2 ≤ bus.capacity device.terminal) (paced : bus.pace device.terminal = speed) :
    (device.tick bus).2.carried? device.terminal = some message
      ∨ ∃ less < rank, (device.tick bus).1.Waits message speed
          ((device.tick bus).2.ticksLeft device.terminal - 1) less := by
  cases device with
  | ram device => exact Ram.Waits.free waits linked free words fits
  | rom device => exact Rom.Waits.free waits linked free words fits
  | display | keyboard => exact waits.elim
  | disk drive => exact DiskDrive.Waits.free waits linked free words fits wide paced
  | controller device lines =>
    exact Or.inl (InterruptController.Waits.free waits lines linked free words fits)

/-! ### From owing to waiting -/

end Peripheral

namespace DiskDrive

variable {drive : DiskDrive}

/-- The answer that a drive owes has nothing to wait for but an access. -/
def Prompt (drive : DiskDrive) : Prop :=
  ∀ held, drive.reply = some held → held.delay = 0 ∧ drive.seeking = 0

lemma Prompt.round (prompt : drive.Prompt) {taken : Option Message} {later : DiskDrive}
    (round : drive.Round taken later) : later.Prompt := by
  cases round with
  | passed =>
    intro held owes
    obtain ⟨due, still⟩ := prompt held owes
    exact ⟨due, by simp [countDown, still]⟩
  | rested interrupting reply rest kept =>
    intro held owes
    obtain ⟨earlier, owed, sooner⟩ := kept held owes
    rw [(prompt earlier owed).1] at sooner
    exact ⟨UInt32.le_zero_iff.mp sooner, rest.1⟩
  | served message interrupting reply rest free next => exact next

lemma Prompt.flush (prompt : drive.Prompt) : drive.flush.Prompt := by
  have same : ∃ image, drive.flush = { drive with image := image } := by
    rw [DiskDrive.flush]
    split
    · exact ⟨_, rfl⟩
    · exact ⟨drive.image, rfl⟩
  obtain ⟨image, same⟩ := same
  rw [same]
  exact prompt

end DiskDrive

namespace Peripheral

/-- If the device is a drive, what it owes has nothing to wait for but an access. -/
def Prompt (device : Peripheral) : Prop := ∀ drive, device = disk drive → drive.Prompt

/-- If the device is a drive, an interrupt of its own has crossed the link before the next one is
due. -/
def Unhurried (speed : Nat) (device : Peripheral) : Prop :=
  ∀ drive, device = disk drive → 2 * speed < drive.interval.toNat

variable {message : Message} {speed : Nat} {device : Peripheral}

lemma Prompt.tick (prompt : device.Prompt) (bus : Interconnect) : (device.tick bus).1.Prompt := by
  rintro later same
  cases device with
  | disk drive =>
    obtain rfl := Peripheral.disk.inj same
    obtain ⟨taken, announced, answered, visit, round⟩ := drive.visit_round bus
    exact (prompt drive rfl).round round
  | ram | rom | display | keyboard | controller => contradiction

lemma Prompt.host (prompt : device.Prompt) (action : HostAction) : (device.host action).Prompt := by
  rintro later same
  cases device <;> cases action <;> simp only [Peripheral.host, reduceCtorEq] at same
  case disk.flush drive =>
    obtain rfl := Peripheral.disk.inj same
    exact (prompt drive rfl).flush
  all_goals
    obtain rfl := Peripheral.disk.inj same
    exact prompt _ rfl

/-- A device owes one answer at most. -/
lemma owed_cases (device : Peripheral) : device.owed = [] ∨ ∃ message, device.owed = [message] := by
  have delayed (reply? : Option PendingReply) :
      PendingReply.owed reply? = [] ∨ ∃ message, PendingReply.owed reply? = [message] := by
    cases reply? with
    | none => exact Or.inl rfl
    | some reply => exact Or.inr ⟨reply.message, rfl⟩
  cases device with
  | ram device =>
    rw [owed, Ram.owed]
    split
    · exact Or.inr ⟨_, rfl⟩
    all_goals exact Or.inl rfl
  | rom device => exact delayed device.reply
  | display | keyboard => exact Or.inl rfl
  | disk drive => exact delayed drive.reply
  | controller device lines =>
    rw [owed, InterruptController.owed]
    cases device.unsent with
    | none => exact Or.inl rfl
    | some message => exact Or.inr ⟨message, rfl⟩

/-- An answer that is owed is some way from being sent. -/
lemma exists_waits (owes : device.owed = [message]) (prompt : device.Prompt)
    (unhurried : device.Unhurried speed) (left : Nat) :
    ∃ rank, device.Waits message speed left rank := by
  have delayed {reply? : Option PendingReply} (owes : PendingReply.owed reply? = [message]) :
      ∃ delay, reply? = some ⟨delay, message⟩ := by
    cases reply? with
    | none => contradiction
    | some reply =>
      obtain rfl := List.head_eq_of_cons_eq owes
      exact ⟨reply.delay, rfl⟩
  cases device with
  | ram device =>
    simp only [owed, Ram.owed] at owes
    split at owes
    · next reply answering =>
      obtain rfl := List.head_eq_of_cons_eq owes
      exact ⟨_, reply.delay, answering, rfl⟩
    all_goals contradiction
  | rom device =>
    obtain ⟨delay, owed⟩ := delayed owes
    exact ⟨_, delay, owed, rfl⟩
  | display | keyboard => contradiction
  | disk drive =>
    obtain ⟨delay, owed⟩ := delayed owes
    obtain ⟨due, still⟩ := prompt drive rfl _ owed
    obtain rfl : delay = 0 := due
    exact ⟨_, owed, still, unhurried drive rfl, Or.inr rfl⟩
  | controller device lines =>
    refine ⟨left, ?_, rfl⟩
    simp only [owed, InterruptController.owed] at owes
    cases kept : device.unsent with
    | none => simp [kept] at owes
    | some other => simpa [kept] using owes

end Peripheral

/-! ## Runs -/

namespace Attended

open Peripheral

/-- A device on its link answers the reads that it heeds; `heeded?` says which they are, and under
which address each is to be answered. -/
structure AnswersReads (heeded? : Message → Option Word) (attended : Attended Peripheral) :
    Prop where
  /-- Messages pass the link in order, and none is lost or made up. -/
  link : attended.Conserved
  /-- The answers sent, and the one still owed, are those to the heeded reads, in their order. -/
  ordered : attended.taken.filterMap heeded?
    = attended.sent.filterMap Message.answered?
      ++ attended.component.owed.filterMap Message.answered?
  /-- No more than one answer is owed at a time. -/
  single : attended.component.owed = [] ∨ ∃ message, attended.component.owed = [message]
  /-- Nothing is sent but answers and interrupts. -/
  only : ∀ message ∈ attended.sent,
    message.answered? ≠ none ∨ message.kind? = some .interrupt
  /-- Whatever the other end sends from now on and the host does, as long as what arrives at the
  other end is taken there, all the answers leave. -/
  leaves : attended.component.Unhurried (attended.bus.pace attended.near) →
    ∀ between : Nat → List (LinkAction HostAction),
      (∀ index, ∀ action ∈ between index, Outside action) →
      ∃ count, attended.taken.filterMap heeded?
        <+: (attended.run (rounds between count)).sent.filterMap Message.answered?

variable {attended : Attended Peripheral}

/-- What is owed leaves after finitely many rounds. -/
lemma exists_rounds_sent_owed {capacity : Nat} {heeded? : Message → Option Word}
    {message : Message}
    (accounts : attended.component.Accounts capacity heeded? attended.taken attended.sent)
    (prompt : attended.component.Prompt) (owes : attended.component.owed = [message])
    (unhurried : attended.component.Unhurried (attended.bus.pace attended.near))
    (same : attended.bus.capacity attended.near = capacity) (wide : 3 ≤ capacity)
    (between : Nat → List (LinkAction HostAction))
    (outside : ∀ index, ∀ action ∈ between index, Outside action) :
    ∃ count earlier,
      (attended.run (rounds between count)).sent = attended.sent ++ earlier ++ [message] := by
  have answer := accounts.owed message (by simp [owes])
  have words : message ≠ [] := by
    rintro rfl
    exact answer.address rfl
  have linked := Interconnect.isSome_outgoing?
    (show 0 < attended.bus.capacity attended.near by omega)
  obtain ⟨rank, waits⟩ := exists_waits owes prompt unhurried (attended.bus.ticksLeft attended.near)
  refine exists_rounds_sent ⟨fun device event left rank waits => waits.host event,
    fun device bus rank _ busy waits => waits.busy busy (carried?_of_ticksLeft busy),
    fun device bus rank leads free waits => ?_⟩
    between outside attended ⟨⟨same, rfl, linked⟩, waits⟩
  have same' : bus.capacity device.terminal = capacity := leads.capacity
  exact waits.free leads.linked free words (by rw [same']; exact answer.fits) (by omega) leads.pace

/-- **Over every run, each of the six devices answers the reads that it heeds.** -/
theorem answersReads_run (fresh : attended.Fresh) (idle : attended.component.owed = [])
    (wide : 3 ≤ attended.bus.capacity attended.near) (actions : List (LinkAction HostAction)) :
    AnswersReads attended.component.due? (attended.run actions) := by
  have accounts (actions : List (LinkAction HostAction)) :=
    account_run fresh idle wide actions
  have prompt : (attended.run actions).component.Prompt := by
    refine invariant_run (fun (device : Peripheral) _ _ => device.Prompt)
      (fun device bus taken sent _ prompt => ?_)
      (fun device action taken sent prompt => Peripheral.Prompt.host prompt action) ?_ rfl actions
    · obtain ⟨taken', announced, answered, visit⟩ := device.visit bus
      exact ⟨taken', _, visit.handled, prompt.tick bus⟩
    · rintro drive same held owes
      rw [same] at idle
      simp [owed, DiskDrive.owed, PendingReply.owed, owes] at idle
  exact {
    link := fresh.conserved.run actions
    ordered := (accounts actions).balance
    single := owed_cases _
    only := fun message member => by
      rcases (accounts actions).sent message member with answer | interrupt
      · refine Or.inl ?_
        rw [Message.answered?, if_pos answer.response]
        exact answer.address
      · exact Or.inr interrupt
    leaves := fun unhurried between outside => by
      rcases owed_cases (attended.run actions).component with settled | ⟨message, owes⟩
      · refine ⟨0, ?_⟩
        rw [(accounts actions).balance, settled]
        rw [List.filterMap_nil, List.append_nil]
        exact List.prefix_rfl
      · obtain ⟨count, earlier, sends⟩ := exists_rounds_sent_owed (accounts actions) prompt owes
          unhurried (by rw [near_run, capacity_run]) wide between outside
        refine ⟨count, ?_⟩
        -- the reads taken by then are a beginning of those taken later, whose answers these are
        have later := (accounts (actions ++ rounds between count)).balance
        have begins := ((attended.run actions).taken_prefix_run (rounds between count)).filterMap
          attended.component.due?
        rw [← run_append] at begins sends ⊢
        refine List.prefix_of_prefix_length_le (later ▸ begins) (List.prefix_append _ _) ?_
        rw [(accounts actions).balance, sends, owes]
        simp only [List.filterMap_append, List.length_append]
        omega }

/-- A drive with two blocks on a new link of ten words. -/
def newDrive : Attended Peripheral where
  component := .disk (.reset ⟨1⟩ (.blank 2) ⟨3, 1, 5⟩)
  bus := (Interconnect.empty.link 1 10).1

lemma newDrive_fresh : newDrive.Fresh := ⟨rfl, rfl, rfl, rfl, rfl, rfl⟩

/-- A new drive is read at each of its three registers. -/
theorem answersReads_registers :
    AnswersReads newDrive.component.due? (newDrive.run
      [.offer (Message.read AddressMap.diskData 1), .tick, .tick, .tick, .turn,
        .offer (Message.read AddressMap.diskSeek 1), .tick, .tick, .tick, .receive, .turn,
        .offer (Message.read AddressMap.diskAcknowledge 1), .tick, .tick, .tick, .receive,
        .turn]) :=
  answersReads_run newDrive_fresh rfl (by decide) _

lemma offered_run (attended : Attended Peripheral) {actions : List (LinkAction HostAction)}
    (silent : ∀ message, LinkAction.offer message ∉ actions) :
    (attended.run actions).offered = attended.offered := by
  induction actions generalizing attended with
  | nil => rfl
  | cons action later ih =>
    rw [run_cons, ih _ fun message member => silent message (List.mem_cons_of_mem _ member)]
    cases action with
    | offer message => exact absurd List.mem_cons_self (silent message)
    | turn | tick | receive | host => rfl

/-- A drive takes a read of its acknowledge register and never answers it, however long the other
end waits. -/
theorem acknowledgeRead_unanswered :
    let removal : List (LinkAction HostAction) :=
      [.offer (Message.read AddressMap.diskAcknowledge 1), .tick, .tick, .tick, .turn]
    (newDrive.run removal).taken = [Message.read AddressMap.diskAcknowledge 1]
      ∧ ∀ later : List (LinkAction HostAction), (∀ message, LinkAction.offer message ∉ later) →
        (newDrive.run (removal ++ later)).sent.filterMap Message.answered? = [] := by
  intro removal
  refine ⟨by decide +kernel, fun later silent => ?_⟩
  have balance := (account_run newDrive_fresh rfl (by decide) (removal ++ later)).balance
  have offered : (newDrive.run (removal ++ later)).offered
      = [Message.read AddressMap.diskAcknowledge 1] := by
    rw [run_append, offered_run _ silent]
    decide +kernel
  have taken : (newDrive.run (removal ++ later)).taken
      <+: [Message.read AddressMap.diskAcknowledge 1] := by
    rw [← offered, (newDrive_fresh.conserved.run (removal ++ later)).inbound]
    exact List.prefix_append _ _
  have unheeded : (newDrive.run (removal ++ later)).taken.filterMap newDrive.component.due? = [] :=
    List.prefix_nil.mp (taken.filterMap newDrive.component.due?)
  rw [unheeded] at balance
  exact (List.append_eq_nil_iff.mp balance.symm).1

end Attended

end PipelinedMachine
