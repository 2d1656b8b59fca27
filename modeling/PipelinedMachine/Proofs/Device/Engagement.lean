import PipelinedMachine.Proofs.Device.Peripheral
import PipelinedMachine.Proofs.Link.Passing

/-!
# What a device is engaged in

The reads that a device has been sent and not answered are on their way to it, in its hands as
answers that it owes, or on their way back as answers.  Its own turns move them along and change
nothing about them.

* `Peripheral.engaged` — the addresses of the answers to come, in their order;
* **`Peripheral.engaged_tick`** — a turn of the device leaves them as they are;
* `Peripheral.Orderly` — a device sends nothing but answers and, unless it is plain, interrupts.
-/

namespace PipelinedMachine

open Interconnect

namespace Peripheral

variable {device : Peripheral} {bus after : Interconnect} {address : Word}

/-- What no turn at the end of a link changes, a device does not change either. -/
lemma kept_tick {P : Interconnect → Prop} (kept : Kept P) (device : Peripheral) (before : P bus) :
    P (device.tick bus).2 := by
  obtain ⟨taken, announced, answered, visit⟩ := device.visit bus
  exact kept visit.handled before

/-- A device that sends nothing but answers. -/
def Plain : Peripheral → Prop
  | ram _ | rom _ | display _ | controller _ _ => True
  | keyboard _ | disk _ => False

lemma plain_tick (device : Peripheral) (bus : Interconnect) :
    (device.tick bus).1.Plain = device.Plain := by
  cases device <;> rfl

lemma Plain.dueFor? (plain : device.Plain) (address : Word) :
    device.dueFor? address = some address := by
  cases device with
  | ram | rom | display | controller => rfl
  | keyboard | disk => contradiction

/-- The account of a turn, in which a plain device announces nothing. -/
lemma exists_visit (device : Peripheral) (bus : Interconnect) :
    ∃ taken announced answered, Visit device.terminal bus (device.tick bus).2 (device.answer? bus)
      device.owed (device.tick bus).1.owed taken announced answered
      ∧ (device.Plain → announced = none) := by
  cases device with
  | ram device =>
    obtain ⟨taken, answered, visit⟩ := device.visit bus
    exact ⟨taken, none, answered, visit, fun _ => rfl⟩
  | rom device =>
    obtain ⟨taken, answered, visit⟩ := device.visit bus
    exact ⟨taken, none, answered, visit, fun _ => rfl⟩
  | display device =>
    obtain ⟨taken, answered, visit⟩ := device.visit bus
    exact ⟨taken, none, answered, visit, fun _ => rfl⟩
  | controller device lines =>
    obtain ⟨taken, answered, visit⟩ := device.visit lines bus
    exact ⟨taken, none, answered, visit, fun _ => rfl⟩
  | keyboard device =>
    obtain ⟨taken, announced, answered, visit⟩ := (keyboard device).visit bus
    exact ⟨taken, announced, answered, visit, False.elim⟩
  | disk drive =>
    obtain ⟨taken, announced, answered, visit⟩ := (disk drive).visit bus
    exact ⟨taken, announced, answered, visit, False.elim⟩

lemma answered?_ne_none {message answer : Message}
    (answers : device.answer? bus message = some answer) :
    answer.answered? ≠ none := by
  cases device with
  | ram device =>
    simp only [answer?, Ram.answer?] at answers
    split_ifs at answers
    exact Option.some.inj answers ▸ by simp [replyFrom]
  | rom device =>
    simp only [answer?, Rom.answer?] at answers
    split_ifs at answers
    exact Option.some.inj answers ▸ by simp [replyFrom]
  | display device =>
    simp only [answer?, Display.answer?] at answers
    split_ifs at answers
    exact Option.some.inj answers ▸ by simp
  | keyboard device =>
    simp only [answer?, Keyboard.answer?] at answers
    split_ifs at answers
    exact Option.some.inj answers ▸ by simp
  | disk drive =>
    simp only [answer?, DiskDrive.answer?] at answers
    split_ifs at answers <;> exact Option.some.inj answers ▸ by simp
  | controller device lines =>
    simp only [answer?, InterruptController.answer?] at answers
    split_ifs at answers
    exact Option.some.inj answers ▸ by simp

/-! ## Answers to come -/

/-- The addresses of the answers that are on their way from a device, that it owes, and that the
read on its way to it calls for, in the order in which they come. -/
def engaged (device : Peripheral) (bus : Interconnect) : List Word :=
  Message.answeredBy (bus.carried? device.terminal)
    ++ (device.owed.filterMap Message.answered?
      ++ ((bus.carried? device.terminal.peer).bind device.due?).toList)

/-- What a device owes are answers, and what it has sent is one or an interrupt. -/
structure Orderly (device : Peripheral) (bus : Interconnect) : Prop where
  owed : ∀ message ∈ device.owed, message.answered? ≠ none
  sent : ∀ message, bus.carried? device.terminal = some message →
    message.answered? ≠ none ∨ message.kind? = some .interrupt ∧ ¬ device.Plain

lemma engaged_of_still (still : bus.Still after device.terminal) :
    device.engaged after = device.engaged bus := by
  rw [engaged, engaged, still.1, still.2]

lemma Orderly.of_still (orderly : device.Orderly bus) (still : bus.Still after device.terminal) :
    device.Orderly after where
  owed := orderly.owed
  sent := by rw [still.1]; exact orderly.sent

/-- A turn of a device changes nothing about the answers to come. -/
lemma engaged_tick (device : Peripheral) (bus : Interconnect) :
    (device.tick bus).1.engaged (device.tick bus).2 = device.engaged bus := by
  obtain ⟨taken, announced, answered, visit⟩ := device.visit bus
  have settled := congrArg (List.filterMap Message.answered?) visit.settled
  rw [List.filterMap_append, List.filterMap_append, filterMap_bind_toList] at settled
  rw [engaged, engaged, terminal_tick, due?_tick, visit.handled.carried?_near,
    visit.handled.carried?_peer]
  -- what leaves the device's hands is on its way afterwards
  have sent : Message.answeredBy ((announced.or answered).or (bus.carried? device.terminal))
      = Message.answeredBy (bus.carried? device.terminal)
        ++ answered.toList.filterMap Message.answered? := by
    cases announced with
    | some message =>
      have unanswered : answered = none := visit.single.resolve_left (by simp)
      subst unanswered
      have free := visit.handled.carried?_of_sent.1
      simp [free, Message.answeredBy, Message.answered?_of_interrupt (visit.interrupt _ rfl)]
    | none =>
      cases answered with
      | none => simp
      | some message =>
        have free := visit.handled.carried?_of_sent.1
        rw [free]
        cases answers : message.answered? <;> simp [Message.answeredBy, answers]
  -- and what it takes is in its hands
  have took : taken.toList.filterMap (fun message =>
        (device.answer? bus message).bind Message.answered?)
        ++ ((if taken.isSome then none else bus.carried? device.terminal.peer).bind
          device.due?).toList
      = ((bus.carried? device.terminal.peer).bind device.due?).toList := by
    cases taken with
    | none => simp
    | some message =>
      rw [visit.handled.carried?_of_taken]
      cases due : device.due? message <;>
        simp [answered?_answer?, due]
  rw [sent, List.append_assoc, ← List.append_assoc (answered.toList.filterMap _), ← settled,
    List.append_assoc, took]

lemma Orderly.tick (orderly : device.Orderly bus) :
    (device.tick bus).1.Orderly (device.tick bus).2 := by
  obtain ⟨taken, announced, answered, visit, quiet⟩ := device.exists_visit bus
  have answers (answer : Message)
      (member : answer ∈ answered.toList ++ (device.tick bus).1.owed) :
      answer.answered? ≠ none := by
    rw [← visit.settled, List.mem_append, Option.mem_toList, Option.bind_eq_some_iff] at member
    rcases member with before | ⟨message, -, now⟩
    · exact orderly.owed answer before
    · exact answered?_ne_none now
  refine ⟨fun message member => answers message (by simp [member]), fun message carried => ?_⟩
  rw [terminal_tick, visit.handled.carried?_near, Option.or_eq_some_iff, Option.or_eq_some_iff]
    at carried
  rw [plain_tick]
  rcases carried with (interrupt | ⟨-, answer⟩) | ⟨-, before⟩
  · refine Or.inr ⟨visit.interrupt message interrupt, fun plain => ?_⟩
    rw [quiet plain] at interrupt
    contradiction
  · exact Or.inl (answers message (by simp [answer]))
  · exact orderly.sent message before

/-- A turn of the device leaves the other links alone. -/
lemma still_tick (device : Peripheral) (bus : Interconnect) {a : Terminal}
    (away : a.link ≠ device.terminal.link) : bus.Still (device.tick bus).2 a := by
  obtain ⟨taken, announced, answered, visit⟩ := device.visit bus
  exact visit.handled.still away

/-! ## The host -/

/-- The host changes nothing about the answers to come. -/
lemma engaged_host (device : Peripheral) (action : HostAction) (bus : Interconnect) :
    (device.host action).engaged bus = device.engaged bus := by
  obtain ⟨terminal, owed, due⟩ := device.host_eq action
  rw [engaged, engaged, terminal, owed, due]

lemma plain_host (device : Peripheral) (action : HostAction) :
    (device.host action).Plain = device.Plain := by
  cases device <;> cases action <;> rfl

lemma Orderly.host (orderly : device.Orderly bus) (action : HostAction) :
    (device.host action).Orderly bus := by
  obtain ⟨terminal, owed, -⟩ := device.host_eq action
  exact ⟨by rw [owed]; exact orderly.owed, by rw [terminal, plain_host]; exact orderly.sent⟩

end Peripheral

end PipelinedMachine
