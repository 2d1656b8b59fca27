import PipelinedMachine.Proofs.Device.Visits
import PipelinedMachine.Proofs.Link.History

/-!
# Keys are announced once each

A key goes from the host into the queue, from there to the front of it, and from there, once the
link has accepted the interrupt for it, into the register that the machine reads.  Reads share the
way out with the interrupts and go before them.

* `Keyboard.pressed`, `Keyboard.announced` — the keys of a run, as the host and the link know them;
* `Keyboard.Passing` — everything that a turn of the keyboard can do;
* `Keyboard.announced_waiting_run` — a key is announced or waits, in the order of the presses.

Main statement: `Keyboard.announcesInOrder_run`, at any moment of a run.
-/

namespace PipelinedMachine

open Interconnect

/-! ## The keyboard on its link -/

/-- A keyboard on its link.  The host presses keys. -/
instance : Endpoint Keyboard Word where
  terminal := Keyboard.terminal
  turn := Keyboard.tick
  host := Keyboard.press
  handled keyboard bus := by
    obtain ⟨taken, announced, answered, visit⟩ := keyboard.visit bus
    exact ⟨taken, _, visit.handled⟩
  terminal_turn := Keyboard.terminal_tick
  terminal_host _ _ := rfl

namespace Keyboard

/-- The keys that the host presses in a run, in order. -/
def pressed (actions : List (LinkAction Word)) : List Word :=
  actions.filterMap fun
    | .host code => some code
    | .turn | .tick | .offer _ | .receive => none

/-- The link accepts the interrupt. -/
def Rings (turn : Attended Keyboard) : Prop :=
  turn.sends? = some (Message.interrupt AddressMap.keyboardInterrupt)

instance : DecidablePred Rings := fun _ => inferInstanceAs (Decidable (_ = _))

/-- The key that a turn announces, if the link accepts the interrupt in it: the one that the
register holds from then on. -/
def announced? (turn : Attended Keyboard) : Option Word :=
  if Rings turn then some (turn.step .turn).component.current else none

/-- The keys that some turns announce, in order. -/
def announced (turns : List (Attended Keyboard)) : List Word := turns.filterMap announced?

/-- The keys that have not been announced, in the order in which they will be. -/
def waiting (keyboard : Keyboard) : List Word := keyboard.announcing.toList ++ keyboard.queue

lemma waiting_takeUp (keyboard : Keyboard) : keyboard.takeUp.waiting = keyboard.waiting := by
  obtain ⟨terminal, queue, current, announcing⟩ := keyboard
  cases announcing <;> cases queue <;> rfl

lemma waiting_press (keyboard : Keyboard) (code : Word) :
    (keyboard.press code).waiting = keyboard.waiting ++ [code] := by
  rw [waiting, waiting, List.append_assoc]
  rfl

/-! ## Turns -/

/-- A read waits for the keyboard. -/
def Asked (turn : Attended Keyboard) (read : Message) : Prop :=
  turn.bus.message? turn.near = some read ∧ read.kind? = some .read

/-- The answer to any read. -/
def answerTo (turn : Attended Keyboard) : Message :=
  Message.response AddressMap.keyboardRegister [turn.component.current]

lemma answerTo_ne_interrupt (turn : Attended Keyboard) (id : Word) :
    answerTo turn ≠ Message.interrupt id := by
  simp [answerTo, Message.response, Message.interrupt]

/-- Everything that a turn can take, send and leave behind. -/
inductive Passing (turn : Attended Keyboard) :
    Option Message → Option Message → Keyboard → Prop where
  /-- A read is answered. -/
  | answered (read : Message) (asked : Asked turn read) :
      Passing turn (some read) (some (answerTo turn)) turn.component.takeUp
  /-- The link does not accept the answer to a read. -/
  | refused (read : Message) (asked : Asked turn read) :
      Passing turn none none turn.component.takeUp
  /-- A key is announced. -/
  | announced (taken : Option Message) (code : Word) (unasked : ∀ read, ¬Asked turn read)
      (ready : turn.component.takeUp.announcing = some code) :
      Passing turn taken (some (Message.interrupt AddressMap.keyboardInterrupt))
        { turn.component.takeUp with current := code, announcing := none }
  /-- There is no key to announce, or the link does not accept the interrupt. -/
  | rested (taken : Option Message) (unasked : ∀ read, ¬Asked turn read) :
      Passing turn taken none turn.component.takeUp

lemma announce_cases (keyboard : Keyboard) (bus : Interconnect) :
    keyboard.announce bus = (keyboard, bus)
      ∨ ∃ code after, keyboard.announcing = some code
        ∧ bus.send? keyboard.terminal (Message.interrupt AddressMap.keyboardInterrupt) = some after
        ∧ keyboard.announce bus
          = ({ keyboard with current := code, announcing := none }, after) := by
  rw [announce]
  cases ready : keyboard.announcing with
  | none => exact Or.inl rfl
  | some code =>
    cases sent : bus.send? keyboard.terminal (Message.interrupt AddressMap.keyboardInterrupt) with
    | none => exact Or.inl rfl
    | some after => exact Or.inr ⟨code, after, rfl, rfl, rfl⟩

section
variable {here : Attended Keyboard}

lemma Passing.of_tick {taken sent : Option Message} {later : Keyboard} {after : Interconnect}
    (passing : Passing here taken sent later)
    (same : here.component.tick here.bus = (later, after))
    (handled : Handled here.near here.bus after taken sent) :
    Passing here here.takes? here.sends? (here.step .turn).component := by
  have handled' : Handled here.near here.bus (here.component.tick here.bus).2 taken sent := by
    rwa [same]
  have moved : (here.step .turn).component = later := congrArg Prod.fst same
  rwa [Attended.takes?_eq handled', Attended.sends?_eq handled', moved]

/-- The part of a turn in which a key may be announced. -/
lemma passing_of_unasked {taken : Option Message} {between : Interconnect}
    (unasked : ∀ read, ¬Asked here read)
    (same : here.component.tick here.bus = here.component.takeUp.announce between)
    (taking : Handled here.near here.bus between taken none) :
    Passing here here.takes? here.sends? (here.step .turn).component := by
  rcases here.component.takeUp.announce_cases between with left | ⟨code, after, ready, sent, moved⟩
  · exact (Passing.rested taken unasked).of_tick (same.trans left) taking
  · refine (Passing.announced taken code unasked ready).of_tick (same.trans moved) ?_
    rw [terminal_takeUp] at sent
    have both := taking.trans (.of_send? sent)
    rwa [Option.or_none, Option.none_or] at both

/-- **Everything that a turn of the keyboard does.** -/
lemma passing_step (here : Attended Keyboard) :
    Passing here here.takes? here.sends? (here.step .turn).component := by
  cases waits : here.bus.message? here.component.terminal with
  | none =>
    have unasked (read : Message) : ¬Asked here read := by
      rintro ⟨waits', -⟩
      rw [show here.bus.message? here.near = none from waits] at waits'
      contradiction
    refine passing_of_unasked unasked ?_ (.nothing _ _)
    simp [tick, waits]
  | some message =>
    by_cases reads : message.kind? = some .read
    · have asked : Asked here message := ⟨waits, reads⟩
      cases sent : here.bus.send? here.component.terminal (answerTo here) with
      | none =>
        refine (Passing.refused message asked).of_tick ?_ (.nothing _ _)
        rw [answerTo] at sent
        simp [tick, waits, reads, answer, sent]
      | some after =>
        have waits' := (message?_of_send? sent).trans waits
        have both := (Handled.of_send? sent).trans (.of_clear waits')
        rw [Option.none_or, Option.or_none] at both
        refine (Passing.answered message asked).of_tick ?_ both
        rw [answerTo] at sent
        simp [tick, waits, reads, answer, sent]
    · have unasked (read : Message) : ¬Asked here read := by
        rintro ⟨waits', reads'⟩
        obtain rfl : message = read := Option.some.inj (waits.symm.trans waits')
        exact reads reads'
      refine passing_of_unasked unasked ?_ (.of_clear waits)
      simp [tick, waits, reads, Attended.near, Endpoint.terminal]

end

/-! ## Runs -/

section
variable {attended : Attended Keyboard} {actions : List (LinkAction Word)}

lemma pressed_concat (actions : List (LinkAction Word)) (action : LinkAction Word) :
    pressed (actions ++ [action]) = pressed actions ++ pressed [action] :=
  List.filterMap_append

lemma announced_concat (turns : List (Attended Keyboard)) (turn : Attended Keyboard) :
    announced (turns ++ [turn]) = announced turns ++ (announced? turn).toList := by
  cases key : announced? turn <;> simp [announced, key]

/-- A turn announces the first of the keys that wait, or none. -/
lemma waiting_step (here : Attended Keyboard) :
    here.component.waiting
        = (announced? here).toList ++ (here.step .turn).component.waiting
      ∧ (here.step .turn).component.current
        = (announced? here).getD here.component.current := by
  have passing := passing_step here
  have silent (unsaid : ¬Rings here) (same : (here.step .turn).component = here.component.takeUp) :
      here.component.waiting
          = (announced? here).toList ++ (here.step .turn).component.waiting
        ∧ (here.step .turn).component.current
          = (announced? here).getD here.component.current := by
    rw [announced?, if_neg unsaid, same, waiting_takeUp, current_takeUp]
    exact ⟨rfl, rfl⟩
  generalize same : (here.step .turn).component = later at passing silent ⊢
  generalize said : here.sends? = sent at passing
  generalize here.takes? = taken at passing
  cases passing with
  | answered =>
    have unsaid : ¬Rings here := fun rings => answerTo_ne_interrupt here
      AddressMap.keyboardInterrupt (Option.some.inj (said.symm.trans rings))
    exact silent unsaid rfl
  | refused | rested => exact silent (by simp [Rings, said]) rfl
  | announced _ code _ ready =>
    have rings : Rings here := said
    rw [announced?, if_pos rings, same, ← waiting_takeUp, waiting, ready]
    exact ⟨rfl, rfl⟩

/-- What has been announced and what waits are the keys in the order of the presses, and the
register holds the one announced last. -/
lemma announced_waiting_run {terminal : Terminal}
    (new : attended.component = { terminal := terminal }) (actions : List (LinkAction Word)) :
    pressed actions
        = announced (attended.turns actions) ++ (attended.run actions).component.waiting
      ∧ (attended.run actions).component.current
        = (announced (attended.turns actions)).getLast?.getD 0 := by
  induction actions using List.reverseRecOn with
  | nil =>
    rw [show attended.run [] = attended from rfl, new]
    exact ⟨rfl, rfl⟩
  | append_singleton actions action ih =>
    obtain ⟨keys, current⟩ := ih
    rw [pressed_concat, Attended.turns_concat, Attended.run_append]
    generalize attended.run actions = here at keys current ⊢
    -- an action that neither has the keyboard's turn nor presses a key
    have kept (unpressed : pressed [action] = []) (other : here.begun action = [])
        (same : (here.run [action]).component = here.component) :
        pressed actions ++ pressed [action]
            = announced (attended.turns actions ++ here.begun action)
              ++ (here.run [action]).component.waiting
          ∧ (here.run [action]).component.current
            = (announced (attended.turns actions ++ here.begun action)).getLast?.getD 0 := by
      rw [unpressed, other, same, List.append_nil, List.append_nil]
      exact ⟨keys, current⟩
    cases action with
    | turn =>
      obtain ⟨moved, shown⟩ := waiting_step here
      change _ = announced (_ ++ [here]) ++ (here.step .turn).component.waiting
        ∧ (here.step .turn).component.current = (announced (_ ++ [here])).getLast?.getD 0
      rw [announced_concat, shown, List.append_assoc, ← moved, keys, current]
      refine ⟨List.append_nil _, ?_⟩
      cases announced? here <;> simp
    | tick | receive => exact kept rfl rfl rfl
    | offer message =>
      refine kept rfl rfl ?_
      change (here.step (.offer message)).component = here.component
      rw [Attended.step]
      split <;> rfl
    | host code =>
      change pressed actions ++ [code]
          = announced (_ ++ []) ++ (here.component.press code).waiting
        ∧ here.component.current = (announced (_ ++ [])).getLast?.getD 0
      rw [List.append_nil, waiting_press, ← List.append_assoc, ← keys]
      exact ⟨rfl, current⟩

/-- One key is announced for each interrupt that the link accepts. -/
lemma length_announced (turns : List (Attended Keyboard)) :
    (announced turns).length
      = (turns.filterMap Attended.sends?).count
          (Message.interrupt AddressMap.keyboardInterrupt) := by
  induction turns with
  | nil => rfl
  | cons turn turns ih =>
    rw [announced] at ih ⊢
    rw [List.filterMap_cons, List.filterMap_cons, announced?]
    by_cases rings : Rings turn
    · have said : turn.sends? = some (Message.interrupt AddressMap.keyboardInterrupt) := rings
      simp [if_pos rings, said, ih]
    · rw [if_neg rings]
      rw [Rings] at rings
      cases said : turn.sends? with
      | none => exact ih
      | some message =>
        have other : message ≠ Message.interrupt AddressMap.keyboardInterrupt := by
          rintro rfl
          exact rings said
        rw [List.count_cons_of_ne other]
        exact ih

/-- A read stays until the link accepts its answer. -/
lemma asked_step {here : Attended Keyboard} {read : Message} (asked : Asked here read)
    (action : LinkAction Word) :
    Asked (here.step action) read
      ∨ action = .turn ∧ here.takes? = some read ∧ here.sends? = some (answerTo here) := by
  by_cases other : action ≠ .turn
  · refine Or.inl ⟨?_, asked.2⟩
    rw [Attended.near_step]
    exact Attended.message?_step asked.1 other
  · obtain rfl : action = .turn := not_not.mp other
    obtain ⟨taken, sent, handled⟩ := here.exists_handled
    have takes := Attended.takes?_eq handled
    have stays := handled.message?_eq
    rw [← takes] at stays
    have passing := passing_step here
    generalize here.takes? = taken' at stays passing ⊢
    generalize here.sends? = sent' at passing ⊢
    generalize (here.step .turn).component = later at passing
    cases passing with
    | answered read' asked' =>
      obtain rfl : read = read' := Option.some.inj (asked.1.symm.trans asked'.1)
      exact Or.inr ⟨rfl, rfl, rfl⟩
    | refused =>
      refine Or.inl ⟨?_, asked.2⟩
      rw [Attended.near_step]
      exact stays.trans asked.1
    | announced _ _ unasked => exact absurd asked (unasked read)
    | rested _ unasked => exact absurd asked (unasked read)

/-- What a keyboard shows at some moment of a run. -/
structure AnnouncesInOrder (attended : Attended Keyboard) (actions : List (LinkAction Word)) :
    Prop where
  /-- The keys pressed are those announced, then the one whose turn it is and those that wait. -/
  keys : pressed actions
    = announced (attended.turns actions) ++ (attended.run actions).component.announcing.toList
      ++ (attended.run actions).component.queue
  /-- The link has accepted one interrupt for each key announced. -/
  count : (attended.run actions).sent.count (Message.interrupt AddressMap.keyboardInterrupt)
    = (announced (attended.turns actions)).length
  /-- The register holds the key announced last. -/
  current : (attended.run actions).component.current
    = (announced (attended.turns actions)).getLast?.getD 0
  /-- It changes only in a turn whose interrupt the link accepts. -/
  changes : ∀ action, ((attended.run actions).step action).component.current
      ≠ (attended.run actions).component.current →
    action = .turn ∧ Rings (attended.run actions)
  /-- If an answer is sent in the turn that begins, it answers a read, with what the register
  holds. -/
  answers : ∀ answer, (attended.run actions).sends? = some answer → answer.isResponse = true →
    answer = answerTo (attended.run actions)
      ∧ ∃ read, Asked (attended.run actions) read ∧ (attended.run actions).takes? = some read
  /-- A read stays, whatever happens, until the link accepts its answer. -/
  pending : ∀ read, Asked (attended.run actions) read → ∀ action,
    Asked ((attended.run actions).step action) read
      ∨ action = .turn ∧ (attended.run actions).takes? = some read
        ∧ (attended.run actions).sends? = some (answerTo (attended.run actions))

/-- **Each key is announced once, and in the order of the presses.** -/
theorem announcesInOrder_run {terminal : Terminal}
    (new : attended.component = { terminal := terminal }) (unsent : attended.sent = [])
    (actions : List (LinkAction Word)) : AnnouncesInOrder attended actions where
  keys := by
    rw [List.append_assoc]
    exact (announced_waiting_run new actions).1
  count := by rw [Attended.sent_run, unsent, List.nil_append, length_announced]
  current := (announced_waiting_run new actions).2
  changes action changed := by
    cases action with
    | turn =>
      refine ⟨rfl, by_contra fun silent => changed ?_⟩
      rw [(waiting_step (attended.run actions)).2, announced?, if_neg silent]
      rfl
    | tick | receive | host => exact absurd rfl changed
    | offer message =>
      refine absurd ?_ changed
      rw [Attended.step]
      split <;> rfl
  answers answer said response := by
    have passing := passing_step (attended.run actions)
    rw [said] at passing
    generalize (attended.run actions).takes? = taken at passing ⊢
    generalize ((attended.run actions).step .turn).component = later at passing
    cases passing with
    | answered read asked => exact ⟨rfl, read, asked, rfl⟩
    | announced => contradiction
  pending read asked action := asked_step asked action

end

/-- A keyboard on an empty link. -/
def newKeyboard : Attended Keyboard :=
  ⟨{ terminal := ⟨1⟩ }, (Interconnect.empty.link 1 10).1, [], [], [], []⟩

/-- Two keys are pressed, and a read is there before either is announced. -/
def readBeforeKeys : List (LinkAction Word) :=
  [.host 97, .host 98, .offer (Message.read AddressMap.keyboardRegister 1), .tick, .tick, .tick,
    .turn, .tick, .tick, .tick, .receive, .turn, .tick, .tick, .turn]

/-- The case of a read that is answered before the first key is announced. -/
theorem announcesInOrder_run_of_read :
    AnnouncesInOrder newKeyboard readBeforeKeys
      ∧ (newKeyboard.run readBeforeKeys).sent
        = [Message.response AddressMap.keyboardRegister [0],
          Message.interrupt AddressMap.keyboardInterrupt]
      ∧ (newKeyboard.run readBeforeKeys).component = ⟨⟨1⟩, [], 97, some 98⟩ :=
  ⟨announcesInOrder_run (show newKeyboard.component = { terminal := ⟨1⟩ } from rfl) rfl
    readBeforeKeys, by decide +kernel, by decide +kernel⟩

end Keyboard

end PipelinedMachine
