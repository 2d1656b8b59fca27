import PipelinedMachine.Proofs.Device.Visits

/-!
# A turn of the interrupt controller

In a turn the controller takes the message that waits for it, unless it is a read and an earlier
answer is still kept.  What it makes of the message concerns its table, the slot of the latest
interrupt among it, and the boot core's line.

* `Message.accepted?`, `Message.put?` — the interrupt that the controller accepts with a message,
  and what the message puts into the slot of the latest one;
* `InterruptController.Heeds`, `InterruptController.heeds_tick` — what becomes of that slot and of
  the line;
* `InterruptController.heeding`, `InterruptController.vectors_tick` — what becomes of the table;
* **`InterruptController.visit_heeding`** — a turn in one piece.
-/

namespace PipelinedMachine

open Interconnect

/-! ## The lines -/

namespace InterruptLines

lemma isRaised_quiet (cores id : Nat) : (quiet cores).isRaised id = false := by
  simp only [isRaised, quiet, Array.getD_eq_getD_getElem?, Array.getElem?_replicate]
  split_ifs <;> rfl

lemma take_fst (lines : InterruptLines) (id : Nat) : (lines.take id).1 = lines.isRaised id := by
  rw [take]
  split_ifs with raised
  · exact raised.symm
  · exact (Bool.eq_false_iff.mpr raised).symm

lemma size_raise (lines : InterruptLines) (core : Nat) :
    (lines.raise core).raised.size = lines.raised.size :=
  Array.size_modify

lemma size_take (lines : InterruptLines) (core : Nat) :
    (lines.take core).2.raised.size = lines.raised.size := by
  rw [take]
  split
  · exact Array.size_modify
  · rfl

lemma isRaised_raise (lines : InterruptLines) {core : Nat} (inside : core < lines.raised.size) :
    (lines.raise core).isRaised core = true := by
  simp [isRaised, raise, inside, Array.getElem_modify_self]

end InterruptLines

/-! ## The slot of the latest interrupt -/

namespace Message

/-- The interrupt that the controller accepts with a message. -/
def accepted? (message : Message) : Option Word :=
  if message.kind? = some .interrupt then some message.address else none

/-- What a message puts into the slot of the latest interrupt: an interrupt its id, and a store to
the slot the word. -/
def put? (message : Message) : Option Word :=
  match message.kind? with
  | some .interrupt => some message.address
  | some .write =>
    if message.address = AddressMap.lastInterrupt then some message.value else none
  | some .read | some .response | some .command | none => none

lemma put?_of_accepted? {message : Message} {id : Word} (accepts : message.accepted? = some id) :
    message.put? = some id := by
  rw [accepted?] at accepts
  split at accepts
  · next interrupt =>
    rw [put?, interrupt]
    exact accepts
  · contradiction

end Message

namespace InterruptController

variable (controller : InterruptController) (lines : InterruptLines) (bus : Interconnect)

lemma lastInterrupt_setVector (address value : Word) :
    (controller.setVector address value).lastInterrupt
      = if address = AddressMap.lastInterrupt then value else controller.lastInterrupt := by
  have slot : Word.offset? AddressMap.vectorStart AddressMap.lastInterrupt = some 256 := by decide
  have inside : 256 < AddressMap.vectorSlots := by decide
  simp only [lastInterrupt, vector, slot]
  split
  · next same =>
    subst same
    simp [setVector, slot, inside]
  · next apart =>
    cases place : Word.offset? AddressMap.vectorStart address with
    | none => simp [setVector, place]
    | some other =>
      have different : other ≠ 256 := fun same =>
        apart (Word.eq_of_offset? (same ▸ place) slot)
      simp [setVector, place, inside, different]

lemma bootCore_setVector (address value : Word) :
    (controller.setVector address value).bootCore = controller.bootCore := by
  obtain ⟨vectors, same⟩ := controller.setVector_eq address value
  rw [same]

/-- What the controller makes of the message that waits for it, if one does. -/
structure Heeds (controller : InterruptController) (lines : InterruptLines)
    (message? : Option Message) (later : InterruptController) (lines' : InterruptLines) :
    Prop where
  lastInterrupt : later.lastInterrupt
    = (message?.bind Message.put?).getD controller.lastInterrupt
  bootCore : later.bootCore = controller.bootCore
  lines : lines' = if (message?.bind Message.accepted?).isSome
    then lines.raise controller.bootCore else lines

lemma heeds_serve : controller.Heeds lines (bus.message? controller.terminal)
    (controller.serve lines bus).1 (controller.serve lines bus).2.1 := by
  rw [serve]
  cases waiting : bus.message? controller.terminal with
  | none => exact ⟨rfl, rfl, rfl⟩
  | some message =>
    simp only
    split
    · next kind =>
      have ignored : message.put? = none ∧ message.accepted? = none := by
        simp [Message.put?, Message.accepted?, kind]
      split
      · exact ⟨by simp [ignored], rfl, by simp [ignored]⟩
      · obtain ⟨unsent, same⟩ := controller.sendOrKeep_eq
          (Message.response message.address [controller.vector message.address])
          (bus.clear controller.terminal)
        refine ⟨?_, (congrArg bootCore same).trans rfl, by simp [ignored]⟩
        rw [Option.bind_some, ignored.1]
        exact (congrArg InterruptController.lastInterrupt same).trans rfl
    · next kind =>
      refine ⟨?_, controller.bootCore_setVector _ _, by simp [Message.accepted?, kind]⟩
      rw [lastInterrupt_setVector, Option.bind_some, Message.put?, kind]
      simp only
      split <;> rfl
    · next kind =>
      refine ⟨?_, controller.bootCore_setVector _ _, by simp [Message.accepted?, kind, raise]⟩
      rw [Option.bind_some, Message.put?, kind]
      exact (controller.lastInterrupt_setVector _ _).trans (if_pos rfl)
    all_goals
      next kind =>
      exact ⟨by simp [Message.put?, kind], rfl, by simp [Message.accepted?, kind]⟩

/-- A tick serves what waits for the controller, which an answer that goes first does not change. -/
lemma exists_serve_eq_tick : ∃ unsent between,
    controller.tick lines bus = serve { controller with unsent := unsent } lines between
      ∧ between.message? controller.terminal = bus.message? controller.terminal := by
  obtain ⟨unsent, same⟩ := controller.sendUnsent_eq bus
  obtain ⟨answered, visit⟩ := controller.visit_sendUnsent bus controller.answer?
  exact ⟨unsent, (controller.sendUnsent bus).2, by rw [← same, tick], visit.handled.message?_eq⟩

lemma heeds_tick : controller.Heeds lines (bus.message? controller.terminal)
    (controller.tick lines bus).1 (controller.tick lines bus).2.1 := by
  obtain ⟨unsent, between, ticked, waits⟩ := controller.exists_serve_eq_tick lines bus
  have heeds := heeds_serve { controller with unsent := unsent } lines between
  rw [ticked, ← waits]
  exact ⟨heeds.lastInterrupt, heeds.bootCore, heeds.lines⟩

/-! ## The table -/

/-- The slots after a slot has been replaced. -/
lemma vector_setVector (address value other : Word) :
    (controller.setVector address value).vector other = value ∧ other = address
      ∨ (controller.setVector address value).vector other = controller.vector other := by
  by_cases here : other = address
  · subst here
    cases place : Word.offset? AddressMap.vectorStart other with
    | none => exact Or.inr (by simp [setVector, place])
    | some slot =>
      by_cases inside : slot < AddressMap.vectorSlots
      · exact Or.inl ⟨by simp [setVector, vector, place, inside], rfl⟩
      · exact Or.inr (by simp [setVector, vector, place, inside])
  · refine Or.inr ?_
    cases place : Word.offset? AddressMap.vectorStart address with
    | none => simp [setVector, place]
    | some slot =>
      simp only [setVector, place, vector]
      cases place' : Word.offset? AddressMap.vectorStart other with
      | none => rfl
      | some distance =>
        have different : slot ≠ distance := fun same =>
          here (Word.eq_of_offset? place' (same ▸ place))
        simp [Vector.setIfInBounds, different]

lemma vector_setVector_eq {address : Word} {slot : Nat}
    (place : Word.offset? AddressMap.vectorStart address = some slot)
    (inside : slot < AddressMap.vectorSlots) (value other : Word) :
    (controller.setVector address value).vector other
      = if other = address then value else controller.vector other := by
  rcases controller.vector_setVector address value other with ⟨new, same⟩ | old
  · rw [new, if_pos same]
  · split
    · next same =>
      subst same
      simp [setVector, vector, place, inside]
    · exact old

/-- The table once the message that waits has been heeded. -/
def heeding (message? : Option Message) : InterruptController :=
  match message? with
  | some message =>
    match message.kind? with
    | some .write => controller.setVector message.address message.value
    | some .interrupt => controller.setVector AddressMap.lastInterrupt message.address
    | some .read | some .response | some .command | none => controller
  | none => controller

/-- What is kept to be sent has no say. -/
lemma vectors_heeding (unsent message? : Option Message) :
    ({ controller with unsent := unsent }.heeding message?).vectors
      = (controller.heeding message?).vectors := by
  have set (address value : Word) :
      ({ controller with unsent := unsent }.setVector address value).vectors
        = (controller.setVector address value).vectors := by
    simp only [setVector]
    split <;> rfl
  cases message? with
  | none => rfl
  | some message =>
    simp only [heeding]
    split <;> first | rfl | exact set _ _

lemma vectors_serve : (controller.serve lines bus).1.vectors
    = (controller.heeding (bus.message? controller.terminal)).vectors := by
  rw [serve]
  cases bus.message? controller.terminal with
  | none => rfl
  | some message =>
    simp only [heeding]
    split
    · next kind =>
      simp only [kind]
      split
      · rfl
      · obtain ⟨unsent, same⟩ := controller.sendOrKeep_eq
          (Message.response message.address [controller.vector message.address])
          (bus.clear controller.terminal)
        exact (congrArg vectors same).trans rfl
    all_goals
      next kind =>
      simp only [kind]
      try rfl

lemma vectors_tick : (controller.tick lines bus).1.vectors
    = (controller.heeding (bus.message? controller.terminal)).vectors := by
  obtain ⟨unsent, between, ticked, waits⟩ := controller.exists_serve_eq_tick lines bus
  rw [ticked, vectors_serve, vectors_heeding, ← waits]

/-! ## In one piece -/

/-- What waits for the controller is taken at once, if it is not a read. -/
lemma message?_tick {message : Message}
    (waiting : bus.message? controller.terminal = some message)
    (other : message.kind? ≠ some .read) :
    (controller.tick lines bus).2.2.message? controller.terminal = none := by
  obtain ⟨unsent, between, ticked, waits⟩ := controller.exists_serve_eq_tick lines bus
  rw [waiting] at waits
  rw [ticked, serve]
  simp only [waits]
  split
  · contradiction
  all_goals exact message?_clear

/-- A turn of the controller: it heeds the message that it takes. -/
lemma visit_heeding : ∃ taken answered,
    Visit controller.terminal bus (controller.tick lines bus).2.2 controller.answer?
        controller.owed (controller.tick lines bus).1.owed taken none answered
      ∧ (controller.tick lines bus).1.vectors = (controller.heeding taken).vectors
      ∧ (controller.tick lines bus).2.1 = if (taken.bind Message.accepted?).isSome
        then lines.raise controller.bootCore else lines := by
  obtain ⟨taken, answered, visit⟩ := controller.visit lines bus
  have vectors := controller.vectors_tick lines bus
  have raised := (controller.heeds_tick lines bus).lines
  refine ⟨taken, answered, visit, ?_⟩
  cases taken with
  | some message =>
    rw [visit.handled.waiting message rfl] at vectors raised
    exact ⟨vectors, raised⟩
  | none =>
    cases waiting : bus.message? controller.terminal with
    | none =>
      rw [waiting] at vectors raised
      exact ⟨vectors, raised⟩
    | some message =>
      -- it has been left waiting, so it is a read
      have reads : message.kind? = some .read := by
        by_contra other
        have gone := controller.message?_tick lines bus waiting other
        have left := visit.handled.message?_eq
        rw [Option.isSome_none, if_neg Bool.false_ne_true, waiting, gone] at left
        contradiction
      rw [waiting] at vectors raised
      refine ⟨vectors.trans ?_, raised.trans ?_⟩
      · simp only [heeding, reads]
      · simp [Message.accepted?, reads]

end InterruptController

end PipelinedMachine
