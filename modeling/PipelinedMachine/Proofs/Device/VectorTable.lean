import PipelinedMachine.Proofs.Device.Answers
import PipelinedMachine.Proofs.Device.Controller

/-!
# The interrupt controller as a server of its table

Stores, interrupts and reads reach the controller over its link; the machine that houses it also
calls it directly.  An answer that the link refuses is kept, stores and interrupts go past it, and
reads wait for it.  None of this shows: the controller is a table that heeds everything in the order
in which it comes, and answers each read with the word of that moment.

* `Incident` — what the controller takes from its link, and what its host does;
* `VectorTable.after`, `VectorTable.answer?` — what an incident does to the table, and its answer;
* `Incident.Signalled` — whether an interrupt has been raised since a line was last lowered;
* `VectorServer` — the controller with the lines and the history of its incidents;
* **`VectorServer.serves_run`** — over every run the controller gives the answers of the table, takes
  a read only when no earlier answer is kept, and has the boot core's line raised for as long as no
  one has lowered it.
-/

namespace PipelinedMachine

open Interconnect

/-! ## Incidents -/

/-- What the machine around the controller does with it, and with the lines. -/
inductive TableCall where
  /-- An interrupt is raised without a message. -/
  | raise (id : Word)
  /-- A word is put at an address. -/
  | store (address value : Word)
  /-- A core takes what its line shows. -/
  | lower (core : Nat)
deriving DecidableEq, Repr

/-- Something that happens to the controller or the lines. -/
inductive Incident where
  | taken (message : Message)
  | called (call : TableCall)
deriving DecidableEq, Repr

namespace Incident

/-- The message that is taken, if one is. -/
def message? : Incident → Option Message
  | taken message => some message
  | called _ => none

/-- Whether the boot core's line is raised. -/
def raises : Incident → Bool
  | taken message => message.kind? = some .interrupt
  | called (.raise _) => true
  | called (.store _ _) | called (.lower _) => false

/-- An interrupt has been raised, and no one has lowered the core's line since. -/
def Signalled (core : Nat) (history : List Incident) : Prop :=
  ∃ earlier incident later, history = earlier ++ incident :: later ∧ incident.raises = true
    ∧ called (.lower core) ∉ later

variable {core : Nat} {history : List Incident} {incident : Incident}

@[simp] lemma not_signalled_nil (core : Nat) : ¬Signalled core [] := by
  rintro ⟨earlier, incident, later, same, -⟩
  simp at same

lemma signalled_append (history : List Incident) (incident : Incident) :
    Signalled core (history ++ [incident])
      ↔ incident.raises = true ∨ Signalled core history ∧ incident ≠ called (.lower core) := by
  constructor
  · rintro ⟨earlier, raising, later, same, raises, kept⟩
    rcases later.eq_nil_or_concat with rfl | ⟨between, last, rfl⟩
    · obtain ⟨-, here⟩ := List.append_inj' same rfl
      obtain rfl := List.head_eq_of_cons_eq here
      exact Or.inl raises
    · rw [List.concat_eq_append, ← List.cons_append, ← List.append_assoc] at same
      obtain ⟨rfl, here⟩ := List.append_inj' same rfl
      obtain rfl := List.head_eq_of_cons_eq here
      simp only [List.concat_eq_append, List.mem_append, List.mem_singleton, not_or] at kept
      exact Or.inr ⟨⟨earlier, raising, between, rfl, raises, kept.1⟩, Ne.symm kept.2⟩
  · rintro (raises | ⟨⟨earlier, raising, later, rfl, raises, kept⟩, other⟩)
    · exact ⟨history, incident, [], rfl, raises, by simp⟩
    · refine ⟨earlier, raising, later ++ [incident], by simp, raises, ?_⟩
      simp [kept, Ne.symm other]

end Incident

/-! ## The table -/

/-- The table as its users see it: a word at each address. -/
abbrev VectorTable := Word → Word

namespace VectorTable

/-- A table of zeros. -/
def blank : VectorTable := fun _ => 0

/-- The table with a word put at an address; beyond the slots nothing changes. -/
def put (table : VectorTable) (address value : Word) : VectorTable := fun other =>
  if other = address ∧ 0 ≤ address ∧ address ≤ 256 then value else table other

/-- The table after an incident.  The latest interrupt is in the last slot. -/
def after (table : VectorTable) : Incident → VectorTable
  | .taken message =>
    match message.kind? with
    | some .write => table.put message.address message.value
    | some .interrupt => table.put 256 message.address
    | some .read | some .response | some .command | none => table
  | .called (.raise id) => table.put 256 id
  | .called (.store address value) => table.put address value
  | .called (.lower _) => table

/-- The answer to an incident: a read is answered under its address with the word that is there. -/
def answer? (table : VectorTable) : Incident → Option Message
  | .taken message =>
    if message.kind? = some .read then
      some (Message.response message.address [table message.address])
    else none
  | .called _ => none

/-- The table after some incidents. -/
def afterAll (table : VectorTable) (incidents : List Incident) : VectorTable :=
  incidents.foldl after table

/-- The answers to some incidents. -/
def answers (table : VectorTable) : List Incident → List Message
  | [] => []
  | incident :: incidents =>
    (table.answer? incident).toList ++ (table.after incident).answers incidents

lemma afterAll_append (table : VectorTable) (first second : List Incident) :
    table.afterAll (first ++ second) = (table.afterAll first).afterAll second :=
  List.foldl_append

lemma answers_append (table : VectorTable) (first second : List Incident) :
    table.answers (first ++ second)
      = table.answers first ++ (table.afterAll first).answers second := by
  induction first generalizing table with
  | nil => rfl
  | cons incident first ih =>
    rw [List.cons_append, answers, answers, ih, List.append_assoc]
    rfl

/-- What has been answered stays answered. -/
lemma answers_prefix (table : VectorTable) {first later : List Incident}
    (begins : first <+: later) : table.answers first <+: table.answers later := by
  obtain ⟨second, rfl⟩ := begins
  rw [answers_append]
  exact List.prefix_append _ _

/-- Beyond the slots nothing changes. -/
lemma put_outside {table : VectorTable} {other : Word} (outside : ¬(0 ≤ other ∧ other ≤ 256))
    (address value : Word) : table.put address value other = table other := by
  rw [put, if_neg]
  rintro ⟨rfl, inside⟩
  exact outside inside

lemma afterAll_outside (table : VectorTable) {other : Word}
    (outside : ¬(0 ≤ other ∧ other ≤ 256)) (incidents : List Incident) :
    table.afterAll incidents other = table other := by
  induction incidents generalizing table with
  | nil => rfl
  | cons incident incidents ih =>
    refine (ih (table.after incident)).trans ?_
    have put (address value : Word) : table.put address value other = table other :=
      put_outside outside address value
    rcases incident with message | call
    · rw [after]
      generalize message.kind? = kind?
      split <;> first | rfl | exact put _ _
    · cases call <;> first | rfl | exact put _ _

/-- An answer has three words. -/
lemma length_of_mem_answers {table : VectorTable} {incidents : List Incident} {answer : Message}
    (member : answer ∈ table.answers incidents) : answer.length = 3 := by
  induction incidents generalizing table with
  | nil => simp [answers] at member
  | cons incident incidents ih =>
    rw [answers, List.mem_append, Option.mem_toList] at member
    rcases member with here | later
    · rcases incident with message | call
      · rw [answer?] at here
        split at here
        · obtain rfl := Option.some.inj here
          rfl
        · contradiction
      · contradiction
    · exact ih later

end VectorTable

/-! ## The lines -/

namespace InterruptLines

/-- The lines after an incident.  What raises one raises that of the core `boot`. -/
def after (lines : InterruptLines) (boot : Nat) : Incident → InterruptLines
  | .taken message => if message.kind? = some .interrupt then lines.raise boot else lines
  | .called (.raise _) => lines.raise boot
  | .called (.store _ _) => lines
  | .called (.lower core) => (lines.take core).2

variable {lines : InterruptLines} {core other : Nat}

lemma isRaised_raise_of_ne (away : other ≠ core) :
    (lines.raise core).isRaised other = lines.isRaised other := by
  simp [isRaised, raise, Array.getD_eq_getD_getElem?, Array.getElem?_modify, Ne.symm away]

lemma isRaised_take_self (lines : InterruptLines) (core : Nat) :
    (lines.take core).2.isRaised core = false := by
  rw [take]
  split
  · simp only [isRaised, Array.getD_eq_getD_getElem?, Array.getElem?_modify, if_true]
    cases lines.raised[core]? <;> rfl
  · next low => simpa using low

lemma isRaised_take_of_ne (away : other ≠ core) :
    (lines.take core).2.isRaised other = lines.isRaised other := by
  rw [take]
  split
  · simp [isRaised, Array.getD_eq_getD_getElem?, Array.getElem?_modify, Ne.symm away]
  · rfl

lemma after_cases (lines : InterruptLines) (boot : Nat) (incident : Incident) :
    incident.raises = true ∧ (∀ core, incident ≠ .called (.lower core))
        ∧ lines.after boot incident = lines.raise boot
      ∨ (∃ core, incident = .called (.lower core)
        ∧ lines.after boot incident = (lines.take core).2)
      ∨ incident.raises = false ∧ (∀ core, incident ≠ .called (.lower core))
        ∧ lines.after boot incident = lines := by
  rcases incident with message | call
  · by_cases interrupt : message.kind? = some .interrupt
    · exact Or.inl ⟨by simpa [Incident.raises], by simp, by rw [after, if_pos interrupt]⟩
    · exact Or.inr (Or.inr ⟨by simpa [Incident.raises], by simp, by rw [after, if_neg interrupt]⟩)
  · cases call with
    | raise id => exact Or.inl ⟨rfl, by simp, rfl⟩
    | store address value => exact Or.inr (Or.inr ⟨rfl, by simp, rfl⟩)
    | lower core => exact Or.inr (Or.inl ⟨core, rfl, rfl⟩)

lemma size_after (lines : InterruptLines) (boot : Nat) (incident : Incident) :
    (lines.after boot incident).raised.size = lines.raised.size := by
  rcases lines.after_cases boot incident with ⟨-, -, same⟩ | ⟨core, -, same⟩ | ⟨-, -, same⟩
  · rw [same, size_raise]
  · rw [same, size_take]
  · rw [same]

/-- A line is raised with an interrupt, and stays as it is until it is lowered. -/
lemma isRaised_after (inside : core < lines.raised.size) (incident : Incident) :
    (lines.after core incident).isRaised core = true
      ↔ incident.raises = true
        ∨ lines.isRaised core = true ∧ incident ≠ .called (.lower core) := by
  rcases lines.after_cases core incident with
    ⟨raises, -, same⟩ | ⟨lowered, rfl, same⟩ | ⟨silent, other, same⟩
  · rw [same, isRaised_raise lines inside]
    exact iff_of_true rfl (Or.inl raises)
  · rw [same]
    by_cases own : lowered = core
    · subst own
      simp [isRaised_take_self, Incident.raises]
    · simp [isRaised_take_of_ne (Ne.symm own), Incident.raises, own]
  · simp [same, silent, other core]

/-- The other lines are never raised. -/
lemma isRaised_after_of_ne (away : other ≠ core) (low : lines.isRaised other = false)
    (incident : Incident) : (lines.after core incident).isRaised other = false := by
  rcases lines.after_cases core incident with ⟨-, -, same⟩ | ⟨lowered, rfl, same⟩ | ⟨-, -, same⟩
  · rw [same, isRaised_raise_of_ne away, low]
  · rw [same]
    by_cases own : other = lowered
    · subst own
      exact lines.isRaised_take_self other
    · rw [isRaised_take_of_ne own, low]
  · rw [same, low]

end InterruptLines

/-! ## The controller -/

namespace InterruptController

variable (controller : InterruptController) (lines : InterruptLines) (bus : Interconnect)

/-- The slots are at the addresses from 0 to 256. -/
lemma vector_setVector_eq_put (address value : Word) :
    (controller.setVector address value).vector
      = VectorTable.put controller.vector address value := by
  funext other
  have bounds : 0 ≤ address ∧ address ≤ 256 ↔ 0 ≤ address.toInt ∧ address.toInt ≤ 256 :=
    and_congr Int32.le_iff_toInt_le Int32.le_iff_toInt_le
  have place := Word.offset?_zero address
  rw [VectorTable.put]
  by_cases inside : 0 ≤ address.toInt ∧ address.toInt ≤ 256
  · rw [if_pos inside.1] at place
    have slot : address.toInt.toNat < AddressMap.vectorSlots := by
      rw [AddressMap.vectorSlots]
      omega
    simp [controller.vector_setVector_eq place slot, bounds.mpr inside]
  · rw [if_neg fun both => inside (bounds.mp both.2)]
    have unchanged : controller.setVector address value = controller := by
      rw [setVector, show Word.offset? AddressMap.vectorStart address = _ from place]
      split
      · next slot found =>
        have beyond : ¬slot < AddressMap.vectorSlots := by
          obtain ⟨above, distance⟩ := Option.ite_none_right_eq_some.mp found
          obtain rfl := Option.some.inj distance
          rw [AddressMap.vectorSlots]
          omega
        rw [Vector.setIfInBounds_eq_of_size_le (Nat.le_of_not_lt beyond)]
      · rfl
    rw [unchanged]

/-- Only the table counts. -/
lemma vector_of_vectors {controller other : InterruptController}
    (same : controller.vectors = other.vectors) : controller.vector = other.vector := by
  funext address
  rw [vector, vector, same]

lemma vector_heeding (message : Message) :
    (controller.heeding (some message)).vector
      = VectorTable.after controller.vector (.taken message) := by
  simp only [heeding, VectorTable.after]
  generalize message.kind? = kind?
  split
  · exact controller.vector_setVector_eq_put _ _
  · exact controller.vector_setVector_eq_put _ _
  all_goals rfl

/-- A read is taken unless an answer is kept. -/
lemma message?_serve_of_read {message : Message} (reads : message.kind? = some .read)
    (waiting : bus.message? controller.terminal = some message)
    (free : controller.unsent = none) :
    (controller.serve lines bus).2.2.message? controller.terminal = none := by
  obtain ⟨answered, visit⟩ := controller.visit_sendOrKeep
    (Message.response message.address [controller.vector message.address])
    (bus.clear controller.terminal) controller.answer?
  rw [serve, waiting]
  simp only [reads, free]
  rw [visit.handled.message?_eq, Option.isSome_none, if_neg Bool.false_ne_true, message?_clear]

/-- A read that is left waiting waits for an answer that is kept. -/
lemma isSome_unsent_tick {message : Message} (reads : message.kind? = some .read)
    (waiting : bus.message? controller.terminal = some message)
    (left : (controller.tick lines bus).2.2.message? controller.terminal = some message) :
    (controller.tick lines bus).1.unsent.isSome := by
  obtain ⟨unsent, same⟩ := controller.sendUnsent_eq bus
  obtain ⟨answered, visit⟩ := controller.visit_sendUnsent bus controller.answer?
  have waits := visit.handled.message?_eq
  rw [Option.isSome_none, if_neg Bool.false_ne_true, waiting] at waits
  rw [tick] at left ⊢
  simp only at left ⊢
  generalize controller.sendUnsent bus = sending at same waits left
  obtain ⟨sender, between⟩ := sending
  simp only at same waits left ⊢
  have terminal : controller.terminal = sender.terminal := by rw [same]
  rw [terminal] at waits left
  cases kept : sender.unsent with
  | some answer => rw [unsent_serve kept, Option.isSome_some]
  | none =>
    rw [sender.message?_serve_of_read lines between reads waits kept] at left
    contradiction

end InterruptController

/-! ## The controller with its history -/

/-- The controller with the lines, and everything that has happened to them. -/
structure VectorServer where
  controller : InterruptController
  lines : InterruptLines
  /-- Oldest first. -/
  history : List Incident := []

namespace VectorServer

/-- A controller with an empty table, and lines that no one has raised. -/
def reset (terminal : Terminal) (boot cores : Nat) : VectorServer where
  controller := .reset terminal boot
  lines := .quiet cores

/-- A turn of the controller.  What it takes can be told from the link. -/
def turn (server : VectorServer) (bus : Interconnect) : VectorServer × Interconnect :=
  let (controller, lines, after) := server.controller.tick server.lines bus
  let taken := Interconnect.taken? server.controller.terminal bus after
  (⟨controller, lines, server.history ++ taken.toList.map .taken⟩, after)

/-- What a call does to the controller and the lines. -/
def perform (server : VectorServer) : TableCall → InterruptController × InterruptLines
  | .raise id => server.controller.raise id server.lines
  | .store address value => (server.controller.setVector address value, server.lines)
  | .lower core => (server.controller, (server.lines.take core).2)

/-- A call. -/
def call (server : VectorServer) (call : TableCall) : VectorServer :=
  let (controller, lines) := server.perform call
  ⟨controller, lines, server.history ++ [.called call]⟩

/-- A call leaves the link and what waits to be sent alone. -/
lemma call_eq (server : VectorServer) (call : TableCall) :
    ∃ vectors, (server.call call).controller = { server.controller with vectors := vectors } := by
  cases call with
  | raise id => exact server.controller.setVector_eq AddressMap.lastInterrupt id
  | store address value => exact server.controller.setVector_eq address value
  | lower core => exact ⟨server.controller.vectors, rfl⟩

instance : Endpoint VectorServer TableCall where
  terminal server := server.controller.terminal
  turn := turn
  host := call
  handled server bus := by
    obtain ⟨taken, answered, visit⟩ := server.controller.visit server.lines bus
    exact ⟨taken, _, visit.handled⟩
  terminal_turn server bus := server.controller.terminal_tick server.lines bus
  terminal_host server call := by
    obtain ⟨vectors, same⟩ := server.call_eq call
    rw [same]

/-- The controller on its link is a server of the table, for the core `boot`. -/
structure Serves (boot cores : Nat) (attended : Attended VectorServer) : Prop where
  /-- It has taken the messages of its history. -/
  heard : attended.component.history.filterMap Incident.message? = attended.taken
  /-- Each address has the word that its history has left there. -/
  table : ∀ address, attended.component.controller.vector address
    = VectorTable.blank.afterAll attended.component.history address
  /-- Beyond the slots there are only zeros. -/
  beyond : ∀ address, ¬(0 ≤ address ∧ address ≤ 256) →
    attended.component.controller.vector address = 0
  /-- It has sent the answers of the table, in order and word for word, but for the one that it
  keeps, and nothing else. -/
  answers : attended.sent ++ attended.component.controller.unsent.toList
    = VectorTable.blank.answers attended.component.history
  /-- It has taken the messages in the order in which they were sent. -/
  link : attended.Conserved
  /-- A read that waits is taken if all earlier answers have been sent by then; it is left waiting
  only while one of them is kept. -/
  reads : ∀ message, attended.bus.message? attended.near = some message →
    message.kind? = some .read →
    (attended.step .turn).taken = attended.taken ++ [message]
        ∧ VectorTable.blank.answers attended.component.history <+: (attended.step .turn).sent
      ∨ (attended.step .turn).taken = attended.taken
        ∧ (attended.step .turn).sent = attended.sent
        ∧ attended.component.controller.unsent.isSome
  /-- Any other message is taken at once. -/
  others : ∀ message, attended.bus.message? attended.near = some message →
    message.kind? ≠ some .read → (attended.step .turn).taken = attended.taken ++ [message]
  /-- The line of the core is raised, and the core will find it so, if an interrupt has been raised
  since it last looked. -/
  line : boot < cores →
    (attended.component.lines.isRaised boot = true
        ↔ Incident.Signalled boot attended.component.history)
      ∧ ((attended.component.lines.take boot).1 = true
        ↔ Incident.Signalled boot attended.component.history)
  /-- No other line is ever raised. -/
  quiet : ∀ core, core ≠ boot → attended.component.lines.isRaised core = false
  /-- Whatever else happens, as long as what arrives at the other end is taken there, all the
  answers leave. -/
  leaves : 3 ≤ attended.bus.capacity attended.near →
    ∀ between : Nat → List (LinkAction TableCall),
    (∀ index, ∀ action ∈ between index, Attended.Outside action) →
    ∃ count, VectorTable.blank.answers attended.component.history
      <+: (attended.run (Attended.rounds between count)).sent

/-- What a run keeps true of the controller and the record of its turns. -/
structure Keeps (boot cores : Nat) (server : VectorServer) (taken sent : List Message) :
    Prop where
  bootCore : server.controller.bootCore = boot
  size : server.lines.raised.size = cores
  heard : server.history.filterMap Incident.message? = taken
  table : server.controller.vector = VectorTable.blank.afterAll server.history
  answers : sent ++ server.controller.owed = VectorTable.blank.answers server.history
  line : boot < cores →
    (server.lines.isRaised boot = true ↔ Incident.Signalled boot server.history)
  quiet : ∀ core, core ≠ boot → server.lines.isRaised core = false

variable {boot cores : Nat} {server later : VectorServer} {taken sent sent' : List Message}

lemma keeps_reset (terminal : Terminal) (boot cores : Nat) :
    (reset terminal boot cores).Keeps boot cores [] [] where
  bootCore := rfl
  size := Array.size_replicate
  heard := rfl
  table := by
    funext address
    simp only [reset, InterruptController.reset, InterruptController.vector,
      Vector.toArray_replicate, Array.getD_eq_getD_getElem?, Array.getElem?_replicate]
    split
    · split_ifs <;> rfl
    · rfl
  answers := rfl
  line := fun _ => by
    simp [reset, InterruptLines.isRaised_quiet]
  quiet := fun core _ => InterruptLines.isRaised_quiet cores core

/-- Whatever happens to the controller, it heeds it as the table does. -/
lemma Keeps.heed (keeps : server.Keeps boot cores taken sent) (incident : Incident)
    (bootCore : later.controller.bootCore = server.controller.bootCore)
    (history : later.history = server.history ++ [incident])
    (table : later.controller.vector = VectorTable.after server.controller.vector incident)
    (lines : later.lines = server.lines.after server.controller.bootCore incident)
    (answers : sent' ++ later.controller.owed
      = sent ++ server.controller.owed
        ++ (VectorTable.answer? server.controller.vector incident).toList) :
    later.Keeps boot cores (taken ++ incident.message?.toList) sent' where
  bootCore := bootCore.trans keeps.bootCore
  size := by rw [lines, InterruptLines.size_after, keeps.size]
  heard := by
    rw [history, List.filterMap_append, keeps.heard]
    cases incident <;> rfl
  table := by
    rw [table, history, VectorTable.afterAll_append, keeps.table]
    rfl
  answers := by
    rw [answers, history, VectorTable.answers_append, keeps.answers, keeps.table]
    simp [VectorTable.answers]
  line := fun inside => by
    rw [lines, history, keeps.bootCore, Incident.signalled_append,
      InterruptLines.isRaised_after (keeps.size ▸ inside), keeps.line inside]
  quiet := fun core away => by
    rw [lines, keeps.bootCore]
    exact InterruptLines.isRaised_after_of_ne away (keeps.quiet core away) incident

lemma Keeps.call (keeps : server.Keeps boot cores taken sent) (call : TableCall) :
    (server.call call).Keeps boot cores taken sent := by
  obtain ⟨vectors, same⟩ := server.call_eq call
  have heeds : (server.call call).Keeps boot cores
      (taken ++ (Incident.called call).message?.toList) sent := by
    refine keeps.heed (.called call) ?_ rfl ?_ ?_ ?_
    · rw [same]
    · cases call with
      | raise id => exact server.controller.vector_setVector_eq_put _ _
      | store address value => exact server.controller.vector_setVector_eq_put _ _
      | lower core => rfl
    · cases call <;> rfl
    · rw [same]
      simp [InterruptController.owed, VectorTable.answer?]
  simpa [Incident.message?] using heeds

lemma Keeps.turn (keeps : server.Keeps boot cores taken sent) (bus : Interconnect) :
    ∃ taken' sent', Handled server.controller.terminal bus (server.turn bus).2 taken' sent'
      ∧ (server.turn bus).1.Keeps boot cores (taken ++ taken'.toList)
        (sent ++ sent'.toList) := by
  obtain ⟨taken', answered, visit, vectors, lines⟩ :=
    server.controller.visit_heeding server.lines bus
  have bootCore := (server.controller.heeds_tick server.lines bus).bootCore
  have history : (server.turn bus).1.history = server.history ++ taken'.toList.map .taken := by
    simp only [VectorServer.turn, visit.handled.taken?_eq]
  have table := InterruptController.vector_of_vectors vectors
  have settled := visit.settled
  refine ⟨taken', _, visit.handled, ?_⟩
  rw [Option.none_or]
  cases taken' with
  | none =>
    rw [Option.bind_none, Option.toList_none, List.append_nil] at settled
    rw [Option.toList_none, List.map_nil, List.append_nil] at history
    exact {
      bootCore := bootCore.trans keeps.bootCore
      size := (congrArg (·.raised.size) lines).trans keeps.size
      heard := by rw [history, keeps.heard, Option.toList_none, List.append_nil]
      table := by
        rw [history]
        exact table.trans keeps.table
      answers := by
        rw [history, List.append_assoc, ← keeps.answers, settled]
        rfl
      line := fun inside => by
        rw [history, ← keeps.line inside]
        exact iff_of_eq (congrArg (·.isRaised boot = true) lines)
      quiet := fun core away => (congrArg (·.isRaised core) lines).trans (keeps.quiet core away) }
  | some message =>
    refine keeps.heed (.taken message) bootCore history
      (table.trans (server.controller.vector_heeding message)) (lines.trans ?_) ?_
    · rw [InterruptLines.after, Option.bind_some, Message.accepted?]
      split <;> simp
    · rw [List.append_assoc, List.append_assoc]
      exact congrArg (sent ++ ·) settled.symm

lemma Keeps.run {attended : Attended VectorServer}
    (keeps : attended.component.Keeps boot cores attended.taken attended.sent)
    (actions : List (LinkAction TableCall)) :
    (attended.run actions).component.Keeps boot cores (attended.run actions).taken
      (attended.run actions).sent :=
  Attended.invariant_run (Keeps boot cores)
    (fun _ bus _ _ _ kept => Keeps.turn kept bus)
    (fun _ event _ _ kept => Keeps.call kept event) keeps rfl actions

/-- The history only grows. -/
lemma history_prefix_run (attended : Attended VectorServer)
    (actions : List (LinkAction TableCall)) :
    attended.component.history <+: (attended.run actions).component.history := by
  induction actions generalizing attended with
  | nil => exact List.prefix_rfl
  | cons action later ih =>
    refine List.IsPrefix.trans ?_ (ih (attended.step action))
    cases action with
    | turn | host => exact List.prefix_append _ _
    | offer message =>
      rw [Attended.step]
      split <;> exact List.prefix_rfl
    | tick | receive => exact List.prefix_rfl

/-- A read is taken once the way is free for its answer to be kept. -/
lemma Keeps.reads {attended : Attended VectorServer} {message : Message}
    (keeps : attended.component.Keeps boot cores attended.taken attended.sent)
    (waiting : attended.bus.message? attended.near = some message)
    (reads : message.kind? = some .read) :
    (attended.step .turn).taken = attended.taken ++ [message]
        ∧ VectorTable.blank.answers attended.component.history <+: (attended.step .turn).sent
      ∨ (attended.step .turn).taken = attended.taken
        ∧ (attended.step .turn).sent = attended.sent
        ∧ attended.component.controller.unsent.isSome := by
  obtain ⟨taken', answered, visit, -, -⟩ :=
    attended.component.controller.visit_heeding attended.component.lines attended.bus
  have settled := visit.settled
  rw [attended.step_turn visit.handled]
  simp only [Option.none_or, ← keeps.answers, InterruptController.owed] at settled ⊢
  generalize attended.component.controller.unsent = before at settled ⊢
  cases taken' with
  | some other =>
    obtain rfl := Option.some.inj ((visit.handled.waiting other rfl).symm.trans waiting)
    refine Or.inl ⟨rfl, List.prefix_append_right_inj _ |>.mpr ?_⟩
    cases answered with
    | some answer =>
      cases before with
      | none => exact List.nil_prefix
      | some kept =>
        obtain rfl := List.head_eq_of_cons_eq settled
        exact List.prefix_rfl
    | none =>
      cases before with
      | none => exact List.prefix_rfl
      | some kept =>
        -- two answers cannot both be kept
        have answers : attended.component.controller.answer? other
            = some (Message.response other.address
              [attended.component.controller.vector other.address]) := if_pos reads
        rw [Option.bind_some, answers] at settled
        have lengths := congrArg List.length settled
        cases last : (attended.component.controller.tick attended.component.lines
          attended.bus).1.unsent <;> simp [last] at lengths
  | none =>
    have left := visit.handled.message?_eq
    rw [Option.isSome_none, if_neg Bool.false_ne_true,
      show attended.bus.message? attended.component.controller.terminal = _ from waiting] at left
    have kept := attended.component.controller.isSome_unsent_tick attended.component.lines
      attended.bus reads waiting left
    obtain ⟨last, same⟩ := Option.isSome_iff_exists.mp kept
    rw [same] at settled
    have lengths := congrArg List.length settled
    refine Or.inr ⟨List.append_nil _, ?_⟩
    cases answered with
    | none => exact ⟨List.append_nil _, by cases before <;> simp at lengths ⊢⟩
    | some answer => cases before <;> simp at lengths

/-- The answer that the controller keeps leaves after finitely many rounds. -/
lemma Keeps.exists_rounds_sent {attended : Attended VectorServer} {answer : Message}
    (keeps : attended.component.Keeps boot cores attended.taken attended.sent)
    (wide : 3 ≤ attended.bus.capacity attended.near)
    (kept : attended.component.controller.unsent = some answer)
    (between : Nat → List (LinkAction TableCall))
    (outside : ∀ index, ∀ action ∈ between index, Attended.Outside action) :
    ∃ count earlier, (attended.run (Attended.rounds between count)).sent
      = attended.sent ++ earlier ++ [answer] := by
  have three : answer.length = 3 := by
    have member : answer ∈ VectorTable.blank.answers attended.component.history := by
      rw [← keeps.answers, InterruptController.owed, kept]
      simp
    exact VectorTable.length_of_mem_answers member
  refine Attended.exists_rounds_sent ⟨?_,
    fun server bus rank _ busy waits =>
      InterruptController.Waits.busy waits busy server.lines
        (Interconnect.carried?_of_ticksLeft busy),
    fun server bus rank leads free waits =>
      Or.inl (InterruptController.Waits.free waits server.lines leads.linked free
        (List.ne_nil_of_length_pos (three ▸ Nat.succ_pos 2))
        (le_of_eq_of_le three (le_of_le_of_eq wide leads.capacity.symm)))⟩
    between outside attended
    ⟨⟨rfl, rfl, Interconnect.isSome_outgoing? (Nat.lt_of_lt_of_le (Nat.succ_pos 2) wide)⟩,
      ⟨kept, rfl⟩⟩
  intro server call left rank waits
  obtain ⟨vectors, same⟩ := server.call_eq call
  exact ⟨(congrArg InterruptController.unsent same).trans waits.1, waits.2⟩

lemma Keeps.serves {attended : Attended VectorServer}
    (keeps : attended.component.Keeps boot cores attended.taken attended.sent)
    (conserved : attended.Conserved) : Serves boot cores attended where
  heard := keeps.heard
  table := congrFun keeps.table
  beyond address outside := by
    rw [keeps.table, VectorTable.afterAll_outside _ outside]
    rfl
  answers := keeps.answers
  link := conserved
  reads message waiting reads := keeps.reads waiting reads
  others message waiting other := by
    have gone := attended.component.controller.message?_tick attended.component.lines
      attended.bus waiting other
    have taken : taken? attended.near attended.bus
        (attended.component.turn attended.bus).2 = some message := by
      rw [taken?, waiting]
      exact if_pos (Option.isNone_iff_eq_none.mpr gone)
    exact congrArg (fun taken => attended.taken ++ taken.toList) taken
  line inside := by
    rw [InterruptLines.take_fst]
    exact ⟨keeps.line inside, keeps.line inside⟩
  quiet := keeps.quiet
  leaves wide between outside := by
    cases kept : attended.component.controller.unsent with
    | none =>
      refine ⟨0, ?_⟩
      rw [← keeps.answers, InterruptController.owed, kept, Option.toList_none, List.append_nil]
      exact List.prefix_rfl
    | some answer =>
      obtain ⟨count, earlier, sends⟩ := keeps.exists_rounds_sent wide kept between outside
      refine ⟨count, ?_⟩
      -- the history is a beginning of the later one, whose answers these are
      have begins := VectorTable.answers_prefix VectorTable.blank
        (history_prefix_run attended (Attended.rounds between count))
      rw [← (keeps.run (Attended.rounds between count)).answers] at begins
      refine List.prefix_of_prefix_length_le begins (List.prefix_append _ _) ?_
      rw [← keeps.answers, sends, InterruptController.owed, kept]
      simp only [List.length_append, Option.toList_some]
      omega

/-- **Over every run, the controller on its link is a server of its table.** -/
theorem serves_run (terminal : Terminal) (boot cores : Nat) {attended : Attended VectorServer}
    (start : attended.component = reset terminal boot cores) (fresh : attended.Fresh)
    (actions : List (LinkAction TableCall)) : Serves boot cores (attended.run actions) := by
  have keeps : attended.component.Keeps boot cores attended.taken attended.sent := by
    rw [start, fresh.taken, fresh.sent]
    exact keeps_reset terminal boot cores
  exact (keeps.run actions).serves (fresh.conserved.run actions)

/-- A controller for two cores on a new link of three words. -/
def housed : Attended VectorServer where
  component := reset ⟨1⟩ 0 2
  bus := (Interconnect.empty.link 1 3).1

lemma housed_fresh : housed.Fresh := ⟨rfl, rfl, rfl, rfl, by decide +kernel, by decide +kernel⟩

/-- An answer is kept while the one before it is on the link, and a store and an interrupt go past
it. -/
def housedActions : List (LinkAction TableCall) :=
  [.host (.store 7 40), .offer (Message.read 7 1), .tick, .tick, .tick, .turn,
    .offer (Message.read 7 1), .tick, .tick, .tick, .turn,
    .offer (Message.write 7 41), .tick, .tick, .tick, .turn,
    .offer (Message.interrupt 9), .tick, .tick, .turn, .host (.lower 0),
    .offer (Message.read 256 1), .tick, .tick, .tick, .turn, .receive, .turn]

/-- The kept answer still has the word of its moment. -/
theorem serves_housed :
    Serves 0 2 (housed.run housedActions)
      ∧ (housed.run housedActions).sent = [Message.response 7 [40], Message.response 7 [40]]
      ∧ (housed.run housedActions).component.controller.owed = [Message.response 256 [9]]
      ∧ (housed.run housedActions).component.controller.vector 7 = 41 :=
  ⟨serves_run ⟨1⟩ 0 2 rfl housed_fresh _, by decide +kernel, by decide +kernel, by decide +kernel⟩

end VectorServer

end PipelinedMachine
