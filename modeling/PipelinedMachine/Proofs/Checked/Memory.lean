import PipelinedMachine.Proofs.Checked.Links
import PipelinedMachine.Proofs.Device.FlatMemory

/-!
# Main memory with checked accesses

Main memory and the ROM on links with checked accesses, and the pages behind main memory.  An
address becomes an index only after it has been compared with the size of the memory, and the place
within a page is a remainder; so on sturdy links a checked turn is the turn.

* `PendingReply.tickChecked`, `replyCountChecked`, `replyFromChecked` — answers;
* `SparseMemory.readChecked`, `SparseMemory.writeChecked`, `SparseMemory.loadChecked` — pages;
* `Ram.loadChecked_eq`, `Ram.tickChecked_eq`, `Rom.tickChecked_eq` — no check fails.
-/

namespace PipelinedMachine

open Interconnect

variable {bus : Interconnect} {terminals : Nat}

/-! ## Answers -/

/-- One tick of an answer that is held back. -/
def PendingReply.tickChecked (reply? : Option PendingReply) (terminal : Terminal)
    (bus : Interconnect) : Checked (Option PendingReply × Interconnect) := do
  match reply? with
  | none => pure (none, bus)
  | some reply =>
    if reply.delay > 0 then
      let delay ← Checked.sub reply.delay 1
      pure (some { reply with delay := delay }, bus)
    else
      match ← bus.sendChecked terminal reply.message with
      | some bus => pure (none, bus)
      | none => pure (some reply, bus)

/-- How many of the requested words fit in one answer. -/
def replyCountChecked (bus : Interconnect) (terminal : Terminal) (requested : Word) :
    Checked Nat := do
  let capacity ← bus.capacityChecked terminal
  pure (min requested.toNatClampNeg (capacity - 2))

/-- The answer to a read out of a memory whose words are looked up. -/
def replyFromChecked (word : Word → Checked Word) (address : Word) (count : Nat) :
    Checked Message := do
  let values ← (List.range count).mapM fun i => word (address + Int32.ofNat i)
  pure (Message.response address values)

lemma PendingReply.tickChecked_eq {terminal : Terminal} (sturdy : bus.Sturdy terminals)
    (inside : terminal.index < terminals) (reply? : Option PendingReply) :
    PendingReply.tickChecked reply? terminal bus
      = pure (PendingReply.tick reply? terminal bus) := by
  cases reply? with
  | none => rfl
  | some reply =>
    rw [PendingReply.tickChecked, PendingReply.tick]
    split
    · next positive => rw [Checked.sub_one_eq positive, pure_bind]
    · rw [sturdy.sendChecked_eq inside, pure_bind]
      cases bus.send? terminal reply.message <;> rfl

lemma replyCountChecked_eq {terminal : Terminal} (sturdy : bus.Sturdy terminals)
    (inside : terminal.index < terminals) (requested : Word) :
    replyCountChecked bus terminal requested = pure (replyCount bus terminal requested) := by
  rw [replyCountChecked, sturdy.capacityChecked_eq inside, pure_bind, replyCount]

lemma replyFromChecked_eq {word : Word → Checked Word} {value : Word → Word}
    (same : ∀ address, word address = pure (value address)) (address : Word) (count : Nat) :
    replyFromChecked word address count = pure (replyFrom value address count) := by
  rw [replyFromChecked, Checked.mapM_eq fun i _ => same (address + Int32.ofNat i), pure_bind,
    replyFrom]

/-! ## Pages -/

namespace SparseMemory

/-- The word at an offset: a page that is kept is looked into. -/
def readChecked (memory : SparseMemory) (offset : Nat) : Checked Word :=
  if memory.covers offset then
    match memory.pages[offset / pageWords]? with
    | some page => Checked.element page.toArray (offset % pageWords)
    | none => pure 0
  else pure 0

/-- Replaces the word at an offset; none outside the array. -/
def writeChecked (memory : SparseMemory) (offset : Nat) (value : Word) :
    Checked (Option SparseMemory) := do
  if memory.covers offset then
    Checked.place (memory.pages[offset / pageWords]?.getD Page.blank).toArray.size
      (offset % pageWords)
    pure (some (memory.write offset value))
  else pure none

/-- Replaces words from an offset on, those before `index` already being in place.  It ends with the
first word that has no place. -/
def loadChecked (offset : Nat) : SparseMemory → Nat → List Word → Checked SparseMemory
  | memory, _, [] => pure memory
  | memory, index, word :: rest => do
    let place ← Checked.add offset index
    match ← memory.writeChecked place word with
    | some memory => loadChecked offset memory (index + 1) rest
    | none => pure memory

variable (memory : SparseMemory)

lemma readChecked_eq (offset : Nat) : memory.readChecked offset = pure (memory.read offset) := by
  rw [readChecked, read]
  split
  · cases memory.pages[offset / pageWords]? with
    | none => rfl
    | some page =>
      have inside : offset % pageWords < page.toArray.size := by
        rw [page.size_toArray]
        exact Nat.mod_lt _ (by decide)
      simp only [Checked.element_eq (Array.getElem?_eq_getElem inside)]
      rfl
  · rfl

lemma writeChecked_eq (offset : Nat) (value : Word) :
    memory.writeChecked offset value
      = pure (if memory.covers offset then some (memory.write offset value) else none) := by
  rw [writeChecked]
  split
  · rw [Checked.place_eq, pure_bind]
    rw [Vector.size_toArray]
    exact Nat.mod_lt _ (by decide)
  · rfl

/-- Beyond the end of the array nothing changes. -/
lemma foldl_write_beyond {memory : SparseMemory} {offset index : Nat}
    (beyond : memory.size ≤ offset + index) (words : List Word) :
    (words.zipIdx index).foldl (fun memory entry => memory.write (offset + entry.2) entry.1) memory
      = memory := by
  induction words generalizing index with
  | nil => rfl
  | cons word rest ih =>
    have outside : memory.covers (offset + index) = false := by
      rw [covers, decide_eq_false_iff_not]
      omega
    rw [List.zipIdx_cons, List.foldl_cons, write, outside]
    exact ih (by omega)

lemma loadChecked_eq {memory : SparseMemory} {offset : Nat} (small : memory.size < UInt64.size)
    (inside : memory.covers offset = true) (words : Array Word) :
    loadChecked offset memory 0 words.toList = pure (memory.load offset words) := by
  have turns (words : List Word) (index : Nat) (memory : SparseMemory)
      (small : memory.size < UInt64.size) (reached : offset + index ≤ memory.size) :
      loadChecked offset memory index words
        = pure ((words.zipIdx index).foldl
          (fun memory entry => memory.write (offset + entry.2) entry.1) memory) := by
    induction words generalizing index memory with
    | nil => rfl
    | cons word rest ih =>
      rw [loadChecked, Checked.add_eq (by omega), pure_bind, writeChecked_eq, pure_bind,
        List.zipIdx_cons, List.foldl_cons]
      cases here : memory.covers (offset + index) with
      | true =>
        have here := of_decide_eq_true here
        exact ih _ _ (by rwa [size_write]) (by rw [size_write]; omega)
      | false =>
        have beyond : memory.size ≤ offset + index :=
          Nat.le_of_not_lt (of_decide_eq_false here)
        have unchanged : memory.write (offset + index) word = memory := by rw [write, here]; rfl
        rw [unchanged, foldl_write_beyond (by omega)]
        rfl
  have inside := of_decide_eq_true inside
  rw [load, ← Array.foldl_toList, Array.toList_zipIdx]
  exact turns words.toList 0 memory small (by omega)

end SparseMemory

/-! ## Main memory -/

namespace Ram

/-- The word at an address. -/
def readWordChecked (ram : Ram) (address : Word) : Checked Word :=
  match Word.offset? ram.base address with
  | some offset => ram.words.readChecked offset
  | none => pure 0

/-- The memory with the word at an address replaced. -/
def writeWordChecked (ram : Ram) (address value : Word) : Checked Ram := do
  match Word.offset? ram.base address with
  | some offset =>
    match ← ram.words.writeChecked offset value with
    | some words => pure { ram with words := words }
    | none => pure ram
  | none => pure ram

/-- The memory with the words from an address on replaced, as far as it goes. -/
def loadChecked (ram : Ram) (address : Word) (words : Array Word) : Checked Ram := do
  match Word.offset? ram.base address with
  | some offset =>
    if ram.words.covers offset then
      let words ← SparseMemory.loadChecked offset ram.words 0 words.toList
      pure { ram with words := words }
    else pure ram
  | none => pure ram

/-- Takes a message. -/
def takeChecked (ram : Ram) (message : Message) (bus : Interconnect) : Checked Ram := do
  match message.kind? with
  | some .read =>
    let count ← replyCountChecked bus ram.terminal message.count
    let answer ← replyFromChecked ram.readWordChecked message.address count
    pure { ram with service := .answering ⟨ram.latency, answer⟩ }
  | some .write =>
    let latency := ram.latency
    let ram ← ram.writeWordChecked message.address message.value
    pure { ram with service := .storing latency }
  | some .response | some .command | some .interrupt | none => pure ram

/-- Takes the waiting message, unless a request is being served. -/
def acceptChecked (ram : Ram) (bus : Interconnect) : Checked (Ram × Interconnect) := do
  if ram.isBusy then pure (ram, bus)
  else
    match ← bus.messageChecked ram.terminal with
    | some message =>
      let cleared ← bus.clearChecked ram.terminal
      let ram ← ram.takeChecked message bus
      pure (ram, cleared)
    | none => pure (ram, bus)

/-- Carries on with the request being served.  The countdown of a write ends at zero by itself. -/
def serveChecked (ram : Ram) (bus : Interconnect) : Checked (Ram × Interconnect) := do
  match ram.service with
  | .idle => pure (ram, bus)
  | .storing delay =>
    pure ({ ram with service := if delay = 0 then .idle else .storing (delay - 1) }, bus)
  | .answering reply =>
    match ← PendingReply.tickChecked (some reply) ram.terminal bus with
    | (some reply, bus) => pure ({ ram with service := .answering reply }, bus)
    | (none, bus) => pure ({ ram with service := .idle }, bus)

/-- One tick. -/
def tickChecked (ram : Ram) (bus : Interconnect) : Checked (Ram × Interconnect) := do
  let (ram, bus) ← ram.acceptChecked bus
  ram.serveChecked bus

variable (ram : Ram)

lemma readWordChecked_eq (address : Word) :
    ram.readWordChecked address = pure (ram.readWord address) := by
  rw [readWordChecked, readWord]
  cases Word.offset? ram.base address with
  | none => rfl
  | some offset => exact ram.words.readChecked_eq offset

lemma writeWordChecked_eq (address value : Word) :
    ram.writeWordChecked address value = pure (ram.writeWord address value) := by
  rw [writeWordChecked, writeWord]
  cases Word.offset? ram.base address with
  | none => rfl
  | some offset =>
    simp only [SparseMemory.writeChecked_eq, pure_bind]
    cases inside : ram.words.covers offset with
    | true => rfl
    | false =>
      have unchanged : ram.words.write offset value = ram.words := by
        rw [SparseMemory.write, inside]
        rfl
      rw [unchanged]
      rfl

lemma loadChecked_eq (small : ram.words.size < UInt64.size) (address : Word) (words : Array Word) :
    ram.loadChecked address words = pure (ram.load address words) := by
  rw [loadChecked, load]
  cases Word.offset? ram.base address with
  | none => rfl
  | some offset =>
    cases inside : ram.words.covers offset with
    | true => simp only [inside, SparseMemory.loadChecked_eq small inside, pure_bind, if_true]
    | false =>
      have beyond : ram.words.size ≤ offset + 0 := Nat.le_of_not_lt (of_decide_eq_false inside)
      have unchanged : ram.words.load offset words = ram.words := by
        rw [SparseMemory.load, ← Array.foldl_toList, Array.toList_zipIdx]
        exact SparseMemory.foldl_write_beyond beyond words.toList
      simp only [inside, unchanged]
      rfl

variable {ram} (sturdy : bus.Sturdy terminals) (inside : ram.terminal.index < terminals)
include sturdy inside

lemma takeChecked_eq (message : Message) :
    ram.takeChecked message bus = pure (ram.take message bus) := by
  rw [takeChecked, take]
  cases message.kind? with
  | none => rfl
  | some kind =>
    cases kind with
    | read =>
      simp only [replyCountChecked_eq sturdy inside, replyFromChecked_eq ram.readWordChecked_eq,
        pure_bind]
    | write => simp only [ram.writeWordChecked_eq, pure_bind]
    | response | command | interrupt => rfl

lemma acceptChecked_eq : ram.acceptChecked bus = pure (ram.accept bus) := by
  rw [acceptChecked, accept]
  cases ram.isBusy with
  | true => rfl
  | false =>
    simp only [Bool.false_eq_true, if_false, sturdy.messageChecked_eq inside, pure_bind]
    cases bus.message? ram.terminal with
    | none => rfl
    | some message =>
      simp only [sturdy.clearChecked_eq inside, takeChecked_eq sturdy inside, pure_bind]

lemma serveChecked_eq : ram.serveChecked bus = pure (ram.serve bus) := by
  rw [serveChecked, serve]
  cases ram.service with
  | idle | storing delay => rfl
  | answering reply =>
    simp only [PendingReply.tickChecked_eq sturdy inside, pure_bind]
    generalize PendingReply.tick (some reply) ram.terminal bus = result
    obtain ⟨_ | reply, bus⟩ := result <;> rfl

omit inside in
lemma accept_frame : (ram.accept bus).1.terminal = ram.terminal
    ∧ (ram.accept bus).2.Sturdy terminals := by
  rw [accept]
  cases ram.isBusy with
  | true => exact ⟨rfl, sturdy⟩
  | false =>
    cases waiting : bus.message? ram.terminal with
    | none => exact ⟨rfl, sturdy⟩
    | some message =>
      exact ⟨ram.terminal_take message bus, (Sturdy.kept terminals).clear waiting sturdy⟩

/-- No check fails in a turn of main memory. -/
lemma tickChecked_eq : ram.tickChecked bus = pure (ram.tick bus) := by
  obtain ⟨same, between⟩ := accept_frame sturdy
  have inside' : (ram.accept bus).1.terminal.index < terminals := by rwa [same]
  rw [tickChecked, acceptChecked_eq sturdy inside, pure_bind, tick]
  exact serveChecked_eq between inside'

end Ram

/-! ## The ROM -/

namespace Rom

/-- Takes the waiting message.  A word beyond the image is not looked up, so reading the image needs
no check. -/
def acceptChecked (rom : Rom) (bus : Interconnect) : Checked (Rom × Interconnect) := do
  match ← bus.messageChecked rom.terminal with
  | none => pure (rom, bus)
  | some message =>
    if message.kind? = some .read then
      match rom.reply with
      | some _ => pure (rom, bus)
      | none =>
        let cleared ← bus.clearChecked rom.terminal
        let count ← replyCountChecked bus rom.terminal message.count
        let answer := replyFrom rom.readWord message.address count
        pure ({ rom with reply := some ⟨rom.latency, answer⟩ }, cleared)
    else
      let cleared ← bus.clearChecked rom.terminal
      pure (rom, cleared)

/-- One tick. -/
def tickChecked (rom : Rom) (bus : Interconnect) : Checked (Rom × Interconnect) := do
  let (rom, bus) ← rom.acceptChecked bus
  let (reply, bus) ← PendingReply.tickChecked rom.reply rom.terminal bus
  pure ({ rom with reply := reply }, bus)

variable {rom : Rom} (sturdy : bus.Sturdy terminals) (inside : rom.terminal.index < terminals)
include sturdy inside

lemma acceptChecked_eq : rom.acceptChecked bus = pure (rom.accept bus) := by
  rw [acceptChecked, accept, sturdy.messageChecked_eq inside, pure_bind]
  cases bus.message? rom.terminal with
  | none => rfl
  | some message =>
    by_cases read : message.kind? = some .read
    · simp only [if_pos read]
      cases rom.reply with
      | some reply => rfl
      | none =>
        simp only [sturdy.clearChecked_eq inside, replyCountChecked_eq sturdy inside, pure_bind]
    · simp only [if_neg read, sturdy.clearChecked_eq inside, pure_bind]

omit inside in
lemma accept_frame : (rom.accept bus).1.terminal = rom.terminal
    ∧ (rom.accept bus).2.Sturdy terminals := by
  rw [accept]
  cases waiting : bus.message? rom.terminal with
  | none => exact ⟨rfl, sturdy⟩
  | some message =>
    have cleared := (Sturdy.kept terminals).clear waiting sturdy
    by_cases read : message.kind? = some .read
    · simp only [if_pos read]
      cases rom.reply with
      | some reply => exact ⟨rfl, sturdy⟩
      | none => exact ⟨rfl, cleared⟩
    · simp only [if_neg read]
      exact ⟨trivial, cleared⟩

/-- No check fails in a turn of the ROM. -/
lemma tickChecked_eq : rom.tickChecked bus = pure (rom.tick bus) := by
  obtain ⟨same, between⟩ := accept_frame sturdy
  have inside' : (rom.accept bus).1.terminal.index < terminals := by rwa [same]
  rw [tickChecked, acceptChecked_eq sturdy inside, pure_bind, tick]
  simp only [PendingReply.tickChecked_eq between inside', pure_bind]

end Rom

end PipelinedMachine
