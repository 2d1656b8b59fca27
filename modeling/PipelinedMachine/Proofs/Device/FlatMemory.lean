import Mathlib.Algebra.Group.Nat.Defs
import PipelinedMachine.Proofs.Device.Answers

/-!
# Main memory as an array

Main memory keeps its words page by page, takes one request at a time, lets a write have its time,
and holds an answer back until its delay is over and the link takes it.  To the other end of the
link it is an array that serves each request at once, when it is taken.

* `FlatMemory` — the array: where it begins, and its words;
* `FlatMemory.after`, `FlatMemory.answer?` — what a request does to it, and the answer;
* `Ram.flat` — the array that main memory looks like;
* `Ram.flat_take`, `Ram.flat_load` — what is done to main memory is done to the array;
* **`Ram.followsFlat_run`** — over every run main memory gives the answers of the array that it
  looks like, takes requests only when it is idle, and has that array's words;
* `Ram.shortRead_answered` — a read that leaves out its count is answered too.
-/

namespace PipelinedMachine

/-! ## Words in pages -/

namespace SparseMemory

@[simp] lemma size_write (memory : SparseMemory) (offset : Nat) (value : Word) :
    (memory.write offset value).size = memory.size := by
  rw [write]
  split_ifs <;> rfl

/-- The words that are put into the array are there as far as it goes, and nothing else changes. -/
lemma load_spec (memory : SparseMemory) (offset : Nat) (words : Array Word) :
    (memory.load offset words).size = memory.size
      ∧ ∀ i, (memory.load offset words).read i
        = if offset ≤ i ∧ i < memory.size then words.getD (i - offset) (memory.read i)
          else memory.read i := by
  have puts (words : List Word) (n : Nat) (memory : SparseMemory) :
      ((words.zipIdx n).foldl (fun memory entry => memory.write (offset + entry.2) entry.1)
          memory).size = memory.size
        ∧ ∀ i, ((words.zipIdx n).foldl
            (fun memory entry => memory.write (offset + entry.2) entry.1) memory).read i
          = if offset + n ≤ i ∧ i < memory.size then
              (words[i - (offset + n)]?).getD (memory.read i)
            else memory.read i := by
    induction words generalizing n memory with
    | nil => exact ⟨rfl, fun i => by simp⟩
    | cons word words ih =>
      rw [List.zipIdx_cons, List.foldl_cons]
      obtain ⟨size, read⟩ := ih (n + 1) (memory.write (offset + n) word)
      refine ⟨size.trans (size_write ..), fun i => ?_⟩
      rw [read, size_write, read_write]
      rcases Nat.lt_trichotomy i (offset + n) with early | rfl | late
      · simp [show ¬offset + (n + 1) ≤ i by omega, show ¬offset + n ≤ i by omega,
          show offset + n ≠ i by omega]
      · simp [show ¬offset + (n + 1) ≤ offset + n by omega]
      · simp [show offset + (n + 1) ≤ i by omega, show offset + n ≤ i by omega,
          show offset + n ≠ i by omega, show i - (offset + n) = i - (offset + (n + 1)) + 1 by omega]
  rw [load, ← Array.foldl_toList, Array.toList_zipIdx]
  obtain ⟨size, read⟩ := puts words.toList 0 memory
  refine ⟨size, fun i => ?_⟩
  rw [read]
  simp [Array.getD_eq_getD_getElem?]

lemma read_of_size_le {memory : SparseMemory} {offset : Nat} (beyond : memory.size ≤ offset) :
    memory.read offset = 0 := by
  rw [read_eq, if_neg (by omega)]

end SparseMemory

/-! ## The array -/

/-- An array of `size` words, the first of them at the address `base`. -/
structure FlatMemory (size : Nat) where
  base : Word
  words : Vector Word size

namespace FlatMemory

variable {size : Nat}

/-- An array of zeros. -/
def zeroed (size : Nat) (base : Word) : FlatMemory size := ⟨base, Vector.replicate size 0⟩

/-- The place of an address in the array.  The address after the last one of all is the first one
of all. -/
def place? (memory : FlatMemory size) (address : Word) : Option (Fin size) :=
  let distance := (address - memory.base).toUInt32.toNat
  if inside : distance < size then some ⟨distance, inside⟩ else none

/-- The word at an address, zero outside the array. -/
def read (memory : FlatMemory size) (address : Word) : Word :=
  match memory.place? address with
  | some place => memory.words[place]
  | none => 0

/-- The array with the word at an address replaced; outside it nothing changes. -/
def write (memory : FlatMemory size) (address value : Word) : FlatMemory size :=
  match memory.place? address with
  | some place => { memory with words := memory.words.set place value }
  | none => memory

/-- The array with the words from `address` on replaced, as far as it goes. -/
def load (memory : FlatMemory size) (address : Word) (values : Array Word) : FlatMemory size :=
  match memory.place? address with
  | some place =>
    { memory with
      words := Vector.ofFn fun i =>
        if place.val ≤ i.val then values.getD (i - place) memory.words[i] else memory.words[i] }
  | none => memory

/-- The array after a message: a write stores its value, and nothing else changes a word. -/
def after (memory : FlatMemory size) (message : Message) : FlatMemory size :=
  match message.kind? with
  | some .write => memory.write message.address message.value
  | some .read | some .response | some .command | some .interrupt | none => memory

/-- The answer to a message over a link that takes `capacity` words: a read is answered under its
address with as many words as it asks for and the link takes, and nothing else is answered. -/
def answer? (memory : FlatMemory size) (capacity : Nat) (message : Message) : Option Message :=
  match message.kind? with
  | some .read =>
    let count := min message.count.toNatClampNeg (capacity - 2)
    some (Message.response message.address
      ((List.range count).map fun i => memory.read (message.address + Int32.ofNat i)))
  | some .write | some .response | some .command | some .interrupt | none => none

/-- The array after some messages. -/
def afterAll (memory : FlatMemory size) (messages : List Message) : FlatMemory size :=
  messages.foldl after memory

/-- The answers to some messages. -/
def answers (memory : FlatMemory size) (capacity : Nat) : List Message → List Message
  | [] => []
  | message :: messages =>
    (memory.answer? capacity message).toList ++ (memory.after message).answers capacity messages

lemma afterAll_append (memory : FlatMemory size) (first second : List Message) :
    memory.afterAll (first ++ second) = (memory.afterAll first).afterAll second :=
  List.foldl_append

lemma answers_append (memory : FlatMemory size) (capacity : Nat) (first second : List Message) :
    memory.answers capacity (first ++ second)
      = memory.answers capacity first ++ (memory.afterAll first).answers capacity second := by
  induction first generalizing memory with
  | nil => rfl
  | cons message first ih =>
    rw [List.cons_append, answers, answers, ih, List.append_assoc]
    rfl

/-- What has been answered stays answered. -/
lemma answers_prefix (memory : FlatMemory size) (capacity : Nat) {first later : List Message}
    (begins : first <+: later) :
    memory.answers capacity first <+: memory.answers capacity later := by
  obtain ⟨second, rfl⟩ := begins
  rw [answers_append]
  exact List.prefix_append _ _

end FlatMemory

namespace Word

/-- An offset is the distance from the base, going round, if that is less than half the addresses;
otherwise there is none. -/
lemma offset?_eq (base address : Word) :
    offset? base address
      = if (address - base).toUInt32.toNat < 2 ^ 31 then some (address - base).toUInt32.toNat
        else none := by
  have value : (address - base).toInt = ((address - base).toUInt32.toNat : Int).bmod (2 ^ 32) :=
    BitVec.toInt_eq_toNat_bmod _
  have bound : (address - base).toUInt32.toNat < 2 ^ 32 := (address - base).toUInt32.toNat_lt
  have negative : address - base < 0 ↔ (address - base).toInt < 0 := Int32.lt_iff_toInt_lt
  rw [offset?]
  by_cases half : (address - base).toUInt32.toNat < 2 ^ 31
  · have same : (address - base).toInt = (address - base).toUInt32.toNat := by
      rw [value]
      exact Int.bmod_eq_of_le (by omega) (by omega)
    rw [if_pos half, if_neg (by rw [negative, same]; omega), ← Int32.toNat_toInt, same,
      Int.toNat_natCast]
  · have low : (address - base).toInt < 0 := by
      rw [value, Int.bmod]
      omega
    rw [if_neg half, if_pos (negative.mpr low)]

end Word

namespace Ram

variable {size : Nat} {ram : Ram}

/-! ## The array that main memory looks like -/

/-- The words of main memory, page by page or not. -/
def flat (ram : Ram) (size : Nat) : FlatMemory size where
  base := ram.base
  words := Vector.ofFn fun place => ram.words.read place

/-- Main memory has so many words, no more than half the addresses there are. -/
structure Sized (ram : Ram) (size : Nat) : Prop where
  words : ram.words.size = size
  small : size ≤ 2 ^ 31

/-- An address has its place in the array, or it lies beyond the words of main memory. -/
lemma Sized.place_cases (sized : ram.Sized size) (address : Word) :
    (∃ place : Fin size, (ram.flat size).place? address = some place
        ∧ Word.offset? ram.base address = some place.val)
      ∨ ((ram.flat size).place? address = none
        ∧ ∀ offset, Word.offset? ram.base address = some offset → size ≤ offset) := by
  have small := sized.small
  rw [Word.offset?_eq]
  by_cases within : (address - ram.base).toUInt32.toNat < size
  · exact Or.inl ⟨⟨_, within⟩, dif_pos within, if_pos (by omega)⟩
  · refine Or.inr ⟨dif_neg within, fun offset found => ?_⟩
    split_ifs at found
    have := Option.some.inj found
    omega

lemma Sized.readWord_eq (sized : ram.Sized size) (address : Word) :
    ram.readWord address = (ram.flat size).read address := by
  rw [readWord, FlatMemory.read]
  rcases sized.place_cases address with ⟨place, inside, found⟩ | ⟨outside, beyond⟩
  · rw [inside, found]
    simp [flat]
  · rw [outside]
    split
    · next offset found =>
      exact SparseMemory.read_of_size_le (sized.words ▸ beyond offset found)
    · rfl

lemma flat_eq {base : Word} {words : Vector Word size} (sameBase : ram.base = base)
    (same : ∀ place : Fin size, ram.words.read place = words[place]) :
    ram.flat size = ⟨base, words⟩ := by
  rw [flat, sameBase]
  congr 1
  ext i inside
  simpa using same ⟨i, inside⟩

/-- A write to main memory is one to the array. -/
lemma Sized.flat_writeWord (sized : ram.Sized size) (address value : Word) :
    (ram.writeWord address value).flat size = (ram.flat size).write address value := by
  rw [writeWord, FlatMemory.write]
  rcases sized.place_cases address with ⟨place, inside, found⟩ | ⟨outside, beyond⟩
  · rw [inside, found]
    refine flat_eq rfl fun other => ?_
    rw [SparseMemory.read_write, sized.words]
    simp [flat, Vector.getElem_set]
  · rw [outside]
    split
    · next offset found =>
      have nothing : ram.words.write offset value = ram.words := by
        rw [SparseMemory.write, SparseMemory.covers, sized.words, if_neg]
        simpa using beyond offset found
      simp only [nothing]
    · rfl

lemma Sized.writeWord (sized : ram.Sized size) (address value : Word) :
    (ram.writeWord address value).Sized size := by
  refine ⟨?_, sized.small⟩
  rw [Ram.writeWord]
  split
  · rw [SparseMemory.size_write, sized.words]
  · exact sized.words

/-- Words put into main memory are put into the array. -/
lemma Sized.flat_load (sized : ram.Sized size) (address : Word) (values : Array Word) :
    (ram.load address values).flat size = (ram.flat size).load address values := by
  rw [Ram.load, FlatMemory.load]
  rcases sized.place_cases address with ⟨place, inside, found⟩ | ⟨outside, beyond⟩
  · rw [inside, found]
    refine flat_eq rfl fun other => ?_
    rw [(ram.words.load_spec place.val values).2, sized.words]
    simp [flat]
  · rw [outside]
    split
    · next offset found =>
      refine flat_eq rfl fun other => ?_
      rw [(ram.words.load_spec offset values).2,
        if_neg fun inside => by have := beyond offset found; omega]
      simp
    · rfl

lemma Sized.load (sized : ram.Sized size) (address : Word) (values : Array Word) :
    (ram.load address values).Sized size := by
  refine ⟨?_, sized.small⟩
  rw [Ram.load]
  split
  · rw [(ram.words.load_spec _ values).1, sized.words]
  · exact sized.words

/-! ## Requests -/

/-- Taking a message does to the array what the message does to it. -/
lemma Sized.flat_take (sized : ram.Sized size) (message : Message) (bus : Interconnect) :
    (ram.take message bus).flat size = (ram.flat size).after message := by
  rw [Ram.take, FlatMemory.after]
  generalize message.kind? = kind?
  cases kind? with
  | none => rfl
  | some kind =>
    cases kind with
    | write => exact sized.flat_writeWord message.address message.value
    | read | response | command | interrupt => rfl

lemma Sized.take (sized : ram.Sized size) (message : Message) (bus : Interconnect) :
    (ram.take message bus).Sized size := by
  rw [Ram.take]
  split
  · exact ⟨sized.words, sized.small⟩
  · exact ⟨(sized.writeWord message.address message.value).words, sized.small⟩
  all_goals exact sized

/-- Main memory answers as the array does. -/
lemma Sized.answer?_eq (sized : ram.Sized size) (bus : Interconnect) :
    ram.answer? bus = (ram.flat size).answer? (bus.capacity ram.terminal) := by
  have words : ram.readWord = (ram.flat size).read := funext sized.readWord_eq
  funext message
  rw [answer?, FlatMemory.answer?, words]
  generalize message.kind? = kind?
  cases kind? with
  | none => rfl
  | some kind => cases kind <;> rfl

/-! ## Turns -/

/-- Serving a request that has been taken changes no words. -/
lemma serve_words (ram : Ram) (bus : Interconnect) :
    (ram.serve bus).1.base = ram.base ∧ (ram.serve bus).1.words = ram.words := by
  rw [serve]
  split
  · exact ⟨rfl, rfl⟩
  · exact ⟨rfl, rfl⟩
  · split <;> exact ⟨rfl, rfl⟩

/-- The words after a turn are those after the message has been taken. -/
lemma tick_words (ram : Ram) (bus : Interconnect) :
    (ram.tick bus).1.base = ((ram.taken? bus).elim ram (ram.take · bus)).base
      ∧ (ram.tick bus).1.words = ((ram.taken? bus).elim ram (ram.take · bus)).words := by
  rw [tick, accept, taken?]
  cases ram.isBusy with
  | true => exact ram.serve_words bus
  | false =>
    simp only [Bool.false_eq_true, if_false]
    cases bus.message? ram.terminal with
    | none => exact ram.serve_words bus
    | some message => exact serve_words _ _

/-- A turn does to the array what the message does that is taken in it. -/
lemma Sized.tick (sized : ram.Sized size) (bus : Interconnect) :
    (ram.tick bus).1.Sized size
      ∧ (ram.tick bus).1.flat size = (ram.flat size).afterAll (ram.taken? bus).toList := by
  obtain ⟨base, words⟩ := ram.tick_words bus
  rw [Ram.flat, base, words]
  cases taken : ram.taken? bus with
  | none => exact ⟨⟨by rw [words, taken]; exact sized.words, sized.small⟩, rfl⟩
  | some message =>
    exact ⟨⟨by rw [words, taken]; exact (sized.take message bus).words, sized.small⟩,
      sized.flat_take message bus⟩

/-- A message is taken only when no request is being served. -/
lemma idle_of_taken? {bus : Interconnect} {message : Message}
    (taken : ram.taken? bus = some message) :
    ram.service = .idle ∧ bus.message? ram.terminal = some message := by
  cases service : ram.service with
  | idle => exact ⟨rfl, by simpa [taken?, isBusy, service] using taken⟩
  | storing | answering => simp [taken?, isBusy, service] at taken

/-! ## Runs -/

/-- Main memory on its link, with no host that changes it. -/
instance : Endpoint Ram Empty where
  terminal := terminal
  turn := tick
  host ram _ := ram
  handled ram bus := by
    obtain ⟨taken, answered, visit⟩ := ram.visit bus
    exact ⟨taken, _, visit.handled⟩
  terminal_turn := terminal_tick
  terminal_host _ _ := rfl

/-- Main memory on its link behaves like an array that started as `start`. -/
structure FollowsFlat (start : FlatMemory size) (attended : Attended Ram) : Prop where
  /-- Its words, read page by page, are those of the array after the requests that it has taken. -/
  stored : ∀ place : Fin size,
    attended.component.words.read place = (start.afterAll attended.taken).words[place]
  /-- There are no others. -/
  beyond : ∀ offset, size ≤ offset → attended.component.words.read offset = 0
  /-- Each address has the word that it has in the array. -/
  readWord : ∀ address,
    attended.component.readWord address = (start.afterAll attended.taken).read address
  /-- It has sent the answers of the array, in order and word for word, but for the one that it
  still owes, and nothing else. -/
  answers : attended.sent ++ attended.component.owed
    = start.answers (attended.bus.capacity attended.near) attended.taken
  /-- It has taken the requests in the order in which they were sent. -/
  link : attended.Conserved
  /-- It takes one message in a turn at most, and none while it owes an answer or a write has its
  time. -/
  rested : (attended.step .turn).taken = attended.taken
    ∨ ∃ message, (attended.step .turn).taken = attended.taken ++ [message]
      ∧ attended.bus.message? attended.near = some message ∧ attended.component.service = .idle
  /-- Whatever the other end sends from now on, as long as what arrives there is taken, all the
  answers leave. -/
  leaves : ∀ between : Nat → List (LinkAction Empty),
    (∀ index, ∀ action ∈ between index, Attended.Outside action) →
    ∃ count, start.answers (attended.bus.capacity attended.near) attended.taken
      <+: (attended.run (Attended.rounds between count)).sent

/-- What a run keeps true of main memory and the record of its turns. -/
structure Follows (start : FlatMemory size) (capacity : Nat) (ram : Ram)
    (taken sent : List Message) : Prop where
  sized : ram.Sized size
  flat : ram.flat size = start.afterAll taken
  answers : sent ++ ram.owed = start.answers capacity taken

variable {start : FlatMemory size} {capacity : Nat} {taken sent : List Message}

/-- Words that are put into main memory before a run are put into the array. -/
lemma Sized.follows_loads (sized : ram.Sized size) (idle : ram.owed = []) (capacity : Nat)
    (loads : List (Word × Array Word)) :
    (loads.foldl (fun ram entry => ram.load entry.1 entry.2) ram).Follows
      (loads.foldl (fun memory entry => memory.load entry.1 entry.2) (ram.flat size)) capacity
      [] [] := by
  induction loads generalizing ram with
  | nil => exact ⟨sized, rfl, idle⟩
  | cons entry loads ih =>
    rw [List.foldl_cons, List.foldl_cons, ← sized.flat_load]
    refine ih (sized.load entry.1 entry.2) ?_
    rw [Ram.load]
    split <;> exact idle

/-- A turn sends the answers of the array, in order. -/
lemma Follows.turn (follows : ram.Follows start capacity taken sent) {bus : Interconnect}
    (wide : bus.capacity ram.terminal = capacity) :
    ∃ sent', Interconnect.Handled ram.terminal bus (ram.tick bus).2 (ram.taken? bus) sent'
      ∧ (ram.tick bus).1.Follows start capacity (taken ++ (ram.taken? bus).toList)
        (sent ++ sent'.toList) := by
  obtain ⟨answered, visit⟩ := ram.visit_taken? bus
  obtain ⟨sized, moved⟩ := follows.sized.tick bus
  refine ⟨_, visit.handled, sized, ?_, ?_⟩
  · rw [moved, follows.flat, FlatMemory.afterAll_append]
  · have due : ((ram.taken? bus).bind (ram.answer? bus)).toList
        = (start.afterAll taken).answers capacity (ram.taken? bus).toList := by
      rw [follows.sized.answer?_eq, wide, follows.flat]
      cases ram.taken? bus <;> simp [FlatMemory.answers]
    rw [Option.none_or, List.append_assoc, ← visit.settled, ← List.append_assoc, follows.answers,
      due, ← FlatMemory.answers_append]

lemma Follows.run {attended : Attended Ram}
    (follows : attended.component.Follows start (attended.bus.capacity attended.near)
      attended.taken attended.sent) (actions : List (LinkAction Empty)) :
    (attended.run actions).component.Follows start (attended.bus.capacity attended.near)
      (attended.run actions).taken (attended.run actions).sent :=
  Attended.invariant_run (Follows start (attended.bus.capacity attended.near))
    (fun ram bus taken sent wide kept => by
      obtain ⟨sent', handled, later⟩ := Follows.turn kept wide
      exact ⟨_, sent', handled, later⟩)
    (fun _ event => event.elim) follows rfl actions

/-- An answer of the array fits into the link. -/
lemma length_of_mem_answers {messages : List Message} {answer : Message} (wide : 3 ≤ capacity)
    (member : answer ∈ start.answers capacity messages) :
    answer ≠ [] ∧ answer.length ≤ capacity := by
  induction messages generalizing start with
  | nil => simp [FlatMemory.answers] at member
  | cons message messages ih =>
    rw [FlatMemory.answers, List.mem_append, Option.mem_toList] at member
    rcases member with here | later
    · rw [FlatMemory.answer?] at here
      split at here <;> try contradiction
      obtain rfl := Option.some.inj here
      refine ⟨by simp [Message.response], ?_⟩
      simp only [Message.response, List.length_cons, List.length_map, List.length_range]
      omega
    · exact ih later

/-- What main memory owes leaves after finitely many rounds. -/
lemma Follows.exists_rounds_sent {attended : Attended Ram} {message : Message}
    (follows : attended.component.Follows start (attended.bus.capacity attended.near)
      attended.taken attended.sent) (wide : 3 ≤ attended.bus.capacity attended.near)
    {delay : UInt32} (owes : attended.component.service = .answering ⟨delay, message⟩)
    (between : Nat → List (LinkAction Empty))
    (outside : ∀ index, ∀ action ∈ between index, Attended.Outside action) :
    ∃ count earlier, (attended.run (Attended.rounds between count)).sent
      = attended.sent ++ earlier ++ [message] := by
  have owed : attended.component.owed = [message] := by rw [Ram.owed, owes]
  have member : message ∈ start.answers (attended.bus.capacity attended.near) attended.taken := by
    rw [← follows.answers, owed]
    simp
  obtain ⟨words, fits⟩ := length_of_mem_answers wide member
  exact Attended.exists_rounds_sent ⟨fun _ event => event.elim,
    fun ram bus rank _ busy waits =>
      Waits.busy waits busy (Interconnect.carried?_of_ticksLeft busy),
    fun ram bus rank leads free waits =>
      Waits.free waits leads.linked free words (le_of_le_of_eq fits leads.capacity.symm)⟩
    between outside attended
    ⟨⟨rfl, rfl, Interconnect.isSome_outgoing? (Nat.lt_of_lt_of_le (Nat.succ_pos 2) wide)⟩,
      ⟨delay, owes, rfl⟩⟩

lemma Follows.followsFlat {attended : Attended Ram}
    (follows : attended.component.Follows start (attended.bus.capacity attended.near)
      attended.taken attended.sent) (wide : 3 ≤ attended.bus.capacity attended.near)
    (conserved : attended.Conserved) : FollowsFlat start attended where
  stored := fun place => by
    rw [← follows.flat]
    simp [Ram.flat]
  beyond := fun offset outside =>
    SparseMemory.read_of_size_le (follows.sized.words ▸ outside)
  readWord := fun address => by rw [follows.sized.readWord_eq, follows.flat]
  answers := follows.answers
  link := conserved
  rested := by
    obtain ⟨sent', handled, -⟩ := Follows.turn follows rfl
    rw [attended.step_turn handled]
    cases taken : attended.component.taken? attended.bus with
    | none => exact Or.inl (List.append_nil _)
    | some message =>
      obtain ⟨idle, waiting⟩ := idle_of_taken? taken
      exact Or.inr ⟨message, rfl, waiting, idle⟩
  leaves := fun between outside => by
    cases service : attended.component.service with
    | idle | storing delay =>
      have settled : attended.component.owed = [] := by rw [owed, service]
      refine ⟨0, ?_⟩
      rw [← follows.answers, settled, List.append_nil]
      exact List.prefix_rfl
    | answering reply =>
      have owes : attended.component.owed = [reply.message] := by rw [owed, service]
      obtain ⟨count, earlier, sends⟩ :=
        follows.exists_rounds_sent wide service between outside
      refine ⟨count, ?_⟩
      -- what has been taken is a beginning of what is taken later, whose answers these are
      have begins := start.answers_prefix (attended.bus.capacity attended.near)
        (attended.taken_prefix_run (Attended.rounds between count))
      rw [← (follows.run (Attended.rounds between count)).answers] at begins
      refine List.prefix_of_prefix_length_le begins (List.prefix_append _ _) ?_
      rw [← follows.answers, sends, owes]
      simp only [List.length_append]
      omega

/-- **Over every run, main memory on its link is an array.** -/
theorem followsFlat_run (small : size ≤ 2 ^ 31) (terminal : Terminal) (base : Word)
    (latency : UInt32) (loads : List (Word × Array Word)) {attended : Attended Ram}
    (start : attended.component = loads.foldl (fun ram entry => ram.load entry.1 entry.2)
      (zeroed terminal base size latency))
    (fresh : attended.Fresh) (wide : 3 ≤ attended.bus.capacity attended.near)
    (actions : List (LinkAction Empty)) :
    FollowsFlat (loads.foldl (fun memory entry => memory.load entry.1 entry.2)
      (FlatMemory.zeroed size base)) (attended.run actions) := by
  have follows : attended.component.Follows
      (loads.foldl (fun memory entry => memory.load entry.1 entry.2)
        (FlatMemory.zeroed size base))
      (attended.bus.capacity attended.near) attended.taken attended.sent := by
    have blank : (zeroed terminal base size latency).flat size = FlatMemory.zeroed size base :=
      flat_eq rfl fun place => by simp [zeroed]
    have sized : (zeroed terminal base size latency).Sized size := ⟨rfl, small⟩
    rw [fresh.taken, fresh.sent, start, ← blank]
    exact sized.follows_loads rfl _ loads
  have later := follows.run actions
  rw [← attended.capacity_run actions, ← attended.near_run actions] at later wide
  exact later.followsFlat wide (fresh.conserved.run actions)

/-- A memory of a hundred words that reaches across the last address of all, on a new link that
takes three words. -/
def around : Attended Ram where
  component := (zeroed ⟨1⟩ (Int32.maxValue - 9) 100 2).load Int32.maxValue #[7, 8]
  bus := (Interconnect.empty.link 1 3).1

lemma around_fresh : around.Fresh := ⟨rfl, rfl, rfl, rfl, by decide +kernel, by decide +kernel⟩

/-- The last word of all is read, the first one is written, and then it is read. -/
def aroundActions : List (LinkAction Empty) :=
  [.offer (Message.read Int32.maxValue 2), .tick, .tick, .tick, .turn,
    .offer (Message.write Int32.minValue 9), .tick, .tick, .tick, .turn, .turn, .turn, .turn,
    .turn, .tick, .tick, .tick, .receive,
    .offer (Message.read Int32.minValue 1), .tick, .tick, .tick, .turn, .turn, .turn]

/-- The link has room for one word of the first answer, and the second has the word written. -/
theorem followsFlat_around :
    FollowsFlat ((FlatMemory.zeroed 100 (Int32.maxValue - 9)).load Int32.maxValue #[7, 8])
        (around.run aroundActions)
      ∧ (around.run aroundActions).sent
        = [Message.response Int32.maxValue [7], Message.response Int32.minValue [9]]
      ∧ (around.run aroundActions).component.readWord Int32.minValue = 9 := by
  have start : around.component = [(Int32.maxValue, #[7, 8])].foldl
      (fun ram entry => ram.load entry.1 entry.2) (zeroed ⟨1⟩ (Int32.maxValue - 9) 100 2) := rfl
  exact ⟨followsFlat_run (by decide) ⟨1⟩ (Int32.maxValue - 9) 2 [(Int32.maxValue, #[7, 8])] start
    around_fresh (by decide +kernel) _, by decide +kernel, by decide +kernel⟩

/-- A memory of one word on a new link. -/
def single : Attended Ram where
  component := (zeroed ⟨1⟩ 1000 1 0).load 1000 #[7]
  bus := (Interconnect.empty.link 1 10).1

/-- A read that does not say how many words it asks for is answered with one. -/
theorem shortRead_answered :
    let request : Message := [MessageKind.read.number, 1000]
    (∀ address count, request ≠ Message.read address count)
      ∧ (∀ address value, request ≠ Message.write address value)
      ∧ (single.run [.offer request, .tick, .tick, .turn]).sent = [Message.response 1000 [7]] := by
  refine ⟨fun address count same => ?_, fun address value same => ?_, by decide +kernel⟩
  · simpa [Message.read] using congrArg List.length same
  · simpa [Message.write] using congrArg List.length same

end Ram

end PipelinedMachine
