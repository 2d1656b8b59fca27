import Mathlib.Data.List.Forall2
import PipelinedMachine.Proofs.Served.System

/-!
# Questions and answers

Fetch and the load unit share one link, and an answer says no more than the address it is for.  This
file shows that no answer is ever taken by the wrong unit: the messages still to come to a core are
the answers to its open questions, in the order of the questions, and a block that has been asked
for always comes first.

* `Memory.Vouches` — a word is the one that memory held at the beginning, unless the program has
  written to its address since;
* `Fetched.Genuine` — the words of a fetched instruction are so;
* `View.Agrees` — **questions and answers agree**;
* `Fetch.Turn.restock`, `Fetch.Turn.restock_search` — a turn of fetch keeps it so, and what it takes
  in are genuine instructions.
-/

namespace PipelinedMachine

/-! ## Words that memory vouches for -/

namespace Memory

/-- Whether the program has written to `address`. -/
def HasWritten (memory : Memory) (address : Word) : Prop :=
  ∃ access ∈ memory.accesses, access.written? = some address

instance (memory : Memory) (address : Word) : Decidable (memory.HasWritten address) :=
  inferInstanceAs (Decidable (∃ access ∈ memory.accesses, access.written? = some address))

/-- `value` is what `address` held at the beginning, unless it has been written since. -/
def Vouches (origin : Word → Word) (memory : Memory) (address value : Word) : Prop :=
  value = origin address ∨ memory.HasWritten address

/-- What has been written stays written. -/
def WritesIn (memory later : Memory) : Prop :=
  ∀ address, memory.HasWritten address → later.HasWritten address

lemma writesIn_of_prefix {memory later : Memory} (more : memory.accesses <+: later.accesses) :
    memory.WritesIn later :=
  fun _ ⟨access, member, written⟩ => ⟨access, more.subset member, written⟩

lemma writesIn_send (view : View) (message : Message) :
    view.memory.WritesIn (view.send message).memory :=
  writesIn_of_prefix (view.memory.accesses_prefix_serve message)

lemma Vouches.mono {origin : Word → Word} {memory later : Memory} {address value : Word}
    (vouches : memory.Vouches origin address value) (more : memory.WritesIn later) :
    later.Vouches origin address value :=
  vouches.imp id (more address)

/-- A memory that vouches for what it holds. -/
def Sound (origin : Word → Word) (memory : Memory) : Prop :=
  ∀ address, memory.Vouches origin address (memory.words address)

/-- Only writes change words, and they are noted. -/
lemma Sound.serve {origin : Word → Word} {memory : Memory} (sound : memory.Sound origin)
    (message : Message) : (memory.serve message).1.Sound origin := by
  have more : memory.WritesIn (memory.serve message).1 :=
    writesIn_of_prefix (memory.accesses_prefix_serve message)
  have kept (same : (memory.serve message).1.words = memory.words) :
      (memory.serve message).1.Sound origin := by
    intro address
    rw [same]
    exact (sound address).mono more
  cases kind : message.kind? with
  | none => exact kept (by simp only [Memory.serve, kind])
  | some kind' =>
    cases kind' with
    | read =>
      refine kept ?_
      simp only [Memory.serve, kind]
      split <;> rfl
    | write =>
      intro address
      simp only [Memory.serve, kind]
      by_cases here : address = message.address
      · exact Or.inr ⟨.write message.address message.value, by simp [store],
          by simp [Access.written?, here]⟩
      · have vouches := (sound address).mono more
        simp only [Memory.serve, kind] at vouches
        have same : (memory.store message.address message.value).words address
            = memory.words address := Function.update_of_ne here _ _
        rwa [same]
    | response | command => exact kept (by simp only [Memory.serve, kind])
    | interrupt => exact kept (by simp only [Memory.serve, kind, interrupt])

/-! ## Questions and answers -/

/-- `message` answers a question for so many words from an address on. -/
def IsAnswer (origin : Word → Word) (memory : Memory) (question : Word × Nat)
    (message : Message) : Prop :=
  ∃ values, message = Message.response question.1 values ∧ values.length = question.2
    ∧ ∀ i (inside : i < values.length),
      memory.Vouches origin (question.1 + Int32.ofNat i) values[i]

lemma IsAnswer.mono {origin : Word → Word} {memory later : Memory} {question : Word × Nat}
    {message : Message} (answer : memory.IsAnswer origin question message)
    (more : memory.WritesIn later) : later.IsAnswer origin question message := by
  obtain ⟨values, form, length, vouches⟩ := answer
  exact ⟨values, form, length, fun i inside => (vouches i inside).mono more⟩

lemma isAnswer_wordsFrom {origin : Word → Word} {memory : Memory} (sound : memory.Sound origin)
    (address : Word) (count : Nat) :
    memory.IsAnswer origin (address, count)
      (Message.response address (memory.wordsFrom address count)) := by
  refine ⟨_, rfl, by simp [wordsFrom], fun i inside => ?_⟩
  simp only [wordsFrom, List.getElem_map, List.getElem_range]
  exact sound _

end Memory

lemma Message.answers_response {address other : Word} {values : List Word} :
    (Message.response address values).answers other = true ↔ address = other := by
  have kind : (Message.response address values).kind? = some .response := rfl
  have here : (Message.response address values).address? = some address := rfl
  simp [Message.answers, kind, here]

lemma Interconnect.answer?_eq_some {bus : Interconnect} {terminal : Terminal} {address : Word}
    {message : Message} (came : bus.answer? terminal address = some message) :
    bus.message? terminal = some message ∧ message.answers address = true := by
  rw [answer?] at came
  cases waiting : bus.message? terminal with
  | none => simp [waiting] at came
  | some other =>
    simp only [waiting] at came
    split at came
    · next answers =>
      obtain rfl := Option.some.inj came
      exact ⟨rfl, answers⟩
    · contradiction

lemma Interconnect.answer?_eq_none {bus : Interconnect} {terminal : Terminal} {address : Word}
    {message : Message} (missing : bus.answer? terminal address = none)
    (waiting : bus.message? terminal = some message) : message.answers address = false := by
  rw [answer?] at missing
  simp only [waiting] at missing
  split at missing
  · contradiction
  · next other => simpa using other

/-! ## Genuine instructions -/

/-- Both words of an instruction are vouched for. -/
structure Fetched.Genuine (origin : Word → Word) (memory : Memory) (entry : Fetched) : Prop where
  first : memory.Vouches origin entry.address entry.code.first
  second : memory.Vouches origin (entry.address + 1) entry.code.second

lemma Fetched.Genuine.mono {origin : Word → Word} {memory later : Memory} {entry : Fetched}
    (genuine : entry.Genuine origin memory) (more : memory.WritesIn later) :
    entry.Genuine origin later :=
  ⟨genuine.first.mono more, genuine.second.mono more⟩

/-- The instruction at `address`, as `words` hold it. -/
def Fetched.ofWords (words : Word → Word) (address : Word) : Fetched :=
  ⟨address, words address, words (address + 1)⟩

/-- The program has written to neither word of the instruction at `address`. -/
def Memory.Intact (memory : Memory) (address : Word) : Prop :=
  ¬ memory.HasWritten address ∧ ¬ memory.HasWritten (address + 1)

instance (memory : Memory) (address : Word) : Decidable (memory.Intact address) :=
  inferInstanceAs (Decidable (¬ memory.HasWritten address ∧ ¬ memory.HasWritten (address + 1)))

/-- A genuine instruction that has not been written to is what memory held at the beginning. -/
lemma Fetched.Genuine.eq_ofWords {origin : Word → Word} {memory : Memory} {entry : Fetched}
    (genuine : entry.Genuine origin memory) (intact : memory.Intact entry.address) :
    entry = ofWords origin entry.address := by
  obtain ⟨address, first, second⟩ := entry
  have one : first = origin address := genuine.first.resolve_right intact.1
  have two : second = origin (address + 1) := genuine.second.resolve_right intact.2
  rw [one, two]
  rfl

/-- Where nothing has been written, a sound memory still holds the instruction of the beginning. -/
lemma Memory.Sound.ofWords_eq {origin : Word → Word} {memory : Memory}
    (sound : memory.Sound origin) {address : Word} (intact : memory.Intact address) :
    Fetched.ofWords memory.words address = Fetched.ofWords origin address := by
  have one : memory.words address = origin address := (sound address).resolve_right intact.1
  have two : memory.words (address + 1) = origin (address + 1) :=
    (sound (address + 1)).resolve_right intact.2
  rw [Fetched.ofWords, one, two]
  rfl

/-- The four instructions of a block that answers its question are genuine. -/
lemma Fetch.genuine_of_mem_block {origin : Word → Word} {memory : Memory} {address : Word}
    {message : Message} (answer : memory.IsAnswer origin (address, 8) message) :
    ∀ entry ∈ Fetch.block address message.payload, entry.Genuine origin memory := by
  obtain ⟨values, rfl, length, vouches⟩ := answer
  have word (i : Nat) (inside : i < 8) :
      memory.Vouches origin (address + Int32.ofNat i) (values.getD i 0) := by
    rw [List.getD_eq_getElem?_getD, List.getElem?_eq_getElem (by omega)]
    exact vouches i (by omega)
  intro entry member
  have payload : (Message.response address values).payload = values := rfl
  simp only [payload, Fetch.block, List.map_cons, List.map_nil, List.mem_cons, List.not_mem_nil,
    or_false] at member
  rcases member with rfl | rfl | rfl | rfl
  · exact ⟨word 0 (by omega), by simpa [Int32.add_assoc] using word 1 (by omega)⟩
  · exact ⟨word 2 (by omega), by rw [Int32.add_assoc]; exact word 3 (by omega)⟩
  · exact ⟨word 4 (by omega), by rw [Int32.add_assoc]; exact word 5 (by omega)⟩
  · exact ⟨word 6 (by omega), by rw [Int32.add_assoc]; exact word 7 (by omega)⟩

/-! ## Open questions -/

/-- The messages still to come answer the open questions, in their order. -/
structure View.Agrees (origin : Word → Word) (view : View) (questions : List (Word × Nat)) :
    Prop where
  sound : view.memory.Sound origin
  answers : List.Forall₂ (view.memory.IsAnswer origin) questions view.incoming

namespace View

variable {origin : Word → Word} {view : View} {questions : List (Word × Nat)}

/-- A read is a new question, and its answer comes last. -/
lemma Agrees.send (agrees : view.Agrees origin questions) {message : Message}
    {asked : List (Word × Nat)}
    (answers : List.Forall₂ ((view.send message).memory.IsAnswer origin) asked
      (view.memory.serve message).2) :
    (view.send message).Agrees origin (questions ++ asked) where
  sound := agrees.sound.serve message
  answers := List.rel_append
    (agrees.answers.imp fun _ _ answer => answer.mono (Memory.writesIn_send view message)) answers

lemma Agrees.readBlock (agrees : view.Agrees origin questions) (address : Word) :
    (view.send (Message.read address Fetch.blockWords)).Agrees origin
      (questions ++ [(address, 8)]) :=
  agrees.send (.cons (Memory.isAnswer_wordsFrom agrees.sound address 8) .nil)

lemma Agrees.readWord (agrees : view.Agrees origin questions) (address : Word) :
    (view.send (Message.read address 1)).Agrees origin (questions ++ [(address, 1)]) := by
  refine agrees.send (.cons ?_ .nil)
  exact (Memory.isAnswer_wordsFrom agrees.sound address 1).mono (Memory.writesIn_send view _)

lemma Agrees.request (agrees : view.Agrees origin questions) {message : Message}
    (silent : (view.memory.serve message).2 = []) :
    (view.send message).Agrees origin questions := by
  have sent : (view.send message).Agrees origin (questions ++ []) :=
    agrees.send (by rw [silent]; exact .nil)
  rwa [List.append_nil] at sent

/-- The message that waits answers the first question, and leaves the others open. -/
lemma Agrees.came {server : Server} {bus : Interconnect} {near : Terminal} {message : Message}
    (agrees : (server.view bus near).Agrees origin questions)
    (waiting : bus.message? near = some message) :
    ∃ question rest, questions = question :: rest
      ∧ (server.view bus near).memory.IsAnswer origin question message
      ∧ (server.view (bus.clear near) near).Agrees origin rest
      ∧ (server.view (bus.clear near) near).memory = (server.view bus near).memory := by
  obtain ⟨incoming, first, cleared⟩ := server.view_message? waiting
  have answers := agrees.answers
  rw [first] at answers
  obtain ⟨question, rest, answer, others, rfl⟩ := List.forall₂_cons_right_iff.mp answers
  exact ⟨question, rest, rfl, answer, by rw [cleared]; exact ⟨agrees.sound, others⟩,
    by rw [cleared]⟩

end View

namespace Fetch

/-- The question for the block that has been asked for. -/
def blockQuestion (fetch : Fetch) : List (Word × Nat) :=
  fetch.outstanding.toList.map fun address => (address, 8)

/-- The question that the search for a handler waits with. -/
def vectorQuestion (fetch : Fetch) : List (Word × Nat) :=
  match fetch.searching with
  | some .awaitId => [(AddressMap.lastInterrupt, 1)]
  | some (.awaitHandler id) => [(AddressMap.vectorStart + id, 1)]
  | some .askId | some (.askHandler _) | none => []

section Turn

variable {origin : Word → Word} {server : Server} {near : Terminal} {path after : Datapath}
  {fetch later : Fetch}

/-- Reading ahead: what comes in is genuine, and the question of another unit stays open. -/
lemma Turn.restock (turn : Turn near path fetch later after) (reading : fetch.searching = none)
    {asked : List (Word × Nat)}
    (agrees : (server.view path.bus near).Agrees origin (fetch.blockQuestion ++ asked))
    (spared : asked ≠ [] → fetch.Content path.registers.ip) :
    (server.view after.bus near).Agrees origin (later.blockQuestion ++ asked)
      ∧ (server.view after.bus near).memory = (server.view path.bus near).memory
      ∧ ∃ n new, later.line = fetch.line.drop n ++ new
        ∧ ∀ entry ∈ new, entry.Genuine origin (server.view after.bus near).memory := by
  obtain ⟨n, passed⟩ := fetch.exists_line_pass path.registers.ip
  have kept : (fetch.pass path.registers.ip).blockQuestion = fetch.blockQuestion := by
    rw [blockQuestion, outstanding_pass, blockQuestion]
  cases turn with
  | received address answer reading outstanding came =>
    obtain ⟨waiting, answers⟩ := Interconnect.answer?_eq_some came
    obtain ⟨question, rest, first, answer', cleared, same⟩ := agrees.came waiting
    rw [blockQuestion, outstanding] at first
    obtain ⟨rfl, rfl⟩ := List.cons_eq_cons.mp first
    refine ⟨cleared, same, n, block address answer.payload, ?_, ?_⟩
    · rw [← passed]
      simp [line]
    · intro entry member
      exact (genuine_of_mem_block answer' entry member).mono fun _ => same ▸ id
  | awaited | refused =>
    exact ⟨by rw [kept]; exact agrees, rfl, n, [], by rw [passed, List.append_nil], by simp⟩
  | satisfied =>
    exact ⟨by rw [kept]; exact agrees, rfl, n, [], by rw [passed, List.append_nil], by simp⟩
  | asked address bus reading free wanted sent =>
    have alone : asked = [] := by
      by_contra open'
      exact absurd (spared open' free) (by simp [wanted])
    have seen := server.view_send sent
    refine ⟨?_, ?_, n, [], ?_, by simp⟩
    · have joined := agrees.readBlock address
      rw [← seen] at joined
      change (server.view bus near).Agrees _ _
      simpa [alone, blockQuestion, free] using joined
    · change (server.view bus near).memory = _
      rw [seen]
      rfl
    · rw [List.append_nil, ← passed]
      rfl
  | searched _ _ _ searching | dropped _ _ _ _ _ searching =>
    rw [reading] at searching
    contradiction

/-- A message that waits and is not the block is not followed by the block either, because the block
was asked for first. -/
lemma blockQuestion_eq_nil {bus : Interconnect} {asked : List (Word × Nat)}
    (agrees : (server.view bus near).Agrees origin (fetch.blockQuestion ++ asked))
    (fresh : ∀ address, fetch.outstanding = some address → bus.answer? near address = none)
    {address : Word} {answer : Message} (came : bus.answer? near address = some answer) :
    fetch.blockQuestion = [] := by
  obtain ⟨waiting, answers⟩ := Interconnect.answer?_eq_some came
  obtain ⟨question, rest, questions, ⟨values, form, _⟩, _⟩ := agrees.came waiting
  cases outstanding : fetch.outstanding with
  | none => simp [blockQuestion, outstanding]
  | some block =>
    rw [blockQuestion, outstanding] at questions
    obtain ⟨rfl, -⟩ := List.cons_eq_cons.mp questions
    have missing := Interconnect.answer?_eq_none (fresh block outstanding) waiting
    rw [form, Bool.eq_false_iff] at missing
    exact absurd (Message.answers_response.mpr rfl) missing

/-- A step of the search.  It never takes the block for the word it waits for. -/
lemma SearchTurn.restock {phase : HandlerSearch}
    (step : SearchTurn near path fetch phase later after)
    (searching : fetch.searching = some phase)
    (fresh : ∀ address, fetch.outstanding = some address →
      path.bus.answer? near address = none)
    (agrees : (server.view path.bus near).Agrees origin
      (fetch.blockQuestion ++ fetch.vectorQuestion)) :
    (server.view after.bus near).Agrees origin (later.blockQuestion ++ later.vectorQuestion)
      ∧ (server.view path.bus near).memory.WritesIn (server.view after.bus near).memory := by
  -- the answer that is taken is the last one, and nothing is open afterwards
  have taken {address : Word} {answer : Message}
      (came : path.bus.answer? near address = some answer)
      (alone : fetch.vectorQuestion = [(address, 1)]) (vacant : later.vectorQuestion = [])
      (same : later.outstanding = fetch.outstanding) :
      (server.view (path.bus.clear near) near).Agrees origin
          (later.blockQuestion ++ later.vectorQuestion)
        ∧ (server.view path.bus near).memory.WritesIn
          (server.view (path.bus.clear near) near).memory := by
    obtain ⟨question, rest, questions, _, cleared, memory⟩ :=
      agrees.came (Interconnect.answer?_eq_some came).1
    have first := blockQuestion_eq_nil agrees fresh came
    rw [first, alone, List.nil_append] at questions
    obtain ⟨rfl, rfl⟩ := List.cons_eq_cons.mp questions
    refine ⟨?_, by rw [memory]; exact fun _ => id⟩
    rw [blockQuestion, same, ← blockQuestion, first, vacant]
    exact cleared
  cases step with
  | askedId bus sent =>
    have joined := agrees.readWord AddressMap.lastInterrupt
    rw [← server.view_send sent] at joined
    refine ⟨by simpa [blockQuestion, vectorQuestion, searching] using joined, ?_⟩
    change Memory.WritesIn _ (server.view bus near).memory
    rw [server.view_send sent]
    exact Memory.writesIn_send _ _
  | askedHandler id bus sent =>
    have joined := agrees.readWord (AddressMap.vectorStart + id)
    rw [← server.view_send sent] at joined
    refine ⟨by simpa [blockQuestion, vectorQuestion, searching] using joined, ?_⟩
    change Memory.WritesIn _ (server.view bus near).memory
    rw [server.view_send sent]
    exact Memory.writesIn_send _ _
  | gotId answer came => exact taken came (by simp [vectorQuestion, searching]) rfl rfl
  | gotHandler id answer came => exact taken came (by simp [vectorQuestion, searching]) rfl rfl
  | waited => exact ⟨agrees, fun _ => id⟩

/-- A turn of the search, in which an outdated block may be dropped first. -/
lemma Turn.restock_search (turn : Turn near path fetch later after) {phase : HandlerSearch}
    (searching : fetch.searching = some phase)
    (agrees : (server.view path.bus near).Agrees origin
      (fetch.blockQuestion ++ fetch.vectorQuestion)) :
    (server.view after.bus near).Agrees origin (later.blockQuestion ++ later.vectorQuestion)
      ∧ (server.view path.bus near).memory.WritesIn (server.view after.bus near).memory := by
  cases turn with
  | searched phase' _ _ searching fresh step => exact step.restock searching fresh agrees
  | dropped phase' address answer _ _ searching asked came step =>
    obtain ⟨question, rest, questions, _, cleared, memory⟩ :=
      agrees.came (Interconnect.answer?_eq_some came).1
    rw [blockQuestion, asked] at questions
    obtain ⟨-, rfl⟩ := List.cons_eq_cons.mp questions
    obtain ⟨agrees', more⟩ := step.restock searching (by simp) cleared
    refine ⟨agrees', fun written before => more written ?_⟩
    change (server.view (path.bus.clear near) near).memory.HasWritten written
    rw [memory]
    exact before
  | received _ _ reading | awaited _ reading | asked _ _ reading | refused _ reading
  | satisfied reading =>
    rw [reading] at searching
    contradiction

/-- A block that is still to come after a turn is not the message that waits, unless fetch has only
just asked for it. -/
lemma Turn.unanswered (turn : Turn near path fetch later after) (reading : fetch.searching = none)
    (content : fetch.Content path.registers.ip) :
    ∀ address, later.outstanding = some address → after.bus.answer? near address = none := by
  intro address outstanding
  cases turn with
  | received => simp at outstanding
  | awaited other _ asked missing =>
    rw [outstanding_pass, asked, Option.some.injEq] at outstanding
    rw [← outstanding]
    exact missing
  | asked _ _ _ free wanted => exact absurd (content free) (by simp [wanted])
  | refused _ _ free | satisfied _ free =>
    rw [outstanding_pass, free] at outstanding
    contradiction
  | searched _ _ _ searching | dropped _ _ _ _ _ searching =>
    rw [reading] at searching
    contradiction

end Turn

end Fetch

end PipelinedMachine
