import Mathlib.Data.List.Nodup
import PipelinedMachine.Proofs.Served.Stock

/-!
# Who takes an answer

Three readers share the link of a core: fetch asks for blocks of instructions, the load unit for
single words, and the search for a handler for words of the vector table.  An answer carries an
address and nothing else that would tell them apart, and two of them can well ask for the same
address.  This file keeps a record of every read with its reader, and of every answer with the
reader that took it, and shows that they belong together.

* `Reader`, `Question` — the readers, and what they have asked;
* `Pipeline.reads` — the reads of a core that have not been answered;
* `Exchange` — what a turn of a unit does to them: it may take the answer to the oldest one, and it
  may add one at the end;
* `Standing.Turn.exchange` — **one tick** is one exchange;
* `Recorded`, `Recorded.run` — a core with its memory and the record of its run;
* `Recorded.keepsApart_run` — **every run**: the answers taken are those to the reads, one after the
  other, each taken by its reader.
-/

namespace PipelinedMachine

/-! ## Readers -/

/-- Who reads over the link of a core. -/
inductive Reader where
  /-- Fetch, for a block of instructions. -/
  | block
  /-- The load unit. -/
  | load
  /-- The search for a handler. -/
  | vector
deriving DecidableEq, Repr

/-- How many words it reads at a time. -/
def Reader.words : Reader → Nat
  | block => 8
  | load | vector => 1

/-- A read that has been sent: by whom, and from which address on. -/
structure Question where
  reader : Reader
  address : Word
deriving DecidableEq, Repr

/-- The message answers the read, with as many words as its reader asks for. -/
def Question.Answered (question : Question) (message : Message) : Prop :=
  ∃ values, message = Message.response question.address values
    ∧ values.length = question.reader.words

/-- What is asked, whoever asks. -/
def Question.plain (question : Question) : Word × Nat :=
  (question.address, question.reader.words)

lemma Memory.IsAnswer.answered {origin : Word → Word} {memory : Memory} {question : Question}
    {message : Message} (answer : memory.IsAnswer origin question.plain message) :
    question.Answered message := by
  obtain ⟨values, form, length, _⟩ := answer
  exact ⟨values, form, length⟩

/-! ## Open reads -/

/-- The block that has been asked for. -/
def Fetch.blockRead (fetch : Fetch) : Option Question :=
  fetch.outstanding.map fun address => ⟨.block, address⟩

/-- The word of the vector table that has been asked for. -/
def Fetch.vectorRead (fetch : Fetch) : Option Question :=
  match fetch.searching with
  | some .awaitId => some ⟨.vector, AddressMap.lastInterrupt⟩
  | some (.awaitHandler id) => some ⟨.vector, AddressMap.vectorStart + id⟩
  | some .askId | some (.askHandler _) | none => none

/-- The word that a load has asked for. -/
def LoadUnit.wordRead (slot : Option PendingLoad) : Option Question :=
  (outstanding? slot).map fun address => ⟨.load, address⟩

/-- The reads of fetch, with those of the load unit between them. -/
def Fetch.reads (fetch : Fetch) (words : List Question) : List Question :=
  fetch.blockRead.toList ++ (words ++ fetch.vectorRead.toList)

/-- The reads of a core that have not been answered. -/
def Pipeline.reads (pipeline : Pipeline) : List Question :=
  pipeline.fetch.reads (LoadUnit.wordRead pipeline.load).toList

lemma Fetch.reader_of_blockRead {fetch : Fetch} {question : Question}
    (asked : fetch.blockRead = some question) : question.reader = .block := by
  obtain ⟨address, _, rfl⟩ := Option.map_eq_some_iff.mp asked
  rfl

lemma Fetch.reader_of_vectorRead {fetch : Fetch} {question : Question}
    (asked : fetch.vectorRead = some question) : question.reader = .vector := by
  rw [vectorRead] at asked
  split at asked
  all_goals first | contradiction | exact Option.some.inj asked ▸ rfl

lemma LoadUnit.reader_of_wordRead {slot : Option PendingLoad} {question : Question}
    (asked : wordRead slot = some question) : question.reader = .load := by
  obtain ⟨address, _, rfl⟩ := Option.map_eq_some_iff.mp asked
  rfl

lemma Fetch.map_plain_blockRead (fetch : Fetch) :
    fetch.blockRead.toList.map Question.plain = fetch.blockQuestion := by
  rw [blockRead, blockQuestion]
  cases fetch.outstanding <;> rfl

lemma Fetch.map_plain_vectorRead (fetch : Fetch) :
    fetch.vectorRead.toList.map Question.plain = fetch.vectorQuestion := by
  rw [vectorRead, vectorQuestion]
  cases fetch.searching with
  | none => rfl
  | some phase => cases phase <;> rfl

lemma Fetch.map_plain_reads (fetch : Fetch) (words : List Question) :
    (fetch.reads words).map Question.plain
      = fetch.blockQuestion ++ (words.map Question.plain ++ fetch.vectorQuestion) := by
  rw [reads, List.map_append, List.map_append, map_plain_blockRead, map_plain_vectorRead]

/-- A reader has one read open at most. -/
lemma Question.map_reader_sublist {read : Option Question} {reader : Reader}
    (own : ∀ question, read = some question → question.reader = reader) :
    (read.toList.map Question.reader).Sublist [reader] := by
  cases read with
  | none => exact List.nil_sublist _
  | some question => simp [own question rfl]

lemma Pipeline.map_reader_reads_sublist (pipeline : Pipeline) :
    (pipeline.reads.map Question.reader).Sublist [.block, .load, .vector] := by
  rw [reads, Fetch.reads, List.map_append, List.map_append]
  exact (Question.map_reader_sublist fun _ => Fetch.reader_of_blockRead).append
    ((Question.map_reader_sublist fun _ => LoadUnit.reader_of_wordRead).append
      (Question.map_reader_sublist fun _ => Fetch.reader_of_vectorRead))

lemma Pipeline.nodup_reads (pipeline : Pipeline) : pipeline.reads.Nodup :=
  List.Nodup.of_map _ (pipeline.map_reader_reads_sublist.nodup (by decide))

lemma Pipeline.wordRead_ne_none {pipeline : Pipeline} {question : Question}
    (open' : question ∈ pipeline.reads) (reader : question.reader = .load) :
    LoadUnit.wordRead pipeline.load ≠ none := by
  rw [reads, Fetch.reads, List.mem_append, List.mem_append, Option.mem_toList, Option.mem_toList,
    Option.mem_toList] at open'
  rcases open' with block | word | vector
  · rw [Fetch.reader_of_blockRead block] at reader
    contradiction
  · exact Option.ne_none_iff_exists'.mpr ⟨question, word⟩
  · rw [Fetch.reader_of_vectorRead vector] at reader
    contradiction

/-! ## Exchanges -/

/-- What happens to the open reads in a turn: the oldest may be closed, by the message that waits,
and others may be opened after the ones that are left.  If none is closed, the message that waits is
left alone.  `uses` says what becomes of the message. -/
structure Exchange (near : Terminal) (bus after : Interconnect) (before later : List Question)
    (uses : Question → Message → Prop) (closed : Option Question) (asked : List Question) :
    Prop where
  kept : ∃ rest, before = closed.toList ++ rest ∧ later = rest ++ asked
  apart : ∀ question ∈ closed, ∀ other ∈ asked, question.reader ≠ other.reader
  untaken : closed = none → after.message? near = bus.message? near
  taken : ∀ question ∈ closed, ∃ message, bus.message? near = some message
    ∧ after.message? near = none ∧ question.Answered message ∧ uses question message

namespace Exchange

variable {near : Terminal} {bus middle after : Interconnect} {before between later : List Question}
  {uses uses' : Question → Message → Prop} {closed second : Option Question}
  {asked more : List Question}

lemma idle (same : after.message? near = bus.message? near) :
    Exchange near bus after before before uses none [] where
  kept := ⟨before, rfl, (List.append_nil _).symm⟩
  apart := by simp
  untaken := fun _ => same
  taken := by simp

lemma ask (same : after.message? near = bus.message? near) (joined : later = before ++ asked) :
    Exchange near bus after before later uses none asked where
  kept := ⟨before, rfl, joined⟩
  apart := by simp
  untaken := fun _ => same
  taken := by simp

lemma close {question : Question} {message : Message} {rest : List Question}
    (first : before = question :: rest) (joined : later = rest ++ asked)
    (apart : ∀ other ∈ asked, question.reader ≠ other.reader)
    (waits : bus.message? near = some message) (gone : after.message? near = none)
    (answered : question.Answered message) (used : uses question message) :
    Exchange near bus after before later uses (some question) asked where
  kept := ⟨rest, first, joined⟩
  apart := by
    intro other same
    obtain rfl := Option.some.inj same
    exact apart
  untaken := by simp
  taken := by
    intro other same
    obtain rfl := Option.some.inj same
    exact ⟨message, waits, gone, answered, used⟩

lemma imp (exchange : Exchange near bus after before later uses closed asked)
    (weaker : ∀ question message, closed = some question → uses question message →
      uses' question message) :
    Exchange near bus after before later uses' closed asked where
  kept := exchange.kept
  apart := exchange.apart
  untaken := exchange.untaken
  taken := by
    intro question taken
    obtain ⟨message, waits, gone, answered, used⟩ := exchange.taken question taken
    exact ⟨message, waits, gone, answered, weaker question message taken used⟩

/-- Two turns, the second of which closes a read only if the first has opened none. -/
lemma trans (one : Exchange near bus middle before between uses closed asked)
    (two : Exchange near middle after between later uses second more)
    (calm : second ≠ none → asked = [])
    (apart : ∀ question ∈ closed, ∀ other ∈ more, question.reader ≠ other.reader) :
    Exchange near bus after before later uses (closed.or second) (asked ++ more) := by
  obtain ⟨rest, rfl, rfl⟩ := one.kept
  obtain ⟨left, split, rfl⟩ := two.kept
  cases closed with
  | none =>
    have same := one.untaken rfl
    refine ⟨?_, ?_, ?_, ?_⟩
    · cases second with
      | none => exact ⟨rest, rfl, by rw [← List.append_assoc, split]; rfl⟩
      | some question =>
        obtain rfl := calm (by simp)
        rw [List.append_nil] at split
        exact ⟨left, split, rfl⟩
    · intro question taken other opened
      cases second with
      | none => simp at taken
      | some _ =>
        obtain rfl := calm (by simp)
        exact two.apart question taken other opened
    · intro none
      rw [two.untaken none, same]
    · intro question taken
      rw [← same]
      exact two.taken question taken
  | some question =>
    obtain ⟨message, waits, gone, answered, used⟩ := one.taken question rfl
    -- the only message that waited is gone
    obtain rfl : second = none := by
      by_contra taken
      obtain ⟨other, taken⟩ := Option.ne_none_iff_exists'.mp taken
      obtain ⟨message, again, _⟩ := two.taken other taken
      rw [gone] at again
      contradiction
    refine ⟨⟨rest, rfl, ?_⟩, ?_, by simp, ?_⟩
    · rw [← List.append_assoc, split]
      rfl
    · intro question' taken other opened
      rcases List.mem_append.mp opened with opened | opened
      · exact one.apart question' taken other opened
      · exact apart question' taken other opened
    · intro question' same
      obtain rfl := Option.some.inj same
      exact ⟨message, waits, by rw [two.untaken rfl, gone], answered, used⟩

/-- What is open before and not after, and the other way round. -/
lemma filter_eq (exchange : Exchange near bus after before later uses closed asked)
    (once : before.Nodup) (once' : later.Nodup) :
    before.filter (· ∉ later) = closed.toList ∧ later.filter (· ∉ before) = asked := by
  obtain ⟨rest, rfl, rfl⟩ := exchange.kept
  have separate : ∀ question ∈ closed, question ∉ asked :=
    fun question taken opened => exchange.apart question taken question opened rfl
  have gone : closed.toList.filter (· ∉ rest ++ asked) = closed.toList := by
    refine List.filter_eq_self.mpr fun question taken => ?_
    have left : question ∉ rest := List.disjoint_of_nodup_append once taken
    simpa [left] using separate question (by simpa using taken)
  have new : asked.filter (· ∉ closed.toList ++ rest) = asked := by
    refine List.filter_eq_self.mpr fun question opened => ?_
    have left : question ∉ rest := fun member =>
      List.disjoint_of_nodup_append once' member opened
    simpa [left] using fun taken => separate question taken opened
  have stay : rest.filter (· ∉ rest ++ asked) = [] := by simp +contextual
  have stay' : rest.filter (· ∉ closed.toList ++ rest) = [] := by simp +contextual
  rw [List.filter_append, gone, stay, List.filter_append, new, stay', List.append_nil]
  exact ⟨rfl, rfl⟩

end Exchange

/-! ## The turn of fetch -/

/-- The message that waits answers the oldest open read. -/
lemma View.Agrees.first_answered {origin : Word → Word} {server : Server} {bus : Interconnect}
    {near : Terminal} {message : Message} {question : Question} {rest : List Question}
    (agrees : (server.view bus near).Agrees origin ((question :: rest).map Question.plain))
    (waiting : bus.message? near = some message) : question.Answered message := by
  obtain ⟨first, others, questions, answer, _⟩ := agrees.came waiting
  obtain ⟨rfl, -⟩ := List.cons_eq_cons.mp questions
  exact answer.answered

namespace Fetch

/-- What fetch makes of the answer to a read of its own. -/
def Takes (ip : Word) (fetch later : Fetch) (question : Question) (message : Message) : Prop :=
  match question.reader with
  | .block =>
    ∀ entry ∈ later.line, entry ∈ fetch.line ∨ entry ∈ block question.address message.payload
  | .load => False
  | .vector =>
    fetch.searching = some .awaitId ∧ later.searching = some (.askHandler message.value)
      ∨ ∃ id, fetch.searching = some (.awaitHandler id) ∧ later.searching = none
        ∧ later.line = [⟨ip, (Assembler.jump message.value).encode⟩]

variable {origin : Word → Word} {server : Server} {near : Terminal} {path after : Datapath}
  {fetch later : Fetch}

@[simp] lemma reads_pass (fetch : Fetch) (ip : Word) (words : List Question) :
    (fetch.pass ip).reads words = fetch.reads words := by
  rw [reads, blockRead, vectorRead, outstanding_pass, searching_pass]
  rfl

lemma mem_line_of_mem_line_pass {ip : Word} {entry : Fetched}
    (member : entry ∈ (fetch.pass ip).line) : entry ∈ fetch.line := by
  obtain ⟨n, passed⟩ := fetch.exists_line_pass ip
  rw [passed] at member
  exact List.mem_of_mem_drop member

/-- When the search can take an answer, nothing else is open: the block would have come first. -/
lemma reads_eq_of_answer? {address : Word} {answer : Message} {bus : Interconnect}
    (agrees : (server.view bus near).Agrees origin ((fetch.reads []).map Question.plain))
    (fresh : ∀ address, fetch.outstanding = some address → bus.answer? near address = none)
    (came : bus.answer? near address = some answer)
    (asked : fetch.vectorRead = some ⟨.vector, address⟩) :
    fetch.outstanding = none ∧ fetch.reads [] = [⟨.vector, address⟩] := by
  have vacant : fetch.outstanding = none := by
    rw [map_plain_reads] at agrees
    simpa [blockQuestion] using blockQuestion_eq_nil agrees fresh came
  refine ⟨vacant, ?_⟩
  rw [reads, blockRead, vacant, asked]
  rfl

/-- A step of the search asks for a word of the vector table, or takes one. -/
lemma SearchTurn.exchange {phase : HandlerSearch}
    (step : SearchTurn near path fetch phase later after)
    (searching : fetch.searching = some phase) (vacant : fetch.ahead = [] ∧ fetch.passed = [])
    (fresh : ∀ address, fetch.outstanding = some address → path.bus.answer? near address = none)
    (agrees : (server.view path.bus near).Agrees origin ((fetch.reads []).map Question.plain)) :
    ∃ closed asked, Exchange near path.bus after.bus (fetch.reads []) (later.reads [])
      (fetch.Takes path.registers.ip later) closed asked := by
  cases step with
  | askedId bus sent =>
    refine ⟨none, [⟨.vector, AddressMap.lastInterrupt⟩],
      .ask (Interconnect.message?_of_send? sent) ?_⟩
    simp [reads, blockRead, vectorRead, searching]
  | askedHandler id bus sent =>
    refine ⟨none, [⟨.vector, AddressMap.vectorStart + id⟩],
      .ask (Interconnect.message?_of_send? sent) ?_⟩
    simp [reads, blockRead, vectorRead, searching]
  | gotId answer came =>
    obtain ⟨free, before⟩ :=
      reads_eq_of_answer? agrees fresh came (by simp [vectorRead, searching])
    rw [before] at agrees ⊢
    have waiting := (Interconnect.answer?_eq_some came).1
    exact ⟨_, [], .close rfl (by simp [reads, blockRead, vectorRead, free]) (by simp) waiting
      Interconnect.message?_clear (agrees.first_answered waiting) (Or.inl ⟨searching, rfl⟩)⟩
  | gotHandler id answer came =>
    obtain ⟨free, before⟩ :=
      reads_eq_of_answer? agrees fresh came (by simp [vectorRead, searching])
    rw [before] at agrees ⊢
    have waiting := (Interconnect.answer?_eq_some came).1
    exact ⟨_, [], .close rfl (by simp [reads, blockRead, vectorRead, free]) (by simp) waiting
      Interconnect.message?_clear (agrees.first_answered waiting)
      (Or.inr ⟨id, searching, rfl, by simp [line, vacant]⟩)⟩
  | waited => exact ⟨none, [], .idle rfl⟩

/-- A turn of fetch.  While another unit waits for an answer, fetch asks for nothing. -/
lemma Turn.exchange (turn : Turn near path fetch later after) {words : List Question}
    (agrees : (server.view path.bus near).Agrees origin ((fetch.reads words).map Question.plain))
    (forgotten : fetch.Forgotten) (alone : fetch.searching ≠ none → words = [])
    (spared : words ≠ [] → fetch.Content path.registers.ip) :
    ∃ closed asked, Exchange near path.bus after.bus (fetch.reads words) (later.reads words)
        (fetch.Takes path.registers.ip later) closed asked ∧ (words ≠ [] → asked = []) := by
  -- the answer to the block leaves the other reads open
  have first {address : Word} (asked : fetch.outstanding = some address) :
      fetch.reads words = ⟨.block, address⟩ :: (words ++ fetch.vectorRead.toList) := by
    rw [reads, blockRead, asked]
    rfl
  cases turn with
  | received address answer reading asked came =>
    have waiting := (Interconnect.answer?_eq_some came).1
    rw [first asked] at agrees ⊢
    refine ⟨some ⟨.block, address⟩, [], ?_, fun _ => rfl⟩
    refine .close rfl (by simp [reads, blockRead, vectorRead]) (by simp) waiting
      Interconnect.message?_clear (agrees.first_answered waiting) ?_
    intro entry member
    rw [line, ← List.append_assoc, List.mem_append] at member
    exact member.imp mem_line_of_mem_line_pass id
  | awaited | refused | satisfied =>
    refine ⟨none, [], ?_, fun _ => rfl⟩
    rw [reads_pass]
    exact .idle rfl
  | asked address bus reading free wanted sent =>
    have vacant : words = [] := by
      by_contra open'
      exact absurd (spared open' free) (by simp [wanted])
    refine ⟨none, [⟨.block, address⟩], .ask (Interconnect.message?_of_send? sent) ?_,
      fun open' => absurd vacant open'⟩
    simp [reads, blockRead, vectorRead, reading, free, vacant]
  | searched phase _ _ searching fresh step =>
    obtain rfl := alone (by simp [searching])
    obtain ⟨closed, asked, exchange⟩ :=
      step.exchange searching (forgotten (by simp [searching])) fresh agrees
    exact ⟨closed, asked, exchange, fun open' => absurd rfl open'⟩
  | dropped phase address answer _ _ searching asked came step =>
    obtain rfl := alone (by simp [searching])
    have waiting := (Interconnect.answer?_eq_some came).1
    rw [first asked] at agrees ⊢
    have answered := agrees.first_answered waiting
    refine ⟨some ⟨.block, address⟩, ?_⟩
    -- with the block gone, nothing waits that the search could take
    have nothing {other : Word} {message : Message}
        (got : (path.clear near).bus.answer? near other = some message) : False := by
      have waits := (Interconnect.answer?_eq_some got).1
      rw [Datapath.clear, Interconnect.message?_clear] at waits
      contradiction
    cases step with
    | askedId bus sent =>
      refine ⟨[⟨.vector, AddressMap.lastInterrupt⟩],
        .close rfl ?_ (by simp) waiting ?_ answered fun _ member => Or.inl member, by simp⟩
      · simp [reads, blockRead, vectorRead, searching]
      · exact (Interconnect.message?_of_send? sent).trans Interconnect.message?_clear
    | askedHandler id bus sent =>
      refine ⟨[⟨.vector, AddressMap.vectorStart + id⟩],
        .close rfl ?_ (by simp) waiting ?_ answered fun _ member => Or.inl member, by simp⟩
      · simp [reads, blockRead, vectorRead, searching]
      · exact (Interconnect.message?_of_send? sent).trans Interconnect.message?_clear
    | waited =>
      exact ⟨[], .close rfl (by simp [reads, blockRead, vectorRead]) (by simp) waiting
        Interconnect.message?_clear answered fun _ member => Or.inl member, by simp⟩
    | gotId _ got | gotHandler _ _ got => exact (nothing got).elim

end Fetch

/-! ## The turn of the unit in execution -/

namespace Occupancy

/-- The load's read. -/
def wordRead (occupancy : Occupancy) : Option Question := LoadUnit.wordRead occupancy.load?

/-- Only the stage that executes a load has its read open. -/
lemma wordRead_eq_none {occupancy : Occupancy} (elsewhere : occupancy.stage ≠ .execution) :
    occupancy.wordRead = none := by
  cases occupancy with
  | load => exact absurd rfl elsewhere
  | idle | done | branch | alu | store | stack | request => rfl

/-- A load that reads nothing has not asked for anything. -/
def Requesting (occupancy : Occupancy) : Prop :=
  ∀ pending, occupancy = load pending → pending.instruction = .nop → pending.requested = none

lemma Requesting.map_plain_wordRead {occupancy : Occupancy} (requesting : occupancy.Requesting) :
    occupancy.wordRead.toList.map Question.plain = occupancy.loadQuestion := by
  cases occupancy with
  | load pending =>
    rw [wordRead, load?, LoadUnit.wordRead, LoadUnit.outstanding?, Option.bind_some,
      loadQuestion, PendingLoad.question]
    cases form : pending.instruction with
    | nop =>
      rw [requesting pending rfl form]
      rfl
    | load target operand => cases pending.requested <;> rfl
  | idle | done | branch | alu | store | stack | request => rfl

lemma requesting_of_ofInstruction? {entry : Fetched} {instruction : Instruction}
    {occupancy : Occupancy} (taken : ofInstruction? entry instruction = some occupancy) :
    occupancy.Requesting := by
  rcases instruction with _ | _ | _ | _ | _ | (_ | _) | _ <;>
    simp only [ofInstruction?, Option.some.injEq, reduceCtorEq] at taken <;>
    subst taken <;> simp +contextual [Requesting]

lemma wordRead_of_ofInstruction? {entry : Fetched} {instruction : Instruction}
    {occupancy : Occupancy} (taken : ofInstruction? entry instruction = some occupancy) :
    occupancy.wordRead = none := by
  rcases instruction with _ | _ | _ | _ | _ | (_ | _) | _ <;>
    simp only [ofInstruction?, Option.some.injEq, reduceCtorEq] at taken <;>
    subst taken <;> rfl

variable {origin : Word → Word} {server : Server} {near : Terminal} {path after : Datapath}
  {fetch : Fetch} {occupancy later : Occupancy}

lemma Work.requesting (work : Work near path occupancy later after)
    (requesting : occupancy.Requesting) : later.Requesting := by
  cases work with
  | loadWaits => exact requesting
  | asked pending target operand bus form =>
    rintro _ ⟨⟩ nop
    rw [form] at nop
    contradiction
  | popping | computed | computedNothing | loadedNothing | loaded | stored | storeWaits | pushed
  | popped | pushing | requested | requestWaits => simp +contextual [Requesting]

/-- What a load makes of the answer to its read. -/
def Takes (registers registers' : RegisterFile) (occupancy : Occupancy) (question : Question)
    (message : Message) : Prop :=
  occupancy.wordRead = some question
    ∧ ∃ pending target operand, occupancy = load pending
      ∧ pending.instruction = .load target operand
      ∧ registers' = registers.set target message.value

/-- The turn of the unit that holds the instruction.  A load is answered after the block that fetch
waits for. -/
lemma Work.exchange (work : Work near path occupancy later after)
    (requesting : occupancy.Requesting) (reading : fetch.searching = none)
    (agrees : (server.view path.bus near).Agrees origin
      ((fetch.reads occupancy.wordRead.toList).map Question.plain))
    (unanswered : occupancy.wordRead ≠ none → ∀ address, fetch.outstanding = some address →
      path.bus.answer? near address = none) :
    ∃ closed asked, Exchange near path.bus after.bus (fetch.reads occupancy.wordRead.toList)
        (fetch.reads later.wordRead.toList) (occupancy.Takes path.registers after.registers)
        closed asked
      ∧ (occupancy.wordRead ≠ none → asked = [])
      ∧ ∀ question ∈ asked, question.reader = .load := by
  have calm (same : after.bus.message? near = path.bus.message? near)
      (still : later.wordRead = occupancy.wordRead) :
      Exchange near path.bus after.bus (fetch.reads occupancy.wordRead.toList)
        (fetch.reads later.wordRead.toList) (occupancy.Takes path.registers after.registers)
        none [] := by
    rw [still]
    exact .idle same
  have vector : fetch.vectorRead = none := by rw [Fetch.vectorRead, reading]
  cases work with
  | computed | computedNothing | pushed | popped | pushing | popping | storeWaits
  | requestWaits | loadWaits =>
    exact ⟨none, [], calm rfl rfl, by simp, by simp⟩
  | loadedNothing pending form =>
    refine ⟨none, [], calm rfl ?_, by simp, by simp⟩
    simp [wordRead, load?, LoadUnit.wordRead, LoadUnit.outstanding?, requesting pending rfl form]
  | stored held bus sent | requested held bus sent =>
    exact ⟨none, [], calm (Interconnect.message?_of_send? sent) rfl, by simp, by simp⟩
  | asked pending target operand bus form fresh sent =>
    have before : (load pending).wordRead = none := by
      simp [wordRead, load?, LoadUnit.wordRead, LoadUnit.outstanding?, fresh]
    refine ⟨none, [⟨.load, operand.resolve path.registers⟩],
      .ask (Interconnect.message?_of_send? sent) ?_, absurd before, by simp⟩
    rw [before, Fetch.reads, Fetch.reads, vector]
    simp [wordRead, load?, LoadUnit.wordRead, LoadUnit.outstanding?]
  | loaded pending target operand address answer form waiting came =>
    have before : (load pending).wordRead = some ⟨.load, address⟩ := by
      simp [wordRead, load?, LoadUnit.wordRead, LoadUnit.outstanding?, waiting]
    have free : fetch.outstanding = none := by
      rw [Fetch.map_plain_reads] at agrees
      simpa [Fetch.blockQuestion] using
        Fetch.blockQuestion_eq_nil agrees (unanswered (by simp [before])) came
    have first : fetch.reads (load pending).wordRead.toList = [⟨.load, address⟩] := by
      rw [before, Fetch.reads, Fetch.blockRead, free, vector]
      rfl
    have vacant : fetch.reads done.wordRead.toList = [] := by
      rw [Fetch.reads, Fetch.blockRead, free, vector]
      rfl
    have arrived := (Interconnect.answer?_eq_some came).1
    rw [first] at agrees ⊢
    exact ⟨_, [], .close rfl vacant (by simp) arrived Interconnect.message?_clear
      (agrees.first_answered arrived) ⟨before, pending, target, operand, rfl, form, rfl⟩,
      by simp, by simp⟩

end Occupancy

/-! ## A tick -/

/-- What has become of an answer: the block is among the instructions at hand, the value that was
loaded is in the register it was meant for, and the search has gone on with the word it asked for or
has supplied the jump. -/
def Question.Used (question : Question) (message : Message) (registers registers' : RegisterFile)
    (before after : Pipeline) : Prop :=
  match question.reader with
  | .block =>
    ∀ entry ∈ after.fetch.line,
      entry ∈ before.fetch.line ∨ entry ∈ Fetch.block question.address message.payload
  | .load =>
    ∃ pending target operand, before.load = some pending
      ∧ pending.instruction = .load target operand
      ∧ registers' = registers.set target message.value
  | .vector =>
    before.fetch.searching = some .awaitId
        ∧ after.fetch.searching = some (.askHandler message.value)
      ∨ ∃ id, before.fetch.searching = some (.awaitHandler id) ∧ after.fetch.searching = none
        ∧ after.dispatched = some ⟨registers.ip, (Assembler.jump message.value).encode⟩

namespace Standing

variable {origin : Word → Word} {jump : Option Fetched} {server : Server} {near : Terminal}
  {path after : Datapath} {standing later : Standing} {issue : Option Dispatch}
  {outcome : CoreOutcome}

lemma reads_pipeline (standing : Standing) :
    standing.pipeline.reads = standing.fetch.reads standing.occupancy.wordRead.toList := rfl

lemma map_plain_reads (requesting : standing.occupancy.Requesting) :
    standing.pipeline.reads.map Question.plain = standing.questions := by
  rw [reads_pipeline, Fetch.map_plain_reads, requesting.map_plain_wordRead]
  rfl

lemma Turn.requesting (turn : Turn near path standing later after issue outcome)
    (requesting : standing.occupancy.Requesting) : later.occupancy.Requesting := by
  cases turn with
  | stalled | returned | undecodable | stray => exact requesting
  | issued _ _ _ _ _ _ _ _ _ taken => exact Occupancy.requesting_of_ofInstruction? taken
  | resolved =>
    rw [enter]
    split <;> simp [Occupancy.Requesting]
  | trapped => simp [Occupancy.Requesting]
  | worked _ _ _ _ _ _ work => exact work.requesting requesting

/-- Every tick, with a fault or without, leaves questions and answers in agreement. -/
lemma Turn.agrees (turn : Turn near path standing later after issue outcome)
    (sound : standing.Sound path.registers path.stages)
    (stocked : Stocked origin jump standing path.registers.ip (server.view path.bus near)) :
    (server.view after.bus near).Agrees origin later.questions := by
  have supplied {fetch : Fetch} {between : Datapath}
      (supply : Fetch.Turn near path standing.fetch fetch between) :
      (server.view between.bus near).Agrees origin
        ({ standing with fetch := fetch } : Standing).questions :=
    (stocked.supply sound.forgotten sound.searching supply).agrees
  cases outcome with
  | ok breakpoint => exact (turn.stocked sound stocked).agrees
  | error fault =>
    cases turn with
    | undecodable fetch between entry cause here supply =>
      have agrees := supplied supply
      exact agrees
    | stray fetch between entry here supply =>
      have agrees := supplied supply
      exact agrees
    | trapped fetch between held cause here supply =>
      have agrees := supplied supply
      rwa [questions, here] at agrees

/-- What fetch has taken is used in the rest of the tick. -/
lemma used_of_takes (later : Standing) (registers registers' : RegisterFile) {fetch : Fetch}
    {ip : Word} {question : Question} {message : Message}
    (takes : standing.fetch.Takes ip fetch question message)
    (line : ∀ entry ∈ later.fetch.line, entry ∈ fetch.line)
    (search : standing.fetch.searching ≠ none → ip = registers.ip
      ∧ later.fetch.searching = fetch.searching
      ∧ ∀ entry, fetch.line = [entry] → entry.address = ip → later.dispatched = some entry) :
    question.Used message registers registers' standing.pipeline later.pipeline := by
  rw [Fetch.Takes] at takes
  rw [Question.Used]
  cases reader : question.reader with
  | block =>
    simp only [reader] at takes
    exact fun entry member => takes entry (line entry member)
  | load =>
    simp only [reader] at takes
  | vector =>
    simp only [reader] at takes
    rcases takes with ⟨waits, asks⟩ | ⟨id, waits, calm, jump⟩
    · obtain ⟨_, same, _⟩ := search (by simp [waits])
      exact Or.inl ⟨waits, same.trans asks⟩
    · obtain ⟨rfl, same, issued⟩ := search (by simp [waits])
      exact Or.inr ⟨id, waits, same.trans calm, issued _ jump rfl⟩

/-- Fetch's turn in a tick.  It asks for nothing while a load waits. -/
lemma Stocked.exchange {start between : Datapath} {fetch : Fetch}
    (stocked : Stocked origin jump standing path.registers.ip (server.view path.bus near))
    (sound : standing.Sound path.registers path.stages)
    (requesting : standing.occupancy.Requesting) (bus : start.bus = path.bus)
    (supply : Fetch.Turn near start standing.fetch fetch between)
    (moved : standing.occupancy.wordRead ≠ none → start.registers.ip = path.registers.ip) :
    ∃ closed asked, Exchange near path.bus between.bus standing.pipeline.reads
        (fetch.reads standing.occupancy.wordRead.toList)
        (standing.fetch.Takes start.registers.ip fetch) closed asked
      ∧ (standing.occupancy.wordRead ≠ none → asked = []) := by
  have agrees := stocked.agrees
  rw [← map_plain_reads requesting, reads_pipeline, ← bus] at agrees
  have alone (searching : standing.fetch.searching ≠ none) :
      standing.occupancy.wordRead.toList = [] := by
    rw [Occupancy.wordRead_eq_none (by simp [sound.searching searching])]
    rfl
  have spared (open' : standing.occupancy.wordRead.toList ≠ []) :
      standing.fetch.Content start.registers.ip := by
    rw [moved (by simpa [Option.toList_eq_nil_iff] using open')]
    refine stocked.content ?_
    rw [← requesting.map_plain_wordRead]
    simpa using open'
  obtain ⟨closed, asked, exchange, calm⟩ :=
    supply.exchange agrees sound.forgotten alone spared
  rw [bus] at exchange
  exact ⟨closed, asked, exchange,
    fun open' => calm (by simpa [Option.toList_eq_nil_iff] using open')⟩

/-- The tick of a unit in execution: fetch and the unit have one exchange together. -/
lemma Stocked.exchange_work {between final : Datapath} {fetch : Fetch} {occupancy : Occupancy}
    (stocked : Stocked origin jump standing path.registers.ip (server.view path.bus near))
    (sound : standing.Sound path.registers path.stages)
    (requesting : standing.occupancy.Requesting) (here : standing.occupancy.stage = .execution)
    (supply : Fetch.Turn near path standing.fetch fetch between)
    (work : Occupancy.Work near between standing.occupancy occupancy final)
    (same : later = { standing with occupancy := occupancy, fetch := fetch }) :
    ∃ closed asked, Exchange near path.bus final.bus standing.pipeline.reads later.pipeline.reads
        (fun question message => question.Used message path.registers final.registers
          standing.pipeline later.pipeline) closed asked
      ∧ (standing.occupancy.wordRead ≠ none → asked = []) := by
  have reading : standing.fetch.searching = none := by
    by_contra searching
    simp [sound.searching searching] at here
  have agrees : (server.view between.bus near).Agrees origin
      ((fetch.reads standing.occupancy.wordRead.toList).map Question.plain) := by
    have agrees := (stocked.supply sound.forgotten sound.searching supply).agrees
    rwa [← map_plain_reads (by exact requesting)] at agrees
  have content (asked : standing.occupancy.wordRead ≠ none) :
      standing.fetch.Content path.registers.ip := by
    refine stocked.content ?_
    rw [← requesting.map_plain_wordRead]
    simpa [Option.toList_eq_nil_iff] using asked
  obtain ⟨closed, asked, one, calm⟩ := stocked.exchange sound requesting rfl supply fun _ => rfl
  obtain ⟨second, more, two, calm', load⟩ :=
    work.exchange requesting (supply.searching_eq_none reading) agrees fun asked =>
      supply.unanswered reading (content asked)
  have other : ∀ question ∈ closed, question.reader ≠ .load := by
    intro question taken reader
    obtain ⟨message, _, _, _, takes⟩ := one.taken question taken
    simp only [Fetch.Takes, reader] at takes
  have waits : second ≠ none → standing.occupancy.wordRead ≠ none := by
    intro taken
    obtain ⟨question, taken⟩ := Option.ne_none_iff_exists'.mp taken
    obtain ⟨message, _, _, _, asked, _⟩ := two.taken question taken
    simp [asked]
  have fetches := one.imp fun question message _ takes =>
    used_of_takes later path.registers final.registers takes (by simp [same]) (absurd reading)
  have loads : Exchange near between.bus final.bus
      (fetch.reads standing.occupancy.wordRead.toList) (fetch.reads occupancy.wordRead.toList)
      (fun question message =>
        question.Used message path.registers final.registers standing.pipeline later.pipeline)
      second more := by
    refine two.imp fun question message _ takes => ?_
    obtain ⟨asked, pending, target, operand, holds, form, registers⟩ := takes
    rw [supply.registers_eq] at registers
    rw [Question.Used, LoadUnit.reader_of_wordRead asked]
    exact ⟨pending, target, operand, by rw [pipeline, holds]; rfl, form, registers⟩
  have apart : ∀ question ∈ closed, ∀ loaded ∈ more, question.reader ≠ loaded.reader := by
    intro question taken loaded opened
    rw [load loaded opened]
    exact other question taken
  have both := fetches.trans loads (fun taken => calm (waits taken)) apart
  rw [same] at both ⊢
  exact ⟨_, _, both, fun open' => by rw [calm open', calm' open', List.append_nil]⟩

/-- The tick that dispatches an instruction: what it found is the only one at hand when a search has
just ended. -/
lemma Stocked.exchange_issued {between : Datapath} {fetch : Fetch} {entry : Fetched}
    {registers' : RegisterFile} {bus : Interconnect}
    (stocked : Stocked origin jump standing path.registers.ip (server.view path.bus near))
    (sound : standing.Sound path.registers path.stages)
    (requesting : standing.occupancy.Requesting)
    (supply : Fetch.Turn near path standing.fetch fetch between)
    (found : fetch.find? between.registers.ip = some entry) (same : bus = between.bus)
    (reads : later.pipeline.reads = fetch.reads standing.occupancy.wordRead.toList)
    (line : ∀ entry ∈ later.fetch.line, entry ∈ fetch.line)
    (search : later.fetch.searching = fetch.searching)
    (dispatched : later.dispatched = some entry) :
    ∃ closed asked, Exchange near path.bus bus standing.pipeline.reads later.pipeline.reads
        (fun question message => question.Used message path.registers registers'
          standing.pipeline later.pipeline) closed asked
      ∧ (standing.occupancy.wordRead ≠ none → asked = []) := by
  obtain ⟨closed, asked, exchange, alone⟩ :=
    stocked.exchange sound requesting rfl supply fun _ => rfl
  rw [reads, same]
  refine ⟨closed, asked, exchange.imp fun question message _ takes =>
    used_of_takes later _ _ takes line fun _ => ⟨rfl, search, fun jump only _ => ?_⟩, alone⟩
  have member := Fetch.mem_line_of_find? found
  rw [only, List.mem_singleton] at member
  rw [dispatched, member]

/-- A tick closes one read at most, with the message that waits, and asks for nothing while a load
waits. -/
theorem Turn.exchange (turn : Turn near path standing later after issue outcome)
    (sound : standing.Sound path.registers path.stages)
    (stocked : Stocked origin jump standing path.registers.ip (server.view path.bus near))
    (requesting : standing.occupancy.Requesting) :
    ∃ closed asked, Exchange near path.bus after.bus standing.pipeline.reads later.pipeline.reads
        (fun question message => question.Used message path.registers after.registers
          standing.pipeline later.pipeline) closed asked
      ∧ (standing.occupancy.wordRead ≠ none → asked = []) := by
  have calm (away : standing.occupancy.stage ≠ .dispatch) : standing.fetch.searching = none := by
    by_contra searching
    exact away (sound.searching searching)
  cases turn with
  | stalled fetch between here supply missing =>
    obtain ⟨closed, asked, exchange, alone⟩ :=
      stocked.exchange sound requesting rfl supply fun _ => rfl
    refine ⟨closed, asked, exchange.imp fun question message _ takes =>
      used_of_takes _ _ _ takes (fun _ => id) fun _ => ⟨rfl, rfl, fun entry jump address => ?_⟩,
      alone⟩
    rw [supply.registers_eq] at missing
    exact absurd missing (Fetch.find?_ne_none_iff.mpr ⟨entry, by simp [jump], address⟩)
  | issued fetch between entry instruction occupancy here supply found decoded taken =>
    refine stocked.exchange_issued sound requesting supply found rfl ?_ (fun _ => id)
      rfl rfl
    rw [reads_pipeline, Occupancy.wordRead_of_ofInstruction? taken, here]
    rfl
  | returned fetch between entry here supply found decoded running =>
    exact stocked.exchange_issued sound requesting supply found rfl rfl
      (by simp [Fetch.line, Fetch.flush]) rfl rfl
  | undecodable fetch between entry cause here supply found =>
    exact stocked.exchange_issued sound requesting supply found rfl rfl (fun _ => id) rfl rfl
  | stray fetch between entry here supply found =>
    exact stocked.exchange_issued sound requesting supply found rfl rfl
      (by simp [Fetch.line, Fetch.flush]) rfl rfl
  | resolved fetch between here supply =>
    have away : standing.occupancy.wordRead = none := Occupancy.wordRead_eq_none (by simp [here])
    obtain ⟨closed, asked, exchange, alone⟩ := stocked.exchange sound requesting
      (Occupancy.resolve_bus standing.occupancy path) supply (absurd away)
    have entered : ({ standing with occupancy := .idle, fetch := fetch }.enter
        between.registers.ip).pipeline.reads
          = fetch.reads standing.occupancy.wordRead.toList := by
      rw [away, enter]
      have reading := supply.searching_eq_none (calm (by simp [here]))
      split <;> simp [reads_pipeline, Fetch.beginSearch, Fetch.flush, Fetch.reads, Fetch.blockRead,
        Fetch.vectorRead, Occupancy.wordRead, Occupancy.load?, LoadUnit.wordRead,
        LoadUnit.outstanding?, reading]
    rw [entered]
    refine ⟨closed, asked, exchange.imp fun question message _ takes =>
      used_of_takes _ _ _ takes ?_ (absurd (calm (by simp [here]))), alone⟩
    rw [enter]
    split
    · simp [Fetch.line, Fetch.beginSearch, Fetch.flush]
    · exact fun _ => id
  | trapped fetch between held cause here supply result =>
    obtain ⟨closed, asked, exchange, alone⟩ :=
      stocked.exchange sound requesting rfl supply fun _ => rfl
    have done : ({ standing with occupancy := .done, fetch := fetch } : Standing).pipeline.reads
        = fetch.reads standing.occupancy.wordRead.toList := by
      rw [reads_pipeline, here]
      rfl
    rw [done]
    exact ⟨closed, asked, exchange.imp fun question message _ takes =>
      used_of_takes _ _ _ takes (fun _ => id) (absurd (calm (by simp [here, Occupancy.stage]))),
      alone⟩
  | worked fetch between final occupancy here supply work =>
    have exchange := stocked.exchange_work sound requesting here supply work rfl
    exact exchange

/-- No load waits while a handler is looked for. -/
lemma Turn.alone (turn : Turn near path standing later after issue outcome)
    (sound : standing.Sound path.registers path.stages) :
    later.occupancy.wordRead = none ∨ later.fetch.searching = none := by
  cases outcome with
  | ok breakpoint =>
    have sound := turn.sound sound
    by_cases searching : later.fetch.searching = none
    · exact Or.inr searching
    · exact Or.inl (Occupancy.wordRead_eq_none (by simp [sound.searching searching]))
  | error fault =>
    cases turn with
    | undecodable _ _ _ _ here | stray _ _ _ here =>
      exact Or.inl (Occupancy.wordRead_eq_none (by simp [here, Occupancy.stage]))
    | trapped => exact Or.inl rfl

end Standing

/-! ## Runs -/

/-- Two readers at most wait for an answer, one of which is fetch with its block. -/
def Pipeline.Paired (pipeline : Pipeline) : Prop :=
  (pipeline.reads.map Question.reader).Sublist [.block, .load]
    ∨ (pipeline.reads.map Question.reader).Sublist [.block, .vector]

lemma Pipeline.paired {pipeline : Pipeline}
    (alone : LoadUnit.wordRead pipeline.load = none ∨ pipeline.fetch.searching = none) :
    pipeline.Paired := by
  have block : (pipeline.fetch.blockRead.toList.map Question.reader).Sublist [.block] :=
    Question.map_reader_sublist fun _ => Fetch.reader_of_blockRead
  rw [Paired, reads, Fetch.reads, List.map_append, List.map_append]
  rcases alone with idle | reading
  · rw [idle]
    exact Or.inr (block.append (Question.map_reader_sublist fun _ => Fetch.reader_of_vectorRead))
  · have vector : pipeline.fetch.vectorRead = none := by rw [Fetch.vectorRead, reading]
    rw [vector, Option.toList_none, List.map_nil, List.append_nil]
    exact Or.inl (block.append (Question.map_reader_sublist fun _ => LoadUnit.reader_of_wordRead))

namespace ServedCore

variable {origin : Word → Word} {served : ServedCore} {standing : Standing}

/-- The reads of the core that have not been answered. -/
def reads (served : ServedCore) : List Question := served.core.pipeline.reads

/-- The message that waits for the core. -/
def waiting? (served : ServedCore) : Option Message :=
  served.env.bus.message? served.core.terminal

/-- Between two actions the messages to come answer the open reads.  A core that has not stopped
stands in one of the situations of its units, too. -/
structure Converses (origin : Word → Word) (served : ServedCore) : Prop where
  coming : List.Forall₂ Question.Answered served.reads served.view.incoming
  paired : served.core.pipeline.Paired
  stands : served.stopped = none →
    ∃ standing, served.Stands origin standing ∧ standing.occupancy.Requesting

/-- A tick of the core is one exchange. -/
lemma Converses.tick (converses : served.Converses origin) :
    ∃ closed asked, Exchange served.core.terminal served.env.bus served.tickCore.env.bus
        served.reads served.tickCore.reads
        (fun question message => question.Used message served.core.registers
          served.tickCore.core.registers served.core.pipeline served.tickCore.core.pipeline)
        closed asked
      ∧ ((∃ question ∈ served.reads, question.reader = .load) → asked = [])
      ∧ served.tickCore.core.terminal = served.core.terminal
      ∧ served.tickCore.Converses origin := by
  cases stopped : served.stopped with
  | some fault =>
    have still : served.tickCore = served := by simp only [tickCore, stopped]
    rw [still]
    exact ⟨none, [], .idle rfl, fun _ => rfl, rfl, converses⟩
  | none =>
    obtain ⟨standing, stands, requesting⟩ := converses.stands stopped
    obtain ⟨later, after, outcome, turn, ticked, standsAfter⟩ := stands.tick stopped
    generalize raised : (served.env.lines.take served.core.id).1 = signal at turn
    have sound : (standing.signal signal).Sound (served.core.path served.env).registers
        (served.core.path served.env).stages := stands.core.sound.signal signal
    have stocked : (standing.signal signal).Stocked origin served.jump
        (served.core.path served.env).registers.ip
        (served.server.view (served.core.path served.env).bus served.core.terminal) :=
      stands.stocked.signal signal
    have requesting : (standing.signal signal).occupancy.Requesting := by
      rwa [Standing.signal_occupancy]
    have before : (standing.signal signal).pipeline.fetch = served.core.pipeline.fetch
        ∧ (standing.signal signal).pipeline.load = served.core.pipeline.load := by
      rw [stands.core.pipeline]
      cases signal <;> exact ⟨rfl, rfl⟩
    have signalled : (standing.signal signal).pipeline.reads = served.reads := by
      rw [reads, Pipeline.reads, before.1, before.2]
      rfl
    obtain ⟨closed, asked, exchange, alone⟩ := turn.exchange sound stocked requesting
    have agrees := turn.agrees sound stocked
    rw [← Standing.map_plain_reads (turn.requesting requesting)] at agrees
    rw [ticked]
    refine ⟨closed, asked, ?_, ?_, rfl, ?_, ?_, ?_⟩
    · rw [signalled] at exchange
      refine exchange.imp fun question message _ used => ?_
      rw [Question.Used, before.1, before.2] at used
      exact used
    · rintro ⟨question, open', reader⟩
      refine alone ?_
      rw [← signalled] at open'
      exact Pipeline.wordRead_ne_none open' reader
    · refine (List.forall₂_map_left_iff.mp agrees.answers).imp fun _ _ answer => ?_
      exact Memory.IsAnswer.answered answer
    · exact Pipeline.paired (turn.alone sound)
    · intro running
      cases outcome with
      | ok breakpoint =>
        rw [← ticked]
        exact ⟨later, standsAfter breakpoint rfl, turn.requesting requesting⟩
      | error fault => contradiction

/-- Only the core changes what it has asked, and what is to come to it. -/
lemma Converses.step (converses : served.Converses origin) (action : Action) :
    (served.step action).Converses origin := by
  cases action with
  | core =>
    obtain ⟨_, _, _, _, _, after⟩ := converses.tick
    exact after
  | link | take | serve | reply | raise =>
    refine ⟨?_, converses.paired, fun running => ?_⟩
    · rw [served.view_step (by simp)]
      exact converses.coming
    · obtain ⟨standing, stands, requesting⟩ := converses.stands running
      refine ⟨standing, ⟨stands.core, ?_⟩, requesting⟩
      rw [served.view_step (by simp)]
      exact stands.stocked

lemma converses_reset (id : Nat) (entry : Word) (period : UInt32) (words : Word → Word) :
    (reset id entry period words).Converses words where
  coming := by
    rw [view_reset]
    exact .nil
  paired := Or.inl (List.nil_sublist _)
  stands := fun _ => ⟨_, stands_reset id entry period words, by simp [Occupancy.Requesting]⟩

end ServedCore

/-- A core with its memory, every read it has sent so far, and every read that has been answered,
with the answer that its reader took. -/
structure Recorded where
  served : ServedCore
  asked : List Question := []
  answered : List (Question × Message) := []

namespace Recorded

/-- One action.  A read that was open before and is not open afterwards has been answered by the
message that waited. -/
def step (recorded : Recorded) (action : Action) : Recorded :=
  let next := recorded.served.step action
  let closed := recorded.served.reads.filter (· ∉ next.reads)
  { served := next
    asked := recorded.asked ++ next.reads.filter (· ∉ recorded.served.reads)
    answered := recorded.answered
      ++ closed.flatMap fun question => recorded.served.waiting?.toList.map (question, ·) }

/-- The actions of a run in order. -/
def run (recorded : Recorded) (actions : List Action) : Recorded := actions.foldl step recorded

/-- The message that waits stays where it is, or it goes to one reader, who uses it. -/
def Takes (recorded later : Recorded) : Prop :=
  later.answered = recorded.answered ∧ later.served.waiting? = recorded.served.waiting?
    ∨ ∃ question message, later.answered = recorded.answered ++ [(question, message)]
      ∧ recorded.served.waiting? = some message ∧ later.served.waiting? = none
      ∧ question.Used message recorded.served.core.registers later.served.core.registers
        recorded.served.core.pipeline later.served.core.pipeline

/-- Nobody takes what is meant for another. -/
structure KeepsApart (recorded : Recorded) : Prop where
  /-- Reads are answered in the order in which they were sent. -/
  order : recorded.asked = recorded.answered.map Prod.fst ++ recorded.served.reads
  /-- What a reader took answers its read, with as many words as it asked for. -/
  answers : ∀ pair ∈ recorded.answered, pair.1.Answered pair.2
  /-- So will what is still to come. -/
  coming : List.Forall₂ Question.Answered recorded.served.reads recorded.served.view.incoming
  paired : recorded.served.core.pipeline.Paired
  /-- While a load waits, nothing is asked. -/
  patient : (∃ question ∈ recorded.served.reads, question.reader = .load) →
    (recorded.step .core).asked = recorded.asked
  taken : recorded.Takes (recorded.step .core)

/-- The record agrees with what is open. -/
structure Kept (origin : Word → Word) (recorded : Recorded) : Prop where
  order : recorded.asked = recorded.answered.map Prod.fst ++ recorded.served.reads
  answers : ∀ pair ∈ recorded.answered, pair.1.Answered pair.2
  converses : recorded.served.Converses origin

variable {origin : Word → Word} {recorded : Recorded}

/-- What a tick adds to the record. -/
lemma Kept.tick (kept : recorded.Kept origin) :
    (recorded.step .core).Kept origin ∧ recorded.Takes (recorded.step .core)
      ∧ ((∃ question ∈ recorded.served.reads, question.reader = .load) →
        (recorded.step .core).asked = recorded.asked) := by
  obtain ⟨closed, asked, exchange, alone, terminal, converses⟩ := kept.converses.tick
  obtain ⟨gone, new⟩ := exchange.filter_eq (Pipeline.nodup_reads _) (Pipeline.nodup_reads _)
  obtain ⟨rest, before, afterwards⟩ := exchange.kept
  have stepped : recorded.step .core
      = { served := recorded.served.tickCore
          asked := recorded.asked ++ asked
          answered := recorded.answered ++ closed.toList.flatMap fun question =>
            recorded.served.waiting?.toList.map (question, ·) } := by
    rw [← gone, ← new]
    rfl
  have order := kept.order
  rw [stepped]
  cases closed with
  | none =>
    refine ⟨⟨?_, ?_, converses⟩, Or.inl ⟨by simp, ?_⟩, fun open' => by simp [alone open']⟩
    · simp [order, before, afterwards]
    · simpa using kept.answers
    · rw [ServedCore.waiting?, terminal]
      exact exchange.untaken rfl
  | some question =>
    obtain ⟨message, waits, cleared, answered, used⟩ := exchange.taken question rfl
    have waiting : recorded.served.waiting? = some message := waits
    refine ⟨⟨?_, ?_, converses⟩, Or.inr ⟨question, message, by simp [waiting], waiting, ?_, used⟩,
      fun open' => by simp [alone open']⟩
    · simp [order, before, afterwards, waiting]
    · intro pair member
      simp only [Option.toList_some, List.flatMap_cons, List.flatMap_nil, List.append_nil, waiting,
        List.map_cons, List.map_nil, List.mem_append, List.mem_singleton] at member
      rcases member with old | rfl
      · exact kept.answers pair old
      · exact answered
    · rw [ServedCore.waiting?, terminal]
      exact cleared

/-- Other actions add nothing. -/
lemma step_of_ne_core {action : Action} (other : action ≠ .core) :
    recorded.step action = { recorded with served := recorded.served.step action } := by
  have same : (recorded.served.step action).reads = recorded.served.reads := by
    cases action with
    | core => contradiction
    | link | take | serve | reply | raise => rfl
  have nothing : recorded.served.reads.filter (· ∉ recorded.served.reads) = [] := by simp
  simp only [step, same, nothing, List.append_nil, List.flatMap_nil]

lemma Kept.step (kept : recorded.Kept origin) (action : Action) :
    (recorded.step action).Kept origin := by
  by_cases tick : action = .core
  · rw [tick]
    exact kept.tick.1
  · rw [step_of_ne_core tick]
    refine ⟨?_, kept.answers, kept.converses.step action⟩
    cases action with
    | core => contradiction
    | link | take | serve | reply | raise => exact kept.order

lemma Kept.run (kept : recorded.Kept origin) (actions : List Action) :
    (recorded.run actions).Kept origin := by
  induction actions generalizing recorded with
  | nil => exact kept
  | cons action rest ih => exact ih (kept.step action)

/-- In every run, whatever the program, the delays and the moments at which interrupts are raised,
each answer goes to the reader that asked for it. -/
theorem keepsApart_run (id : Nat) (entry : Word) (period : UInt32) (words : Word → Word)
    (actions : List Action) :
    (({ served := ServedCore.reset id entry period words } : Recorded).run actions).KeepsApart := by
  have start : ({ served := ServedCore.reset id entry period words } : Recorded).Kept words :=
    ⟨rfl, by simp, ServedCore.converses_reset id entry period words⟩
  have kept := start.run actions
  obtain ⟨_, taken, patient⟩ := kept.tick
  exact ⟨kept.order, kept.answers, kept.converses.coming, kept.converses.paired, patient, taken⟩

/-- A load of the word with which the next block begins. -/
def sharedWords (address : Word) : Word :=
  (assemble [Assembler.loadLiteral (Assembler.register 1) 520]).getD
    (address - 512).toNatClampNeg 7

/-- After 18 rounds both reads are open, and both readers get what they asked for. -/
example :
    let round : List Action := [.core, .link, .take, .serve, .reply]
    let start : Recorded := { served := ServedCore.reset 0 512 1 sharedWords }
    (start.run (List.replicate 18 round).flatten).served.reads = [⟨.block, 520⟩, ⟨.load, 520⟩]
      ∧ (start.run (List.replicate 32 round).flatten).answered.drop 1
        = [(⟨.block, 520⟩, Message.response 520 (List.replicate 8 7)),
          (⟨.load, 520⟩, Message.response 520 [7])] := by
  decide +kernel

end Recorded

end PipelinedMachine
