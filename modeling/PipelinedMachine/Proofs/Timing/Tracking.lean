import PipelinedMachine.Proofs.Machine.MainMemory
import PipelinedMachine.Proofs.Served.Refinement

/-!
# A core and main memory

A core whose program stays in main memory still shares its link with everything else: fetch reads
ahead across the end of main memory, and what it asks for there is answered by another component or
not at all.  So questions and answers are in order only as far as they are main memory's, and an
instruction at hand can be relied on only if its address is in main memory.

* `Nearby` — the addresses that reading ahead comes to;
* `Fetch.Local` — what fetch has at hand and waits for;
* `Fetch.Turn.local` — **a turn of fetch keeps it**, and takes in what memory holds;
* `Occupancy.Tame` — the unit in execution accesses main memory alone;
* `Occupancy.Work.carries_on` — **a turn of the unit in execution** does not change what comes of
  its instruction.
-/

namespace PipelinedMachine

/-! ## Addresses around main memory -/

/-- An address of main memory, or one of the first ones behind it. -/
def Nearby (reach : Nat) (address : Word) : Prop :=
  ∃ distance ≤ AddressMap.ramWords + reach, address = AddressMap.ramStart + Int32.ofNat distance

section Nearby

variable {reach distance : Nat} {address : Word}

lemma toInt_ramStart_add (near : distance ≤ AddressMap.ramWords + 100) :
    (AddressMap.ramStart + Int32.ofNat distance).toInt = 3589 + distance := by
  have start : AddressMap.ramStart.toInt = 3589 := by decide
  rw [AddressMap.ramWords] at near
  have small : (Int32.ofNat distance).toInt = distance := Int32.toInt_ofNat_of_lt (by omega)
  rw [Int32.toInt_add, start, small]
  exact Int.bmod_eq_of_le (by omega) (by omega)

lemma isRam_ramStart_add (near : distance ≤ AddressMap.ramWords + 100) :
    isRam (AddressMap.ramStart + Int32.ofNat distance) = true ↔ distance < AddressMap.ramWords := by
  rw [Component.isRam_iff, toInt_ramStart_add near, AddressMap.ramWords]
  omega

lemma nearby_of_isRam (inside : isRam address = true) :
    ∃ distance < AddressMap.ramWords, address = AddressMap.ramStart + Int32.ofNat distance := by
  obtain ⟨low, high⟩ := Component.isRam_iff.mp inside
  refine ⟨(address.toInt - 3589).toNat, by rw [AddressMap.ramWords]; omega, Int32.toInt_inj.mp ?_⟩
  rw [toInt_ramStart_add (by rw [AddressMap.ramWords]; omega)]
  omega

lemma Nearby.add (near : Nearby reach address) (step : Nat) :
    Nearby (reach + step) (address + Int32.ofNat step) := by
  obtain ⟨distance, limit, rfl⟩ := near
  exact ⟨distance + step, by omega, by rw [Int32.ofNat_add, Int32.add_assoc]⟩

lemma Nearby.mono {wider : Nat} (near : Nearby reach address) (more : reach ≤ wider) :
    Nearby wider address := by
  obtain ⟨distance, limit, rfl⟩ := near
  exact ⟨distance, by omega, rfl⟩

end Nearby

/-! ## Questions and answers -/

namespace Window

variable {near : Terminal} {see : Interconnect → View} {origin : Word → Word}
  {bus after : Interconnect} {questions : List (Word × Nat)} {message : Message} {address : Word}

/-- The answer that waits is for the first question, and leaves the others open. -/
lemma came (window : Window near see) (agrees : (see bus).Agrees origin questions)
    (waiting : bus.message? near = some message) (kept : message.tells .ram = true) :
    ∃ question rest, questions = question :: rest
      ∧ (see bus).memory.IsAnswer origin question message
      ∧ (see (bus.clear near)).Agrees origin rest
      ∧ (see (bus.clear near)).memory = (see bus).memory := by
  obtain ⟨others, incoming, cleared⟩ := window.takes waiting kept
  have answers := agrees.answers
  rw [incoming] at answers
  obtain ⟨question, rest, answer, left, rfl⟩ := List.forall₂_cons_right_iff.mp answers
  exact ⟨question, rest, rfl, answer, by rw [cleared]; exact ⟨agrees.sound, left⟩, by rw [cleared]⟩

lemma sends_of_asks (window : Window near see) (sent : bus.send? near message = some after)
    (asks : message.asks .ram = true) : see after = (see bus).send message := by
  rw [window.sends sent, if_pos asks]

lemma sends_of_not_asks (window : Window near see) (sent : bus.send? near message = some after)
    (asks : message.asks .ram = false) : see after = see bus := by
  rw [window.sends sent, asks]
  rfl

end Window

lemma Message.asks_read (address count : Word) (component : Component) :
    (Message.read address count).asks component = decide (Component.ofAddress address = component) :=
  rfl

lemma Message.asks_write (address value : Word) (component : Component) :
    (Message.write address value).asks component
      = decide (Component.ofAddress address = component) :=
  rfl

lemma Message.tells_of_answers {message : Message} {address : Word}
    (answers : message.answers address = true) (component : Component) :
    message.tells component = decide (Component.ofAddress address = component) := by
  rw [Message.answers, Bool.and_eq_true, decide_eq_true_eq, decide_eq_true_eq] at answers
  simp [tells, answered?, isResponse, answers.1, answers.2]

/-! ## What fetch has at hand -/

namespace Fetch

/-- The question for the block that has been asked of main memory. -/
def ramQuestion (fetch : Fetch) : List (Word × Nat) :=
  fetch.blockQuestion.filter fun question => isRam question.1

lemma ramQuestion_of_free {fetch : Fetch} (free : fetch.outstanding = none) :
    fetch.ramQuestion = [] := by
  simp [ramQuestion, blockQuestion, free]

lemma ramQuestion_of_outstanding {fetch : Fetch} {address : Word}
    (asked : fetch.outstanding = some address) :
    fetch.ramQuestion = if isRam address then [(address, 8)] else [] := by
  rw [ramQuestion, blockQuestion, asked]
  cases inside : isRam address <;> simp [inside]

/-- Fetch has read ahead no further than just behind main memory, and what it has of main memory is
what memory holds. -/
structure Local (origin : Word → Word) (memory : Memory) (fetch : Fetch) : Prop where
  genuine : ∀ entry ∈ fetch.line, isRam entry.address = true → entry.Genuine origin memory
  line : ∀ entry ∈ fetch.line, Nearby 7 entry.address
  outstanding : ∀ address, fetch.outstanding = some address → Nearby 9 address

lemma Local.mono {origin : Word → Word} {memory later : Memory} {fetch : Fetch}
    (localized : fetch.Local origin memory) (more : memory.WritesIn later) :
    fetch.Local origin later where
  genuine := fun entry member inside => (localized.genuine entry member inside).mono more
  line := localized.line
  outstanding := localized.outstanding

lemma address_of_mem_block {address : Word} {words : List Word} {entry : Fetched}
    (member : entry ∈ block address words) :
    ∃ step ≤ 6, entry.address = address + Int32.ofNat step := by
  simp only [block, List.map_cons, List.map_nil, List.mem_cons, List.not_mem_nil, or_false]
    at member
  rcases member with rfl | rfl | rfl | rfl
  · exact ⟨0, by omega, rfl⟩
  · exact ⟨2, by omega, rfl⟩
  · exact ⟨4, by omega, rfl⟩
  · exact ⟨6, by omega, rfl⟩

/-- The answers that come from behind main memory are those of the disk's registers. -/
def Answered (near : Terminal) (bus : Interconnect) : Prop :=
  ∀ address, Nearby 9 address → isRam address = false → bus.answer? near address ≠ none →
    Nearby 1 address

section Turn

variable {origin : Word → Word} {see : Interconnect → View} {near : Terminal}
  {path after : Datapath} {fetch later : Fetch}

lemma exists_mem_line_of_wanted? {fetch : Fetch} {ip address : Word}
    (wanted : fetch.wanted? ip = some address) :
    address = ip ∨ ∃ entry ∈ fetch.line, address = entry.address + AddressMap.instructionWords := by
  rw [wanted?] at wanted
  split at wanted
  · exact Or.inl (Option.some.inj wanted).symm
  · split_ifs at wanted
    obtain ⟨entry, newest, rfl⟩ := Option.map_eq_some_iff.mp wanted
    refine Or.inr ⟨entry, ?_, rfl⟩
    rw [newest?] at newest
    rw [line, List.mem_append]
    split at newest
    · next ahead => exact Or.inr (Option.some.inj newest ▸ List.mem_of_getLast? ahead)
    · exact Or.inl (List.mem_of_getLast? newest)

lemma Local.pass {memory : Memory} (localized : fetch.Local origin memory) (ip : Word) :
    (fetch.pass ip).Local origin memory := by
  obtain ⟨n, passed⟩ := fetch.exists_line_pass ip
  have kept (entry : Fetched) (member : entry ∈ (fetch.pass ip).line) : entry ∈ fetch.line := by
    rw [passed] at member
    exact List.mem_of_mem_drop member
  exact ⟨fun entry member => localized.genuine entry (kept entry member),
    fun entry member => localized.line entry (kept entry member),
    by rw [outstanding_pass]; exact localized.outstanding⟩

/-- What is asked for next is at most just behind main memory. -/
lemma Local.wanted {memory : Memory} (localized : fetch.Local origin memory) {ip address : Word}
    (here : isRam ip = true) (wanted : fetch.wanted? ip = some address) : Nearby 9 address := by
  rcases exists_mem_line_of_wanted? wanted with rfl | ⟨entry, member, rfl⟩
  · obtain ⟨distance, inside, rfl⟩ := nearby_of_isRam here
    exact ⟨distance, by omega, rfl⟩
  · exact (localized.line entry member).add 2

/-- A block that has come from behind main memory holds no instruction of main memory. -/
lemma outside_of_mem_block {address : Word} {words : List Word} {entry : Fetched}
    (near : Nearby 1 address) (outside : isRam address = false)
    (member : entry ∈ block address words) :
    isRam entry.address = false ∧ Nearby 7 entry.address := by
  obtain ⟨step, few, place⟩ := address_of_mem_block member
  rw [place]
  refine ⟨?_, (near.add step).mono (by omega)⟩
  obtain ⟨distance, limit, rfl⟩ := near
  rw [Bool.eq_false_iff, ne_eq, isRam_ramStart_add (by omega)] at outside
  rw [Int32.add_assoc, ← Int32.ofNat_add, Bool.eq_false_iff, ne_eq, isRam_ramStart_add (by omega)]
  omega

/-- The block that has come is taken in. -/
lemma Local.receive {memory : Memory} (localized : fetch.Local origin memory) {address : Word}
    {words : List Word}
    (genuine : ∀ entry ∈ block address words, isRam entry.address = true →
      entry.Genuine origin memory)
    (near : ∀ entry ∈ block address words, Nearby 7 entry.address) :
    Local origin memory
      { fetch with outstanding := none, ahead := fetch.ahead ++ block address words } where
  genuine entry member := by
    rw [Fetch.line, ← List.append_assoc, List.mem_append] at member
    exact member.elim (localized.genuine entry) (genuine entry)
  line entry member := by
    rw [Fetch.line, ← List.append_assoc, List.mem_append] at member
    exact member.elim (localized.line entry) (near entry)
  outstanding := by simp

/-- Reading ahead asks in order and takes in what memory holds, and the question of the load unit
stays open. -/
theorem Turn.local (turn : Turn near path fetch later after) (window : Window near see)
    (reading : fetch.searching = none) {asked : List (Word × Nat)}
    (agrees : (see path.bus).Agrees origin (fetch.ramQuestion ++ asked))
    (spared : asked ≠ [] → fetch.Content path.registers.ip)
    (localized : fetch.Local origin (see path.bus).memory)
    (here : isRam path.registers.ip = true) (answered : Answered near path.bus) :
    (see after.bus).Agrees origin (later.ramQuestion ++ asked)
      ∧ (see after.bus).memory = (see path.bus).memory
      ∧ later.Local origin (see after.bus).memory := by
  have kept : (fetch.pass path.registers.ip).ramQuestion = fetch.ramQuestion := by
    rw [ramQuestion, blockQuestion, outstanding_pass, ramQuestion, blockQuestion]
  have passed := localized.pass path.registers.ip
  cases turn with
  | received address answer reading outstanding came =>
    obtain ⟨waiting, answers⟩ := Interconnect.answer?_eq_some came
    have tells := Message.tells_of_answers answers .ram
    have question := ramQuestion_of_outstanding outstanding
    cases inside : isRam address with
    | true =>
      rw [decide_eq_true (Component.ofAddress_eq_ram_iff.mpr inside)] at tells
      obtain ⟨first, rest, questions, answer', cleared, same⟩ := window.came agrees waiting tells
      rw [question, inside] at questions
      obtain ⟨rfl, rfl⟩ := List.cons_eq_cons.mp questions
      refine ⟨cleared, same, ?_⟩
      change Local origin (see (path.bus.clear near)).memory _
      rw [same]
      obtain ⟨distance, below, rfl⟩ := nearby_of_isRam inside
      refine passed.receive (fun entry member _ => genuine_of_mem_block answer' entry member) ?_
      intro entry member
      obtain ⟨step, few, place⟩ := address_of_mem_block member
      rw [place, Int32.add_assoc, ← Int32.ofNat_add]
      exact ⟨distance + step, by omega, rfl⟩
    | false =>
      have outside : Component.ofAddress address ≠ .ram := fun ram => by
        rw [Component.ofAddress_eq_ram_iff, inside] at ram
        contradiction
      rw [decide_eq_false outside] at tells
      have same := window.skips waiting tells
      change (see (path.bus.clear near)).Agrees _ _ ∧ (see (path.bus.clear near)).memory = _
        ∧ Local _ (see (path.bus.clear near)).memory _
      rw [same]
      rw [question, inside] at agrees
      have close := answered address (localized.outstanding address outstanding) inside
        (by simp [came])
      refine ⟨agrees, rfl, passed.receive (fun entry member ram => ?_) fun entry member =>
        (outside_of_mem_block close inside member).2⟩
      rw [(outside_of_mem_block close inside member).1] at ram
      contradiction
  | awaited | refused | satisfied => exact ⟨by rw [kept]; exact agrees, rfl, passed⟩
  | asked address bus reading free wanted sent =>
    have alone : asked = [] := by
      by_contra open'
      exact absurd (spared open' free) (by simp [wanted])
    have near := passed.wanted here wanted
    have asks := Message.asks_read address blockWords .ram
    have localize (memory : Memory) (localized : (fetch.pass path.registers.ip).Local origin memory) :
        Local origin memory { fetch.pass path.registers.ip with outstanding := some address } :=
      ⟨localized.genuine, localized.line, fun other same => Option.some.inj same ▸ near⟩
    rw [ramQuestion_of_free free, alone] at agrees
    rw [alone, ramQuestion_of_outstanding rfl]
    change (see bus).Agrees _ _ ∧ (see bus).memory = _ ∧ Local _ (see bus).memory _
    cases inside : isRam address with
    | true =>
      rw [decide_eq_true (Component.ofAddress_eq_ram_iff.mpr inside)] at asks
      rw [window.sends_of_asks sent asks]
      exact ⟨agrees.readBlock address, rfl, localize _ passed⟩
    | false =>
      have outside : Component.ofAddress address ≠ .ram := fun ram => by
        rw [Component.ofAddress_eq_ram_iff, inside] at ram
        contradiction
      rw [decide_eq_false outside] at asks
      rw [window.sends_of_not_asks sent asks]
      exact ⟨agrees, rfl, localize _ passed⟩
  | searched _ _ _ searching | dropped _ _ _ _ _ searching =>
    rw [reading] at searching
    contradiction

/-- What waits is the load unit's only if no block of main memory comes before it. -/
lemma ramQuestion_eq_nil {bus : Interconnect} {asked : List (Word × Nat)}
    (window : Window near see) (agrees : (see bus).Agrees origin (fetch.ramQuestion ++ asked))
    (fresh : ∀ address, fetch.outstanding = some address → bus.answer? near address = none)
    {address : Word} {answer : Message} (inside : isRam address = true)
    (came : bus.answer? near address = some answer) : fetch.ramQuestion = [] := by
  obtain ⟨waiting, answers⟩ := Interconnect.answer?_eq_some came
  have tells := Message.tells_of_answers answers .ram
  rw [decide_eq_true (Component.ofAddress_eq_ram_iff.mpr inside)] at tells
  obtain ⟨question, rest, questions, ⟨values, form, _⟩, _⟩ := window.came agrees waiting tells
  cases outstanding : fetch.outstanding with
  | none => exact ramQuestion_of_free outstanding
  | some block =>
    rw [ramQuestion_of_outstanding outstanding] at questions ⊢
    split_ifs at questions ⊢ with ram
    · obtain ⟨rfl, -⟩ := List.cons_eq_cons.mp questions
      have missing := Interconnect.answer?_eq_none (fresh block outstanding) waiting
      rw [form, Bool.eq_false_iff] at missing
      exact absurd (Message.answers_response.mpr rfl) missing
    · rfl

end Turn

end Fetch

/-! ## The instruction in its unit -/

namespace Occupancy

/-- The unit accesses main memory alone, and asks for no interrupt. -/
def Tame (registers : RegisterFile) : Occupancy → Prop
  | idle | done | branch _ | alu _ => True
  | load pending =>
    match pending.instruction, pending.requested with
    | .nop, _ => True
    | .load _ operand, none => isRam (operand.resolve registers) = true
    | .load _ _, some address => isRam address = true
  | store held => isRam (held.instruction.address.resolve registers) = true
  | stack held =>
    match held.instruction with
    | .push | .pop => True
    | .pushStore _ => isRam registers.stackTop = true
    | .popLoad _ => isRam (registers.setStack (registers.sp + 1)).stackTop = true
  | request _ => False

variable {origin : Word → Word} {see : Interconnect → View} {near : Terminal}
  {path after : Datapath} {occupancy later : Occupancy} {fetch next : Fetch}

/-- A unit goes on as tame as it was. -/
lemma Work.tame (work : Work near path occupancy later after)
    (tame : occupancy.Tame path.registers) : later.Tame after.registers := by
  cases work with
  | computed | computedNothing | loadedNothing | loaded | stored | pushed | popped | requested =>
    trivial
  | asked pending target operand bus form fresh sent =>
    simp only [Tame, form, fresh] at tame ⊢
    exact tame
  | loadWaits | storeWaits | requestWaits => exact tame
  | pushing held source form =>
    simp only [Tame, form] at tame
    exact tame
  | popping held target form =>
    simp only [Tame, form] at tame
    exact tame

/-- A turn of fetch does not change what comes of the instruction in its unit. -/
lemma completed_local (turn : Fetch.Turn near path fetch next after) (window : Window near see)
    (reading : fetch.searching = none)
    (agrees : (see path.bus).Agrees origin (fetch.ramQuestion ++ occupancy.loadQuestion))
    (content : occupancy.loadQuestion ≠ [] → fetch.Content path.registers.ip)
    (same : (see after.bus).memory = (see path.bus).memory) (registers : RegisterFile) :
    occupancy.completed registers (see after.bus)
      = occupancy.completed registers (see path.bus) := by
  have last (waiting : occupancy.loadQuestion ≠ []) :
      (see after.bus).incoming.getLast? = (see path.bus).incoming.getLast? := by
    cases turn with
    | received address answer _ asked came =>
      change (see (path.bus.clear near)).incoming.getLast? = _
      obtain ⟨waits, answers⟩ := Interconnect.answer?_eq_some came
      cases tells : answer.tells .ram with
      | false => rw [window.skips waits tells]
      | true =>
        obtain ⟨rest, incoming, cleared⟩ := window.takes waits tells
        obtain ⟨question, others, questions, _, left, _⟩ := window.came agrees waits tells
        have inside : isRam address = true := by
          rw [Message.tells_of_answers answers, decide_eq_true_eq] at tells
          exact Component.ofAddress_eq_ram_iff.mp tells
        rw [Fetch.ramQuestion_of_outstanding asked, inside] at questions
        obtain ⟨-, rfl⟩ := List.cons_eq_cons.mp questions
        have answers := left.answers
        rw [cleared] at answers ⊢
        rw [incoming, List.getLast?_cons_of_ne_nil]
        rintro rfl
        exact waiting (List.forall₂_nil_right_iff.mp answers)
    | awaited | refused | satisfied => rfl
    | asked _ _ _ free wanted => exact absurd (content waiting free) (by simp [wanted])
    | searched _ _ _ searching | dropped _ _ _ _ _ searching =>
      rw [reading] at searching
      contradiction
  exact completed_congr same last registers

/-- The unit in execution asks and stores in order, and its turn does not change what comes of its
instruction. -/
theorem Work.carries_on (work : Work near path occupancy later after) (window : Window near see)
    (tame : occupancy.Tame path.registers)
    (agrees : (see path.bus).Agrees origin (fetch.ramQuestion ++ occupancy.loadQuestion))
    (unanswered : occupancy.loadQuestion ≠ [] →
      ∀ address, fetch.outstanding = some address → path.bus.answer? near address = none) :
    (see after.bus).Agrees origin (fetch.ramQuestion ++ later.loadQuestion)
      ∧ (see path.bus).memory.WritesIn (see after.bus).memory
      ∧ later.completed after.registers (see after.bus)
        = occupancy.completed path.registers (see path.bus) := by
  have asks {address : Word} (inside : isRam address = true) :
      decide (Component.ofAddress address = .ram) = true :=
    decide_eq_true (Component.ofAddress_eq_ram_iff.mpr inside)
  cases work with
  | computed held value result =>
    refine ⟨agrees, fun _ => id, ?_⟩
    simp only [completed, Sequential.execute, result]
    rfl
  | computedNothing held result =>
    refine ⟨agrees, fun _ => id, ?_⟩
    simp only [completed, Sequential.execute, result]
    rfl
  | loadedNothing pending form =>
    refine ⟨?_, fun _ => id, ?_⟩
    · change (see path.bus).Agrees _ _
      simpa [loadQuestion, PendingLoad.question, form] using agrees
    · simp only [completed, form]
      rfl
  | asked pending target operand bus form fresh sent =>
    simp only [Tame, form, fresh] at tame
    have served := window.sends_of_asks sent ((Message.asks_read _ _ _).trans (asks tame))
    change (see bus).Agrees _ _ ∧ Memory.WritesIn _ (see bus).memory
      ∧ completed path.registers (see bus) (.load _) = _
    rw [served]
    refine ⟨?_, Memory.writesIn_send _ _, ?_⟩
    · have joined := agrees.readWord (operand.resolve path.registers)
      simpa [loadQuestion, PendingLoad.question, form, fresh] using joined
    · -- the answer joins the messages to come, where it is the last
      simp only [completed, form, fresh, View.send, Memory.serve_readWord]
      rw [List.getLast?_concat]
      rfl
  | loaded pending target operand address answer form waiting came =>
    simp only [Tame, form, waiting] at tame
    have asked : (Occupancy.load pending).loadQuestion = [(address, 1)] := by
      simp [loadQuestion, PendingLoad.question, form, waiting]
    have first := Fetch.ramQuestion_eq_nil window agrees (unanswered (by simp [asked])) tame came
    obtain ⟨waits, answers⟩ := Interconnect.answer?_eq_some came
    have tells := (Message.tells_of_answers answers .ram).trans (asks tame)
    obtain ⟨rest, incoming, cleared⟩ := window.takes waits tells
    obtain ⟨question, others, questions, _, left, memory⟩ := window.came agrees waits tells
    rw [first, asked] at questions
    obtain ⟨rfl, rfl⟩ := List.cons_eq_cons.mp questions
    -- the answer that has come is the only message to come
    obtain rfl : rest = [] := by
      have answers := left.answers
      rw [cleared] at answers
      exact List.forall₂_nil_left_iff.mp answers
    refine ⟨?_, ?_, ?_⟩
    · rw [first]
      exact left
    · change Memory.WritesIn _ (see (path.bus.clear near)).memory
      rw [memory]
      exact fun _ => id
    · change completed (path.registers.set target answer.value) (see (path.bus.clear near)) .done = _
      simp only [completed, form, waiting, cleared, incoming]
      rfl
  | loadWaits | storeWaits | requestWaits => exact ⟨agrees, fun _ => id, rfl⟩
  | stored held bus sent =>
    have served := window.sends_of_asks sent ((Message.asks_write _ _ _).trans (asks tame))
    change (see bus).Agrees _ _ ∧ Memory.WritesIn _ (see bus).memory
      ∧ completed path.registers (see bus) .done = _
    rw [served]
    refine ⟨agrees.request rfl, Memory.writesIn_send _ _, ?_⟩
    simp only [completed, View.send, Memory.serve_write]
    rfl
  | pushed held form | popped held form | pushing held source form | popping held target form =>
    refine ⟨agrees, fun _ => id, ?_⟩
    simp only [completed, form]
    rfl
  | requested => exact tame.elim

end Occupancy

end PipelinedMachine
