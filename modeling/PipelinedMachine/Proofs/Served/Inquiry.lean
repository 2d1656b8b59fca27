import PipelinedMachine.Proofs.Served.Questions

/-!
# A search for a handler and the answers that come late

A search for an interrupt handler begins while a block of instructions may still be on its way.  An
answer names no more than the address it is for, so the answer to that block might be taken for one
of the two answers that the search waits for.  Here fetch stands alone on its link, and at the other
end its reads are answered with any words and after any delay.  Reads of one address are answered in
the order in which they were sent, and nothing is said about reads of different addresses, which may
go to different devices.

* `Inquiry`, `InquiryAction`, `Inquiry.run` — fetch, its link, the reads that are being answered,
  and a record; and all that can happen;
* `Inquiry.Pending` — the reads that are open, and the answer that is on its way;
* `Inquiry.Stands` — how far a search has come, with all that it has sent and heard;
* `Inquiry.Stands.turn` — a turn of fetch takes it on;
* **`Inquiry.findsHandler_run`** — whatever answers come late, a search sends its two reads, takes
  the answers to these two, and ends in one jump to the handler.
-/

namespace PipelinedMachine

namespace Fetch

/-- Asks which interrupt came last. -/
def readId : Message := Message.read AddressMap.lastInterrupt 1

/-- Asks where the handler of an interrupt is. -/
def readHandler (id : Word) : Message := Message.read (AddressMap.vectorStart + id) 1

/-- Asks for a block of instructions. -/
def readBlock (address : Word) : Message := Message.read address blockWords

@[simp] lemma address_readBlock (address : Word) : (readBlock address).address = address := rfl

end Fetch

/-! ## The system -/

/-- Fetch at its end of a link, with a record of what has passed. -/
structure Inquiry where
  near : Terminal
  fetch : Fetch
  path : Datapath
  /-- The reads that have been taken at the other end and not answered, oldest first. -/
  inbox : List Message := []
  /-- What fetch has sent, oldest first. -/
  sent : List Message := []
  /-- The reads that have been answered, with the words of the answers. -/
  told : List (Message × List Word) := []

/-- Something that happens. -/
inductive InquiryAction where
  /-- Fetch has its turn. -/
  | turn
  /-- Every channel ticks. -/
  | tick
  /-- The message that waits at the other end is taken. -/
  | take
  /-- The read at `index` of the inbox is answered, if the link takes the answer and no older read
  is of the same address. -/
  | answer (index : Nat) (words : List Word)
deriving DecidableEq, Repr

namespace Inquiry

/-- One action.  What fetch sends is read off the link. -/
def step (inquiry : Inquiry) : InquiryAction → Inquiry
  | .turn =>
    let (fetch, path) := inquiry.fetch.tick inquiry.near inquiry.path
    { inquiry with
      fetch := fetch
      path := path
      sent := inquiry.sent ++ (Message.newly? (inquiry.path.bus.carried? inquiry.near)
        (path.bus.carried? inquiry.near)).toList }
  | .tick => { inquiry with path := { inquiry.path with bus := inquiry.path.bus.tick } }
  | .take =>
    match inquiry.path.bus.message? inquiry.near.peer with
    | some question =>
      { inquiry with
        path := inquiry.path.clear inquiry.near.peer
        inbox := inquiry.inbox ++ [question] }
    | none => inquiry
  | .answer index words =>
    match inquiry.inbox[index]? with
    | some question =>
      if ∀ earlier ∈ inquiry.inbox.take index, earlier.address ≠ question.address then
        match inquiry.path.bus.send? inquiry.near.peer
            (Message.response question.address words) with
        | some bus =>
          { inquiry with
            path := { inquiry.path with bus := bus }
            inbox := inquiry.inbox.eraseIdx index
            told := inquiry.told ++ [(question, words)] }
        | none => inquiry
      else inquiry
    | none => inquiry

/-- The actions of a run in order. -/
def run (inquiry : Inquiry) (actions : List InquiryAction) : Inquiry := actions.foldl step inquiry

/-- Fetch begins to look for a handler, and the record begins anew. -/
def beginSearch (inquiry : Inquiry) : Inquiry :=
  { inquiry with fetch := inquiry.fetch.beginSearch, sent := [] }

/-! ## Open reads -/

/-- The reads that are open, oldest first, and the reads whose answers have been taken.  Either no
answer is on its way, or one is, to a read before which no other of its address is open. -/
inductive Pending (questions : List Message) (settled : List (Message × List Word))
    (inquiry : Inquiry) : Prop where
  | asked (requests : inquiry.inbox ++ (inquiry.path.bus.carried? inquiry.near).toList = questions)
      (quiet : inquiry.path.bus.carried? inquiry.near.peer = none)
      (record : inquiry.told = settled) : Pending questions settled inquiry
  | answered (index : Nat) (question : Message) (words : List Word)
      (here : questions[index]? = some question)
      (first : ∀ earlier ∈ questions.take index, earlier.address ≠ question.address)
      (requests : inquiry.inbox ++ (inquiry.path.bus.carried? inquiry.near).toList
        = questions.eraseIdx index)
      (answer : inquiry.path.bus.carried? inquiry.near.peer
        = some (Message.response question.address words))
      (record : inquiry.told = settled ++ [(question, words)]) : Pending questions settled inquiry

variable {inquiry : Inquiry} {questions : List Message} {settled : List (Message × List Word)}

/-- Between the turns of fetch the link moves on, and the other end takes and answers reads. -/
lemma exists_step_eq (inquiry : Inquiry) {action : InquiryAction} (other : action ≠ .turn) :
    ∃ bus inbox told, inquiry.step action
      = { inquiry with
          path := { inquiry.path with bus := bus }
          inbox := inbox
          told := told } := by
  cases action with
  | turn => contradiction
  | tick => exact ⟨_, _, _, rfl⟩
  | take =>
    rw [step]
    split <;> exact ⟨_, _, _, rfl⟩
  | answer index words =>
    rw [step]
    split
    · split
      · split <;> exact ⟨_, _, _, rfl⟩
      · exact ⟨_, _, _, rfl⟩
    · exact ⟨_, _, _, rfl⟩

lemma carried?_clear_near (inquiry : Inquiry) :
    (inquiry.path.bus.clear inquiry.near).carried? inquiry.near
      = inquiry.path.bus.carried? inquiry.near :=
  Interconnect.carried?_clear_of_ne (Terminal.peer_ne inquiry.near).symm

/-- None of this changes which reads are open. -/
lemma Pending.step (pending : inquiry.Pending questions settled) {action : InquiryAction}
    (other : action ≠ .turn) : (inquiry.step action).Pending questions settled := by
  cases action with
  | turn => contradiction
  | tick =>
    cases pending with
    | asked requests quiet record =>
      exact .asked (by simpa [Inquiry.step] using requests) (by simpa [Inquiry.step] using quiet)
        record
    | answered index question words here first requests answer record =>
      exact .answered index question words here first (by simpa [Inquiry.step] using requests)
        (by simpa [Inquiry.step] using answer) record
  | take =>
    rw [Inquiry.step]
    cases waiting : inquiry.path.bus.message? inquiry.near.peer with
    | none => exact pending
    | some message =>
      have taken := Interconnect.carried?_clear_of_message? waiting
      have carried := Interconnect.carried?_of_message? waiting
      have other : (inquiry.path.bus.clear inquiry.near.peer).carried? inquiry.near.peer
          = inquiry.path.bus.carried? inquiry.near.peer :=
        Interconnect.carried?_clear_of_ne (Terminal.peer_ne inquiry.near.peer).symm
      rw [Terminal.peer_peer] at taken carried
      cases pending with
      | asked requests quiet record =>
        refine .asked ?_ (other.trans quiet) record
        simpa [Datapath.clear, taken, carried] using requests
      | answered index question words here first requests answer record =>
        refine .answered index question words here first ?_ (other.trans answer) record
        simpa [Datapath.clear, taken, carried] using requests
  | answer index words =>
    rw [Inquiry.step]
    cases held : inquiry.inbox[index]? with
    | none => exact pending
    | some question =>
      simp only
      split
      · next oldest =>
        cases sent : inquiry.path.bus.send? inquiry.near.peer
            (Message.response question.address words) with
        | none => exact pending
        | some after =>
          have free := (Interconnect.inTransit?_of_send? sent).1
          have carried := Interconnect.carried?_of_send? sent
          have other := Interconnect.carried?_of_send?_of_ne sent
            (Terminal.peer_ne inquiry.near).symm
          obtain ⟨inside, -⟩ := List.getElem?_eq_some_iff.mp held
          cases pending with
          | asked requests quiet record =>
            refine .answered index question words ?_ ?_ ?_ carried (by rw [record])
            · rw [← requests, List.getElem?_append_left inside, held]
            · rwa [← requests, List.take_append_of_le_length inside.le]
            · rw [← requests, List.eraseIdx_append_of_lt_length inside, other]
          | answered _ _ _ _ _ _ answer => simp [free] at answer
      · exact pending

/-- What fetch sends is one more open read. -/
lemma Pending.send (pending : inquiry.Pending questions settled) {question : Message}
    {after : Interconnect} (sent : inquiry.path.bus.send? inquiry.near question = some after)
    (later : Inquiry) (near : later.near = inquiry.near) (bus : later.path.bus = after)
    (inbox : later.inbox = inquiry.inbox) (told : later.told = inquiry.told) :
    later.Pending (questions ++ [question]) settled := by
  have free := (Interconnect.inTransit?_of_send? sent).1
  have carried := Interconnect.carried?_of_send? sent
  have other := Interconnect.carried?_of_send?_of_ne sent (Terminal.peer_ne inquiry.near)
  cases pending with
  | asked requests quiet record =>
    refine .asked ?_ (by rw [near, bus, other, quiet]) (told.trans record)
    rw [near, bus, inbox, carried, ← requests, free]
    simp
  | answered index answered words here first requests answer record =>
    obtain ⟨inside, -⟩ := List.getElem?_eq_some_iff.mp here
    refine .answered index answered words ?_ ?_ ?_ (by rw [near, bus, other, answer])
      (told.trans record)
    · rw [List.getElem?_append_left inside, here]
    · rwa [List.take_append_of_le_length inside.le]
    · rw [near, bus, inbox, carried, List.eraseIdx_append_of_lt_length inside, ← requests, free]
      simp

lemma Pending.of_eq (pending : inquiry.Pending questions settled) (later : Inquiry)
    (near : later.near = inquiry.near) (bus : later.path.bus = inquiry.path.bus)
    (inbox : later.inbox = inquiry.inbox) (told : later.told = inquiry.told) :
    later.Pending questions settled := by
  cases pending with
  | asked requests quiet record =>
    exact .asked (by rwa [near, bus, inbox]) (by rwa [near, bus]) (told.trans record)
  | answered index question words here first requests answer record =>
    exact .answered index question words here first (by rwa [near, bus, inbox])
      (by rwa [near, bus]) (told.trans record)

/-- **An answer that comes is to the oldest open read of its address.** -/
lemma Pending.taken {before rest : List Message} {question answer : Message}
    (pending : inquiry.Pending (before ++ question :: rest) settled)
    (fresh : ∀ earlier ∈ before,
      inquiry.path.bus.answer? inquiry.near earlier.address = none)
    (came : inquiry.path.bus.answer? inquiry.near question.address = some answer)
    (later : Inquiry) (near : later.near = inquiry.near)
    (bus : later.path.bus = inquiry.path.bus.clear inquiry.near)
    (inbox : later.inbox = inquiry.inbox) (told : later.told = inquiry.told) :
    ∃ words, answer = Message.response question.address words
      ∧ later.Pending (before ++ rest) (settled ++ [(question, words)]) := by
  obtain ⟨waiting, answers⟩ := Interconnect.answer?_eq_some came
  have carried := Interconnect.carried?_of_message? waiting
  have taken := Interconnect.carried?_clear_of_message? waiting
  have other := inquiry.carried?_clear_near
  cases pending with
  | asked requests quiet record => simp [quiet] at carried
  | answered index answered words here first requests onWay record =>
    obtain rfl : Message.response answered.address words = answer :=
      Option.some.inj (onWay.symm.trans carried)
    have same : answered.address = question.address := Message.answers_response.mp answers
    obtain rfl : index = before.length := by
      rcases Nat.lt_trichotomy index before.length with early | here' | late
      · rw [List.getElem?_append_left early] at here
        have missing := fresh answered (List.mem_of_getElem? here)
        rw [same, came] at missing
        contradiction
      · exact here'
      · refine absurd same.symm (first question ?_)
        refine List.mem_of_getElem? (i := before.length) ?_
        rw [List.getElem?_take_of_lt late, List.getElem?_append_right le_rfl, Nat.sub_self]
        rfl
    rw [List.getElem?_append_right le_rfl, Nat.sub_self, List.getElem?_cons_zero] at here
    obtain rfl := Option.some.inj here
    refine ⟨words, rfl, .asked ?_ (by rw [near, bus, taken]) (told.trans record)⟩
    rw [near, bus, inbox, other, requests, List.eraseIdx_append_of_length_le le_rfl, Nat.sub_self]
    rfl

/-! ## How far a search has come -/

end Inquiry

namespace HandlerSearch

/-- The read whose answer is waited for. -/
def question? : HandlerSearch → Option Message
  | .askId | .askHandler _ => none
  | .awaitId => some Fetch.readId
  | .awaitHandler id => some (Fetch.readHandler id)

/-- The reads that have been sent. -/
def asked : HandlerSearch → List Message
  | .askId => []
  | .awaitId | .askHandler _ => [Fetch.readId]
  | .awaitHandler id => [Fetch.readId, Fetch.readHandler id]

/-- The interrupt, once it is known. -/
def id? : HandlerSearch → Option Word
  | .askId | .awaitId => none
  | .askHandler id | .awaitHandler id => some id

end HandlerSearch

namespace Inquiry

/-- The answers to reads of single words, the only ones that a search sends. -/
def vectors (log : List (Message × List Word)) : List (Message × List Word) :=
  log.filter fun entry => entry.1.count = 1

/-- The answers that a search has had before its end: to the first read, once the interrupt is
known, and the interrupt is its first word. -/
def Heard (phase : HandlerSearch) (settled : List (Message × List Word)) : Prop :=
  match phase.id? with
  | none => vectors settled = []
  | some id => ∃ words, vectors settled = [(Fetch.readId, words)] ∧ id = words.headD 0

/-- The instructions at hand after a search, and what has been sent since.  Reading ahead goes on
after the jump, if no older block is still to come. -/
inductive Stock (start : Inquiry) (inquiry : Inquiry) (settled : List (Message × List Word))
    (jump : Fetched) (asked : List Message) : Prop where
  | alone (ahead : inquiry.fetch.ahead = [jump]) (sent : inquiry.sent = asked)
      (stale : inquiry.fetch.outstanding = none
        ∨ inquiry.fetch.outstanding = start.fetch.outstanding) :
      Stock start inquiry settled jump asked
  | reading (ahead : inquiry.fetch.ahead = [jump])
      (sent : inquiry.sent = asked ++ [Fetch.readBlock (jump.address + 2)])
      (outstanding : inquiry.fetch.outstanding = some (jump.address + 2)) :
      Stock start inquiry settled jump asked
  | stocked (address : Word) (words : List Word)
      (ahead : inquiry.fetch.ahead = jump :: Fetch.block address words)
      (outstanding : inquiry.fetch.outstanding = none)
      (answered : (Fetch.readBlock address, words) ∈ settled)
      (source : inquiry.sent = asked ∧ start.fetch.outstanding = some address
        ∨ inquiry.sent = asked ++ [Fetch.readBlock address] ∧ address = jump.address + 2) :
      Stock start inquiry settled jump asked

/-- The reads that are open while fetch waits for a block and a search for an answer. -/
def openReads (outstanding : Option Word) (question? : Option Message) : List Message :=
  (outstanding.map Fetch.readBlock).toList ++ question?.toList

lemma openReads_some (outstanding : Option Word) (question : Message) :
    openReads outstanding (some question) = openReads outstanding none ++ [question] := by
  simp [openReads]

/-- A search that began in `start` is in the given phase. -/
structure Searching (start inquiry : Inquiry) (phase : HandlerSearch)
    (settled : List (Message × List Word)) : Prop where
  searching : inquiry.fetch.searching = some phase
  ahead : inquiry.fetch.ahead = []
  passed : inquiry.fetch.passed = []
  stale : inquiry.fetch.outstanding = none
    ∨ inquiry.fetch.outstanding = start.fetch.outstanding
  pending : inquiry.Pending (openReads inquiry.fetch.outstanding phase.question?) settled
  heard : Heard phase settled
  sent : inquiry.sent = phase.asked
  registers : inquiry.path.registers = start.path.registers
  stages : inquiry.path.stages = start.path.stages
  serviced : inquiry.path.counters.interruptsServiced
    = start.path.counters.interruptsServiced

/-- A search that began in `start` is over; its two reads were answered with these words. -/
structure Found (start inquiry : Inquiry) (first second : List Word)
    (settled : List (Message × List Word)) : Prop where
  searching : inquiry.fetch.searching = none
  passed : inquiry.fetch.passed = []
  pending : inquiry.Pending (openReads inquiry.fetch.outstanding none) settled
  heard : vectors settled
    = [(Fetch.readId, first), (Fetch.readHandler (first.headD 0), second)]
  stock : Stock start inquiry settled
    ⟨start.path.registers.ip, (Assembler.jump (second.headD 0)).encode⟩
    [Fetch.readId, Fetch.readHandler (first.headD 0)]
  registers : inquiry.path.registers = start.path.registers
  stages : inquiry.path.stages = start.path.stages.request .dispatch
  serviced : inquiry.path.counters.interruptsServiced
    = saturatingSucc start.path.counters.interruptsServiced

/-- Where a search stands that began in `start`. -/
inductive Stands (start inquiry : Inquiry) : Prop where
  | searching (phase : HandlerSearch) (settled : List (Message × List Word))
      (searches : Searching start inquiry phase settled)
  | found (first second : List Word) (settled : List (Message × List Word))
      (found : Found start inquiry first second settled)

/-! ## Turns -/

variable {start inquiry : Inquiry} {after : Datapath} {later : Fetch}
  {settled : List (Message × List Word)}

/-- The turn of fetch, with its outcome. -/
def turned (inquiry : Inquiry) (fetch : Fetch) (path : Datapath) : Inquiry :=
  { inquiry with
    fetch := fetch
    path := path
    sent := inquiry.sent ++ (Message.newly? (inquiry.path.bus.carried? inquiry.near)
      (path.bus.carried? inquiry.near)).toList }

lemma step_turn (inquiry : Inquiry) :
    inquiry.step .turn = inquiry.turned (inquiry.fetch.tick inquiry.near inquiry.path).1
      (inquiry.fetch.tick inquiry.near inquiry.path).2 := rfl

/-- Nothing is sent in a turn that leaves the way out alone. -/
lemma sent_turned_of_same (fetch : Fetch) (after : Datapath)
    (same : after.bus.carried? inquiry.near = inquiry.path.bus.carried? inquiry.near) :
    (inquiry.turned fetch after).sent = inquiry.sent := by
  simp [turned, same]

lemma sent_turned_of_send? (fetch : Fetch) (after : Datapath) {question : Message}
    {bus : Interconnect} (sent : inquiry.path.bus.send? inquiry.near question = some bus)
    (same : after.bus = bus) :
    (inquiry.turned fetch after).sent = inquiry.sent ++ [question] := by
  have free := (Interconnect.inTransit?_of_send? sent).1
  simp [turned, free, same, Interconnect.carried?_of_send? sent]

lemma vectors_append_block (settled : List (Message × List Word)) (address : Word)
    (words : List Word) : vectors (settled ++ [(Fetch.readBlock address, words)])
      = vectors settled := by
  have eight : (Fetch.readBlock address).count ≠ 1 := by
    change (8 : Int32) ≠ 1
    decide
  simp [vectors, eight]

lemma vectors_append_vector (settled : List (Message × List Word)) (slot : Word)
    (words : List Word) : vectors (settled ++ [(Message.read slot 1, words)])
      = vectors settled ++ [(Message.read slot 1, words)] := by
  have one : (Message.read slot 1).count = 1 := rfl
  simp [vectors, one]

lemma value_response (address : Word) (words : List Word) :
    (Message.response address words).value = words.headD 0 :=
  (List.headD_eq_head?_getD).symm

/-- A step of the search takes it on.  An answer to an older block does not wait any more. -/
lemma Searching.search {phase : HandlerSearch} (searches : Searching start inquiry phase settled)
    (fresh : ∀ address, inquiry.fetch.outstanding = some address →
      inquiry.path.bus.answer? inquiry.near address = none)
    (step : Fetch.SearchTurn inquiry.near inquiry.path inquiry.fetch phase later after) :
    Stands start (inquiry.turned later after) := by
  obtain ⟨searching, ahead, passed, stale, pending, heard, sent, registers, stages, serviced⟩ :=
    searches
  have fresh' : ∀ earlier ∈ (inquiry.fetch.outstanding.map Fetch.readBlock).toList,
      inquiry.path.bus.answer? inquiry.near earlier.address = none := by
    intro earlier member
    obtain ⟨address, outstanding, rfl⟩ :=
      Option.map_eq_some_iff.mp (Option.mem_toList.mp member)
    exact fresh address outstanding
  cases step with
  | askedId bus said =>
    refine .searching .awaitId settled
      ⟨rfl, ahead, passed, stale, ?_, heard, ?_, registers, stages, serviced⟩
    · rw [HandlerSearch.question?, openReads_some]
      exact pending.send said _ rfl rfl rfl rfl
    · rw [sent_turned_of_send? _ _ said rfl, sent]
      rfl
  | askedHandler id bus said =>
    refine .searching (.awaitHandler id) settled
      ⟨rfl, ahead, passed, stale, ?_, heard, ?_, registers, stages, serviced⟩
    · rw [HandlerSearch.question?, openReads_some]
      exact pending.send said _ rfl rfl rfl rfl
    · rw [sent_turned_of_send? _ _ said rfl, sent]
      rfl
  | gotId answer came =>
    obtain ⟨words, rfl, fewer⟩ := pending.taken fresh' came
      (inquiry.turned { inquiry.fetch with searching := some (.askHandler answer.value) }
        (inquiry.path.clear inquiry.near)) rfl rfl rfl rfl
    refine .searching (.askHandler _) _
      ⟨rfl, ahead, passed, stale, fewer, ⟨words, ?_, value_response _ words⟩, ?_, registers, stages,
        serviced⟩
    · rw [Fetch.readId, vectors_append_vector, heard]
      rfl
    · rw [sent_turned_of_same _ _ inquiry.carried?_clear_near, sent]
      rfl
  | gotHandler id answer came =>
    obtain ⟨words, rfl, fewer⟩ := pending.taken fresh' came
      (inquiry.turned
        { inquiry.fetch with
          ahead := inquiry.fetch.ahead
            ++ [⟨inquiry.path.registers.ip, (Assembler.jump answer.value).encode⟩]
          searching := none }
        (((inquiry.path.clear inquiry.near).request .dispatch).record .interruptsServiced))
      rfl rfl rfl rfl
    obtain ⟨first, once, rfl⟩ := heard
    refine .found first words _
      ⟨rfl, passed, fewer, ?_, .alone ?_ ?_ stale, registers, ?_, ?_⟩
    · rw [Fetch.readHandler, vectors_append_vector, once]
      rfl
    · change inquiry.fetch.ahead ++ _ = _
      rw [ahead, registers, value_response]
      rfl
    · rw [sent_turned_of_same _ _ inquiry.carried?_clear_near, sent]
      rfl
    · change inquiry.path.stages.request .dispatch = _
      rw [stages]
    · change saturatingSucc inquiry.path.counters.interruptsServiced = _
      rw [serviced]
  | waited =>
    have same := sent_turned_of_same inquiry.fetch (inquiry.path.record .interruptWaits) rfl
    exact .searching phase settled
      ⟨searching, ahead, passed, stale, pending.of_eq _ rfl rfl rfl rfl, heard,
        same.trans sent, registers, stages, serviced⟩

/-- The answer to a block that was asked for before the search is dropped. -/
lemma Searching.drop {phase : HandlerSearch} (searches : Searching start inquiry phase settled)
    {address : Word} {answer : Message} (asked : inquiry.fetch.outstanding = some address)
    (came : inquiry.path.bus.answer? inquiry.near address = some answer) :
    ∃ words, answer = Message.response address words
      ∧ Searching start
        { inquiry with
          fetch := { inquiry.fetch with outstanding := none }
          path := inquiry.path.clear inquiry.near }
        phase (settled ++ [(Fetch.readBlock address, words)]) := by
  have pending := searches.pending
  rw [openReads, asked, Option.map_some, Option.toList_some, ← List.nil_append [_],
    List.append_assoc] at pending
  obtain ⟨words, said, fewer⟩ := pending.taken (by simp) came
    { inquiry with
      fetch := { inquiry.fetch with outstanding := none }
      path := inquiry.path.clear inquiry.near } rfl rfl rfl rfl
  refine ⟨words, said, searches.searching, searches.ahead, searches.passed, Or.inl rfl, fewer, ?_,
    searches.sent, searches.registers, searches.stages, searches.serviced⟩
  have heard := searches.heard
  unfold Heard at heard ⊢
  rw [vectors_append_block]
  exact heard

/-- After a search the jump stands in front. -/
lemma Found.atHand {first second : List Word} (found : Found start inquiry first second settled) :
    inquiry.fetch.AtHand inquiry.path.registers.ip := by
  rw [found.registers]
  cases found.stock with
  | alone ahead | reading ahead | stocked _ _ ahead => exact Or.inl (by rw [ahead]; rfl)

/-- What fetch wants after a search is the block behind the jump, as long as it has only that. -/
lemma Found.wanted {first second : List Word} (found : Found start inquiry first second settled)
    {address : Word} (free : inquiry.fetch.outstanding = none)
    (wanted : inquiry.fetch.wanted? inquiry.path.registers.ip = some address) :
    address = start.path.registers.ip + 2
      ∧ inquiry.fetch.ahead
        = [⟨start.path.registers.ip, (Assembler.jump (second.headD 0)).encode⟩]
      ∧ inquiry.sent = [Fetch.readId, Fetch.readHandler (first.headD 0)] := by
  have here := found.atHand
  rw [found.registers] at wanted here
  cases found.stock with
  | alone ahead sent stale =>
    refine ⟨?_, ahead, sent⟩
    have next : inquiry.fetch.wanted? start.path.registers.ip
        = some (start.path.registers.ip + AddressMap.instructionWords) := by
      simp [Fetch.wanted?, Fetch.find?, Fetch.newest?, Fetch.depth, ahead]
    exact (Option.some.inj (next.symm.trans wanted)).symm
  | reading _ _ outstanding => simp [free] at outstanding
  | stocked _ _ ahead =>
    have enough : Fetch.depth ≤ inquiry.fetch.ahead.length := by
      rw [ahead, List.length_cons, Fetch.length_block, Fetch.depth]
    rw [Fetch.wanted?_eq_none here.supplied enough] at wanted
    contradiction

/-- A turn that waits leaves everything as it is. -/
lemma Found.of_same {first second : List Word}
    (found : Found start inquiry first second settled)
    (bus : after.bus = inquiry.path.bus) (registers : after.registers = inquiry.path.registers)
    (stages : after.stages = inquiry.path.stages)
    (serviced : after.counters.interruptsServiced = inquiry.path.counters.interruptsServiced) :
    Found start (inquiry.turned inquiry.fetch after) first second settled := by
  have sent : (inquiry.turned inquiry.fetch after).sent = inquiry.sent :=
    sent_turned_of_same _ _ (by rw [bus])
  exact {
    searching := found.searching
    passed := found.passed
    pending := found.pending.of_eq _ rfl bus rfl rfl
    heard := found.heard
    stock := by
      cases found.stock with
      | alone ahead said stale => exact .alone ahead (sent.trans said) stale
      | reading ahead said outstanding => exact .reading ahead (sent.trans said) outstanding
      | stocked address words ahead outstanding answered source =>
        exact .stocked address words ahead outstanding answered (by rwa [sent])
    registers := registers.trans found.registers
    stages := stages.trans found.stages
    serviced := serviced.trans found.serviced }

/-- After a search fetch goes on reading ahead. -/
lemma Found.read {first second : List Word} (found : Found start inquiry first second settled)
    (turn : Fetch.Turn inquiry.near inquiry.path inquiry.fetch later after) :
    Stands start (inquiry.turned later after) := by
  have front := found.atHand.pass_eq
  have ended := found.searching
  cases turn with
  | received address answer reading asked came =>
    have pending := found.pending
    rw [openReads, asked, Option.map_some, Option.toList_some, Option.toList_none,
      ← List.nil_append (_ ++ _), List.singleton_append] at pending
    rw [front]
    obtain ⟨words, rfl, fewer⟩ := pending.taken (by simp) came
      (inquiry.turned
        { inquiry.fetch with
          outstanding := none
          ahead := inquiry.fetch.ahead ++ Fetch.block address answer.payload }
        (inquiry.path.clear inquiry.near)) rfl rfl rfl rfl
    refine .found first second _ ⟨ended, found.passed, fewer, ?_, ?_, found.registers, found.stages,
      found.serviced⟩
    · rw [vectors_append_block]
      exact found.heard
    · have sent := sent_turned_of_same
        { inquiry.fetch with
          outstanding := none
          ahead := inquiry.fetch.ahead ++ Fetch.block address words }
        (inquiry.path.clear inquiry.near) inquiry.carried?_clear_near
      cases found.stock with
      | alone ahead said stale =>
        have older := stale.resolve_left (by simp [asked])
        refine .stocked address words ?_ rfl (by simp)
          (Or.inl ⟨sent.trans said, by rw [← older, asked]⟩)
        exact congrArg (· ++ Fetch.block address words) ahead
      | reading ahead said outstanding =>
        obtain rfl := Option.some.inj (asked.symm.trans outstanding)
        refine .stocked _ words ?_ rfl (by simp) (Or.inr ⟨sent.trans said, rfl⟩)
        exact congrArg (· ++ Fetch.block _ words) ahead
      | stocked _ _ _ outstanding => simp [asked] at outstanding
  | awaited address reading asked missing =>
    rw [front]
    exact .found first second settled (found.of_same rfl rfl rfl rfl)
  | asked address bus reading free wanted said =>
    rw [front] at wanted ⊢
    obtain ⟨rfl, ahead, sent⟩ := found.wanted free wanted
    have more := sent_turned_of_send?
      { inquiry.fetch with outstanding := some (start.path.registers.ip + 2) }
      ({ inquiry.path with bus := bus }.record .fetchRequests) said rfl
    have pending := found.pending
    rw [free] at pending
    exact .found first second settled
      ⟨ended, found.passed, pending.send said _ rfl rfl rfl rfl, found.heard,
        .reading ahead (more.trans (by rw [sent]; rfl)) rfl, found.registers, found.stages,
        found.serviced⟩
  | refused =>
    rw [front]
    exact .found first second settled (found.of_same rfl rfl rfl rfl)
  | satisfied =>
    rw [front]
    exact .found first second settled (found.of_same rfl rfl rfl rfl)
  | searched _ _ _ searching | dropped _ _ _ _ _ searching =>
    rw [ended] at searching
    contradiction

/-- **A turn of fetch takes a search on**, or reading ahead after it. -/
lemma Stands.turn (stands : Stands start inquiry) : Stands start (inquiry.step .turn) := by
  have turn := Fetch.turn_tick inquiry.fetch inquiry.near inquiry.path
  rw [step_turn]
  generalize (inquiry.fetch.tick inquiry.near inquiry.path).1 = later at turn ⊢
  generalize (inquiry.fetch.tick inquiry.near inquiry.path).2 = after at turn ⊢
  cases stands with
  | found first second settled found => exact found.read turn
  | searching phase settled searches =>
    have here := searches.searching
    cases turn with
    | received _ _ reading | awaited _ reading | asked _ _ reading | refused _ reading
    | satisfied reading =>
      rw [reading] at here
      contradiction
    | searched other _ _ same fresh step =>
      obtain rfl : phase = other := Option.some.inj (here.symm.trans same)
      exact searches.search fresh step
    | dropped other address answer _ _ same asked came step =>
      obtain rfl : phase = other := Option.some.inj (here.symm.trans same)
      obtain ⟨words, -, dropped⟩ := searches.drop asked came
      have next := dropped.search (fun _ none => by contradiction) step
      rw [turned] at next ⊢
      simpa [Datapath.clear, inquiry.carried?_clear_near] using next

/-! ## Runs -/

/-- Between its turns fetch and the units of its core rest. -/
lemma step_frame (inquiry : Inquiry) {action : InquiryAction} (other : action ≠ .turn) :
    (inquiry.step action).fetch = inquiry.fetch ∧ (inquiry.step action).sent = inquiry.sent
      ∧ (inquiry.step action).path.registers = inquiry.path.registers
      ∧ (inquiry.step action).path.stages = inquiry.path.stages
      ∧ (inquiry.step action).path.counters = inquiry.path.counters := by
  obtain ⟨bus, inbox, told, same⟩ := inquiry.exists_step_eq other
  rw [same]
  exact ⟨rfl, rfl, rfl, rfl, rfl⟩

lemma Stock.of_same {jump : Fetched} {asked : List Message} {later : Inquiry}
    {log : List (Message × List Word)} (stock : Stock start inquiry settled jump asked)
    (fetch : later.fetch = inquiry.fetch) (sent : later.sent = inquiry.sent)
    (more : settled ⊆ log) : Stock start later log jump asked := by
  cases stock with
  | alone ahead said stale => exact .alone (by rwa [fetch]) (by rwa [sent]) (by rwa [fetch])
  | reading ahead said outstanding =>
    exact .reading (by rwa [fetch]) (by rwa [sent]) (by rwa [fetch])
  | stocked address words ahead outstanding answered source =>
    exact .stocked address words (by rwa [fetch]) (by rwa [fetch]) (more answered) (by rwa [sent])

lemma Stands.step (stands : Stands start inquiry) (action : InquiryAction) :
    Stands start (inquiry.step action) := by
  by_cases turn : action = .turn
  · rw [turn]
    exact stands.turn
  · obtain ⟨fetch, sent, registers, stages, counters⟩ := inquiry.step_frame turn
    cases stands with
    | searching phase settled searches =>
      exact .searching phase settled {
        searching := by rw [fetch, searches.searching]
        ahead := by rw [fetch, searches.ahead]
        passed := by rw [fetch, searches.passed]
        stale := by
          rw [fetch]
          exact searches.stale
        pending := by
          rw [fetch]
          exact searches.pending.step turn
        heard := searches.heard
        sent := sent.trans searches.sent
        registers := registers.trans searches.registers
        stages := stages.trans searches.stages
        serviced := by rw [counters, searches.serviced] }
    | found first second settled found =>
      exact .found first second settled {
        searching := by rw [fetch, found.searching]
        passed := by rw [fetch, found.passed]
        pending := by
          rw [fetch]
          exact found.pending.step turn
        heard := found.heard
        stock := found.stock.of_same fetch sent (List.Subset.refl _)
        registers := registers.trans found.registers
        stages := stages.trans found.stages
        serviced := by rw [counters, found.serviced] }

lemma Stands.run (stands : Stands start inquiry) (actions : List InquiryAction) :
    Stands start (inquiry.run actions) := by
  induction actions generalizing inquiry with
  | nil => exact stands
  | cons action actions ih => exact ih (stands.step action)

/-- At the beginning of a search at most a block is on its way. -/
lemma stands_beginSearch (reads : start.Pending (openReads start.fetch.outstanding none) []) :
    Stands start start.beginSearch :=
  .searching .askId []
    ⟨rfl, rfl, rfl, Or.inr rfl, reads.of_eq _ rfl rfl rfl rfl, rfl, rfl, rfl, rfl, rfl⟩

/-! ## The main result -/

/-- What the record says has been answered, beyond what fetch has taken. -/
lemma Pending.told_eq (pending : inquiry.Pending questions settled) :
    inquiry.told = settled
      ∨ ∃ question ∈ questions, ∃ words, inquiry.told = settled ++ [(question, words)] := by
  cases pending with
  | asked _ _ record => exact Or.inl record
  | answered index question words here _ _ _ record =>
    exact Or.inr ⟨question, List.mem_of_getElem? here, words, record⟩

lemma Pending.prefix_told (pending : inquiry.Pending questions settled) :
    settled <+: inquiry.told := by
  rcases pending.told_eq with same | ⟨question, _, words, more⟩
  · exact same ▸ List.prefix_rfl
  · exact more ▸ List.prefix_append _ _

lemma Found.vectors_told {first second : List Word}
    (found : Found start inquiry first second settled) :
    vectors inquiry.told
      = [(Fetch.readId, first), (Fetch.readHandler (first.headD 0), second)] := by
  rw [← found.heard]
  rcases found.pending.told_eq with same | ⟨question, among, words, more⟩
  · rw [same]
  · rw [openReads, Option.toList_none, List.append_nil, Option.mem_toList] at among
    obtain ⟨address, -, rfl⟩ := Option.map_eq_some_iff.mp among
    rw [more, vectors_append_block]

/-- The turn that ends a search takes the answer to its second read, and sends nothing. -/
lemma Searching.last {phase : HandlerSearch} (searches : Searching start inquiry phase settled)
    (ended : (inquiry.step .turn).fetch.searching = none) :
    (∃ entry, (inquiry.step .turn).fetch.ahead = [entry])
      ∧ (∃ id, phase = .awaitHandler id)
      ∧ (inquiry.step .turn).sent = inquiry.sent := by
  have turn := Fetch.turn_tick inquiry.fetch inquiry.near inquiry.path
  have here := searches.searching
  rw [step_turn] at ended ⊢
  generalize (inquiry.fetch.tick inquiry.near inquiry.path).1 = later at turn ended ⊢
  generalize (inquiry.fetch.tick inquiry.near inquiry.path).2 = after at turn ended ⊢
  change later.searching = none at ended
  cases turn with
  | received _ _ reading | awaited _ reading | asked _ _ reading | refused _ reading
  | satisfied reading =>
    rw [reading] at here
    contradiction
  | searched other _ _ same fresh step =>
    obtain rfl : phase = other := Option.some.inj (here.symm.trans same)
    cases step with
    | askedId | gotId | askedHandler => simp at ended
    | gotHandler id answer came =>
      refine ⟨⟨⟨inquiry.path.registers.ip, (Assembler.jump answer.value).encode⟩, ?_⟩, ⟨id, rfl⟩,
        sent_turned_of_same _ _ inquiry.carried?_clear_near⟩
      exact congrArg (· ++ _) searches.ahead
    | waited => simp [here] at ended
  | dropped other address answer _ _ same asked came step =>
    cases step with
    | askedId | gotId | askedHandler => simp at ended
    | gotHandler id answer late =>
      have waiting := (Interconnect.answer?_eq_some late).1
      simp [Datapath.clear] at waiting
    | waited =>
      change inquiry.fetch.searching = none at ended
      rw [here] at ended
      contradiction

/-- The turn that drops the answer to an older block does nothing else but send a read. -/
lemma Searching.dropped {phase : HandlerSearch} (searches : Searching start inquiry phase settled)
    {address : Word} {answer : Message} (asked : inquiry.fetch.outstanding = some address)
    (came : inquiry.path.bus.answer? inquiry.near address = some answer) :
    (inquiry.step .turn).fetch.outstanding = none
      ∧ (inquiry.step .turn).path.bus.message? inquiry.near = none
      ∧ (inquiry.step .turn).fetch.line = []
      ∧ (inquiry.step .turn).fetch.searching ≠ none := by
  have turn := Fetch.turn_tick inquiry.fetch inquiry.near inquiry.path
  have here := searches.searching
  have line : inquiry.fetch.line = [] := by simp [Fetch.line, searches.ahead, searches.passed]
  have quiet : (inquiry.path.bus.clear inquiry.near).message? inquiry.near = none :=
    Interconnect.message?_clear
  rw [step_turn]
  generalize (inquiry.fetch.tick inquiry.near inquiry.path).1 = later at turn ⊢
  generalize (inquiry.fetch.tick inquiry.near inquiry.path).2 = after at turn ⊢
  cases turn with
  | received _ _ reading | awaited _ reading | asked _ _ reading | refused _ reading
  | satisfied reading =>
    rw [reading] at here
    contradiction
  | searched other _ _ same fresh step =>
    rw [fresh address asked] at came
    contradiction
  | dropped other _ _ _ _ same _ _ step =>
    cases step with
    | askedId bus sent | askedHandler id bus sent =>
      refine ⟨rfl, ?_, line, by simp [turned]⟩
      exact (Interconnect.message?_of_send? sent).trans quiet
    | gotId answer late | gotHandler id answer late =>
      have waiting := (Interconnect.answer?_eq_some late).1
      exact absurd waiting (by simp [Datapath.clear])
    | waited => exact ⟨rfl, quiet, line, by simp [turned, here]⟩

/-- What has come of a search that began in `start`. -/
structure FindsHandler (start inquiry : Inquiry) : Prop where
  /-- Until its end no instruction is at hand, no stage has been asked for, and fetch has sent the
  reads of the phases so far and nothing else. -/
  during : ∀ phase, inquiry.fetch.searching = some phase →
    inquiry.fetch.line = [] ∧ inquiry.sent = phase.asked
      ∧ inquiry.path.stages = start.path.stages
      ∧ inquiry.path.counters.interruptsServiced = start.path.counters.interruptsServiced
  /-- The interrupt is the first word of the answer to the first read. -/
  interrupt : ∀ phase id, inquiry.fetch.searching = some phase → phase.id? = some id →
    ∃ words, [(Fetch.readId, words)] <+: vectors inquiry.told ∧ id = words.headD 0
  /-- By the turn that ends the search nothing has been sent but its two reads.  That turn supplies
  the jump to the first word of the answer to the second read, asks for dispatch and counts one
  interrupt. -/
  ends : inquiry.fetch.searching ≠ none → (inquiry.step .turn).fetch.searching = none →
    ∃ first second,
      vectors inquiry.told
          = [(Fetch.readId, first), (Fetch.readHandler (first.headD 0), second)]
        ∧ (inquiry.step .turn).sent = [Fetch.readId, Fetch.readHandler (first.headD 0)]
        ∧ (inquiry.step .turn).fetch.ahead
          = [⟨start.path.registers.ip, (Assembler.jump (second.headD 0)).encode⟩]
        ∧ (inquiry.step .turn).fetch.passed = []
        ∧ (inquiry.step .turn).path.stages = start.path.stages.request .dispatch
        ∧ (inquiry.step .turn).path.counters.interruptsServiced
          = saturatingSucc start.path.counters.interruptsServiced
  /-- The answer to an older block is dropped in the turn in which it waits, and that turn neither
  takes another answer nor ends the search. -/
  discards : ∀ phase address answer, inquiry.fetch.searching = some phase →
    inquiry.fetch.outstanding = some address →
    inquiry.path.bus.answer? inquiry.near address = some answer →
    (∃ words, (Fetch.readBlock address, words) ∈ inquiry.told
        ∧ answer = Message.response address words)
      ∧ (inquiry.step .turn).fetch.outstanding = none
      ∧ (inquiry.step .turn).path.bus.message? inquiry.near = none
      ∧ (inquiry.step .turn).fetch.line = []
      ∧ (inquiry.step .turn).fetch.searching ≠ none
  /-- After the search the jump is the first of the instructions at hand.  The only others are those
  of a block, with its own addresses and the words of its own answer. -/
  after : inquiry.fetch.searching = none → ∃ first second,
    vectors inquiry.told
        = [(Fetch.readId, first), (Fetch.readHandler (first.headD 0), second)]
      ∧ inquiry.fetch.passed = []
      ∧ Stock start inquiry inquiry.told
        ⟨start.path.registers.ip, (Assembler.jump (second.headD 0)).encode⟩
        [Fetch.readId, Fetch.readHandler (first.headD 0)]
      ∧ inquiry.path.stages = start.path.stages.request .dispatch
      ∧ inquiry.path.counters.interruptsServiced
        = saturatingSucc start.path.counters.interruptsServiced

lemma Stands.findsHandler (stands : Stands start inquiry) : FindsHandler start inquiry where
  during phase here := by
    cases stands with
    | found first second settled found => simp [found.searching] at here
    | searching phase' settled searches =>
      obtain rfl : phase' = phase := Option.some.inj (searches.searching.symm.trans here)
      exact ⟨by simp [Fetch.line, searches.ahead, searches.passed], searches.sent, searches.stages,
        searches.serviced⟩
  interrupt phase id here known := by
    cases stands with
    | found first second settled found => simp [found.searching] at here
    | searching phase' settled searches =>
      obtain rfl : phase' = phase := Option.some.inj (searches.searching.symm.trans here)
      have heard := searches.heard
      rw [Heard, known] at heard
      obtain ⟨words, once, first⟩ := heard
      exact ⟨words, once ▸ searches.pending.prefix_told.filter _, first⟩
  ends here ended := by
    have next := stands.turn
    cases stands with
    | found first second settled found => exact absurd found.searching here
    | searching phase settled searches =>
      obtain ⟨⟨entry, single⟩, ⟨id, rfl⟩, sent⟩ := searches.last ended
      cases next with
      | searching phase' _ searches' => simp [searches'.searching] at ended
      | found first second settled' found =>
        have told : vectors inquiry.told
            = [(Fetch.readId, first), (Fetch.readHandler (first.headD 0), second)] :=
          found.vectors_told
        -- the first of the two answers is the one that the search has had all along
        obtain ⟨words, once, rfl⟩ := searches.heard
        have begins := searches.pending.prefix_told.filter fun entry => entry.1.count = 1
        change vectors settled <+: vectors inquiry.told at begins
        rw [once, told, List.cons_prefix_cons] at begins
        obtain rfl : words = first := congrArg Prod.snd begins.1
        have asked := sent.trans searches.sent
        refine ⟨words, second, told, asked, ?_, found.passed, found.stages, found.serviced⟩
        cases found.stock with
        | alone ahead => exact ahead
        | reading ahead said => exact ahead
        | stocked _ _ ahead => simp [single, Fetch.block] at ahead
  discards phase address answer here asked came := by
    cases stands with
    | found first second settled found => simp [found.searching] at here
    | searching phase' settled searches =>
      obtain ⟨words, said, dropped⟩ := searches.drop asked came
      refine ⟨⟨words, dropped.pending.prefix_told.subset (by simp), said⟩, ?_⟩
      exact searches.dropped asked came
  after ended := by
    cases stands with
    | searching phase settled searches => simp [searches.searching] at ended
    | found first second settled found =>
      exact ⟨first, second, found.vectors_told, found.passed,
        found.stock.of_same rfl rfl found.pending.prefix_told.subset, found.stages,
        found.serviced⟩

/-- **Whatever answers come late, a search finds the handler.**  Before it begins, at most the read
of a block is open. -/
theorem findsHandler_run (reads : start.Pending (openReads start.fetch.outstanding none) [])
    (actions : List InquiryAction) : FindsHandler start (start.beginSearch.run actions) :=
  ((stands_beginSearch reads).run actions).findsHandler

/-- Fetch has asked for the block at the very address under which the latest interrupt is asked
for. -/
def blockAtId : Inquiry where
  near := ⟨0⟩
  fetch := { outstanding := some AddressMap.lastInterrupt }
  path := ⟨RegisterFile.reset 600, {}, {}, (Interconnect.empty.link 1 10).1⟩
  inbox := [Fetch.readBlock AddressMap.lastInterrupt]

/-- The block comes after the first read has been sent, and is dropped. -/
theorem findsHandler_blockAtId :
    let ticks := List.replicate 10 InquiryAction.tick
    let late := blockAtId.beginSearch.run
      ([.turn] ++ ticks ++ [.take, .answer 0 [9, 9, 9, 9, 9, 9, 9, 9]] ++ ticks ++ [.turn]
        ++ [.answer 0 [33]] ++ ticks ++ [.turn, .turn] ++ ticks ++ [.take, .answer 0 [4000]]
        ++ ticks ++ [.turn])
    FindsHandler blockAtId late
      ∧ late.sent = [Message.read 256 1, Message.read 33 1]
      ∧ late.fetch = { ahead := [⟨600, (Assembler.jump 4000).encode⟩] } :=
  ⟨findsHandler_run (.asked rfl rfl rfl) _, by decide +kernel, by decide +kernel⟩

end Inquiry

end PipelinedMachine
