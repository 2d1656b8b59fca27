import Mathlib.Data.List.TakeWhile
import Mathlib.Tactic.Common
import PipelinedMachine.Core.Fetch
import PipelinedMachine.Proofs.Link.Contents

/-!
# A turn of fetch

Fetch has its turn in every tick of a core, whatever the stage.  This file lists once what such a
turn can do, so that nothing later has to look inside `Fetch.tick`.

* `Fetch.SearchTurn` — the steps of the search for a handler;
* `Fetch.Turn` — the steps of reading ahead, and a step of the search after a stale answer has been
  dropped;
* `Fetch.turn_tick` — the list is complete;
* `Fetch.Turn.registers_eq`, `Fetch.Turn.stages_eq` — a turn leaves the registers alone, and asks
  for a stage only at the end of a search;
* `Fetch.Forgotten` — no instructions are at hand while a handler is looked for.
-/

namespace PipelinedMachine

namespace Fetch

/-! ## Passing instructions -/

@[simp] lemma outstanding_pass (fetch : Fetch) (ip : Word) :
    (fetch.pass ip).outstanding = fetch.outstanding := by
  rw [pass]
  split
  · rfl
  · split <;> rfl

@[simp] lemma searching_pass (fetch : Fetch) (ip : Word) :
    (fetch.pass ip).searching = fetch.searching := by
  rw [pass]
  split
  · rfl
  · split <;> rfl

/-- Passing changes nothing, or it moves what stands in front of `ip`, which was not passed yet. -/
lemma pass_cases (fetch : Fetch) (ip : Word) :
    fetch.pass ip = fetch
      ∧ ((fetch.ahead.takeWhile fun entry => entry.address ≠ ip) = []
        ∨ ∃ entry ∈ fetch.passed, entry.address = ip)
    ∨ (∀ entry ∈ fetch.passed, entry.address ≠ ip)
      ∧ fetch.pass ip
        = { fetch with
            ahead := fetch.ahead.dropWhile fun entry => entry.address ≠ ip
            passed := keepNewest passedLimit
              (fetch.passed ++ fetch.ahead.takeWhile fun entry => entry.address ≠ ip) } := by
  rw [pass]
  split
  case h_1 none => exact Or.inl ⟨rfl, Or.inl none⟩
  case h_2 =>
    split
    case isTrue again => exact Or.inl ⟨rfl, Or.inr (by simpa using again)⟩
    case isFalse new => exact Or.inr ⟨by simpa using new, rfl⟩

/-- Every instruction at hand, oldest first. -/
def line (fetch : Fetch) : List Fetched := fetch.passed ++ fetch.ahead

lemma exists_line_pass (fetch : Fetch) (ip : Word) :
    ∃ n, (fetch.pass ip).line = fetch.line.drop n := by
  rcases fetch.pass_cases ip with ⟨same, _⟩ | ⟨_, moved⟩
  · exact ⟨0, by rw [same, List.drop_zero]⟩
  · refine ⟨(fetch.passed ++ fetch.ahead.takeWhile fun entry => entry.address ≠ ip).length
      - passedLimit, ?_⟩
    have split : fetch.line
        = (fetch.passed ++ fetch.ahead.takeWhile fun entry => entry.address ≠ ip)
          ++ fetch.ahead.dropWhile fun entry => entry.address ≠ ip := by
      rw [line, List.append_assoc, List.takeWhile_append_dropWhile]
    rw [split, List.drop_append_of_le_length (by omega), moved]
    rfl

/-! ## Looking an instruction up -/

/-- What is found at an address is an instruction at hand with that address. -/
lemma mem_of_find? {fetch : Fetch} {ip : Word} {entry : Fetched}
    (found : fetch.find? ip = some entry) :
    entry.address = ip ∧ (entry ∈ fetch.ahead ∨ entry ∈ fetch.passed) := by
  rw [find?] at found
  split at found
  case h_1 other ahead =>
    rw [Option.some.injEq] at found
    subst found
    exact ⟨by simpa using List.find?_some ahead, Or.inl (List.mem_of_find?_eq_some ahead)⟩
  case h_2 =>
    exact ⟨by simpa using List.find?_some found, Or.inr (List.mem_of_find?_eq_some found)⟩

lemma mem_line_of_find? {fetch : Fetch} {ip : Word} {entry : Fetched}
    (found : fetch.find? ip = some entry) : entry ∈ fetch.line := by
  rw [line, List.mem_append]
  exact (mem_of_find? found).2.symm

lemma find?_ne_none_iff {fetch : Fetch} {ip : Word} :
    fetch.find? ip ≠ none ↔ ∃ entry ∈ fetch.line, entry.address = ip := by
  constructor
  · intro found
    obtain ⟨entry, found⟩ := Option.ne_none_iff_exists'.mp found
    exact ⟨entry, mem_line_of_find? found, (mem_of_find? found).1⟩
  · rintro ⟨entry, member, address⟩ missing
    rw [find?] at missing
    split at missing
    · contradiction
    · next ahead =>
      rw [line, List.mem_append] at member
      rcases member with member | member
      · simpa [address] using List.find?_eq_none.mp missing entry member
      · simpa [address] using List.find?_eq_none.mp ahead entry member

/-- The instruction at `ip` is at hand, with more to come after it. -/
def Supplied (fetch : Fetch) (ip : Word) : Prop :=
  fetch.ahead ≠ [] ∧ ∃ entry ∈ fetch.line, entry.address = ip

/-- The instruction at `ip` is at hand, and everything in front of it has been passed. -/
def AtHand (fetch : Fetch) (ip : Word) : Prop :=
  (fetch.ahead.head?.map Fetched.address = some ip) ∨
    fetch.ahead ≠ [] ∧ ∃ entry ∈ fetch.passed, entry.address = ip

/-- Nothing ahead means that the instruction at `ip` is not at hand. -/
def Exhausted (fetch : Fetch) (ip : Word) : Prop :=
  fetch.ahead = [] → ∀ entry ∈ fetch.passed, entry.address ≠ ip

lemma AtHand.supplied {fetch : Fetch} {ip : Word} (here : fetch.AtHand ip) :
    fetch.Supplied ip := by
  rcases here with front | ⟨more, entry, member, address⟩
  · cases ahead : fetch.ahead with
    | nil => simp [ahead] at front
    | cons entry rest =>
      rw [ahead, List.head?_cons, Option.map_some, Option.some.injEq] at front
      exact ⟨by simp [ahead], entry, by simp [line, ahead], front⟩
  · exact ⟨more, entry, by simp [line, member], address⟩

lemma AtHand.pass_eq {fetch : Fetch} {ip : Word} (here : fetch.AtHand ip) :
    fetch.pass ip = fetch := by
  rcases fetch.pass_cases ip with ⟨same, _⟩ | ⟨new, moved⟩
  · exact same
  · rcases here with front | ⟨_, entry, member, address⟩
    · cases ahead : fetch.ahead with
      | nil => simp [ahead] at front
      | cons entry rest =>
        rw [ahead, List.head?_cons, Option.map_some, Option.some.injEq] at front
        simp [pass, ahead, front]
    · exact absurd address (new entry member)

lemma AtHand.append {fetch : Fetch} {ip : Word} (here : fetch.AtHand ip)
    (outstanding : Option Word) (entries : List Fetched) :
    ({ fetch with outstanding := outstanding, ahead := fetch.ahead ++ entries } : Fetch).AtHand
      ip := by
  rcases here with front | ⟨more, passed⟩
  · refine Or.inl ?_
    cases ahead : fetch.ahead with
    | nil => simp [ahead] at front
    | cons entry rest => simpa [ahead] using front
  · exact Or.inr ⟨by simp [more], passed⟩

/-- Passing brings the instruction to the front, unless it was passed before. -/
lemma Supplied.pass {fetch : Fetch} {ip : Word} (supplied : fetch.Supplied ip) :
    (fetch.pass ip).AtHand ip := by
  obtain ⟨more, entry, member, address⟩ := supplied
  rcases fetch.pass_cases ip with ⟨same, front | ⟨other, passed, again⟩⟩ | ⟨new, moved⟩
  · rw [same]
    cases ahead : fetch.ahead with
    | nil => exact absurd ahead more
    | cons first rest =>
      refine Or.inl ?_
      by_contra away
      have apart : first.address ≠ ip := by simpa [ahead] using away
      simp [ahead, apart] at front
  · rw [same]
    exact Or.inr ⟨more, other, passed, again⟩
  · rw [line, List.mem_append] at member
    have ahead : entry ∈ fetch.ahead :=
      member.resolve_left fun passed => new entry passed address
    rw [moved]
    refine Or.inl ?_
    cases rest : fetch.ahead.dropWhile fun entry => entry.address ≠ ip with
    | nil =>
      rw [List.dropWhile_eq_nil_iff] at rest
      simpa [address] using rest entry ahead
    | cons first others =>
      have front := List.head?_dropWhile_not (fun entry : Fetched => entry.address ≠ ip)
        fetch.ahead
      simp only [rest, List.head?_cons] at front
      simpa using front

lemma Exhausted.pass {fetch : Fetch} {ip : Word} (exhausted : fetch.Exhausted ip) :
    (fetch.pass ip).Exhausted ip := by
  rcases fetch.pass_cases ip with ⟨same, _⟩ | ⟨new, moved⟩
  · rwa [same]
  · rw [moved]
    intro _ entry member
    have member := List.mem_of_mem_drop member
    rw [List.mem_append] at member
    rcases member with passed | skipped
    · exact new entry passed
    · simpa using List.mem_takeWhile_imp skipped

/-- With the instruction at hand and enough ahead, nothing is to be asked for. -/
lemma wanted?_eq_none {fetch : Fetch} {ip : Word} (supplied : fetch.Supplied ip)
    (enough : depth ≤ fetch.ahead.length) : fetch.wanted? ip = none := by
  rw [wanted?]
  split
  case h_1 missing => exact absurd missing (find?_ne_none_iff.mpr supplied.2)
  case h_2 => rw [if_neg (by omega)]

lemma length_block (address : Word) (words : List Word) : (block address words).length = 4 := rfl

/-! ## What a turn can do -/

/-- Everything that a step of the search can do. -/
inductive SearchTurn (terminal : Terminal) (path : Datapath) (fetch : Fetch) :
    HandlerSearch → Fetch → Datapath → Prop where
  | askedId (bus : Interconnect)
      (sent : path.bus.send? terminal (Message.read AddressMap.lastInterrupt 1) = some bus) :
      SearchTurn terminal path fetch .askId { fetch with searching := some .awaitId }
        { path with bus := bus }
  | gotId (answer : Message)
      (came : path.bus.answer? terminal AddressMap.lastInterrupt = some answer) :
      SearchTurn terminal path fetch .awaitId
        { fetch with searching := some (.askHandler answer.value) } (path.clear terminal)
  | askedHandler (id : Word) (bus : Interconnect)
      (sent : path.bus.send? terminal (Message.read (AddressMap.vectorStart + id) 1) = some bus) :
      SearchTurn terminal path fetch (.askHandler id)
        { fetch with searching := some (.awaitHandler id) } { path with bus := bus }
  | gotHandler (id : Word) (answer : Message)
      (came : path.bus.answer? terminal (AddressMap.vectorStart + id) = some answer) :
      SearchTurn terminal path fetch (.awaitHandler id)
        { fetch with
          ahead := fetch.ahead ++
            [⟨path.registers.ip, (Assembler.jump answer.value).encode⟩]
          searching := none }
        (((path.clear terminal).request .dispatch).record .interruptsServiced)
  /-- The link has not taken the question yet, or the answer has not come. -/
  | waited (phase : HandlerSearch) :
      SearchTurn terminal path fetch phase fetch (path.record .interruptWaits)

/-- Everything that a turn of fetch can do. -/
inductive Turn (terminal : Terminal) (path : Datapath) (fetch : Fetch) : Fetch → Datapath → Prop
    where
  | received (address : Word) (answer : Message) (reading : fetch.searching = none)
      (asked : fetch.outstanding = some address)
      (came : path.bus.answer? terminal address = some answer) :
      Turn terminal path fetch
        { fetch.pass path.registers.ip with
          outstanding := none
          ahead := (fetch.pass path.registers.ip).ahead ++ block address answer.payload }
        (path.clear terminal)
  | awaited (address : Word) (reading : fetch.searching = none)
      (asked : fetch.outstanding = some address)
      (missing : path.bus.answer? terminal address = none) :
      Turn terminal path fetch (fetch.pass path.registers.ip) (path.record .fetchWaits)
  | asked (address : Word) (bus : Interconnect) (reading : fetch.searching = none)
      (free : fetch.outstanding = none)
      (wanted : (fetch.pass path.registers.ip).wanted? path.registers.ip = some address)
      (sent : path.bus.send? terminal (Message.read address blockWords) = some bus) :
      Turn terminal path fetch
        { fetch.pass path.registers.ip with outstanding := some address }
        ({ path with bus := bus }.record .fetchRequests)
  | refused (address : Word) (reading : fetch.searching = none)
      (free : fetch.outstanding = none)
      (wanted : (fetch.pass path.registers.ip).wanted? path.registers.ip = some address)
      (unsent : path.bus.send? terminal (Message.read address blockWords) = none) :
      Turn terminal path fetch (fetch.pass path.registers.ip) (path.record .fetchWaits)
  | satisfied (reading : fetch.searching = none) (free : fetch.outstanding = none)
      (unwanted : (fetch.pass path.registers.ip).wanted? path.registers.ip = none) :
      Turn terminal path fetch (fetch.pass path.registers.ip) path
  | searched (phase : HandlerSearch) (fetch' : Fetch) (path' : Datapath)
      (searching : fetch.searching = some phase)
      (fresh : ∀ address, fetch.outstanding = some address →
        path.bus.answer? terminal address = none)
      (step : SearchTurn terminal path fetch phase fetch' path') :
      Turn terminal path fetch fetch' path'
  /-- The answer that came was to a block asked for before the search, and is dropped. -/
  | dropped (phase : HandlerSearch) (address : Word) (answer : Message) (fetch' : Fetch)
      (path' : Datapath) (searching : fetch.searching = some phase)
      (asked : fetch.outstanding = some address)
      (came : path.bus.answer? terminal address = some answer)
      (step : SearchTurn terminal (path.clear terminal) { fetch with outstanding := none } phase
        fetch' path') :
      Turn terminal path fetch fetch' path'

/-! ## The list is complete -/

lemma searchTurn_search (fetch : Fetch) (terminal : Terminal) (phase : HandlerSearch)
    (path : Datapath) :
    SearchTurn terminal path fetch phase (fetch.search terminal phase path).1
      (fetch.search terminal phase path).2 := by
  cases phase with
  | askId =>
    simp only [search, askVector]
    cases sent : path.bus.send? terminal (Message.read AddressMap.lastInterrupt 1) with
    | some bus => exact .askedId bus sent
    | none => exact .waited _
  | awaitId =>
    simp only [search]
    cases came : path.bus.answer? terminal AddressMap.lastInterrupt with
    | some answer => exact .gotId answer came
    | none => exact .waited _
  | askHandler id =>
    simp only [search, askVector]
    cases sent : path.bus.send? terminal (Message.read (AddressMap.vectorStart + id) 1) with
    | some bus => exact .askedHandler id bus sent
    | none => exact .waited _
  | awaitHandler id =>
    simp only [search]
    cases came : path.bus.answer? terminal (AddressMap.vectorStart + id) with
    | some answer => exact .gotHandler id answer came
    | none => exact .waited _

lemma turn_readAhead {fetch : Fetch} (reading : fetch.searching = none) (terminal : Terminal)
    (path : Datapath) :
    Turn terminal path fetch (fetch.readAhead terminal path).1
      (fetch.readAhead terminal path).2 := by
  simp only [readAhead, outstanding_pass]
  cases asked : fetch.outstanding with
  | some address =>
    simp only [receive]
    cases came : path.bus.answer? terminal address with
    | some answer => exact .received address answer reading asked came
    | none => exact .awaited address reading asked came
  | none =>
    cases wanted : (fetch.pass path.registers.ip).wanted? path.registers.ip with
    | some address =>
      simp only [ask]
      cases sent : path.bus.send? terminal (Message.read address blockWords) with
      | some bus => exact .asked address bus reading asked wanted sent
      | none => exact .refused address reading asked wanted sent
    | none => exact .satisfied reading asked wanted

/-- A turn of fetch does one of the things listed. -/
lemma turn_tick (fetch : Fetch) (terminal : Terminal) (path : Datapath) :
    Turn terminal path fetch (fetch.tick terminal path).1 (fetch.tick terminal path).2 := by
  cases searching : fetch.searching with
  | none =>
    have reads : fetch.tick terminal path = fetch.readAhead terminal path := by
      simp only [tick, searching]
    rw [reads]
    exact turn_readAhead searching terminal path
  | some phase =>
    have searches : fetch.tick terminal path
        = (fetch.dropStale terminal path).1.search terminal phase
          (fetch.dropStale terminal path).2 := by
      simp only [tick, searching]
    rw [searches]
    cases asked : fetch.outstanding with
    | none =>
      have nothing : fetch.dropStale terminal path = (fetch, path) := by
        simp only [dropStale, asked]
      rw [nothing]
      exact .searched phase _ _ searching (by simp [asked]) (searchTurn_search fetch _ _ _)
    | some address =>
      cases came : path.bus.answer? terminal address with
      | none =>
        have nothing : fetch.dropStale terminal path = (fetch, path) := by
          simp only [dropStale, asked, came]
        rw [nothing]
        refine .searched phase _ _ searching ?_ (searchTurn_search fetch _ _ _)
        intro other same
        rw [asked, Option.some.injEq] at same
        rw [← same, came]
      | some answer =>
        have drops : fetch.dropStale terminal path
            = ({ fetch with outstanding := none }, path.clear terminal) := by
          simp only [dropStale, asked, came]
        rw [drops]
        exact .dropped phase address answer _ _ searching asked came (searchTurn_search _ _ _ _)

/-! ## What a turn leaves alone -/

section Frame

variable {terminal : Terminal} {path after : Datapath} {fetch later : Fetch}

lemma SearchTurn.registers_eq {phase : HandlerSearch}
    (step : SearchTurn terminal path fetch phase later after) :
    after.registers = path.registers := by
  cases step <;> rfl

lemma Turn.registers_eq (turn : Turn terminal path fetch later after) :
    after.registers = path.registers := by
  cases turn with
  | received | awaited | asked | refused | satisfied => rfl
  | searched _ _ _ _ _ step => exact step.registers_eq
  | dropped _ _ _ _ _ _ _ _ step => exact step.registers_eq

lemma SearchTurn.stages_eq {phase : HandlerSearch}
    (step : SearchTurn terminal path fetch phase later after) :
    after.stages = path.stages ∨ after.stages = path.stages.request .dispatch := by
  cases step with
  | askedId | gotId | askedHandler | waited => exact Or.inl rfl
  | gotHandler => exact Or.inr rfl

/-- Only the end of a search asks for a stage, and it asks for dispatch. -/
lemma Turn.stages_eq (turn : Turn terminal path fetch later after)
    (quiet : fetch.searching = none ∨ path.stages.next = .dispatch) :
    after.stages = path.stages := by
  have request (h : path.stages.next = .dispatch) :
      path.stages.request .dispatch = path.stages := by
    rw [StageControl.request, ← h]
  cases turn with
  | received | awaited | asked | refused | satisfied => rfl
  | searched _ _ _ searching _ step =>
    have next := quiet.resolve_left (by simp [searching])
    exact step.stages_eq.elim id fun asked => asked.trans (request next)
  | dropped _ _ _ _ _ searching _ _ step =>
    have next := quiet.resolve_left (by simp [searching])
    exact step.stages_eq.elim id fun asked => asked.trans (request next)

lemma Turn.searching_eq_none (turn : Turn terminal path fetch later after)
    (reading : fetch.searching = none) : later.searching = none := by
  cases turn with
  | received | awaited | asked | refused | satisfied => simpa using reading
  | searched _ _ _ searching | dropped _ _ _ _ _ searching =>
    rw [reading] at searching
    contradiction

/-! ## What a turn keeps at hand -/

lemma SearchTurn.exhausted {phase : HandlerSearch} {ip : Word}
    (step : SearchTurn terminal path fetch phase later after) (exhausted : fetch.Exhausted ip) :
    later.Exhausted ip := by
  cases step with
  | askedId | gotId | askedHandler | waited => exact exhausted
  | gotHandler => exact fun nothing => absurd nothing (by simp)

lemma Turn.exhausted (turn : Turn terminal path fetch later after)
    (exhausted : fetch.Exhausted path.registers.ip) : later.Exhausted path.registers.ip := by
  cases turn with
  | received address answer =>
    intro nothing
    have lengths := congrArg List.length nothing
    rw [List.length_append, length_block, List.length_nil] at lengths
    omega
  | awaited | asked | refused | satisfied => exact exhausted.pass
  | searched _ _ _ _ _ step => exact step.exhausted exhausted
  | dropped _ _ _ _ _ _ _ _ step => exact step.exhausted exhausted

lemma Turn.supplied (turn : Turn terminal path fetch later after)
    (reading : fetch.searching = none) (supplied : fetch.Supplied path.registers.ip) :
    later.Supplied path.registers.ip := by
  have here := supplied.pass
  cases turn with
  | received address answer => exact (here.append none _).supplied
  | awaited | asked | refused | satisfied => exact here.supplied
  | searched _ _ _ searching | dropped _ _ _ _ _ searching =>
    rw [reading] at searching
    contradiction

/-- Fetch has nothing to ask for in its next turn: either it waits for a block, or it has enough. -/
def Content (fetch : Fetch) (ip : Word) : Prop :=
  fetch.outstanding = none → (fetch.pass ip).wanted? ip = none

/-- Fetch asks before the unit in execution does.  So where it is content, or where that unit gets a
message of its own away in the same tick, it is content afterwards. -/
lemma Turn.content (turn : Turn terminal path fetch later after)
    (reading : fetch.searching = none) (supplied : fetch.Supplied path.registers.ip)
    (spared : fetch.Content path.registers.ip
      ∨ ∃ address, (after.bus.send? terminal (Message.read address 1)).isSome) :
    later.Content path.registers.ip := by
  have here := supplied.pass
  cases turn with
  | received address answer =>
    intro _
    have more : (fetch.pass path.registers.ip).ahead ≠ [] := here.supplied.1
    have some : 1 ≤ (fetch.pass path.registers.ip).ahead.length :=
      List.length_pos_iff.mpr more
    have front := here.append none (block address answer.payload)
    rw [front.pass_eq]
    refine wanted?_eq_none front.supplied ?_
    rw [List.length_append, length_block, depth]
    omega
  | awaited address _ asked => exact fun free => absurd free (by simp [asked])
  | asked => exact fun free => absurd free (by simp)
  | refused address reading free wanted unsent =>
    rcases spared with content | ⟨other, sent⟩
    · exact absurd (content free) (by simp [wanted])
    · -- a read of one word is as long as a read of a block, so the link would have taken both
      obtain ⟨inside, idle, _, fits⟩ := (Interconnect.isSome_send?_iff _ _ _).mp sent
      have taken : (path.bus.send? terminal (Message.read address blockWords)).isSome :=
        (Interconnect.isSome_send?_iff _ _ _).mpr ⟨inside, idle, by simp [Message.read], fits⟩
      rw [unsent] at taken
      contradiction
  | satisfied reading free unwanted =>
    intro _
    rw [here.pass_eq, unwanted]
  | searched _ _ _ searching | dropped _ _ _ _ _ searching =>
    rw [reading] at searching
    contradiction

/-! ## While a search goes on -/

/-- While a handler is looked for, no instructions are at hand. -/
def Forgotten (fetch : Fetch) : Prop :=
  fetch.searching ≠ none → fetch.ahead = [] ∧ fetch.passed = []

/-- Once an instruction is at hand, no handler is looked for. -/
lemma Forgotten.searching_eq_none (forgotten : fetch.Forgotten) {ip : Word} {entry : Fetched}
    (found : fetch.find? ip = some entry) : fetch.searching = none := by
  by_contra searching
  obtain ⟨ahead, passed⟩ := forgotten searching
  simpa [ahead, passed] using (mem_of_find? found).2

lemma SearchTurn.forgotten {phase : HandlerSearch}
    (step : SearchTurn terminal path fetch phase later after)
    (vacant : fetch.ahead = [] ∧ fetch.passed = []) : later.Forgotten := by
  cases step with
  | askedId | gotId | askedHandler | waited => exact fun _ => vacant
  | gotHandler => exact fun searching => absurd rfl searching

/-- Nothing is fetched until the handler has been found. -/
lemma Turn.forgotten (turn : Turn terminal path fetch later after)
    (forgotten : fetch.Forgotten) : later.Forgotten := by
  cases turn with
  | received _ _ reading | awaited _ reading | asked _ _ reading | refused _ reading
  | satisfied reading =>
    exact fun searching => absurd (by simpa using reading) searching
  | searched _ _ _ searching _ step => exact step.forgotten (forgotten (by simp [searching]))
  | dropped _ _ _ _ _ searching _ _ step =>
    exact step.forgotten (forgotten (by simp [searching]))

/-- A search has nothing at hand until it ends, and then a jump at the instruction pointer. -/
lemma SearchTurn.line_eq {phase : HandlerSearch}
    (step : SearchTurn terminal path fetch phase later after)
    (searching : fetch.searching = some phase)
    (vacant : fetch.ahead = [] ∧ fetch.passed = []) :
    later.searching ≠ none ∧ later.line = []
      ∨ ∃ handler, later.searching = none ∧ later.passed = [] ∧ later.ahead
          = [⟨path.registers.ip, (Assembler.jump handler).encode⟩] := by
  obtain ⟨ahead, passed⟩ := vacant
  cases step with
  | askedId | gotId | askedHandler => exact Or.inl ⟨by simp, by simp [line, ahead, passed]⟩
  | gotHandler id answer => exact Or.inr ⟨answer.value, rfl, passed, by simp [ahead]⟩
  | waited => exact Or.inl ⟨by simp [searching], by simp [line, ahead, passed]⟩

lemma Turn.line_eq_of_search (turn : Turn terminal path fetch later after) {phase : HandlerSearch}
    (searching : fetch.searching = some phase) (forgotten : fetch.Forgotten) :
    later.searching ≠ none ∧ later.line = []
      ∨ ∃ handler, later.searching = none ∧ later.passed = [] ∧ later.ahead
          = [⟨path.registers.ip, (Assembler.jump handler).encode⟩] := by
  have vacant := forgotten (by simp [searching])
  cases turn with
  | searched _ _ _ searching _ step => exact step.line_eq searching vacant
  | dropped _ _ _ _ _ searching _ _ step => exact step.line_eq searching vacant
  | received _ _ reading | awaited _ reading | asked _ _ reading | refused _ reading
  | satisfied reading =>
    rw [reading] at searching
    contradiction

end Frame

end Fetch

end PipelinedMachine
