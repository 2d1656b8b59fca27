import PipelinedMachine.Proofs.Core.Reads

/-!
# How far fetch reads ahead

Fetch reads on from the newest instruction that it has, a block at a time, whatever lies there.  So
where does the instruction pointer have to be before fetch asks for the block at a given address?
At that address, or in the four instructions in front of it, and nowhere else: with the instruction
pointer further back, five instructions or more are still ahead by the time the block in front of
that address has come, and with the instruction pointer beyond it the reading goes on elsewhere.

* `Fetch.approach` — the five addresses;
* `Fetch.KeepsOff` — **the invariant**: the newest instruction ahead is not the last one in front of
  the block, unless enough is ahead;
* `Fetch.KeepsOff.wanted?_ne`, `Fetch.Turn.keepsOff` — fetch does not want the block, and its turns
  keep it so;
* **`Standing.Turn.keepsOff`** — every tick without a fault keeps it so;
* `Standing.Asks`, `Standing.Turn.asks` — what a tick asks for: the block that fetch wants, or
  something for a handler or an instruction;
* **`Standing.Turn.sent_ne`** — no tick, with a fault or without, asks for the block;
* `Core.KeepsOff.tick` — the same for a core, with its interrupt line;
* `Core.Steady.sent_cases` — and whatever a core asks for that is not a block, it asks for an
  instruction that it executes or to find a handler.
-/

namespace PipelinedMachine

open Interconnect

namespace Fetch

/-! ## Addresses -/

/-- The addresses of the four instructions in front of `edge`. -/
def foreland (edge : Word) : List Word := [edge - 8, edge - 6, edge - 4, edge - 2]

/-- Where the instruction pointer stands when fetch comes to ask for the block at `edge`. -/
def approach (edge : Word) : List Word := foreland edge ++ [edge]

/-- The addresses of the instructions ahead. -/
def addresses (fetch : Fetch) : List Word := fetch.ahead.map Fetched.address

variable {edge ip address : Word} {fetch : Fetch} {words : List Word}

lemma length_addresses (fetch : Fetch) : fetch.addresses.length = fetch.ahead.length :=
  List.length_map _

/-- Passing drops addresses until `ip` comes first, or all of them. -/
lemma addresses_pass (fetch : Fetch) (ip : Word) :
    fetch.pass ip = fetch ∨ (fetch.pass ip).addresses <:+ fetch.addresses
      ∧ ((fetch.pass ip).addresses = [] ∨ (fetch.pass ip).addresses.head? = some ip) := by
  rcases fetch.pass_cases ip with ⟨same, -⟩ | ⟨-, moved⟩
  · exact Or.inl same
  · have dropped : (fetch.pass ip).addresses
        = fetch.addresses.dropWhile fun address => address ≠ ip := by
      rw [addresses, addresses, moved, List.dropWhile_map]
      rfl
    rw [dropped]
    refine Or.inr ⟨List.dropWhile_suffix _, ?_⟩
    have front := List.head?_dropWhile_not (fun address : Word => address ≠ ip) fetch.addresses
    cases rest : fetch.addresses.dropWhile fun address => address ≠ ip with
    | nil => exact Or.inl rfl
    | cons first others =>
      rw [rest, List.head?_cons] at front
      exact Or.inr (by simpa using front)

lemma length_foreland (edge : Word) : (foreland edge).length = 4 := rfl

lemma ne_of_away (away : ip ∉ approach edge) : ip ≠ edge :=
  fun same => away (by simp [approach, same])

lemma notMem_foreland (away : ip ∉ approach edge) : ip ∉ foreland edge :=
  fun inside => away (List.mem_append_left _ inside)

lemma map_address_block (address : Word) (words : List Word) :
    (block address words).map Fetched.address
      = [address, address + 2, address + 4, address + 6] := by
  simp [block, AddressMap.instructionWords]

/-- The block that ends in front of `edge`. -/
lemma map_address_block_of_last (last : address + 6 = edge - 2) :
    (block address words).map Fetched.address = foreland edge := by
  obtain rfl : address = edge - 8 := by grind
  rw [map_address_block, foreland]
  simp only [List.cons.injEq, true_and, and_true]
  grind

/-! ## The invariant -/

/-- Something is ahead, and if it ends in front of `edge` it is enough. -/
def Reserved (edge : Word) (fetch : Fetch) : Prop :=
  fetch.ahead ≠ [] ∧ (fetch.addresses.getLast? = some (edge - 2) → depth ≤ fetch.ahead.length)

/-- Fetch does not ask for the block at `edge`. -/
structure KeepsOff (edge : Word) (fetch : Fetch) (ip : Word) : Prop where
  /-- What ends in front of `edge` has come as a block. -/
  whole : fetch.addresses.getLast? = some (edge - 2) → foreland edge <:+ fetch.addresses
  reserved : fetch.find? ip ≠ none → fetch.Reserved edge

namespace KeepsOff

/-- With nothing at hand there is nothing to read on from. -/
lemma of_vacant (ahead : fetch.ahead = []) (passed : fetch.passed = []) :
    fetch.KeepsOff edge ip where
  whole := by simp [addresses, ahead]
  reserved found := absurd (by simp [find?, ahead, passed]) found

/-- While there is enough, it does not matter where the instruction pointer goes. -/
lemma move (off : fetch.KeepsOff edge ip) (found : fetch.find? ip ≠ none) (next : Word) :
    fetch.KeepsOff edge next :=
  ⟨off.whole, fun _ => off.reserved found⟩

lemma supplied (off : fetch.KeepsOff edge ip) (found : fetch.find? ip ≠ none) :
    fetch.Supplied ip :=
  ⟨(off.reserved found).1, find?_ne_none_iff.mp found⟩

/-- The block at `edge` is not the one that fetch wants. -/
lemma wanted?_ne (off : fetch.KeepsOff edge ip) (away : ip ∉ approach edge) :
    fetch.wanted? ip ≠ some edge := by
  rw [wanted?]
  cases found : fetch.find? ip with
  | none => simpa using ne_of_away away
  | some entry =>
    obtain ⟨more, enough⟩ := off.reserved (by simp [found])
    simp only
    split
    · next few =>
      rw [newest?, List.getLast?_eq_getLast_of_ne_nil more]
      intro next
      have next : (fetch.ahead.getLast more).address + 2 = edge := Option.some.inj next
      have last : fetch.addresses.getLast? = some (edge - 2) := by
        rw [addresses, List.getLast?_map, List.getLast?_eq_getLast_of_ne_nil more]
        simp only [Option.map_some, Option.some.injEq]
        grind
      have := enough last
      omega
    · simp

/-- What is ahead once everything in front of `ip` has been passed ends in front of `edge` only with
the whole block, and with more than that. -/
lemma dropWhile (off : fetch.KeepsOff edge ip) (away : ip ∉ approach edge)
    {rest : List Word} (front : rest.head? = some ip) (suffix : rest <:+ fetch.addresses)
    (last : rest.getLast? = some (edge - 2)) : foreland edge <:+ rest ∧ depth ≤ rest.length := by
  have same : fetch.addresses.getLast? = rest.getLast? := by
    obtain ⟨before, whole⟩ := suffix
    rw [← whole, List.getLast?_append, last, Option.some_or]
  have block := off.whole (same.trans last)
  rcases List.suffix_or_suffix_of_suffix block suffix with inside | short
  · refine ⟨inside, ?_⟩
    by_contra few
    have equal : foreland edge = rest :=
      inside.eq_of_length_le (by rw [length_foreland]; rw [depth] at few; omega)
    exact notMem_foreland away (equal ▸ List.mem_of_head? front)
  · exact absurd (short.subset (List.mem_of_head? front)) (notMem_foreland away)

/-- Passing instructions keeps it so. -/
lemma pass (off : fetch.KeepsOff edge ip) (away : ip ∉ approach edge) :
    (fetch.pass ip).KeepsOff edge ip := by
  rcases fetch.addresses_pass ip with same | ⟨suffix, nothing | front⟩
  · rwa [same]
  · refine ⟨by simp [nothing], fun found => ?_⟩
    -- everything has been passed, and nothing of it is at `ip`
    obtain ⟨entry, member, here⟩ := find?_ne_none_iff.mp found
    obtain ⟨n, line⟩ := fetch.exists_line_pass ip
    have before : fetch.find? ip ≠ none :=
      find?_ne_none_iff.mpr ⟨entry, List.mem_of_mem_drop (line ▸ member), here⟩
    exact absurd (List.map_eq_nil_iff.mp nothing) (off.supplied before).pass.supplied.1
  · refine ⟨fun last => (off.dropWhile away front suffix last).1, fun _ => ⟨?_, fun last => ?_⟩⟩
    · intro nothing
      simp [addresses, nothing] at front
    · rw [← length_addresses]
      exact (off.dropWhile away front suffix last).2

/-- A block that comes keeps it so. -/
lemma received (off : fetch.KeepsOff edge ip) (away : ip ∉ approach edge) (address : Word)
    (words : List Word) :
    ({ fetch with outstanding := none, ahead := fetch.ahead ++ block address words } :
      Fetch).KeepsOff edge ip := by
  have addresses_eq : ({ fetch with
      outstanding := none, ahead := fetch.ahead ++ block address words } : Fetch).addresses
        = fetch.addresses ++ [address, address + 2, address + 4, address + 6] := by
    rw [addresses, List.map_append, map_address_block, addresses]
  have tail (last : (fetch.addresses
      ++ [address, address + 2, address + 4, address + 6]).getLast? = some (edge - 2)) :
        [address, address + 2, address + 4, address + 6] = foreland edge := by
    rw [← map_address_block address words]
    exact map_address_block_of_last (by simpa using last)
  refine ⟨fun last => ?_, fun found => ⟨?_, fun last => ?_⟩⟩
  · rw [addresses_eq] at last ⊢
    rw [tail last]
    exact List.suffix_append _ _
  · intro nothing
    have lengths := congrArg List.length nothing
    rw [List.length_append, length_block, List.length_nil] at lengths
    omega
  · rw [addresses_eq] at last
    simp only [List.length_append, length_block]
    by_contra few
    rw [depth] at few
    have nothing : fetch.ahead = [] := List.eq_nil_of_length_eq_zero (by omega)
    by_cases before : fetch.find? ip = none
    · -- so the instruction at `ip` has come with this block
      obtain ⟨entry, member, here⟩ := find?_ne_none_iff.mp found
      rw [line, nothing, List.nil_append, List.mem_append] at member
      have inside : entry ∈ block address words := member.resolve_left fun passed =>
        find?_ne_none_iff.mpr ⟨entry, by simp [line, passed], here⟩ before
      refine notMem_foreland away ?_
      rw [← tail last, ← map_address_block address words, ← here]
      exact List.mem_map_of_mem inside
    · exact (off.reserved before).1 nothing

/-- At the end of a search there is the jump to the handler, at the instruction pointer. -/
lemma of_jump (away : ip ∉ approach edge) {entry : Fetched} (here : entry.address = ip)
    (ahead : fetch.ahead = [entry]) : fetch.KeepsOff edge ip := by
  have last : fetch.addresses.getLast? ≠ some (edge - 2) := by
    rw [addresses, ahead, List.map_singleton, List.getLast?_singleton, here, ne_eq,
      Option.some.injEq]
    exact fun same => away (by simp [approach, foreland, same])
  exact ⟨fun same => absurd same last, fun _ => ⟨by simp [ahead], fun same => absurd same last⟩⟩

end KeepsOff

/-- A turn of fetch keeps off the block. -/
lemma Turn.keepsOff {terminal : Terminal} {path after : Datapath} {later : Fetch}
    (turn : Turn terminal path fetch later after) (forgotten : fetch.Forgotten)
    (off : fetch.KeepsOff edge path.registers.ip) (away : path.registers.ip ∉ approach edge) :
    later.KeepsOff edge path.registers.ip := by
  have passed := off.pass away
  cases searching : fetch.searching with
  | some phase =>
    rcases turn.line_eq_of_search searching forgotten with ⟨-, nothing⟩ | ⟨handler, -, -, ahead⟩
    · obtain ⟨passed, ahead⟩ := List.append_eq_nil_iff.mp nothing
      exact .of_vacant ahead passed
    · exact .of_jump away rfl ahead
  | none =>
    cases turn with
    | received address answer =>
      exact passed.received away address answer.payload
    | awaited | refused | satisfied => exact passed
    | asked => exact ⟨passed.whole, passed.reserved⟩
    | searched _ _ _ other | dropped _ _ _ _ _ other =>
      rw [searching] at other
      contradiction

/-! ## What a turn asks for -/

/-- A read of a word is not a read of a block. -/
lemma read_one_ne (address other : Word) :
    Message.read address 1 ≠ Message.read other blockWords := by
  have counts : (1 : Word) ≠ blockWords := by decide
  simp [Message.read, counts]

/-- A search asks for single words. -/
lemma SearchTurn.sends {terminal : Terminal} {path after : Datapath} {later : Fetch}
    {phase : HandlerSearch} (step : SearchTurn terminal path fetch phase later after) :
    ∃ taken sent, Handled terminal path.bus after.bus taken sent
      ∧ ∀ block, sent ≠ some (Message.read block blockWords) := by
  cases step with
  | askedId bus sent | askedHandler id bus sent =>
    exact ⟨_, _, .of_send? sent, fun block => by simpa using read_one_ne _ block⟩
  | gotId answer came | gotHandler id answer came =>
    exact ⟨_, _, .of_clear (answer?_eq_some_iff.mp came).1, by simp⟩
  | waited => exact ⟨_, _, .nothing _ _, by simp⟩

/-- Fetch asks for the block that it wants, or else for a word to find a handler. -/
lemma Turn.sends {terminal : Terminal} {path after : Datapath} {later : Fetch}
    (turn : Turn terminal path fetch later after) :
    ∃ taken sent, Handled terminal path.bus after.bus taken sent ∧ ∀ message ∈ sent,
      (∃ block, message = Message.read block blockWords
        ∧ (fetch.pass path.registers.ip).wanted? path.registers.ip = some block)
      ∨ fetch.searching ≠ none ∧ ∀ block, message ≠ Message.read block blockWords := by
  cases turn with
  | received address answer _ _ came =>
    exact ⟨_, _, .of_clear (answer?_eq_some_iff.mp came).1, by simp⟩
  | awaited | refused | satisfied => exact ⟨_, _, .nothing _ _, by simp⟩
  | asked address bus _ _ wanted sent =>
    exact ⟨_, _, .of_send? sent, fun message same =>
      Or.inl ⟨address, (Option.some.inj same).symm, wanted⟩⟩
  | searched _ _ _ searching _ step =>
    obtain ⟨taken, sent, handled, single⟩ := step.sends
    exact ⟨taken, sent, handled, fun message asks =>
      Or.inr ⟨by simp [searching], fun block same => single block (same ▸ asks)⟩⟩
  | dropped _ _ _ _ _ searching _ came step =>
    obtain ⟨taken, sent, handled, single⟩ := step.sends
    refine ⟨_, _, (Handled.of_clear (answer?_eq_some_iff.mp came).1).trans handled,
      fun message asks => Or.inr ⟨by simp [searching], fun block same => single block ?_⟩⟩
    rw [Option.none_or] at asks
    exact same ▸ asks

end Fetch

/-- A unit reads single words. -/
lemma Occupancy.Work.sends {terminal : Terminal} {path after : Datapath}
    {occupancy later : Occupancy} (work : Work terminal path occupancy later after) :
    ∃ taken sent, Handled terminal path.bus after.bus taken sent
      ∧ ∀ block, sent ≠ some (Message.read block Fetch.blockWords) := by
  cases work with
  | computed | computedNothing | loadedNothing | loadWaits | storeWaits | pushed | popped | pushing
  | popping | requestWaits => exact ⟨_, _, .nothing _ _, by simp⟩
  | asked _ _ _ bus _ _ sent =>
    exact ⟨_, _, .of_send? sent, fun block => by simpa using Fetch.read_one_ne _ block⟩
  | loaded _ _ _ _ answer _ _ came =>
    exact ⟨_, _, .of_clear (answer?_eq_some_iff.mp came).1, by simp⟩
  | stored held bus sent =>
    exact ⟨_, _, .of_send? sent, fun block => by
      simp [Message.read, Message.write, MessageKind.number]⟩
  | requested held bus sent =>
    refine ⟨_, _, .of_send? sent, fun block => ?_⟩
    cases held.instruction <;>
      simp [InterruptRequest.message, Message.read, Message.write, Message.interrupt,
        MessageKind.number]

/-! ## A whole core -/

namespace Standing

variable {edge : Word} {terminal : Terminal} {path after : Datapath} {standing later : Standing}
  {issue : Option Dispatch} {outcome : CoreOutcome}

/-- Fetch keeps off the block at `edge`, and while an instruction is in a unit it is at hand. -/
structure KeepsOff (edge : Word) (standing : Standing) (ip : Word) : Prop where
  fetch : standing.fetch.KeepsOff edge ip
  found : standing.occupancy.stage ≠ .dispatch → standing.fetch.find? ip ≠ none

/-- **Every tick without a fault keeps fetch off the block.** -/
theorem Turn.keepsOff {breakpoint : Option Word}
    (turn : Turn terminal path standing later after issue (.ok breakpoint))
    (sound : standing.Sound path.registers path.stages)
    (off : standing.KeepsOff edge path.registers.ip)
    (before : path.registers.ip ∉ Fetch.approach edge)
    (afterwards : after.registers.ip ∉ Fetch.approach edge) :
    later.KeepsOff edge after.registers.ip := by
  generalize result : (Except.ok breakpoint : CoreOutcome) = outcome at turn
  cases turn with
  | undecodable | stray | trapped => contradiction
  | stalled fetch between here supply =>
    have kept := supply.keepsOff sound.forgotten off.fetch before
    rw [← supply.registers_eq] at kept
    exact ⟨kept, fun busy => absurd (by rw [here]; rfl) busy⟩
  | issued fetch between entry instruction occupancy here supply found =>
    have kept := supply.keepsOff sound.forgotten off.fetch before
    rw [← supply.registers_eq] at kept
    exact ⟨kept, fun _ => by
      change fetch.find? between.registers.ip ≠ none
      simp [found]⟩
  | returned fetch between entry here =>
    exact ⟨.of_vacant rfl rfl, fun busy => absurd (by rw [here]; rfl) busy⟩
  | resolved fetch between here supply =>
    have moved := off.fetch.move (off.found (by simp [here]))
      (standing.occupancy.resolve path).registers.ip
    have kept := supply.keepsOff sound.forgotten moved (supply.registers_eq ▸ afterwards)
    rw [← supply.registers_eq] at kept
    rw [enter]
    split
    · exact ⟨.of_vacant rfl rfl, fun busy => absurd rfl busy⟩
    · exact ⟨kept, fun busy => absurd rfl busy⟩
  | worked fetch between final occupancy here supply work =>
    have reading : standing.fetch.searching = none := by
      by_contra searching
      simp [sound.searching searching] at here
    have kept := supply.keepsOff sound.forgotten off.fetch before
    have supplied := supply.supplied reading (off.fetch.supplied (off.found (by simp [here])))
    have same : final.advance.registers.ip = path.registers.ip := by
      rw [← supply.registers_eq, ← work.ip_eq]
      rfl
    rw [same]
    exact ⟨kept, fun _ => Fetch.find?_ne_none_iff.mpr supplied.2⟩

/-- What a message can be that a core sends in a tick. -/
inductive Asks (path after : Datapath) (standing : Standing) (message : Message) : Prop
  /-- The block that fetch wants, with the instruction pointer where it is before the tick or, if
  the tick moves it, after it. -/
  | block (address ip : Word) (read : message = Message.read address Fetch.blockWords)
      (wanted : (standing.fetch.pass ip).wanted? ip = some address)
      (place : ip = path.registers.ip
        ∨ ip = after.registers.ip ∧ standing.occupancy.stage ≠ .dispatch)
  /-- Something to find a handler, or for the instruction in its unit. -/
  | other (reason : standing.fetch.searching ≠ none ∨ standing.occupancy.stage = .execution)
      (single : ∀ address, message ≠ Message.read address Fetch.blockWords)

/-- Whatever a tick sends is one or the other, whether it ends in a fault or not. -/
theorem Turn.asks {message : Message}
    (turn : Turn terminal path standing later after issue outcome)
    (sends : Message.newly? (path.bus.carried? terminal) (after.bus.carried? terminal)
      = some message) : Asks path after standing message := by
  -- whatever the stage, fetch has its turn first
  have supplied {start between : Datapath} {fetch : Fetch} {taken' sent' : Option Message}
      (supply : Fetch.Turn terminal start standing.fetch fetch between)
      (same : start.bus = path.bus)
      (place : start.registers.ip = path.registers.ip
        ∨ start.registers.ip = after.registers.ip ∧ standing.occupancy.stage ≠ .dispatch)
      (rest : Handled terminal between.bus after.bus taken' sent')
      (unit : ∀ message ∈ sent', standing.occupancy.stage = .execution
        ∧ ∀ block, message ≠ Message.read block Fetch.blockWords) :
      Asks path after standing message := by
    obtain ⟨taken, sent, handled, asks⟩ := supply.sends
    rw [same] at handled
    rw [(handled.trans rest).newly?_carried?] at sends
    rcases Option.or_eq_some_iff.mp sends with first | ⟨-, second⟩
    · rcases asks message first with ⟨block, read, wanted⟩ | ⟨searching, single⟩
      · exact .block block _ read wanted place
      · exact .other (Or.inl searching) single
    · obtain ⟨executing, single⟩ := unit message second
      exact .other (Or.inr executing) single
  have quiet (between : Datapath) (same : after.bus = between.bus) :
      Handled terminal between.bus after.bus none none := by
    rw [same]
    exact .nothing _ _
  cases turn with
  | stalled fetch between _ supply | issued fetch between _ _ _ _ supply
  | returned fetch between _ _ supply | undecodable fetch between _ _ _ supply
  | stray fetch between _ _ supply | trapped fetch _ _ _ _ supply =>
    exact supplied supply rfl (Or.inl rfl) (quiet _ rfl) (by simp)
  | resolved fetch between here supply =>
    have moved : (standing.occupancy.resolve path).registers.ip = between.registers.ip :=
      congrArg RegisterFile.ip supply.registers_eq.symm
    exact supplied supply (standing.occupancy.resolve_bus path)
      (Or.inr ⟨moved, by simp [here]⟩) (quiet _ rfl) (by simp)
  | worked fetch between final occupancy here supply work =>
    obtain ⟨taken, sent, handled, single⟩ := work.sends
    exact supplied supply rfl (Or.inl rfl) handled fun message asks =>
      ⟨here, fun block same => single block (same ▸ asks)⟩

/-- **No tick asks for the block**, whether it ends in a fault or not. -/
theorem Turn.sent_ne (turn : Turn terminal path standing later after issue outcome)
    (off : standing.KeepsOff edge path.registers.ip)
    (before : path.registers.ip ∉ Fetch.approach edge)
    (afterwards : after.registers.ip ∉ Fetch.approach edge) :
    Message.newly? (path.bus.carried? terminal) (after.bus.carried? terminal)
      ≠ some (Message.read edge Fetch.blockWords) := by
  intro sends
  cases turn.asks sends with
  | block address ip same wanted place =>
    obtain rfl : edge = address := by simpa [Message.read] using same
    rcases place with rfl | ⟨rfl, busy⟩
    · exact (off.fetch.pass before).wanted?_ne before wanted
    · have moved := off.fetch.move (off.found busy) after.registers.ip
      exact (moved.pass afterwards).wanted?_ne afterwards wanted
  | other _ single => exact single edge rfl

lemma KeepsOff.signal {ip : Word} (off : standing.KeepsOff edge ip) (raised : Bool) :
    (standing.signal raised).KeepsOff edge ip where
  fetch := by simpa using off.fetch
  found := by simpa using off.found

end Standing

namespace Core

variable {edge : Word} {core : Core}

/-- The core's fetch keeps off the block at `edge`. -/
def KeepsOff (edge : Word) (core : Core) : Prop :=
  ∃ standing, core.StandsAs standing ∧ standing.KeepsOff edge core.registers.ip

lemma keepsOff_reset (edge : Word) (id : Nat) (terminal : Terminal) (entry : Word) :
    (reset id terminal entry).KeepsOff edge :=
  ⟨_, standsAs_reset id terminal entry, .of_vacant rfl rfl, fun busy => absurd rfl busy⟩

/-- As long as the instruction pointer stays away from the approach to `edge`, a tick does not ask
for the block there, and the next one will not either. -/
theorem KeepsOff.tick (off : core.KeepsOff edge) (env : Environment)
    (before : core.registers.ip ∉ Fetch.approach edge)
    (afterwards : (core.tick env).1.registers.ip ∉ Fetch.approach edge) :
    Message.newly? (env.bus.carried? core.terminal)
        ((core.tick env).2.1.bus.carried? core.terminal)
      ≠ some (Message.read edge Fetch.blockWords)
    ∧ ∀ breakpoint, (core.tick env).2.2 = .ok breakpoint → (core.tick env).1.KeepsOff edge := by
  obtain ⟨standing, stands, off⟩ := off
  obtain ⟨later, after, outcome, ticked, turn⟩ := exists_turn stands env
  rw [ticked] at afterwards ⊢
  have sound : (standing.signal (env.lines.take core.id).1).Sound (core.path env).registers
      (core.path env).stages := stands.sound.signal _
  have off : (standing.signal (env.lines.take core.id).1).KeepsOff edge
      (core.path env).registers.ip := off.signal _
  refine ⟨turn.sent_ne off before afterwards, fun breakpoint fine => ?_⟩
  obtain rfl : outcome = .ok breakpoint := fine
  exact ⟨later, ⟨rfl, turn.sound sound⟩, turn.keepsOff sound off before afterwards⟩

/-- What a core asks for is a block, unless an instruction is in its unit or a handler is looked
for. -/
theorem Steady.sent_cases {message : Message} (steady : core.Steady) (env : Environment)
    (sends : Message.newly? (env.bus.carried? core.terminal)
      ((core.tick env).2.1.bus.carried? core.terminal) = some message) :
    (∃ block, message = Message.read block Fetch.blockWords)
      ∨ core.pipeline.fetch.searching ≠ none ∨ core.stages.current = .execution := by
  obtain ⟨standing, stands, -⟩ := steady
  obtain ⟨later, after, outcome, ticked, turn⟩ := exists_turn stands env
  rw [ticked] at sends
  rw [stands.sound.stages, stands.pipeline]
  cases turn.asks sends with
  | block address _ read => exact Or.inl ⟨address, read⟩
  | other reason =>
    rw [Standing.signal_fetch, Standing.signal_occupancy] at reason
    exact Or.inr reason

end Core

end PipelinedMachine
