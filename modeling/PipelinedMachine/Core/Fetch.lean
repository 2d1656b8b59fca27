import PipelinedMachine.Core.Datapath
import PipelinedMachine.Instruction.Assembler

/-!
# Instruction fetch

Fetch reads ahead of the instruction pointer, four instructions at a time, and keeps the
instructions that have been passed for a while, so that a short loop runs without fetching anything
again.  It also finds the handler of an interrupt: it asks the interrupt controller which interrupt
came last and where its handler is, and then supplies a jump to the handler in place of the
instruction that would have come next.

* `Fetch` — the instructions ahead, those passed, and what has been asked for;
* `Fetch.find?` — the instruction at an address, if it is at hand;
* `Fetch.pass`, `Fetch.wanted?`, `Fetch.receive` — the steps of reading ahead;
* `HandlerSearch`, `Fetch.search` — the search for a handler;
* `Fetch.tick` — one tick of it all.
-/

namespace PipelinedMachine

/-- How far the search for an interrupt handler has come. -/
inductive HandlerSearch where
  /-- The latest interrupt is to be asked for. -/
  | askId
  | awaitId
  /-- The handler of interrupt `id` is to be asked for. -/
  | askHandler (id : Word)
  | awaitHandler (id : Word)
deriving DecidableEq, Repr

/-- The instructions that a core has at hand, and what it is fetching. -/
structure Fetch where
  /-- Instructions read ahead and not yet passed, oldest first. -/
  ahead : List Fetched := []
  /-- Instructions passed, oldest first. -/
  passed : List Fetched := []
  /-- The address of the block that has been asked for. -/
  outstanding : Option Word := none
  /-- The search for a handler, while one is going on. -/
  searching : Option HandlerSearch := none
deriving DecidableEq

namespace Fetch

/-- Reading ahead goes on while fewer instructions than this are ahead. -/
def depth : Nat := 5

/-- How many passed instructions are kept. -/
def passedLimit : Nat := 32

/-- Words to a block: four instructions. -/
def blockWords : Word := 8

/-! ## The instructions at hand -/

/-- The instruction at `ip`: the oldest one ahead with that address, otherwise the oldest passed. -/
def find? (fetch : Fetch) (ip : Word) : Option Fetched :=
  match fetch.ahead.find? fun entry => entry.address = ip with
  | some entry => some entry
  | none => fetch.passed.find? fun entry => entry.address = ip

/-- The newest of the instructions at hand, from which reading ahead goes on. -/
def newest? (fetch : Fetch) : Option Fetched :=
  match fetch.ahead.getLast? with
  | some entry => some entry
  | none => fetch.passed.getLast?

/-- Forgets every instruction.  A block that has been asked for is still on its way. -/
def flush (fetch : Fetch) : Fetch := { fetch with ahead := [], passed := [] }

/-- The last `limit` elements of a list. -/
def keepNewest {α : Type} (limit : Nat) (entries : List α) : List α :=
  entries.drop (entries.length - limit)

/-- Moves the instructions in front of `ip` to those passed, unless `ip` is itself among those
passed.  If `ip` is nowhere ahead, everything ahead is passed. -/
def pass (fetch : Fetch) (ip : Word) : Fetch :=
  match fetch.ahead.takeWhile fun entry => entry.address ≠ ip with
  | [] => fetch
  | skipped =>
    if fetch.passed.any fun entry => entry.address = ip then fetch
    else
      { fetch with
        ahead := fetch.ahead.dropWhile fun entry => entry.address ≠ ip
        passed := keepNewest passedLimit (fetch.passed ++ skipped) }

/-! ## Reading ahead -/

/-- The address of the block to ask for: the instruction at `ip` if it is missing, otherwise the
next one not yet at hand, as long as few enough are ahead. -/
def wanted? (fetch : Fetch) (ip : Word) : Option Word :=
  match fetch.find? ip with
  | none => some ip
  | some _ =>
    if fetch.ahead.length < depth
    then fetch.newest?.map fun entry => entry.address + AddressMap.instructionWords
    else none

/-- The four instructions of a block.  Words missing from the answer count as zero. -/
def block (address : Word) (words : List Word) : List Fetched :=
  [0, 1, 2, 3].map fun i =>
    ⟨address + AddressMap.instructionWords * Int32.ofNat i,
      ⟨words.getD (2 * i) 0, words.getD (2 * i + 1) 0⟩⟩

/-- Takes in the block at `address`, if its answer has come. -/
def receive (fetch : Fetch) (terminal : Terminal) (address : Word) (path : Datapath) :
    Fetch × Datapath :=
  match path.bus.answer? terminal address with
  | some answer =>
    ({ fetch with outstanding := none, ahead := fetch.ahead ++ block address answer.payload },
      path.clear terminal)
  | none => (fetch, path.record .fetchWaits)

/-- Asks for the block at `address`, if the link takes the request. -/
def ask (fetch : Fetch) (terminal : Terminal) (address : Word) (path : Datapath) :
    Fetch × Datapath :=
  match path.bus.send? terminal (Message.read address blockWords) with
  | some bus =>
    ({ fetch with outstanding := some address }, { path with bus := bus }.record .fetchRequests)
  | none => (fetch, path.record .fetchWaits)

/-- One tick of reading ahead. -/
def readAhead (fetch : Fetch) (terminal : Terminal) (path : Datapath) : Fetch × Datapath :=
  let fetch := fetch.pass path.registers.ip
  match fetch.outstanding with
  | some address => fetch.receive terminal address path
  | none =>
    match fetch.wanted? path.registers.ip with
    | some address => fetch.ask terminal address path
    | none => (fetch, path)

/-! ## Finding a handler -/

/-- Starts the search for a handler.  A block that has been asked for is kept in mind, so that its
late answer can be told apart and dropped. -/
def beginSearch (fetch : Fetch) : Fetch := { fetch.flush with searching := some .askId }

/-- Drops the answer to a block that was asked for before the search began. -/
def dropStale (fetch : Fetch) (terminal : Terminal) (path : Datapath) : Fetch × Datapath :=
  match fetch.outstanding with
  | some address =>
    match path.bus.answer? terminal address with
    | some _ => ({ fetch with outstanding := none }, path.clear terminal)
    | none => (fetch, path)
  | none => (fetch, path)

/-- Asks for one word of the vector table, and goes on to `next` once the link has taken it. -/
def askVector (fetch : Fetch) (terminal : Terminal) (slot : Word) (next : HandlerSearch)
    (path : Datapath) : Fetch × Datapath :=
  match path.bus.send? terminal (Message.read slot 1) with
  | some bus => ({ fetch with searching := some next }, { path with bus := bus })
  | none => (fetch, path.record .interruptWaits)

/-- One step of the search.  At its end the jump to the handler stands where the next instruction
would, and dispatch takes it up. -/
def search (fetch : Fetch) (terminal : Terminal) (phase : HandlerSearch) (path : Datapath) :
    Fetch × Datapath :=
  match phase with
  | .askId => fetch.askVector terminal AddressMap.lastInterrupt .awaitId path
  | .awaitId =>
    match path.bus.answer? terminal AddressMap.lastInterrupt with
    | some answer =>
      ({ fetch with searching := some (.askHandler answer.value) }, path.clear terminal)
    | none => (fetch, path.record .interruptWaits)
  | .askHandler id =>
    fetch.askVector terminal (AddressMap.vectorStart + id) (.awaitHandler id) path
  | .awaitHandler id =>
    match path.bus.answer? terminal (AddressMap.vectorStart + id) with
    | some answer =>
      let jump : Fetched := ⟨path.registers.ip, (Assembler.jump answer.value).encode⟩
      ({ fetch with ahead := fetch.ahead ++ [jump], searching := none },
        ((path.clear terminal).request .dispatch).record .interruptsServiced)
    | none => (fetch, path.record .interruptWaits)

/-! ## Ticks -/

/-- One tick: the search for a handler if there is one, otherwise reading ahead. -/
def tick (fetch : Fetch) (terminal : Terminal) (path : Datapath) : Fetch × Datapath :=
  match fetch.searching with
  | some phase =>
    let (fetch, path) := fetch.dropStale terminal path
    fetch.search terminal phase path
  | none => fetch.readAhead terminal path

/-- Looks for the instruction at the instruction pointer, in the stage that dispatches it. -/
def dispatch (fetch : Fetch) (path : Datapath) : Option Fetched × Datapath :=
  if path.isIn .dispatch then
    match fetch.find? path.registers.ip with
    | some entry => (some entry, path.record .cacheHits)
    | none => (none, (path.record .cacheMisses).record .fetchWaits)
  else (none, path)

end Fetch

end PipelinedMachine
