import PipelinedMachine.Device.Basic
import PipelinedMachine.SparseMemory

/-!
# Main memory

Main memory serves one request at a time: it takes a request, and takes no other until its answer
has been sent or its write has had its time.

* `Ram.readWord`, `Ram.load` — the words themselves, apart from any link;
* `Ram.accept` — takes a request;
* `Ram.tick` — one tick.
-/

namespace PipelinedMachine

/-- What main memory is busy with. -/
inductive RamService where
  | idle
  /-- A write that takes so many more ticks. -/
  | storing (delay : UInt32)
  | answering (reply : PendingReply)
deriving DecidableEq

/-- Main memory. -/
structure Ram where
  terminal : Terminal
  /-- First address. -/
  base : Word
  words : SparseMemory
  /-- Ticks that an access takes. -/
  latency : UInt32
  service : RamService := .idle

namespace Ram

/-- `size` words of zero from `base` on. -/
def zeroed (terminal : Terminal) (base : Word) (size : Nat) (latency : UInt32) : Ram where
  terminal := terminal
  base := base
  words := SparseMemory.zeroed size
  latency := latency

/-- The word at `address`, zero outside the memory. -/
def readWord (ram : Ram) (address : Word) : Word :=
  match Word.offset? ram.base address with
  | some offset => ram.words.read offset
  | none => 0

/-- The `count` words from `address` on; after the last address of all comes the first. -/
def readWords (ram : Ram) (address : Word) (count : Nat) : Array Word :=
  Array.ofFn fun i : Fin count => ram.readWord (address + Int32.ofNat i)

/-- The memory with the word at `address` replaced; outside it nothing changes. -/
def writeWord (ram : Ram) (address value : Word) : Ram :=
  match Word.offset? ram.base address with
  | some offset => { ram with words := ram.words.write offset value }
  | none => ram

/-- The memory with the words from `address` on replaced, as far as it goes. -/
def load (ram : Ram) (address : Word) (words : Array Word) : Ram :=
  match Word.offset? ram.base address with
  | some offset => { ram with words := ram.words.load offset words }
  | none => ram

/-- Whether a request is being served. -/
def isBusy (ram : Ram) : Bool :=
  match ram.service with
  | .idle => false
  | .storing _ | .answering _ => true

/-- Takes a message.  A write happens at once, though it still takes its time; messages that are
neither reads nor writes have no effect. -/
def take (ram : Ram) (message : Message) (bus : Interconnect) : Ram :=
  match message.kind? with
  | some .read =>
    let count := replyCount bus ram.terminal message.count
    let answer := replyFrom ram.readWord message.address count
    { ram with service := .answering ⟨ram.latency, answer⟩ }
  | some .write =>
    let latency := ram.latency
    { ram.writeWord message.address message.value with service := .storing latency }
  | some .response | some .command | some .interrupt | none => ram

/-- Takes the waiting message, unless a request is being served. -/
def accept (ram : Ram) (bus : Interconnect) : Ram × Interconnect :=
  if ram.isBusy then (ram, bus)
  else
    match bus.message? ram.terminal with
    | some message => (ram.take message bus, bus.clear ram.terminal)
    | none => (ram, bus)

/-- Carries on with the request being served. -/
def serve (ram : Ram) (bus : Interconnect) : Ram × Interconnect :=
  match ram.service with
  | .idle => (ram, bus)
  | .storing delay =>
    ({ ram with service := if delay = 0 then .idle else .storing (delay - 1) }, bus)
  | .answering reply =>
    match PendingReply.tick (some reply) ram.terminal bus with
    | (some reply, bus) => ({ ram with service := .answering reply }, bus)
    | (none, bus) => ({ ram with service := .idle }, bus)

/-- One tick. -/
def tick (ram : Ram) (bus : Interconnect) : Ram × Interconnect :=
  let (ram, bus) := ram.accept bus
  ram.serve bus

instance : Device Ram where
  name := "ram"
  base := Ram.base
  tick := Ram.tick

end Ram

end PipelinedMachine
