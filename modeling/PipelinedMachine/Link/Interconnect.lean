import PipelinedMachine.Link.Channel

/-!
# The interconnect

All the links of a machine.  A link joins two terminals and has one channel in each direction; a
terminal is the sending end of one of them and the receiving end of the other.  Links are created
one after another, so the terminals `2 k` and `2 k + 1` always belong together.

* `Interconnect.link` — adds a link;
* `Interconnect.send?`, `Interconnect.message?`, `Interconnect.clear` — what the component at a
  terminal can do;
* `Interconnect.forward?` — passes a waiting message on, keeping it when that is refused;
* `Interconnect.tick` — one step of every channel.
-/

namespace PipelinedMachine

/-- One end of a link. -/
structure Terminal where
  index : Nat
deriving DecidableEq, Repr

/-- The other end of the link. -/
def Terminal.peer (terminal : Terminal) : Terminal :=
  if terminal.index % 2 = 0 then ⟨terminal.index + 1⟩ else ⟨terminal.index - 1⟩

@[simp] theorem Terminal.peer_peer (terminal : Terminal) : terminal.peer.peer = terminal := by
  obtain ⟨i⟩ := terminal
  simp only [peer]
  split <;> split <;> simp_all <;> omega

/-- Every link of a machine. -/
structure Interconnect where
  /-- The channels, each at the index of the terminal that sends into it. -/
  channels : Array Channel

namespace Interconnect

/-- The longest message on the links inside a machine, in words. -/
def messageCapacity : Nat := 10

/-- No links. -/
def empty : Interconnect := ⟨#[]⟩

/-- Adds a link whose channels carry a word every `period` ticks and take messages of up to
`capacity` words, and names its two ends. -/
def link (bus : Interconnect) (period : UInt32) (capacity : Nat) :
    Interconnect × Terminal × Terminal :=
  let left := bus.channels.size
  let channel := Channel.opened period capacity
  (⟨(bus.channels.push channel).push channel⟩, ⟨left⟩, ⟨left + 1⟩)

/-- Number of terminals. -/
def size (bus : Interconnect) : Nat := bus.channels.size

/-! ## The channel out of a terminal -/

/-- The longest message that can be sent from a terminal. -/
def capacity (bus : Interconnect) (terminal : Terminal) : Nat :=
  match bus.channels[terminal.index]? with
  | some channel => channel.capacity
  | none => 0

/-- Whether a message from the terminal is still on its way. -/
def isSending (bus : Interconnect) (terminal : Terminal) : Bool :=
  match bus.channels[terminal.index]? with
  | some channel => channel.isSending
  | none => false

/-- Starts a message from a terminal, if its channel takes it. -/
def send? (bus : Interconnect) (terminal : Terminal) (message : Message) : Option Interconnect :=
  if h : terminal.index < bus.channels.size then
    (bus.channels[terminal.index].send? message).map fun channel =>
      ⟨bus.channels.set terminal.index channel h⟩
  else none

/-! ## The channel into a terminal -/

/-- The message waiting at a terminal. -/
def message? (bus : Interconnect) (terminal : Terminal) : Option Message :=
  match bus.channels[terminal.peer.index]? with
  | some channel => channel.waiting?
  | none => none

/-- Whether a message waits at a terminal. -/
def hasMessage (bus : Interconnect) (terminal : Terminal) : Bool := (bus.message? terminal).isSome

/-- The message waiting at a terminal, if it answers a read of `address`. -/
def answer? (bus : Interconnect) (terminal : Terminal) (address : Word) : Option Message :=
  match bus.message? terminal with
  | some message => if message.answers address then some message else none
  | none => none

/-- The buffer after the message waiting at a terminal has been copied to its front; none if there
is no message or it does not fit. -/
def readInto? (bus : Interconnect) (terminal : Terminal) (buffer : List Word) :
    Option (List Word) :=
  match bus.message? terminal with
  | some message =>
    if message.length ≤ buffer.length then some (message ++ buffer.drop message.length) else none
  | none => none

/-- Takes the waiting message away from a terminal, so that the other end may send again. -/
def clear (bus : Interconnect) (terminal : Terminal) : Interconnect :=
  ⟨bus.channels.modify terminal.peer.index Channel.clear⟩

/-- Passes the message waiting at `source` on through `target`.  It leaves `source` only if it could
be sent. -/
def forward? (bus : Interconnect) (source target : Terminal) : Option Interconnect :=
  match bus.message? source with
  | some message => (bus.send? target message).map fun bus => bus.clear source
  | none => none

/-! ## Time -/

/-- One tick of every channel. -/
def tick (bus : Interconnect) : Interconnect := ⟨bus.channels.map Channel.tick⟩

end Interconnect

end PipelinedMachine
