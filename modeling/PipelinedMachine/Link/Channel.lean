import PipelinedMachine.Link.Message

/-!
# Channels

One direction of a link.  A channel carries one message at a time: the sender hands it over whole,
it crosses the link word by word, and the receiver sees it once its last word has arrived.  Until
the receiver clears it away the channel takes no other message, so a message is never overwritten.

* `Transfer` — what a channel holds: nothing, a message on its way, or one that has arrived;
* `Channel.send?` — hands over a message, if the channel is free and the message fits;
* `Channel.tick` — one step of the channel's word clock;
* `Channel.waiting?`, `Channel.clear` — the receiver's side.
-/

namespace PipelinedMachine

/-- What a channel holds.  There is no case for a message under way together with one that has
arrived: sending is refused until the receiver has cleared the channel. -/
inductive Transfer where
  /-- Free for the next message. -/
  | free
  /-- On its way: the words that have arrived, the word that crosses next, and those after it. -/
  | underway (arrived : Array Word) (next : Word) (rest : List Word)
  /-- Complete, and waiting for the receiver. -/
  | delivered (message : Message)
deriving DecidableEq

/-- One direction of a link. -/
structure Channel where
  /-- Ticks from one word to the next, at least one. -/
  period : UInt32
  /-- The longest message the channel takes, in words. -/
  capacity : Nat
  /-- Ticks since a word last crossed, counted up to the largest number there is.  The clock keeps
  running while the channel is free, so the first word of a message may cross early. -/
  elapsed : UInt32
  transfer : Transfer
deriving DecidableEq

namespace Channel

/-- A free channel.  A period of zero counts as one. -/
def opened (period : UInt32) (capacity : Nat) : Channel where
  period := max period 1
  capacity := capacity
  elapsed := 0
  transfer := .free

/-! ## The sender -/

/-- Hands over a message.  It is refused when the channel is not free, when it has no words, and
when it is longer than the capacity. -/
def send? (channel : Channel) (message : Message) : Option Channel :=
  match channel.transfer, message with
  | .free, next :: rest =>
    if message.length ≤ channel.capacity
    then some { channel with transfer := .underway #[] next rest }
    else none
  | _, _ => none

/-- Whether words of a message have still to cross. -/
def isSending (channel : Channel) : Bool :=
  match channel.transfer with
  | .underway .. => true
  | _ => false

/-! ## The clock -/

/-- The elapsed ticks after one more, which stay at the largest number once they reach it. -/
def tickElapsed (elapsed : UInt32) : UInt32 :=
  if elapsed + 1 = 0 then elapsed else elapsed + 1

/-- Below the largest number the clock is exact. -/
theorem toNat_tickElapsed (elapsed : UInt32) :
    (tickElapsed elapsed).toNat = min (elapsed.toNat + 1) (UInt32.size - 1) := by
  have bound := elapsed.toNat_lt_size
  rw [tickElapsed, UInt32.size] at *
  split
  · next wraps =>
    have := congrArg UInt32.toNat wraps
    simp only [UInt32.toNat_add, UInt32.toNat_one, UInt32.toNat_zero] at this
    omega
  · next fits =>
    have : (elapsed + 1).toNat ≠ 0 := fun h => fits (UInt32.toNat.inj h)
    simp only [UInt32.toNat_add, UInt32.toNat_one] at this ⊢
    omega

/-- The transfer after one word has crossed; the last word completes the message. -/
def cross : Transfer → Transfer
  | .underway arrived next [] => .delivered (arrived.push next).toList
  | .underway arrived next (word :: rest) => .underway (arrived.push next) word rest
  | transfer => transfer

/-- One tick: a word crosses if one is due. -/
def tick (channel : Channel) : Channel :=
  let elapsed := tickElapsed channel.elapsed
  match channel.transfer with
  | .underway arrived next rest =>
    if elapsed < channel.period then { channel with elapsed := elapsed }
    else { channel with elapsed := 0, transfer := cross (.underway arrived next rest) }
  | _ => { channel with elapsed := elapsed }

/-! ## The receiver -/

/-- The message waiting for the receiver. -/
def waiting? (channel : Channel) : Option Message :=
  match channel.transfer with
  | .delivered message => some message
  | _ => none

/-- Takes the waiting message away and frees the channel.  A message still on its way stays. -/
def clear (channel : Channel) : Channel :=
  match channel.transfer with
  | .delivered _ => { channel with transfer := .free }
  | _ => channel

@[simp] theorem waiting?_clear (channel : Channel) : channel.clear.waiting? = none := by
  cases h : channel.transfer <;> simp [clear, waiting?, h]

end Channel

end PipelinedMachine
