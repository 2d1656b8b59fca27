import PipelinedMachine.Word

/-!
# Messages

What travels over a link: a few words, of which the first says what kind of message it is and the
second is an address or an interrupt id.  The rest is payload.  Nothing forces a message into this
shape, so every reader here copes with words that are missing or out of range.

* `MessageKind` — the five kinds, with their numbers;
* `Message.read`, `Message.write`, `Message.response`, `Message.interrupt` — the messages that the
  machine's own components send;
* `Message.kind?`, `Message.address?`, `Message.payload` — the parts of any message;
* `Message.answers` — whether a message answers a read of a given address.
-/

namespace PipelinedMachine

/-- What a message asks for or reports. -/
inductive MessageKind where
  /-- Asks for words from an address on. -/
  | read
  /-- Stores a word at an address. -/
  | write
  /-- Answers a read. -/
  | response
  /-- Meant for one particular device; no component of the machine takes it. -/
  | command
  /-- Reports an interrupt. -/
  | interrupt
deriving DecidableEq, Repr

namespace MessageKind

/-- The number that stands for the kind. -/
def number : MessageKind → Word
  | read => 0
  | write => 1
  | response => 2
  | command => 3
  | interrupt => 4

/-- The kind that a number stands for. -/
def ofNumber? : Word → Option MessageKind
  | 0 => some read
  | 1 => some write
  | 2 => some response
  | 3 => some command
  | 4 => some interrupt
  | _ => none

@[simp] theorem ofNumber?_number (kind : MessageKind) : ofNumber? kind.number = some kind := by
  cases kind <;> rfl

end MessageKind

/-- A message: the words in the order in which they travel. -/
abbrev Message := List Word

namespace Message

/-! ## Building messages -/

/-- Asks for `count` words from `address` on. -/
def read (address count : Word) : Message := [MessageKind.read.number, address, count]

/-- Stores `value` at `address`. -/
def write (address value : Word) : Message := [MessageKind.write.number, address, value]

/-- Reports interrupt `id`. -/
def interrupt (id : Word) : Message := [MessageKind.interrupt.number, id]

/-- Answers a read of `address` with `values`. -/
def response (address : Word) (values : List Word) : Message :=
  MessageKind.response.number :: address :: values

/-! ## Reading messages -/

/-- The kind of the message, if it has one. -/
def kind? (message : Message) : Option MessageKind := message.head?.bind MessageKind.ofNumber?

/-- The address or interrupt id, if the message is long enough to have one. -/
def address? (message : Message) : Option Word := message[1]?

/-- The words after the address. -/
def payload (message : Message) : List Word := message.drop 2

/-- The address or interrupt id; a message too short for one counts as naming zero. -/
def address (message : Message) : Word := message.address?.getD 0

/-- The first word of the payload; a message without payload counts as carrying zero. -/
def value (message : Message) : Word := message.payload.head?.getD 0

/-- How many words a read asks for; one, if it does not say. -/
def count (message : Message) : Word := message.payload.head?.getD 1

/-- Whether the message answers a read of `address`.  The address is all that ties an answer to its
read: neither says who asked or how many words were wanted. -/
def answers (message : Message) (address : Word) : Bool :=
  message.kind? = some .response && message.address? = some address

end Message

end PipelinedMachine
