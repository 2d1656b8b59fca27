import PipelinedMachine.AddressMap
import PipelinedMachine.Device.Basic

/-!
# The keyboard

Each key pressed is announced by one interrupt, in the order in which the keys were pressed.  The
keyboard's register holds the key announced last.

* `Keyboard.press` — the host presses a key;
* `Keyboard.tick` — announces a key, or answers a read.
-/

namespace PipelinedMachine

/-- The keyboard. -/
structure Keyboard where
  terminal : Terminal
  /-- Keys pressed and not yet taken up, oldest first. -/
  queue : List Word := []
  /-- The key announced last. -/
  current : Word := 0
  /-- The key whose interrupt the link has not taken yet. -/
  announcing : Option Word := none
deriving DecidableEq

namespace Keyboard

/-- Presses a key. -/
def press (keyboard : Keyboard) (code : Word) : Keyboard :=
  { keyboard with queue := keyboard.queue ++ [code] }

/-- How many keys have not been announced. -/
def unannounced (keyboard : Keyboard) : Nat :=
  keyboard.queue.length + (if keyboard.announcing.isSome then 1 else 0)

/-- Takes up the next key, unless one is still being announced. -/
def takeUp (keyboard : Keyboard) : Keyboard :=
  match keyboard.announcing, keyboard.queue with
  | none, code :: rest => { keyboard with announcing := some code, queue := rest }
  | _, _ => keyboard

/-- Tries to announce the key that has been taken up.  It becomes the current key once its interrupt
is on its way. -/
def announce (keyboard : Keyboard) (bus : Interconnect) : Keyboard × Interconnect :=
  match keyboard.announcing with
  | none => (keyboard, bus)
  | some code =>
    match bus.send? keyboard.terminal (Message.interrupt AddressMap.keyboardInterrupt) with
    | some bus => ({ keyboard with current := code, announcing := none }, bus)
    | none => (keyboard, bus)

/-- Answers a read with the current key; the read stays until the link takes the answer. -/
def answer (keyboard : Keyboard) (bus : Interconnect) : Interconnect :=
  let message := Message.response AddressMap.keyboardRegister [keyboard.current]
  match bus.send? keyboard.terminal message with
  | some bus => bus.clear keyboard.terminal
  | none => bus

/-- One tick.  A read comes before the announcement of a key; other messages are dropped. -/
def tick (keyboard : Keyboard) (bus : Interconnect) : Keyboard × Interconnect :=
  let keyboard := keyboard.takeUp
  match bus.message? keyboard.terminal with
  | none => keyboard.announce bus
  | some message =>
    if message.kind? = some .read then (keyboard, keyboard.answer bus)
    else keyboard.announce (bus.clear keyboard.terminal)

instance : Device Keyboard where
  name := "keyboard"
  base _ := AddressMap.keyboardRegister
  tick := Keyboard.tick

end Keyboard

end PipelinedMachine
